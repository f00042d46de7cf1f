import Xenia.Cpu.Init

/-!
# `Prepare` over whole runs

`Prepare` enters its generation block only while `gen_module_` is null, and the block
assigns `gen_module_` before it injects, links and generates.  So over any sequence of
calls, whatever the collaborators answer, the module is created at most once, the
generator runs at most once, and once the module exists no later call takes a step of
the block.  The other side of the same guard: a `Prepare` after a failed generation, or
after a new symbol database was installed, skips the block and can succeed.

The same guard makes the trampolines' bindings stable: `InjectGlobals` runs only in the
block, so over any run each trampoline is bound once, when the module is built, and never
again.

A successful `Prepare` ends with `Init`'s guest code followed by the forced compilation of
every function with a body: the compilation comes after the guest code, not before it.

## Main definitions

* `ExecModule.Quiet m m'`: `m'` follows `m` without a step of the generation block
* `ExecModule.GenerationOnce m`: the log of `m` holds the block's module creation and code
  generation at most once, and nothing of the block after them
* `ExecModule.TrampolinesBound m`: the log of `m` binds each trampoline once if the module
  is built, and none if it is not

## Main results

* `ExecModule.call_quiet_or_block`: what one call can do to the generation block
* `ExecModule.run_invariant`: what every call keeps, every run keeps
* `ExecModule.run_generationOnce`, `ExecModule.run_trampolinesBound`: every run keeps
  `GenerationOnce` and `TrampolinesBound`
* `ExecModule.prepare_ok_log`: the events a successful `Prepare` ends with
-/

namespace Xenia.Cpu

/-- The two steps of the generation block that build the module: its creation and the
code generation. -/
def Event.buildsModule : Event → Bool
  | .createModule | .generate _ => true
  | _ => false

theorem Event.buildsModule_eq_false {e : Event} (h : e.inGeneration = false) :
    e.buildsModule = false := by
  cases e <;> simp_all [Event.inGeneration, Event.buildsModule]

/-- The steps that bind a native function into the module: `addGlobalMapping`. -/
def Event.isBinding : Event → Bool
  | .addGlobalMapping _ => true
  | _ => false

theorem Event.isBinding_eq_false {e : Event} (h : e.inGeneration = false) :
    e.isBinding = false := by
  cases e <;> simp_all [Event.inGeneration, Event.isBinding]

/-- Collaborators that all succeed on a module whose functions are `functions`: the passes
change nothing, the database lists no variable, and the guest code writes nothing and
returns 0. -/
def Collaborators.succeeding (functions : List LFunction) : Collaborators where
  loadRuntime := true
  analyze := true
  link := (functions, true)
  generate := (functions, true)
  dumpPreoptOpens := true
  dumpOpens := true
  materialize := true
  runPasses := some
  getAllVariables := some []
  runStatic := fun _ mem => mem
  runFunction := fun _ mem => (mem, 0)

/-- A module with `xe_module_init`, `xe_module_uninit` and one more function, all with bodies. -/
def sampleFunctions : List LFunction :=
  [⟨"xe_module_init", false⟩, ⟨"xe_module_uninit", false⟩, ⟨"main", false⟩]

/-- Flags with no dump and no optimization. -/
def quietFlags : Flags := ⟨false, false⟩

namespace ExecModule

variable {host : ByteOrder} {flags : Flags} {env : Collaborators} {m m' m₁ m₂ m₃ : ExecModule}
  {r : Int}

/-! ## Calls outside the generation block -/

/-- `m'` follows `m` with no step of the generation block: the module stays built, or
stays unbuilt, and the log grows by events outside the block. -/
def Quiet (m m' : ExecModule) : Prop :=
  m'.genModule.isSome = m.genModule.isSome ∧
    ∃ es, m'.log = m.log ++ es ∧ ∀ e ∈ es, e.inGeneration = false

theorem Quiet.refl (m : ExecModule) : Quiet m m := ⟨rfl, [], by simp, by simp⟩

theorem Quiet.trans (h₁ : Quiet m₁ m₂) (h₂ : Quiet m₂ m₃) : Quiet m₁ m₃ := by
  obtain ⟨hg₁, es₁, hl₁, he₁⟩ := h₁
  obtain ⟨hg₂, es₂, hl₂, he₂⟩ := h₂
  refine ⟨hg₂.trans hg₁, es₁ ++ es₂, by simp [hl₁, hl₂], fun e he => ?_⟩
  rcases List.mem_append.mp he with he | he
  exacts [he₁ e he, he₂ e he]

theorem Quiet.of_log (es : List Event) (hg : m'.genModule.isSome = m.genModule.isSome)
    (hl : m'.log = m.log ++ es) (he : ∀ e ∈ es, e.inGeneration = false) : Quiet m m' :=
  ⟨hg, es, hl, he⟩

theorem init_quiet (h : m.init host env = .ok (m', r)) : Quiet m m' := by
  rcases init_ok h with ⟨rfl, -⟩ | ⟨hg, vars, hl⟩
  · exact .of_log [.getAllVariables false] rfl rfl (by decide)
  · refine .of_log _ (by rw [hg]) (hl.trans (List.append_assoc _ _ _)) fun e he => ?_
    simp only [List.cons_append, List.mem_cons, List.mem_append, List.mem_singleton,
      List.not_mem_nil, or_false] at he
    rcases he with rfl | he | rfl | rfl
    · rfl
    · obtain ⟨name, rfl⟩ := mem_bindVariables_warnings he
      rfl
    all_goals rfl

theorem uninit_quiet (h : m.uninit env = .ok (m', r)) : Quiet m m' := by
  obtain ⟨-, hg, -, hl⟩ := uninit_ok h
  exact .of_log _ (by rw [hg]) hl (by decide)

theorem forceJit_quiet (m : ExecModule) (gm : GenModule) : Quiet m (forceJit m gm) := by
  refine .of_log _ rfl rfl ?_
  simp only [List.mem_map]
  rintro _ ⟨_, -, rfl⟩
  rfl

/-- **What the rest of `Prepare` can do.** It returns 1 when materialization fails or the
optimized module's dump cannot be opened, returns `Init`'s state with 1 when `Init` does not
return 0, and otherwise forces the JIT on the module `Init` left and returns 0. -/
theorem finishPrepare_cases {gm : GenModule}
    (h : finishPrepare host flags env m gm = .ok (m', r)) :
    (m' = m.emit (.materialize false) ∧ r = 1) ∨
    ∃ functions, env.runPasses gm.functions = some functions ∧
      let m₁ : ExecModule :=
        { (m.emit (.materialize true)).emit .runPasses with genModule := some ⟨functions⟩ }
      (m' = m₁ ∧ r = 1) ∨ (∃ code, init host env m₁ = .ok (m', code) ∧ r = 1) ∨
      ∃ m₂ gm', init host env m₁ = .ok (m₂, 0) ∧ m₂.genModule = some gm' ∧
        m' = forceJit m₂ gm' ∧ r = 0 := by
  unfold finishPrepare at h
  split at h
  · cases h
    exact .inl ⟨rfl, rfl⟩
  · split at h
    · cases h
    · rename_i functions hpasses
      refine .inr ⟨functions, hpasses, ?_⟩
      dsimp only at h ⊢
      split at h
      · cases h
        exact .inl ⟨rfl, rfl⟩
      · split at h
        · cases h
        · rename_i hinit
          split at h
          · cases h
            exact .inr (.inl ⟨_, hinit, rfl⟩)
          · split at h
            · cases h
            · cases h
              rename_i hcode _ _ hgm
              rw [not_not.mp hcode] at hinit
              exact .inr (.inr ⟨_, _, hinit, hgm, rfl, rfl⟩)

theorem finishPrepare_quiet {gm : GenModule} (hm : m.genModule.isSome)
    (h : finishPrepare host flags env m gm = .ok (m', r)) : Quiet m m' := by
  rcases finishPrepare_cases h with ⟨rfl, -⟩ | ⟨functions, -, hrest⟩
  · exact .of_log [.materialize false] rfl rfl (by decide)
  · have hpass : Quiet m { (m.emit (.materialize true)).emit .runPasses with
        genModule := some ⟨functions⟩ } :=
      .of_log [.materialize true, .runPasses] (by simp [hm]) (by simp) (by decide)
    rcases hrest with ⟨rfl, -⟩ | ⟨_, hinit, -⟩ | ⟨_, _, hinit, -, rfl, -⟩
    · exact hpass
    · exact hpass.trans (init_quiet hinit)
    · exact (hpass.trans (init_quiet hinit)).trans (forceJit_quiet _ _)

/-! ## The generation block -/

/-- **What the generation block can do.** It stops after a failed runtime load, or after a
failed analysis, leaving the module as it was; or it creates the module, binds the
trampolines, links and runs the generator, each once, and reports whether generation (and
the bitcode dump, when one is asked for) succeeded. -/
theorem generateModule_cases {b : Bool} (h : generateModule flags env m = .ok (m', b)) :
    (b = false ∧ (m' = m.emit (.loadRuntime false) ∨
      env.analyze = false ∧ m' = (m.emit (.loadRuntime true)).emit (.analyze false))) ∨
    (env.analyze = true ∧
      b = (env.generate.2 && (!flags.dumpModuleBitcode || env.dumpPreoptOpens)) ∧
      m'.genModule = some ⟨env.generate.1⟩ ∧
      m'.log = m.log ++ [.loadRuntime true, .analyze true] ++ .createModule ::
        (trampolines.map .addGlobalMapping ++ [.linkModules env.link.2]) ++
          [.generate env.generate.2]) := by
  unfold generateModule at h
  split at h
  · cases h
    exact .inl ⟨rfl, .inl rfl⟩
  · dsimp only at h
    split at h
    · cases h
    · split at h
      · cases h
        exact .inl ⟨rfl, .inr ⟨by simpa using ‹(!env.analyze) = true›, rfl⟩⟩
      · cases h
        exact .inr ⟨by simpa using ‹¬(!env.analyze) = true›, rfl, rfl, by simp [injectGlobals]⟩

/-- **What `Prepare` can do.** With the module built it runs the rest of `Prepare` on it;
otherwise it runs the generation block, and returns 1 if the block stops early, or runs the
rest of `Prepare` on the module the block built. -/
theorem prepare_cases (h : prepare host flags env m = .ok (m', r)) :
    (∃ gm, m.genModule = some gm ∧ finishPrepare host flags env m gm = .ok (m', r)) ∨
    (m.genModule = none ∧ generateModule flags env m = .ok (m', false) ∧ r = 1) ∨
    (m.genModule = none ∧ ∃ m₁ gm, generateModule flags env m = .ok (m₁, true) ∧
      m₁.genModule = some gm ∧ finishPrepare host flags env m₁ gm = .ok (m', r)) := by
  unfold prepare at h
  split at h
  · exact .inl ⟨_, ‹_›, h⟩
  · split at h
    · cases h
    · cases h
      exact .inr (.inl ⟨‹_›, ‹_›, rfl⟩)
    · split at h
      · cases h
      · exact .inr (.inr ⟨‹_›, _, _, ‹_›, ‹_›, h⟩)

/-- **`Prepare` in two phases.** A `Prepare` takes no step of the generation block, or it
enters the block with the module unbuilt and takes no further step of it afterwards. -/
theorem prepare_quiet_or_block (h : prepare host flags env m = .ok (m', r)) :
    Quiet m m' ∨ ∃ m₁ b, m.genModule = none ∧ generateModule flags env m = .ok (m₁, b) ∧
      Quiet m₁ m' := by
  rcases prepare_cases h with ⟨gm, hgm, h⟩ | ⟨hm, hgen, -⟩ | ⟨hm, m₁, gm, hgen, hgm, h⟩
  · exact .inl (finishPrepare_quiet (by simp [hgm]) h)
  · exact .inr ⟨m', false, hm, hgen, .refl _⟩
  · exact .inr ⟨m₁, true, hm, hgen, finishPrepare_quiet (by simp [hgm]) h⟩

/-- **What one call can do.** A method call takes no step of the generation block, or runs
`Prepare` with the module unbuilt (on a fresh symbol database for `PrepareUserModule` and
`PrepareRawBinary`), entering the block once and taking no further step of it. -/
theorem call_quiet_or_block {c : Call} (h : m.call host flags env c = .ok (m', r)) :
    Quiet m m' ∨ ∃ sdb m₁ b, m.genModule = none ∧
      generateModule flags env { m with sdb := sdb } = .ok (m₁, b) ∧ Quiet m₁ m' := by
  cases c with
  | prepareUserModule | prepareRawBinary | prepare =>
    simp only [call] at h
    exact (prepare_quiet_or_block h).imp id
      fun ⟨m₁, b, hm, hgen, hq⟩ => ⟨_, m₁, b, hm, hgen, hq⟩
  | init => exact .inl (init_quiet h)
  | uninit => exact .inl (uninit_quiet h)
  | addFunctionsToMap | dump =>
    simp only [call] at h
    split at h <;> cases h
    exact .inl (.refl _)

/-! ## Generation at most once -/

/-- What one call can do to the generation block: take no step of it, fail to enter it while
the module is unbuilt, or build the module, after which it takes no further step of it. -/
def BlockStep (m m' : ExecModule) : Prop :=
  Quiet m m' ∨
  (m.genModule = none ∧ m'.genModule = none ∧
    ∃ es, m'.log = m.log ++ es ∧ ∀ e ∈ es, e.buildsModule = false) ∨
  (m.genModule = none ∧ m'.genModule.isSome ∧
    ∃ pre mid ok post, m'.log = m.log ++ pre ++ .createModule :: mid ++ .generate ok :: post ∧
      (∀ e ∈ pre ++ mid, e.buildsModule = false) ∧ ∀ e ∈ post, e.inGeneration = false)

/-- Steps outside the generation block after a `BlockStep` keep it one. -/
theorem BlockStep.trans_quiet (h₁ : BlockStep m m₁) (h₂ : Quiet m₁ m') : BlockStep m m' := by
  obtain ⟨hg₂, es', hl₂, he₂⟩ := h₂
  rcases h₁ with hq | ⟨hnone, hg, es, hl, he⟩ | ⟨hnone, hg, pre, mid, ok, post, hl, hpre, hpost⟩
  · exact .inl (hq.trans ⟨hg₂, es', hl₂, he₂⟩)
  · refine .inr (.inl ⟨hnone, by simpa [hg] using hg₂, es ++ es', by simp [hl₂, hl],
      fun e he' => ?_⟩)
    rcases List.mem_append.mp he' with he' | he'
    exacts [he e he', Event.buildsModule_eq_false (he₂ e he')]
  · refine .inr (.inr ⟨hnone, hg₂.trans hg, pre, mid, ok, post ++ es', by simp [hl₂, hl], hpre,
      fun e he' => ?_⟩)
    rcases List.mem_append.mp he' with he' | he'
    exacts [hpost e he', he₂ e he']

theorem generateModule_blockStep {b : Bool} (h : generateModule flags env m = .ok (m', b))
    (hm : m.genModule = none) : BlockStep m m' := by
  rcases generateModule_cases h with ⟨-, rfl | ⟨-, rfl⟩⟩ | ⟨-, -, hg, hl⟩
  · exact .inr (.inl ⟨hm, hm, [.loadRuntime false], rfl, by decide⟩)
  · exact .inr (.inl ⟨hm, hm, [.loadRuntime true, .analyze false], by simp, by decide⟩)
  · exact .inr (.inr ⟨hm, by simp [hg], _, _, _, [], hl,
      by simp [trampolines, Event.buildsModule], by simp⟩)

theorem call_blockStep {c : Call} (h : m.call host flags env c = .ok (m', r)) :
    BlockStep m m' := by
  rcases call_quiet_or_block h with hq | ⟨_, m₁, _, hm, hgen, hq⟩
  · exact .inl hq
  · exact (generateModule_blockStep hgen hm).trans_quiet hq

/-- **The generation block runs once.** Either the module is unbuilt and the log holds no
module creation or code generation, or it is built and the log holds exactly one module
creation followed by exactly one code generation, with no step of the generation block
after them. -/
def GenerationOnce (m : ExecModule) : Prop :=
  (m.genModule = none ∧ ∀ e ∈ m.log, e.buildsModule = false) ∨
  (m.genModule.isSome ∧
    ∃ pre mid ok post, m.log = pre ++ .createModule :: mid ++ .generate ok :: post ∧
      (∀ e ∈ pre ++ mid, e.buildsModule = false) ∧ ∀ e ∈ post, e.inGeneration = false)

theorem BlockStep.generationOnce (hm : GenerationOnce m) (h : BlockStep m m') :
    GenerationOnce m' := by
  rcases h with ⟨hg, es, hl, he⟩ | ⟨hnone, hg, es, hl, he⟩ |
    ⟨hnone, hg, pre, mid, ok, post, hl, hpre, hpost⟩
  · rcases hm with ⟨hnone, hlog⟩ | ⟨hsome, pre, mid, ok, post, hlm, hpre, hpost⟩
    · refine .inl ⟨by simpa [hnone] using hg, fun e hmem => ?_⟩
      rcases List.mem_append.mp (hl ▸ hmem) with h' | h'
      exacts [hlog e h', Event.buildsModule_eq_false (he e h')]
    · refine .inr ⟨hg ▸ hsome, pre, mid, ok, post ++ es, by simp [hl, hlm], hpre, fun e hmem => ?_⟩
      rcases List.mem_append.mp hmem with h' | h'
      exacts [hpost e h', he e h']
  · rcases hm with ⟨-, hlog⟩ | ⟨hsome, -⟩
    · refine .inl ⟨hg, fun e hmem => ?_⟩
      rcases List.mem_append.mp (hl ▸ hmem) with h' | h'
      exacts [hlog e h', he e h']
    · simp [hnone] at hsome
  · rcases hm with ⟨-, hlog⟩ | ⟨hsome, -⟩
    · refine .inr ⟨hg, m.log ++ pre, mid, ok, post, by simp [hl], fun e hmem => ?_, hpost⟩
      simp only [List.append_assoc, List.mem_append] at hmem
      rcases hmem with h' | h' | h'
      exacts [hlog e h', hpre e (List.mem_append_left _ h'), hpre e (List.mem_append_right _ h')]
    · simp [hnone] at hsome

/-! ## Runs -/

/-- **Run invariants.** A property that every call keeps holds at the end of every run that
does not crash. -/
theorem run_invariant (P : ExecModule → Prop)
    (step : ∀ {m m' : ExecModule} {c : Call} {env : Collaborators} {r : Int},
      P m → m.call host flags env c = .ok (m', r) → P m')
    {calls : List (Call × Collaborators)} (hm : P m) (h : run host flags m calls = .ok m') :
    P m' := by
  induction calls generalizing m with
  | nil =>
    cases h
    exact hm
  | cons call calls ih =>
    simp only [run] at h
    split at h
    · cases h
    · exact ih (step hm ‹_›) h

/-- **Generation at most once, over every run.** Whatever calls are made and whatever the
collaborators answer, a run that does not crash ends with the module unbuilt and no building
step logged, or built by exactly one module creation and one code generation, after which no
call took any step of the generation block (runtime load, analysis, creation, global
injection, link, generation). -/
theorem run_generationOnce (host : ByteOrder) (flags : Flags) (memory : GuestMemory)
    (calls : List (Call × Collaborators)) (m : ExecModule)
    (h : run host flags (create memory) calls = .ok m) : GenerationOnce m :=
  run_invariant GenerationOnce (fun hm hc => (call_blockStep hc).generationOnce hm)
    (.inl ⟨rfl, by simp [create]⟩) h

/-- A `PrepareRawBinary` whose generator fails, then a `Prepare` with every collaborator
succeeding. -/
def retryAfterFailedGenerate : List (Call × Collaborators) :=
  [(.prepareRawBinary 0x1000 0x2000,
      { Collaborators.succeeding sampleFunctions with generate := (sampleFunctions, false) }),
    (.prepare, .succeeding sampleFunctions)]

/-- The retry after a failed generation keeps the block to one pass. -/
theorem generationOnce_after_failed_generate :
    ∃ m, run .little quietFlags (create ⟨fun _ => 0⟩) retryAfterFailedGenerate = .ok m ∧
      GenerationOnce m :=
  ⟨_, rfl, run_generationOnce .little quietFlags ⟨fun _ => 0⟩ retryAfterFailedGenerate _ rfl⟩

/-! ## Trampoline bindings -/

/-- **The trampolines are bound once.** The log binds the six trampolines, once each and in
the order of `InjectGlobals`, if the module is built, and binds nothing if it is not. -/
def TrampolinesBound (m : ExecModule) : Prop :=
  m.log.filter Event.isBinding =
    if m.genModule.isSome then trampolines.map .addGlobalMapping else []

theorem Quiet.trampolinesBound (h : Quiet m m') (hb : TrampolinesBound m) :
    TrampolinesBound m' := by
  obtain ⟨hg, es, hl, he⟩ := h
  have hes : es.filter Event.isBinding = [] :=
    List.filter_eq_nil_iff.mpr fun e he' => by simp [Event.isBinding_eq_false (he e he')]
  rw [TrampolinesBound, hl, List.filter_append, hes, List.append_nil, hg]
  exact hb

theorem generateModule_trampolinesBound {b : Bool} (h : generateModule flags env m = .ok (m', b))
    (hm : m.genModule = none) (hb : TrampolinesBound m) : TrampolinesBound m' := by
  simp only [TrampolinesBound, hm, Option.isSome_none, Bool.false_eq_true, if_false] at hb
  rcases generateModule_cases h with ⟨-, hstop⟩ | ⟨-, -, hg, hl⟩
  · rcases hstop with rfl | ⟨-, rfl⟩ <;> simp [TrampolinesBound, hm, hb, Event.isBinding]
  · simp [TrampolinesBound, hg, hl, hb, Event.isBinding, trampolines]

theorem call_trampolinesBound {c : Call} (h : m.call host flags env c = .ok (m', r))
    (hb : TrampolinesBound m) : TrampolinesBound m' := by
  rcases call_quiet_or_block h with hq | ⟨_, m₁, _, hm, hgen, hq⟩
  · exact hq.trampolinesBound hb
  · exact hq.trampolinesBound (generateModule_trampolinesBound hgen hm hb)

/-- **Trampoline stability, over every run.** Whatever calls are made and whatever the
collaborators answer, a run that does not crash has bound each of the six trampolines
exactly once, in the order of `InjectGlobals`, if it built the module, and none if it did
not: no trampoline is ever bound a second time. -/
theorem run_trampolinesBound (host : ByteOrder) (flags : Flags) (memory : GuestMemory)
    (calls : List (Call × Collaborators)) (m : ExecModule)
    (h : run host flags (create memory) calls = .ok m) : TrampolinesBound m :=
  run_invariant TrampolinesBound (fun hb hc => call_trampolinesBound hc hb) (by exact rfl) h

/-- The retry after a failed generation binds each trampoline once. -/
theorem trampolinesBound_after_failed_generate :
    ∃ m, run .little quietFlags (create ⟨fun _ => 0⟩) retryAfterFailedGenerate = .ok m ∧
      TrampolinesBound m :=
  ⟨_, rfl, run_trampolinesBound .little quietFlags ⟨fun _ => 0⟩ retryAfterFailedGenerate _ rfl⟩

/-! ## The end of a successful `Prepare` -/

theorem finishPrepare_ok_log {gm : GenModule}
    (h : finishPrepare host flags env m gm = .ok (m', 0)) :
    ∃ gm' pre, m'.genModule = some gm' ∧ m'.log =
      pre ++ [.runStaticConstructorsDestructors false, .runFunction "xe_module_init"] ++
        gm'.definedFunctions.map .getPointerToFunction := by
  rcases finishPrepare_cases h with
    ⟨-, ⟨⟩⟩ | ⟨_, -, ⟨-, ⟨⟩⟩ | ⟨_, -, ⟨⟩⟩ | ⟨m₂, gm', hinit, hgm', rfl, -⟩⟩
  rcases init_ok hinit with ⟨-, ⟨⟩⟩ | ⟨-, vars, hl⟩
  exact ⟨gm', _, hgm', congrArg (· ++ _) hl⟩

/-- **Compilation follows the guest code.** A `Prepare` that returns 0 ends by running the
static constructors and `xe_module_init`, and only then calls `getPointerToFunction` on
every function of the module that has a body, in module order. -/
theorem prepare_ok_log (h : prepare host flags env m = .ok (m', 0)) :
    ∃ gm pre, m'.genModule = some gm ∧ m'.log =
      pre ++ [.runStaticConstructorsDestructors false, .runFunction "xe_module_init"] ++
        gm.definedFunctions.map .getPointerToFunction := by
  rcases prepare_cases h with ⟨_, -, h⟩ | ⟨-, -, ⟨⟩⟩ | ⟨-, _, _, -, -, h⟩
  all_goals exact finishPrepare_ok_log h

/-- A module with a symbol database, prepared with every collaborator succeeding. -/
theorem prepare_ok_log_sample :
    ∃ m', prepare .little quietFlags (.succeeding sampleFunctions)
        { create ⟨fun _ => 0⟩ with sdb := some ⟨.xex, false⟩ } = .ok (m', 0) ∧
      ∃ gm pre, m'.genModule = some gm ∧ m'.log =
        pre ++ [.runStaticConstructorsDestructors false, .runFunction "xe_module_init"] ++
          gm.definedFunctions.map .getPointerToFunction :=
  ⟨_, rfl, @prepare_ok_log .little quietFlags (.succeeding sampleFunctions)
    { create ⟨fun _ => 0⟩ with sdb := some ⟨.xex, false⟩ } _ rfl⟩

/-- `PrepareRawBinary` on a fresh module with every collaborator succeeding returns 0 having
run the static constructors and `xe_module_init` before compiling any function. -/
theorem prepareRawBinary_runs_guest_before_jit :
    ((create ⟨fun _ => 0⟩).call .little quietFlags (.succeeding sampleFunctions)
        (.prepareRawBinary 0x1000 0x2000)).map (fun r => (r.2, r.1.log)) =
      .ok (0, [.loadRuntime true, .analyze true, .createModule] ++
        trampolines.map .addGlobalMapping ++
        [.linkModules true, .generate true, .materialize true, .runPasses, .getAllVariables true,
          .runStaticConstructorsDestructors false, .runFunction "xe_module_init",
          .getPointerToFunction "xe_module_init", .getPointerToFunction "xe_module_uninit",
          .getPointerToFunction "main"]) := by
  rfl

/-! ## Success past a failed stage -/

/-- Three runs in which `Prepare` returns 0 although a fatal stage of the module's
preparation failed or was skipped: a retry after the generator failed, which skips the
generation block; a link failure, whose result is not checked; and a second
`PrepareRawBinary`, whose fresh symbol database `Init` reads without `Analyze` having run. -/
theorem prepare_succeeds_past_failed_stage :
    (((create ⟨fun _ => 0⟩).call .little quietFlags
        { Collaborators.succeeding sampleFunctions with generate := (sampleFunctions, false) }
        (.prepareRawBinary 0x1000 0x2000)).bind fun r =>
      (r.1.call .little quietFlags (.succeeding sampleFunctions) .prepare).map fun r' =>
        (r.2, r'.2, r'.1.log.filter Event.buildsModule)) =
      .ok (1, 0, [.createModule, .generate false]) ∧
    ((create ⟨fun _ => 0⟩).call .little quietFlags
        { Collaborators.succeeding sampleFunctions with link := (sampleFunctions, false) }
        (.prepareRawBinary 0x1000 0x2000)).map (fun r => r.2) = .ok 0 ∧
    (((create ⟨fun _ => 0⟩).call .little quietFlags (.succeeding sampleFunctions)
        (.prepareRawBinary 0x1000 0x2000)).bind fun r =>
      (r.1.call .little quietFlags { Collaborators.succeeding sampleFunctions with analyze := false }
        (.prepareRawBinary 0x3000 0x4000)).map fun r' => (r'.2, r'.1.sdb)) =
      .ok (0, some ⟨.raw 0x3000 0x4000, false⟩) :=
  ⟨rfl, rfl, rfl⟩

end ExecModule

end Xenia.Cpu
