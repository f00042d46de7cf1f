import Xenia.Cpu.Prepare

/-!
# What a call can crash on

Each way a method of `ExecModule` crashes the process is a `Fault`: `sdb_`, `gen_module_` or
`codegen_` dereferenced while null, `runFunction` handed an absent function, or the verifier
pass aborting on an invalid module.  `Prepare` sets `codegen_` in the same block that creates
`gen_module_`, after `Analyze` has run on `sdb_`, and nothing clears any of the three; so over
every run `codegen_` is set exactly when `gen_module_` is, and a built module has a symbol
database.  Once the module is built, the null-pointer crashes are gone: a call can then only
crash in the verifier or on a missing `xe_module_init` or `xe_module_uninit`.

## Main definitions

* `ExecModule.Wired m`: `codegen_` is set exactly when `gen_module_` is, and a built module has
  a symbol database

## Main results

* `ExecModule.call_wired`: every call keeps `Wired`
* `ExecModule.built_call_fault`: a call on a wired, built module crashes only in the verifier
  or on a missing entry point
* `ExecModule.run_faults`: over every run, `AddFunctionsToMap` crashes exactly while the module
  is unbuilt, and a built module crashes only in the verifier or on a missing entry point
-/

namespace Xenia.Cpu

namespace ExecModule

variable {host : ByteOrder} {flags : Flags} {env : Collaborators} {m m' : ExecModule} {r : Int}
  {f : Fault}

@[simp] theorem emit_codegen (m : ExecModule) (e : Event) : (m.emit e).codegen = m.codegen := rfl

/-- **Wired**: `codegen_` is set exactly when `gen_module_` is, and a built module has a
symbol database. -/
structure Wired (m : ExecModule) : Prop where
  codegen_eq : m.codegen = m.genModule.isSome
  sdb_of_built : m.genModule.isSome → m.sdb.isSome

/-- A step that keeps the symbol database, `codegen_` and whether the module is built keeps
`Wired`. -/
theorem Wired.of_frame (hw : Wired m) (hs : m'.sdb = m.sdb) (hc : m'.codegen = m.codegen)
    (hg : m'.genModule.isSome = m.genModule.isSome) : Wired m' :=
  ⟨by rw [hc, hg, hw.codegen_eq], fun h => hs ▸ hw.sdb_of_built (hg ▸ h)⟩

/-! ## What each call leaves of `sdb_` and `codegen_` -/

theorem init_frame (h : m.init host env = .ok (m', r)) :
    m'.sdb = m.sdb ∧ m'.codegen = m.codegen ∧ m'.genModule = m.genModule := by
  unfold init at h
  split at h
  · cases h
  · cases h
    exact ⟨rfl, rfl, rfl⟩
  · dsimp only at h
    split at h
    · cases h
    · unfold runInit at h
      split at h
      · cases h
      · cases h
        exact ⟨rfl, rfl, rfl⟩

theorem uninit_frame (h : m.uninit env = .ok (m', r)) :
    m'.sdb = m.sdb ∧ m'.codegen = m.codegen ∧ m'.genModule = m.genModule := by
  unfold uninit at h
  split at h
  · cases h
  · split at h
    · cases h
    · cases h
      exact ⟨rfl, rfl, rfl⟩

theorem finishPrepare_frame {gm : GenModule}
    (h : finishPrepare host flags env m gm = .ok (m', r)) :
    m'.sdb = m.sdb ∧ m'.codegen = m.codegen := by
  rcases finishPrepare_cases h with ⟨rfl, -⟩ | ⟨_, -, ⟨rfl, -⟩ | ⟨_, hinit, -⟩ |
    ⟨_, _, hinit, -, rfl, -⟩⟩
  · exact ⟨rfl, rfl⟩
  · exact ⟨rfl, rfl⟩
  · exact ⟨(init_frame hinit).1, (init_frame hinit).2.1⟩
  · exact ⟨(init_frame hinit).1, (init_frame hinit).2.1⟩

/-- The generation block keeps `Wired`: it stops before creating the module, or creates it,
sets `codegen_` and leaves the analysed symbol database. -/
theorem generateModule_wired {b : Bool} (h : generateModule flags env m = .ok (m', b))
    (hw : Wired m) : Wired m' := by
  unfold generateModule at h
  split at h
  · cases h
    exact hw.of_frame rfl rfl rfl
  · dsimp only at h
    split at h
    · cases h
    · split at h
      · cases h
        exact hw.of_frame rfl rfl rfl
      · cases h
        exact ⟨rfl, fun _ => rfl⟩

theorem prepare_wired (h : prepare host flags env m = .ok (m', r)) (hw : Wired m) : Wired m' := by
  rcases prepare_cases h with ⟨gm, hgm, h⟩ | ⟨-, hgen, -⟩ | ⟨-, m₁, gm, hgen, hgm, h⟩
  · obtain ⟨hs, hc⟩ := finishPrepare_frame h
    exact hw.of_frame hs hc (finishPrepare_quiet (by simp [hgm]) h).1
  · exact generateModule_wired hgen hw
  · obtain ⟨hs, hc⟩ := finishPrepare_frame h
    exact (generateModule_wired hgen hw).of_frame hs hc (finishPrepare_quiet (by simp [hgm]) h).1

/-- **Every call keeps `Wired`.** -/
theorem call_wired {c : Call} (h : m.call host flags env c = .ok (m', r)) (hw : Wired m) :
    Wired m' := by
  cases c with
  | prepareUserModule | prepareRawBinary =>
    exact prepare_wired h ⟨hw.codegen_eq, fun _ => rfl⟩
  | prepare => exact prepare_wired h hw
  | init =>
    obtain ⟨hs, hc, hg⟩ := init_frame h
    exact hw.of_frame hs hc (by rw [hg])
  | uninit =>
    obtain ⟨hs, hc, hg⟩ := uninit_frame h
    exact hw.of_frame hs hc (by rw [hg])
  | addFunctionsToMap | dump =>
    simp only [call] at h
    split at h <;> cases h
    exact hw

/-! ## What each call can crash on -/

/-- `Init` crashes on a missing symbol database, on an unbuilt module, or on a missing
`xe_module_init`. -/
theorem init_error (h : m.init host env = .error f) :
    (m.sdb = none ∧ f = .nullSymbolDatabase) ∨ (m.genModule = none ∧ f = .nullModule) ∨
      f = .nullFunction := by
  unfold init at h
  split at h
  · cases h
    exact .inl ⟨‹_›, rfl⟩
  · cases h
  · dsimp only at h
    split at h
    · cases h
      exact .inr (.inl ⟨‹_›, rfl⟩)
    · unfold runInit at h
      split at h
      · cases h
        exact .inr (.inr rfl)
      · cases h

/-- The rest of `Prepare`, on a built module, crashes on a missing symbol database, in the
verifier, or on a missing `xe_module_init`. -/
theorem finishPrepare_error {gm : GenModule} (h : finishPrepare host flags env m gm = .error f) :
    (m.sdb = none ∧ f = .nullSymbolDatabase) ∨ f = .verifierAbort ∨ f = .nullFunction := by
  unfold finishPrepare at h
  split at h
  · cases h
  · split at h
    · cases h
      exact .inr (.inl rfl)
    · dsimp only at h
      split at h
      · cases h
      · split at h
        · cases h
          rcases init_error ‹_› with hs | ⟨hg, -⟩ | hf
          · exact .inl (by simpa using hs)
          · simp at hg
          · exact .inr (.inr hf)
        · split at h
          · cases h
          · split at h
            · rename_i hinit _ _ hg
              simp [(init_frame hinit).2.2] at hg
            · cases h

/-- **Crashes of a built module.** On a wired, built module, every call that crashes does so
in the verifier or on a missing `xe_module_init` or `xe_module_uninit`: no null `sdb_`,
`gen_module_` or `codegen_` is dereferenced. -/
theorem built_call_fault {c : Call} (hw : Wired m) (hb : m.genModule.isSome)
    (h : m.call host flags env c = .error f) : f = .verifierAbort ∨ f = .nullFunction := by
  obtain ⟨gm, hgm⟩ := Option.isSome_iff_exists.mp hb
  have hs := hw.sdb_of_built hb
  cases c with
  | prepareUserModule | prepareRawBinary | prepare =>
    simp only [call, prepare, hgm] at h
    rcases finishPrepare_error h with ⟨hn, -⟩ | hf
    · simp_all
    · exact hf
  | init =>
    rcases init_error h with ⟨hn, -⟩ | ⟨hn, -⟩ | hf
    · simp [hn] at hs
    · simp [hn] at hb
    · exact .inr hf
  | uninit =>
    simp only [call, uninit, hgm] at h
    split at h <;> cases h
    exact .inr rfl
  | addFunctionsToMap =>
    simp [call, hw.codegen_eq, hb] at h
  | dump =>
    simp [call, hs] at h

/-- **Crash safety over every run.** Whatever calls are made and whatever the collaborators
answer, a run that does not crash reaches a module on which `AddFunctionsToMap` crashes
exactly when the module is unbuilt, and which, once built, can crash only in the verifier or on
a missing `xe_module_init` or `xe_module_uninit`.  Aborts inside the guest code the engine runs
(`XeTrap`, `XeIndirectBranch`) and LLVM's fatal errors are outside the model. -/
theorem run_faults (host : ByteOrder) (flags : Flags) (memory : GuestMemory)
    (calls : List (Call × Collaborators)) (m : ExecModule)
    (h : run host flags (create memory) calls = .ok m) :
    (∀ env, m.call host flags env .addFunctionsToMap = .error .nullCodegen ↔
      m.genModule = none) ∧
    (m.genModule.isSome → ∀ (c : Call) env f, m.call host flags env c = .error f →
      f = .verifierAbort ∨ f = .nullFunction) := by
  have hw : Wired m := run_invariant Wired (fun hw hc => call_wired hc hw)
    ⟨rfl, by simp [create]⟩ h
  refine ⟨fun env => ?_, fun hb c env f hf => built_call_fault hw hb hf⟩
  cases hg : m.genModule <;> simp [call, hw.codegen_eq, hg]

/-- The retry after a failed generation reaches a built module. -/
theorem run_faults_after_failed_generate :
    ∃ m, run .little quietFlags (create ⟨fun _ => 0⟩) retryAfterFailedGenerate = .ok m ∧
      m.genModule.isSome ∧
      (∀ env, m.call .little quietFlags env .addFunctionsToMap = .error .nullCodegen ↔
        m.genModule = none) ∧
      (m.genModule.isSome → ∀ (c : Call) env f, m.call .little quietFlags env c = .error f →
        f = .verifierAbort ∨ f = .nullFunction) :=
  ⟨_, rfl, rfl, run_faults .little quietFlags ⟨fun _ => 0⟩ retryAfterFailedGenerate _ rfl⟩

end ExecModule

end Xenia.Cpu
