import Mathlib.Data.List.Pairwise
import Xenia.Cpu.ExecModule

/-!
# `Init`, `Uninit` and the guest's kernel variables

`Init` walks the variable symbols of the database and, for each one bound to a
variable-kind kernel export, stores the export's value into the symbol's 4-byte slot in
guest byte order, or `0xDEADBEEF` with a warning when the export has no value.  When
the slots are pairwise disjoint, every written slot ends up holding its own word, and no
other byte of guest memory changes.

`Uninit` runs `xe_module_uninit` and then the static destructors; the destructor of a built
module calls it before it detaches the module from the engine.

## Main definitions

* `boundWord var`: the word the loop writes into `var`'s slot, if it writes it
* `bindWarning var`: the warning the loop logs for `var`, if any
* `SlotsDisjoint vars`: the 4-byte slots of the symbols are pairwise disjoint
* `Overwrites w a`: `w` leaves byte `a` as it was, or sets it independently of the memory

## Main results

* `bindVariables_read`, `bindVariables_byte_of_outside`, `bindVariables_warnings`:
  each slot holds its word, the rest of memory is untouched, one warning per
  unimplemented variable
* `bindVariables_rerun`: the loop sets every byte it writes independently of the memory, so
  running it again changes nothing
* `init_binding`: the loop and `Init`'s early return when the variables are unavailable
* `ExecModule.init_ok`, `ExecModule.uninit_ok`: what `Init` and `Uninit` can do
* `ExecModule.absent_entry_point_runs`: `Init`, `Uninit` and the destructor call a missing
  `xe_module_init` or `xe_module_uninit` anyway, and fault
-/

namespace Xenia.Cpu

/-- The word `Init` stores in a variable's slot: the export's value, or `0xDEADBEEF` for an
export without one; `none` for a symbol with no export or a function-kind export. -/
def boundWord (var : VariableSymbol) : Option UInt32 :=
  match var.kernelExport with
  | some e =>
    if e.type = .variable then some (if e.isImplemented then e.variablePtr else unimplementedValue)
    else none
  | none => none

/-- The warning `Init` logs for a variable: one for each variable-kind export without a value. -/
def bindWarning (var : VariableSymbol) : Option Event :=
  match var.kernelExport with
  | some e => if e.type = .variable ∧ e.isImplemented = false then some (.warnUnimplemented e.name)
    else none
  | none => none

/-- The 4-byte slots `[address, address + 4)` of the symbols are pairwise disjoint. -/
def SlotsDisjoint (vars : List VariableSymbol) : Prop :=
  vars.Pairwise fun v w =>
    v.address.toNat + 4 ≤ w.address.toNat ∨ w.address.toNat + 4 ≤ v.address.toNat

instance : DecidablePred SlotsDisjoint := fun vars =>
  inferInstanceAs (Decidable (vars.Pairwise _))

/-- **One iteration.** The loop body stores `boundWord` and logs `bindWarning`. -/
theorem bindVariable_eq (host : ByteOrder) (mem : GuestMemory) (var : VariableSymbol) :
    bindVariable host mem var =
      match boundWord var with
      | some x => (mem.store32 host var.address.toNat (xeswap32be host x), (bindWarning var).toList)
      | none => (mem, []) := by
  unfold bindVariable boundWord bindWarning
  rcases var with ⟨address, _ | ⟨name, _ | _, _ | _, ptr⟩⟩ <;> rfl

@[simp] theorem bindVariables_nil (host : ByteOrder) (mem : GuestMemory) :
    bindVariables host mem [] = (mem, []) := rfl

theorem bindVariables_cons (host : ByteOrder) (mem : GuestMemory) (var : VariableSymbol)
    (vars : List VariableSymbol) :
    bindVariables host mem (var :: vars) =
      ((bindVariables host (bindVariable host mem var).1 vars).1,
        (bindVariable host mem var).2 ++
          (bindVariables host (bindVariable host mem var).1 vars).2) :=
  rfl

/-- The memory after one iteration differs only in the slot it writes. -/
theorem byte_bindVariable_of_outside (host : ByteOrder) (mem : GuestMemory) (var : VariableSymbol)
    {a : Nat} (ha : (boundWord var).isSome → a < var.address.toNat ∨ var.address.toNat + 4 ≤ a) :
    (bindVariable host mem var).1.byte a = mem.byte a := by
  rw [bindVariable_eq]
  cases h : boundWord var with
  | none => rfl
  | some x => exact GuestMemory.byte_store32_of_lt _ _ _ _ (ha (by simp [h]))

/-- **Frame.** The loop changes no byte outside the slots it writes. -/
theorem bindVariables_byte_of_outside (host : ByteOrder) (mem : GuestMemory)
    (vars : List VariableSymbol) {a : Nat}
    (ha : ∀ v ∈ vars, (boundWord v).isSome → a < v.address.toNat ∨ v.address.toNat + 4 ≤ a) :
    (bindVariables host mem vars).1.byte a = mem.byte a := by
  induction vars generalizing mem with
  | nil => rfl
  | cons var vars ih =>
    rw [bindVariables_cons, ih _ fun v hv => ha v (.tail _ hv)]
    exact byte_bindVariable_of_outside host mem var (ha var (.head _))

/-- **The slot holds its word.** With disjoint slots, each written slot ends up holding the
big-endian encoding of its word. -/
theorem bindVariables_read (host : ByteOrder) (mem : GuestMemory) {vars : List VariableSymbol}
    (hdisj : SlotsDisjoint vars) {v : VariableSymbol} (hv : v ∈ vars) {x : UInt32}
    (hx : boundWord v = some x) :
    (bindVariables host mem vars).1.read v.address.toNat 4 = bytesBE x := by
  induction vars generalizing mem with
  | nil => simp at hv
  | cons var vars ih =>
    rw [SlotsDisjoint, List.pairwise_cons] at hdisj
    rw [bindVariables_cons]
    by_cases hmem : v ∈ vars
    · exact ih _ hdisj.2 hmem
    · obtain rfl : v = var := by simpa [hmem] using hv
      have hrest : ∀ i < 4, (bindVariables host (bindVariable host mem v).1 vars).1.byte
          (v.address.toNat + i) = (bindVariable host mem v).1.byte (v.address.toNat + i) :=
        fun i hi => bindVariables_byte_of_outside _ _ _ fun w hw _ => by
          have := hdisj.1 w hw
          omega
      rw [GuestMemory.read_congr hrest, bindVariable_eq, hx]
      exact GuestMemory.read_store32 _ _ _ _

/-- **One warning per unimplemented variable**, in the order of the symbols. -/
theorem bindVariables_warnings (host : ByteOrder) (mem : GuestMemory) (vars : List VariableSymbol) :
    (bindVariables host mem vars).2 = vars.filterMap bindWarning := by
  induction vars generalizing mem with
  | nil => rfl
  | cons var vars ih =>
    rw [bindVariables_cons, ih, List.filterMap_cons, bindVariable_eq]
    unfold boundWord bindWarning
    rcases var with ⟨address, _ | ⟨name, _ | _, _ | _, ptr⟩⟩ <;> rfl

/-- The loop logs nothing but warnings about unimplemented variables. -/
theorem mem_bindVariables_warnings {host : ByteOrder} {mem : GuestMemory}
    {vars : List VariableSymbol} {e : Event} (he : e ∈ (bindVariables host mem vars).2) :
    ∃ name, e = .warnUnimplemented name := by
  rw [bindVariables_warnings] at he
  obtain ⟨v, -, hv⟩ := List.mem_filterMap.mp he
  unfold bindWarning at hv
  split at hv
  · split at hv
    · exact ⟨_, (Option.some.inj hv).symm⟩
    · cases hv
  · cases hv

/-! ## Running the loop again -/

/-- Byte `a` after `w`: left as it was whatever the memory, or given a value that does not
depend on the memory. -/
def Overwrites (w : GuestMemory → GuestMemory) (a : Nat) : Prop :=
  (∀ mem, (w mem).byte a = mem.byte a) ∨ ∀ mem mem', (w mem).byte a = (w mem').byte a

theorem Overwrites.comp {w₁ w₂ : GuestMemory → GuestMemory} {a : Nat}
    (h₁ : Overwrites w₁ a) (h₂ : Overwrites w₂ a) : Overwrites (fun mem => w₂ (w₁ mem)) a := by
  rcases h₂ with h₂ | h₂
  · rcases h₁ with h₁ | h₁
    · exact .inl fun mem => (h₂ _).trans (h₁ mem)
    · exact .inr fun mem mem' => by rw [h₂, h₂, h₁ mem mem']
  · exact .inr fun mem mem' => h₂ _ _

/-- Running twice a step that overwrites every byte is running it once. -/
theorem Overwrites.idem {w : GuestMemory → GuestMemory} (h : ∀ a, Overwrites w a)
    (mem : GuestMemory) : w (w mem) = w mem := by
  have hbyte : (w (w mem)).byte = (w mem).byte :=
    funext fun a => (h a).elim (fun h => h _) (fun h => h _ _)
  rcases hw : w (w mem) with ⟨f⟩
  rcases hw' : w mem with ⟨g⟩
  rw [hw, hw'] at hbyte
  exact congrArg GuestMemory.mk hbyte

theorem overwrites_store32 (host : ByteOrder) (addr : Nat) (n : UInt32) (a : Nat) :
    Overwrites (fun mem => mem.store32 host addr n) a := by
  by_cases ha : a < addr ∨ addr + 4 ≤ a
  · exact .inl fun mem => GuestMemory.byte_store32_of_lt host mem addr n ha
  · refine .inr fun mem mem' => ?_
    obtain ⟨i, hi, rfl⟩ : ∃ i < 4, a = addr + i := ⟨a - addr, by omega, by omega⟩
    have hlen : i < (hostBytes host n).length := by rw [length_hostBytes]; exact hi
    simp only [GuestMemory.store32]
    rw [GuestMemory.byte_writeBytes_add _ _ _ hlen, GuestMemory.byte_writeBytes_add _ _ _ hlen]

theorem overwrites_bindVariables (host : ByteOrder) (vars : List VariableSymbol) (a : Nat) :
    Overwrites (fun mem => (bindVariables host mem vars).1) a := by
  induction vars with
  | nil => exact .inl fun _ => rfl
  | cons var vars ih =>
    have hvar : Overwrites (fun mem => (bindVariable host mem var).1) a := by
      simp only [bindVariable_eq]
      cases boundWord var with
      | none => exact .inl fun _ => rfl
      | some x => exact overwrites_store32 host _ _ a
    exact hvar.comp ih

/-- **`Init`'s loop can run again.** Whatever the symbols, their slots overlapping or not,
each byte of guest memory after the binding loop kept its value, whatever the memory held, or
holds a value that does not depend on the memory; so running the loop again over the memory it
produced changes nothing, and logs the same warnings. -/
theorem bindVariables_rerun (host : ByteOrder) (vars : List VariableSymbol) :
    (∀ a, (∀ mem, (bindVariables host mem vars).1.byte a = mem.byte a) ∨
      ∀ mem mem', (bindVariables host mem vars).1.byte a =
        (bindVariables host mem' vars).1.byte a) ∧
    ∀ mem,
      bindVariables host (bindVariables host mem vars).1 vars = bindVariables host mem vars :=
  ⟨overwrites_bindVariables host vars, fun mem => Prod.ext
    (Overwrites.idem (overwrites_bindVariables host vars) mem)
    (by rw [bindVariables_warnings, bindVariables_warnings])⟩

namespace ExecModule

variable {host : ByteOrder} {env : Collaborators} {m m' : ExecModule} {r : Int}

/-- `runInit` logs the static constructors and `xe_module_init`, and leaves the module as it
was. -/
theorem runInit_ok {gm : GenModule} (h : runInit env m gm = .ok (m', r)) :
    m'.genModule = m.genModule ∧ m'.log =
      m.log ++ [.runStaticConstructorsDestructors false, .runFunction "xe_module_init"] := by
  unfold runInit at h
  split at h
  · cases h
  · cases h
    exact ⟨rfl, by simp⟩

/-- **What `Init` can do.** It returns 1 at once, having only asked for the variables, or
binds them, logging their warnings, and ends by running the static constructors and
`xe_module_init`, leaving the module as it was. -/
theorem init_ok (h : m.init host env = .ok (m', r)) :
    (m' = m.emit (.getAllVariables false) ∧ r = 1) ∨
    (m'.genModule = m.genModule ∧ ∃ vars, m'.log = m.log ++ Event.getAllVariables true ::
      (bindVariables host m.memory vars).2 ++
        [.runStaticConstructorsDestructors false, .runFunction "xe_module_init"]) := by
  unfold init at h
  split at h
  · cases h
  · cases h
    exact .inl ⟨rfl, rfl⟩
  · rename_i vars _ _
    dsimp only at h
    split at h
    · cases h
    · obtain ⟨hg, hl⟩ := runInit_ok h
      exact .inr ⟨hg, vars, by simp [hl]⟩

/-! ## Teardown -/

/-- **What `Uninit` can do.** On a built module it runs `xe_module_uninit`, then the static
destructors, returns 0 and leaves the module as it was. -/
theorem uninit_ok (h : m.uninit env = .ok (m', r)) :
    m.genModule.isSome ∧ m'.genModule = m.genModule ∧ r = 0 ∧ m'.log =
      m.log ++ [.runFunction "xe_module_uninit", .runStaticConstructorsDestructors true] := by
  unfold uninit at h
  split at h
  · cases h
  · split at h
    · cases h
    · cases h
      exact ⟨by simp [*], rfl, rfl, by simp⟩

/-- **An absent entry point is run.** `Init` and `Uninit` hand what `getFunction` answers to
`runFunction` unchecked. On a generated module without `xe_module_init`, an `Init` that
gets the variables crashes once it has bound them and run the static constructors; on one
without `xe_module_uninit`, `Uninit` crashes before the static destructors, and so does the
destructor, before it detaches the module. -/
theorem absent_entry_point_runs {gm : GenModule} (hgm : m.genModule = some gm) :
    (m.sdb.isSome → env.getAllVariables.isSome → gm.getFunction "xe_module_init" = none →
      m.init host env = .error .nullFunction) ∧
    (gm.getFunction "xe_module_uninit" = none →
      m.uninit env = .error .nullFunction ∧ m.destroy env = .error .nullFunction) := by
  refine ⟨fun hsdb hvars habs => ?_, fun habs => ⟨?_, ?_⟩⟩
  · obtain ⟨sdb, hs⟩ := Option.isSome_iff_exists.mp hsdb
    obtain ⟨vars, hv⟩ := Option.isSome_iff_exists.mp hvars
    simp [init, runInit, hs, hv, hgm, habs]
  · simp [uninit, hgm, habs]
  · simp [destroy, uninit, hgm, habs]

/-- A module whose generated code has no functions at all. -/
theorem absent_entry_point_runs_empty_module :
    let m : ExecModule :=
      { ExecModule.create ⟨fun _ => 0⟩ with sdb := some ⟨.xex, false⟩, genModule := some ⟨[]⟩ }
    let env : Collaborators := ⟨true, true, ([], true), ([], true), true, true, true, some,
      some [], fun _ mem => mem, fun _ mem => (mem, 0)⟩
    m.init .little env = .error .nullFunction ∧ m.uninit env = .error .nullFunction ∧
      m.destroy env = .error .nullFunction :=
  ⟨(@absent_entry_point_runs .little _ _ ⟨[]⟩ rfl).1 rfl rfl rfl,
    (@absent_entry_point_runs .little _ _ ⟨[]⟩ rfl).2 rfl⟩

end ExecModule

end Xenia.Cpu
