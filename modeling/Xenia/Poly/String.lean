import Mathlib.Data.List.Basic

/-!
# String helpers of `poly` and `std::basic_string`

`FileSystem` reads paths through three helpers that are not part of the sources at
hand: `poly::find_first_of_case`, `poly::fs::CanonicalizePath` and
`std::wstring::find_last_of`.  Strings are their character lists; the C library's
`strncasecmp` folds case in the C locale, which is `Char.toLower`.

## Main definitions

* `prefixCase s t`: `s` is a case-insensitive prefix of `t`
* `findFirstOfCase target search`: the first case-insensitive occurrence of `search`
* `canonicalizePath`: the canonical form of a guest path
* `findLastOf`: the last position of a character, `none` standing for `npos`

## Main results

* `findFirstOfCase_eq_zero`: the test `find_first_of_case(t, s) == 0` of `ResolvePath`
  holds exactly when `t` is nonempty and begins case-insensitively with `s`
* `prefixCase_total_of_common`: two case-insensitive prefixes of one string are
  prefix-comparable
-/

namespace Xenia.Poly

/-! ## Case-insensitive prefixes -/

/-- `strncasecmp(t, s, s.size()) == 0`: `s` is a prefix of `t` up to ASCII case. -/
def prefixCase : List Char → List Char → Bool
  | [], _ => true
  | _ :: _, [] => false
  | a :: s, b :: t => a.toLower == b.toLower && prefixCase s t

@[simp] theorem prefixCase_nil (t : List Char) : prefixCase [] t = true := by
  cases t <;> rfl

@[simp] theorem prefixCase_cons_nil (a : Char) (s : List Char) : prefixCase (a :: s) [] = false :=
  rfl

@[simp] theorem prefixCase_cons_cons (a b : Char) (s t : List Char) :
    prefixCase (a :: s) (b :: t) = (a.toLower == b.toLower && prefixCase s t) := rfl

theorem length_le_of_prefixCase {s t : List Char} (h : prefixCase s t = true) :
    s.length ≤ t.length := by
  induction s, t using prefixCase.induct with
  | case1 => simp
  | case2 => simp at h
  | case3 a s b t ih =>
    simp only [prefixCase_cons_cons, Bool.and_eq_true] at h
    simpa using ih h.2

/-- `s` is a case-insensitive prefix of `s ++ r`. -/
theorem prefixCase_append (s r : List Char) : prefixCase s (s ++ r) = true := by
  induction s with
  | nil => rfl
  | cons a s ih => simp [ih]

/-- A case-insensitive prefix is one of the target's first characters. -/
theorem prefixCase_take {s t : List Char} (h : prefixCase s t = true) :
    prefixCase s (t.take s.length) = true := by
  induction s, t using prefixCase.induct with
  | case1 => rfl
  | case2 => simp at h
  | case3 a s b t ih =>
    simp only [prefixCase_cons_cons, Bool.and_eq_true] at h
    simp [h.1, ih h.2]

/-- **Comparability.** Two case-insensitive prefixes of one string are prefix-comparable:
the shorter one is a case-insensitive prefix of the longer. -/
theorem prefixCase_total_of_common {a b t : List Char} (ha : prefixCase a t = true)
    (hb : prefixCase b t = true) : prefixCase a b = true ∨ prefixCase b a = true := by
  induction t generalizing a b with
  | nil =>
    cases a with
    | nil => simp
    | cons => simp at ha
  | cons c t ih =>
    cases a with
    | nil => simp
    | cons x a =>
      cases b with
      | nil => simp
      | cons y b =>
        simp only [prefixCase_cons_cons, Bool.and_eq_true, beq_iff_eq] at ha hb ⊢
        rcases ih ha.2 hb.2 with h | h
        · exact .inl ⟨ha.1.trans hb.1.symm, h⟩
        · exact .inr ⟨hb.1.trans ha.1.symm, h⟩

/-! ## `poly::find_first_of_case` -/

/-- The search loop of `find_first_of_case`, at position `i` of the target. -/
def findFirstOfCaseFrom (search : List Char) : List Char → Nat → Option Nat
  | [], _ => none
  | c :: rest, i =>
    if prefixCase search (c :: rest) then some i else findFirstOfCaseFrom search rest (i + 1)

/-- `poly::find_first_of_case`, after poly's implementation, which is not in src/.  It walks the
target's characters until `strncasecmp` matches `search` there, and answers that
position, or `npos` (`none`) when it reaches the end of the target. -/
def findFirstOfCase (target search : List Char) : Option Nat :=
  findFirstOfCaseFrom search target 0

theorem findFirstOfCaseFrom_ne_of_lt (search t : List Char) {i j : Nat} (h : j < i) :
    findFirstOfCaseFrom search t i ≠ some j := by
  induction t generalizing i with
  | nil => simp [findFirstOfCaseFrom]
  | cons c t ih =>
    simp only [findFirstOfCaseFrom]
    split
    · simp only [ne_eq, Option.some.injEq]
      omega
    · exact ih (by omega)

/-- **The test of `ResolvePath`.** `find_first_of_case(t, s) == 0` holds exactly when `t` is
nonempty and begins with `s` up to case. -/
theorem findFirstOfCase_eq_zero (target search : List Char) :
    findFirstOfCase target search = some 0 ↔ target ≠ [] ∧ prefixCase search target = true := by
  cases target with
  | nil => simp [findFirstOfCase, findFirstOfCaseFrom]
  | cons c t =>
    simp only [findFirstOfCase, findFirstOfCaseFrom, ne_eq, reduceCtorEq, not_false_eq_true,
      true_and]
    split
    · simpa
    · simpa [*] using findFirstOfCaseFrom_ne_of_lt search t (Nat.zero_lt_one)

/-! ## `poly::fs::CanonicalizePath` -/

/-- One component of the canonical walk: empty and `.` components vanish, `..` drops the
component kept before it. -/
def canonicalStep (kept : List (List Char)) (part : List Char) : List (List Char) :=
  if part = [] ∨ part = ['.'] then kept
  else if part = ['.', '.'] then kept.dropLast
  else kept ++ [part]

/-- `poly::fs::CanonicalizePath`, after poly's implementation, which is not in src/; `ResolvePath`
calls it to "Resolve relative paths".  Separators are unified to `\`, empty and `.`
components are dropped, `..` drops the component before it, a trailing separator is
removed, and a path that keeps no component is empty. -/
def canonicalizePath (path : List Char) : List Char :=
  let fixed := path.map fun c => if c = '/' then '\\' else c
  match (fixed.splitOn '\\').foldl canonicalStep [] with
  | [] => []
  | kept => (if fixed.head? = some '\\' then ['\\'] else []) ++ ['\\'].intercalate kept

example : canonicalizePath "\\Device\\.\\Cdrom0\\\\x\\..\\".toList = "\\Device\\Cdrom0".toList := by
  decide

/-! ## `std::wstring::find_last_of` -/

/-- `find_last_of(c)`: the last position holding `c`, `none` standing for `npos`. -/
def findLastOf : List Char → Char → Option Nat
  | [], _ => none
  | a :: s, c =>
    match findLastOf s c with
    | some i => some (i + 1)
    | none => if a = c then some 0 else none

@[simp] theorem findLastOf_eq_none {s : List Char} {c : Char} : findLastOf s c = none ↔ c ∉ s := by
  induction s with
  | nil => simp [findLastOf]
  | cons a s ih =>
    cases h : findLastOf s c with
    | some i => simp_all [findLastOf]
    | none =>
      have hs : c ∉ s := ih.mp h
      simp only [findLastOf, h, List.mem_cons, not_or, hs, not_false_eq_true, and_true]
      by_cases hac : a = c
      · simp [hac]
      · simp [hac, Ne.symm hac]

/-- The last occurrence of `c` stands right before a part without `c`. -/
theorem findLastOf_append_cons {u v : List Char} {c : Char} (hv : c ∉ v) :
    findLastOf (u ++ c :: v) c = some u.length := by
  induction u with
  | nil => simp [findLastOf, findLastOf_eq_none.mpr hv]
  | cons a u ih => simp [findLastOf, ih]

theorem findLastOf_append (u v : List Char) (c : Char) :
    findLastOf (u ++ v) c =
      match findLastOf v c with
      | some i => some (u.length + i)
      | none => findLastOf u c := by
  induction u with
  | nil => cases h : findLastOf v c <;> simp [h, findLastOf]
  | cons a u ih =>
    cases h : findLastOf v c with
    | some i =>
      simp only [h] at ih
      simp [findLastOf, ih, Nat.add_right_comm]
    | none =>
      simp only [h] at ih
      simp [findLastOf, ih]

theorem findLastOf_lt {s : List Char} {c : Char} {i : Nat} (h : findLastOf s c = some i) :
    i < s.length := by
  induction s generalizing i with
  | nil => simp [findLastOf] at h
  | cons a s ih =>
    simp only [findLastOf] at h
    split at h
    · cases h
      exact Nat.succ_lt_succ (ih ‹_›)
    · split at h
      · cases h
        simp
      · cases h

end Xenia.Poly
