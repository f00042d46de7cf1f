import Xenia.Kernel.Fs.FileSystem

/-!
# The symbolic-link table as a map

`CreateSymbolicLink` inserts into `symlinks_` with `insert`, which keeps an existing entry;
it reports success either way.  `DeleteSymbolicLink` erases a present name and fails on an
absent one.  Seen as a map from names to targets, the table therefore follows the
first-write-wins map `LinkMap`, call by call and over every sequence of calls.

## Main definitions

* `SymlinkCall`: a call of the link interface
* `LinkMap.apply`, `LinkMap.run`: the first-write-wins map and the codes it returns
* `FileSystem.runSymlinkCalls`: the same calls on a `FileSystem`

## Main results

* `FileSystem.runSymlinkCalls_refines`: the table's lookups and the calls' result codes are
  those of `LinkMap.run`, for every sequence of calls
-/

namespace Xenia.Kernel.Fs

/-- A call of the symbolic-link interface of `FileSystem`. -/
inductive SymlinkCall
  | create (path target : List Char)
  | delete (path : List Char)
  deriving DecidableEq, Repr

/-- The abstract link table: the target of each name. -/
def LinkMap := List Char → Option (List Char)

namespace LinkMap

/-- One call on the abstract table, with its result code: a create maps a name that is not
mapped yet and keeps an existing entry, returning 0 either way; a delete unmaps a mapped
name and returns 1 on an unmapped one. -/
def apply (links : LinkMap) : SymlinkCall → LinkMap × Int
  | .create path target =>
    (if links path = none then Function.update links path (some target) else links, 0)
  | .delete path => if (links path).isSome then (Function.update links path none, 0) else (links, 1)

/-- A sequence of calls on the abstract table, with their result codes. -/
def run (links : LinkMap) : List SymlinkCall → LinkMap × List Int
  | [] => (links, [])
  | c :: cs => ((apply links c).1.run cs |>.1, (apply links c).2 :: ((apply links c).1.run cs).2)

/-- A call leaves every other name's entry as it was. -/
theorem apply_other (links : LinkMap) (c : SymlinkCall) {n : List Char}
    (hn : n ≠ match c with | .create path _ => path | .delete path => path) :
    (links.apply c).1 n = links n := by
  cases c with
  | create path target =>
    simp only [apply]
    split <;> simp [Function.update_noteq hn]
  | delete path =>
    simp only [apply]
    split <;> simp [Function.update_noteq hn]

/-- A call that fails leaves the table as it was. -/
theorem apply_of_ne_zero (links : LinkMap) (c : SymlinkCall) (h : (links.apply c).2 ≠ 0) :
    (links.apply c).1 = links := by
  cases c with
  | create => simp [apply] at h
  | delete path =>
    simp only [apply] at h ⊢
    split <;> simp_all

end LinkMap

namespace FileSystem

/-- One call on a `FileSystem`. -/
def symlinkCall (fs : FileSystem) : SymlinkCall → FileSystem × Int
  | .create path target => fs.createSymbolicLink path target
  | .delete path => fs.deleteSymbolicLink path

/-- A sequence of calls on a `FileSystem`, with their result codes. -/
def runSymlinkCalls (fs : FileSystem) : List SymlinkCall → FileSystem × List Int
  | [] => (fs, [])
  | c :: cs =>
    ((fs.symlinkCall c).1.runSymlinkCalls cs |>.1,
      (fs.symlinkCall c).2 :: ((fs.symlinkCall c).1.runSymlinkCalls cs).2)

/-- **One call refines the abstract table.** -/
theorem symlinkCall_refines (fs : FileSystem) (c : SymlinkCall) :
    ((fs.symlinkCall c).1.symlinks.find, (fs.symlinkCall c).2) =
      LinkMap.apply fs.symlinks.find c := by
  cases c with
  | create path target =>
    simp only [symlinkCall, createSymbolicLink, LinkMap.apply, Prod.mk.injEq, and_true]
    funext n
    split <;> simp_all [Function.update_apply]
  | delete path =>
    simp only [symlinkCall, deleteSymbolicLink, LinkMap.apply]
    split
    · exact Prod.ext (funext fun n => by simp [Function.update_apply]) rfl
    · rfl

/-- **The table is the first-write-wins map.** For every sequence of `CreateSymbolicLink`
and `DeleteSymbolicLink` calls from any `FileSystem`, the table's lookups afterwards and
the codes the calls return are those of `LinkMap.run` from the table's lookups before. -/
theorem runSymlinkCalls_refines (fs : FileSystem) (calls : List SymlinkCall) :
    ((fs.runSymlinkCalls calls).1.symlinks.find, (fs.runSymlinkCalls calls).2) =
      LinkMap.run fs.symlinks.find calls := by
  induction calls generalizing fs with
  | nil => rfl
  | cons c cs ih =>
    have hstep := symlinkCall_refines fs c
    simp only [runSymlinkCalls, LinkMap.run, ← hstep, ← ih]

/-- Creating `game:` twice, as a second `InitializeFromPath` does, succeeds both times
and keeps the first target. -/
theorem createSymbolicLink_keeps_first_target :
    let fs := (empty.createSymbolicLink gameDrive cdrom0).1
    (fs.createSymbolicLink gameDrive harddisk1Partition0).2 = 0 ∧
      (fs.createSymbolicLink gameDrive harddisk1Partition0).1.symlinks.find gameDrive =
        some cdrom0 := by
  decide

end FileSystem

end Xenia.Kernel.Fs
