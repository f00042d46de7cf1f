import Mathlib.Data.List.Nodup
import Xenia.Poly.String

/-!
# The guest virtual filesystem

`FileSystem` keeps the devices mounted so far, in registration order, and a table of
symbolic links from drive names such as `game:` to device paths.  A guest path is
canonicalized, taken under `game:` when it starts with a separator, expanded through the
first link whose name begins it, and handed to the first device whose mount path begins
the result; both tests are `find_first_of_case(..) == 0`, a case-insensitive prefix test.

## Main definitions

* `Device`, `SymlinkTable`, `FileSystem`: the state; a `SymlinkTable` holds each link name
  at most once, as the `symlinks_` map does
* `registerDevice`, `createSymbolicLink`, `deleteSymbolicLink`: the state's updates
* `resolvePath`: the device a guest path reaches and the path it is handed
* `inferType`, `initializeFromPath`: how a host path is mounted
-/

namespace Xenia.Kernel.Fs

open Xenia.Poly

/-- `fs::FileSystemType`. -/
inductive FileSystemType
  | stfsTitle
  | xexFile
  | discImage
  deriving DecidableEq, Repr

/-- The device classes `FileSystem` mounts, with the host path each is built over. -/
inductive DeviceKind
  | hostPath (localPath : List Char) (readOnly : Bool)
  | discImage (localPath : List Char)
  | stfsContainer (localPath : List Char)
  deriving DecidableEq, Repr

/-- A mounted device: its mount path `device->path()` and its class. -/
structure Device where
  path : List Char
  kind : DeviceKind
  deriving DecidableEq, Repr

/-! ## The symbolic-link table -/

/-- `symlinks_`: link names and their targets, each name at most once, in iteration order. -/
structure SymlinkTable where
  entries : List (List Char × List Char)
  nodup_names : (entries.map Prod.fst).Nodup

namespace SymlinkTable

/-- The table of a fresh `FileSystem`. -/
def empty : SymlinkTable := ⟨[], List.nodup_nil⟩

/-- The target `name` maps to. -/
def find (t : SymlinkTable) (name : List Char) : Option (List Char) :=
  (t.entries.find? fun e => e.1 == name).map Prod.snd

/-- `symlinks_.insert({name, target})`: the entry is added only when `name` is absent. -/
def insert (t : SymlinkTable) (name target : List Char) : SymlinkTable :=
  if h : name ∈ t.entries.map Prod.fst then t
  else ⟨t.entries ++ [(name, target)], by
    simpa [List.map_append] using t.nodup_names.concat h⟩

/-- `symlinks_.erase(it)` at the entry of `name`. -/
def erase (t : SymlinkTable) (name : List Char) : SymlinkTable :=
  ⟨t.entries.filter fun e => e.1 != name,
    t.nodup_names.sublist ((List.filter_sublist _).map Prod.fst)⟩

/-- Two entries of one name are the same entry. -/
theorem eq_of_mem_of_mem (t : SymlinkTable) {e e' : List Char × List Char} (he : e ∈ t.entries)
    (he' : e' ∈ t.entries) (h : e.1 = e'.1) : e = e' :=
  List.inj_on_of_nodup_map t.nodup_names he he' h

/-- **Lookup is membership.** The table answers `v` for `n` exactly when it holds `(n, v)`. -/
theorem find_eq_some_iff (t : SymlinkTable) (n v : List Char) :
    t.find n = some v ↔ (n, v) ∈ t.entries := by
  constructor
  · intro h
    obtain ⟨e, he, rfl⟩ := Option.map_eq_some'.mp h
    have hn : e.1 = n := by simpa using List.find?_some he
    exact hn ▸ List.mem_of_find?_eq_some he
  · intro h
    obtain ⟨e, he⟩ := Option.isSome_iff_exists.mp
      (List.find?_isSome (p := fun e => e.1 == n) |>.mpr ⟨(n, v), h, by simp⟩)
    have hn : e.1 = n := by simpa using List.find?_some he
    simp [find, he, t.eq_of_mem_of_mem (List.mem_of_find?_eq_some he) h hn]

theorem find_eq_none_iff (t : SymlinkTable) (n : List Char) :
    t.find n = none ↔ n ∉ t.entries.map Prod.fst := by
  simp only [Option.eq_none_iff_forall_not_mem, Option.mem_def, find_eq_some_iff, List.mem_map,
    Prod.exists, exists_and_right, exists_eq_right, not_exists]

@[simp] theorem find_empty (name : List Char) : empty.find name = none := rfl

@[simp] theorem find_insert (t : SymlinkTable) (name target n : List Char) :
    (t.insert name target).find n =
      if n = name ∧ t.find name = none then some target else t.find n := by
  unfold insert
  split
  · rename_i h
    rw [if_neg (by simp [find_eq_none_iff, h])]
  · rename_i h
    have hnone : t.find name = none := (find_eq_none_iff t name).mpr h
    by_cases hn : n = name
    · subst hn
      simp only [find, Option.map_eq_none'] at hnone
      simp [find, List.find?_append, hnone]
    · simp [find, List.find?_append, hn, Ne.symm hn]

@[simp] theorem find_erase (t : SymlinkTable) (name n : List Char) :
    (t.erase name).find n = if n = name then none else t.find n := by
  refine Option.ext fun v => ?_
  simp only [Option.mem_def, find_eq_some_iff, erase, List.mem_filter, bne_iff_ne, ne_eq]
  split <;> simp_all [find_eq_some_iff]

end SymlinkTable

/-- `FileSystem`: `devices_` in registration order and `symlinks_`. -/
structure FileSystem where
  devices : List Device
  symlinks : SymlinkTable

namespace FileSystem

/-- `FileSystem::FileSystem()`. -/
def empty : FileSystem := ⟨[], .empty⟩

/-! ## Registration and links -/

/-- `FileSystem::RegisterDevice`: the device is appended; the `path` argument is not read,
the device's own mount path is what `ResolvePath` matches. -/
def registerDevice (fs : FileSystem) (_path : List Char) (device : Device) : FileSystem × Int :=
  ({ fs with devices := fs.devices ++ [device] }, 0)

/-- `FileSystem::RegisterHostPathDevice`. -/
def registerHostPathDevice (fs : FileSystem) (path localPath : List Char) (readOnly : Bool) :
    FileSystem × Int :=
  registerDevice fs path ⟨path, .hostPath localPath readOnly⟩

/-- `FileSystem::RegisterDiscImageDevice`; `deviceInit` tells whether `device->Init()`
succeeds on the image. -/
def registerDiscImageDevice (deviceInit : Bool) (fs : FileSystem) (path localPath : List Char) :
    FileSystem × Int :=
  if deviceInit then registerDevice fs path ⟨path, .discImage localPath⟩ else (fs, 1)

/-- `FileSystem::RegisterSTFSContainerDevice`; `deviceInit` as for disc images. -/
def registerSTFSContainerDevice (deviceInit : Bool) (fs : FileSystem)
    (path localPath : List Char) : FileSystem × Int :=
  if deviceInit then registerDevice fs path ⟨path, .stfsContainer localPath⟩ else (fs, 1)

/-- `FileSystem::CreateSymbolicLink`: inserts into `symlinks_` and reports success. -/
def createSymbolicLink (fs : FileSystem) (path target : List Char) : FileSystem × Int :=
  ({ fs with symlinks := fs.symlinks.insert path target }, 0)

/-- `FileSystem::DeleteSymbolicLink`: `1` when the name is not a link. -/
def deleteSymbolicLink (fs : FileSystem) (path : List Char) : FileSystem × Int :=
  if (fs.symlinks.find path).isSome then ({ fs with symlinks := fs.symlinks.erase path }, 0)
  else (fs, 1)

/-! ## Path resolution -/

/-- `ResolvePath`'s module-relative rule: a path that starts with `\` is taken under
`game:`; `normalized_path[0]` of an empty path is the terminating `'\0'`. -/
def gameRelative (path : List Char) : List Char :=
  if path.head? = some '\\' then "game:".toList ++ path else path

/-- `find_first_of_case(path, root) == 0`, the test both loops of `ResolvePath` make. -/
def startsWithCase (path root : List Char) : Bool :=
  findFirstOfCase path root == some 0

theorem startsWithCase_iff (path root : List Char) :
    startsWithCase path root = true ↔ path ≠ [] ∧ prefixCase root path = true := by
  simp [startsWithCase, findFirstOfCase_eq_zero]

/-- The symbolic-link loop of `ResolvePath`: the first link whose name begins the path, up
to case, has that name replaced by its target. -/
def expandSymlinks (links : List (List Char × List Char)) (normalizedPath : List Char) :
    List Char :=
  match links.find? fun link => startsWithCase normalizedPath link.1 with
  | some link => link.2 ++ normalizedPath.drop link.1.length
  | none => normalizedPath

/-- `full_path` of `ResolvePath`: the canonical path, taken under `game:` when it starts
with `\`, after the symbolic-link loop. -/
def fullPath (fs : FileSystem) (path : List Char) : List Char :=
  expandSymlinks fs.symlinks.entries (gameRelative (canonicalizePath path))

/-- `FileSystem::ResolvePath`: the first device whose mount path begins the full path, and
the rest of the full path, which is handed to its `Device::ResolvePath`; `none` when no
device root matches. -/
def resolvePath (fs : FileSystem) (path : List Char) : Option (Device × List Char) :=
  (fs.devices.find? fun device => startsWithCase (fs.fullPath path) device.path).map
    fun device => (device, (fs.fullPath path).drop device.path.length)

end FileSystem

/-! ## Mounting a host path -/

section Host

/-! `poly::path_separator` is the host's separator; it is not in src/ and differs between
hosts, so it is a parameter of this section. -/

variable (pathSeparator : Char)

/-- `last_dot < last_slash` on `size_t` positions, where `npos` exceeds every position. -/
def posLt : Option Nat → Option Nat → Bool
  | some a, some b => a < b
  | some _, none => true
  | none, _ => false

/-- `FileSystem::InferType`. -/
def inferType (localPath : List Char) : FileSystemType :=
  let lastSlash := findLastOf localPath pathSeparator
  let lastDot := findLastOf localPath '.'
  match (if posLt lastDot lastSlash then none else lastDot) with
  | none => .stfsTitle
  | some d => if localPath.drop d = ".xex".toList then .xexFile else .discImage

/-- `local_path.substr(0, last_slash)`: a count of `npos` keeps the whole string, so a path
with no separator is its own "parent path", not the parent the comment before the call names. -/
def parentPath (localPath : List Char) : List Char :=
  match findLastOf localPath pathSeparator with
  | some n => localPath.take n
  | none => localPath

/-- The mount paths and link names `InitializeFromPath` uses. -/
def cdrom0 : List Char := "\\Device\\Cdrom0".toList
def harddisk1Partition0 : List Char := "\\Device\\Harddisk1\\Partition0".toList
def gameDrive : List Char := "game:".toList
def dDrive : List Char := "d:".toList

/-- The two links `InitializeFromPath` creates once its device is registered. -/
def FileSystem.linkDrives (fs : FileSystem) (target : List Char) : FileSystem :=
  ((fs.createSymbolicLink gameDrive target).1.createSymbolicLink dDrive target).1

/-- `FileSystem::InitializeFromPath`; `deviceInit` answers `Device::Init()` of a disc image
or STFS container.  A failed registration is returned as it is, with no link created. -/
def FileSystem.initializeFromPath (deviceInit : Bool) (fs : FileSystem) (type : FileSystemType)
    (localPath : List Char) : FileSystem × Int :=
  let mount (r : FileSystem × Int) (target : List Char) : FileSystem × Int :=
    if r.2 ≠ 0 then r else (r.1.linkDrives target, 0)
  match type with
  | .stfsTitle => mount (fs.registerSTFSContainerDevice deviceInit cdrom0 localPath) cdrom0
  | .xexFile =>
    mount (fs.registerHostPathDevice harddisk1Partition0 (parentPath pathSeparator localPath)
      true) harddisk1Partition0
  | .discImage => mount (fs.registerDiscImageDevice deviceInit cdrom0 localPath) cdrom0

end Host

end Xenia.Kernel.Fs
