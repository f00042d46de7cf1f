import Xenia.Kernel.Fs.Resolve

/-!
# Mounting a host path

`InferType` classifies a host path by the extension of its last component, and
`InitializeFromPath` mounts a naked `.xex` by registering the directory that holds it.
Both find the last separator with `find_last_of`, which answers `npos` for a path with no
separator; `npos` compares above every position, so such a path is always classified as
an STFS container, and `substr(0, npos)` mounts the whole path as the directory.

## Main definitions

* `lastComponentType c`: the type the last component `c` names by its extension

## Main results

* `inferType_of_separator`, `inferType_of_not_mem`: `InferType` on paths with and without
  a separator
* `initializeFromPath_xexFile`, `initializeFromPath_xex_mounts_file`,
  `initializeFromPath_xex_mounts_parent`: the device a naked `.xex` is mounted on
* `initializeFromPath_resolves_drives`: after a successful mount, `game:` and `d:` reach
  the mounted device
* `initializeFromPath_keeps_resolutions`: mounting again changes the resolution of no path
-/

namespace Xenia.Kernel.Fs

open Xenia.Poly

section Host

variable (pathSeparator : Char)

/-- The type a last path component names, as each branch of `InferType` comments: no
extension, an STFS container; the extension `.xex`, a naked executable; any other
extension, a disc image. -/
def lastComponentType (c : List Char) : FileSystemType :=
  match findLastOf c '.' with
  | none => .stfsTitle
  | some i => if c.drop i = ".xex".toList then .xexFile else .discImage

/-- **`InferType` with a separator.** A path whose last component `c` follows a separator
is classified by the extension of `c`. -/
theorem inferType_of_separator (hsep : pathSeparator ≠ '.') (u c : List Char)
    (hc : pathSeparator ∉ c) :
    inferType pathSeparator (u ++ pathSeparator :: c) = lastComponentType c := by
  have hslash : findLastOf (u ++ pathSeparator :: c) pathSeparator = some u.length :=
    findLastOf_append_cons hc
  have hdot := findLastOf_append u (pathSeparator :: c) '.'
  simp only [findLastOf, hsep, if_false] at hdot
  unfold inferType lastComponentType
  rw [hslash]
  cases hc' : findLastOf c '.' with
  | some i =>
    have hsplit : u ++ pathSeparator :: c = (u ++ [pathSeparator]) ++ c := by simp
    have hlen : u.length + (i + 1) = (u ++ [pathSeparator]).length + i := by simp; omega
    simp only [hc', hdot, posLt]
    rw [if_neg (by simp)]
    simp only [hsplit, hlen, List.drop_append]
  | none =>
    simp only [hc', hdot]
    cases hu : findLastOf u '.' with
    | none => rfl
    | some j => simp [posLt, findLastOf_lt hu]

/-- `dir\game.iso` is classified by its extension `.iso`. -/
theorem inferType_dir_game_iso :
    '\\' ≠ '.' ∧ '\\' ∉ "game.iso".toList ∧
      inferType '\\' ("dir".toList ++ '\\' :: "game.iso".toList) =
        lastComponentType "game.iso".toList :=
  ⟨by decide, by decide, inferType_of_separator '\\' (by decide) _ _ (by decide)⟩

/-- **`InferType` without a separator.** A path with no separator is classified as an STFS
container, whatever its extension. -/
theorem inferType_of_not_mem {localPath : List Char} (h : pathSeparator ∉ localPath) :
    inferType pathSeparator localPath = .stfsTitle := by
  unfold inferType
  rw [findLastOf_eq_none.mpr h]
  cases findLastOf localPath '.' <;> rfl

/-- The bare name `game.iso` is classified as an STFS container, not a disc image. -/
theorem inferType_game_iso :
    '\\' ∉ "game.iso".toList ∧ inferType '\\' "game.iso".toList = .stfsTitle :=
  ⟨by decide, inferType_of_not_mem '\\' (by decide)⟩

theorem parentPath_append {u c : List Char} (hc : pathSeparator ∉ c) :
    parentPath pathSeparator (u ++ pathSeparator :: c) = u := by
  simp [parentPath, findLastOf_append_cons hc]

theorem parentPath_of_not_mem {localPath : List Char} (h : pathSeparator ∉ localPath) :
    parentPath pathSeparator localPath = localPath := by
  simp [parentPath, findLastOf_eq_none.mpr h]

/-- A naked `.xex` is mounted, always successfully, on a host-path device rooted at
`parentPath`, with `game:` and `d:` linked to it. -/
theorem initializeFromPath_xexFile (deviceInit : Bool) (fs : FileSystem) (localPath : List Char) :
    fs.initializeFromPath pathSeparator deviceInit .xexFile localPath =
      (({ fs with devices := fs.devices ++
          [⟨harddisk1Partition0, .hostPath (parentPath pathSeparator localPath) true⟩] } :
          FileSystem).linkDrives harddisk1Partition0, 0) :=
  rfl

/-- **The file mounted as its directory.** For a path with no separator, the device
`InitializeFromPath` mounts for a naked `.xex` is rooted at the path itself. -/
theorem initializeFromPath_xex_mounts_file (deviceInit : Bool) {localPath : List Char}
    (h : pathSeparator ∉ localPath) :
    (FileSystem.empty.initializeFromPath pathSeparator deviceInit .xexFile localPath).1.devices =
      [⟨harddisk1Partition0, .hostPath localPath true⟩] := by
  rw [initializeFromPath_xexFile, parentPath_of_not_mem _ h]
  rfl

/-- `default.xex`, given with no directory, is mounted as the game directory. -/
theorem initializeFromPath_default_xex :
    '\\' ∉ "default.xex".toList ∧
      (FileSystem.empty.initializeFromPath '\\' true .xexFile "default.xex".toList).1.devices =
        [⟨harddisk1Partition0, .hostPath "default.xex".toList true⟩] :=
  ⟨by decide, initializeFromPath_xex_mounts_file '\\' true (by decide)⟩

/-- **The directory of a naked `.xex`.** For a path with a separator, the device
`InitializeFromPath` mounts for a naked `.xex` is rooted at the directory before the last
separator. -/
theorem initializeFromPath_xex_mounts_parent (deviceInit : Bool) {u c : List Char}
    (hc : pathSeparator ∉ c) :
    (FileSystem.empty.initializeFromPath pathSeparator deviceInit .xexFile
        (u ++ pathSeparator :: c)).1.devices =
      [⟨harddisk1Partition0, .hostPath u true⟩] := by
  rw [initializeFromPath_xexFile, parentPath_append _ hc]
  rfl

/-- `game\default.xex` is mounted at its directory `game`. -/
theorem initializeFromPath_game_default_xex :
    '\\' ∉ "default.xex".toList ∧
      (FileSystem.empty.initializeFromPath '\\' true .xexFile
          ("game".toList ++ '\\' :: "default.xex".toList)).1.devices =
        [⟨harddisk1Partition0, .hostPath "game".toList true⟩] :=
  ⟨by decide, initializeFromPath_xex_mounts_parent '\\' true (by decide)⟩

/-! ## Resolving through the drives -/

/-- A successful `InitializeFromPath` on a fresh file system leaves one device, with a
nonempty mount path, and the links `game:` and `d:` to it. -/
theorem initializeFromPath_empty_layout (deviceInit : Bool) (type : FileSystemType)
    (localPath : List Char)
    (hok : (FileSystem.empty.initializeFromPath pathSeparator deviceInit type localPath).2 = 0) :
    let fs := (FileSystem.empty.initializeFromPath pathSeparator deviceInit type localPath).1
    ∃ d : Device, d.path ≠ [] ∧ fs.devices = [d] ∧
      fs.symlinks.entries = [(gameDrive, d.path), (dDrive, d.path)] := by
  intro fs
  cases type <;> cases deviceInit
  all_goals first
    | (cases hok; done)
    | (refine ⟨_, fun h => ?_, rfl, rfl⟩; cases h)

/-- With one device and the two drive links to it, a drive followed by a path that
canonicalization keeps reaches the device, which is handed that path. -/
theorem resolvePath_of_drives {fs : FileSystem} {d : Device} (hdev : fs.devices = [d])
    (hlinks : fs.symlinks.entries = [(gameDrive, d.path), (dDrive, d.path)]) (hroot : d.path ≠ [])
    {drive r : List Char} (hdrive : drive = gameDrive ∨ drive = dDrive)
    (hcanon : canonicalizePath (drive ++ r) = drive ++ r) :
    fs.resolvePath (drive ++ r) = some (d, r) := by
  obtain ⟨hrel, hmem, hne⟩ : FileSystem.gameRelative (drive ++ r) = drive ++ r ∧
      (drive, d.path) ∈ fs.symlinks.entries ∧ drive ++ r ≠ [] := by
    rcases hdrive with rfl | rfl <;> exact ⟨rfl, by simp [hlinks], by simp [gameDrive, dDrive]⟩
  have hfree : PrefixFree (fs.symlinks.entries.map Prod.fst) := by
    simp only [hlinks, List.map_cons, List.map_nil]
    decide
  have hfull : fs.fullPath (drive ++ r) = d.path ++ r := by
    rw [FileSystem.fullPath, hcanon, hrel]
    exact FileSystem.expandSymlinks_of_mem hfree hmem hne
  have hdevice : FileSystem.startsWithCase (d.path ++ r) d.path = true :=
    (FileSystem.startsWithCase_iff _ _).mpr ⟨by simp [hroot], prefixCase_append _ _⟩
  simp [FileSystem.resolvePath, hfull, hdev, hdevice]

/-- **Mounted and linked.** After a successful `InitializeFromPath` on a fresh file system,
whatever the host path and its type, `game:` and `d:` followed by any path that
canonicalization keeps reach the one mounted device, which is handed that path. -/
theorem initializeFromPath_resolves_drives (deviceInit : Bool) (type : FileSystemType)
    (localPath : List Char)
    (hok : (FileSystem.empty.initializeFromPath pathSeparator deviceInit type localPath).2 = 0)
    {drive r : List Char} (hdrive : drive = gameDrive ∨ drive = dDrive)
    (hcanon : canonicalizePath (drive ++ r) = drive ++ r) :
    ∃ d, (FileSystem.empty.initializeFromPath pathSeparator deviceInit type localPath).1.devices =
        [d] ∧
      (FileSystem.empty.initializeFromPath pathSeparator deviceInit type localPath).1.resolvePath
        (drive ++ r) = some (d, r) := by
  obtain ⟨d, hroot, hdev, hlinks⟩ :=
    initializeFromPath_empty_layout pathSeparator deviceInit type localPath hok
  exact ⟨d, hdev, resolvePath_of_drives hdev hlinks hroot hdrive hcanon⟩

/-- A disc image mounted from `game.iso`: `game:\default.xex` reaches it. -/
theorem initializeFromPath_game_iso_resolves :
    (FileSystem.empty.initializeFromPath '\\' true .discImage "game.iso".toList).2 = 0 ∧
      canonicalizePath (gameDrive ++ "\\default.xex".toList) =
        gameDrive ++ "\\default.xex".toList ∧
      ∃ d, (FileSystem.empty.initializeFromPath '\\' true .discImage "game.iso".toList).1.devices =
          [d] ∧
        (FileSystem.empty.initializeFromPath '\\' true .discImage "game.iso".toList).1.resolvePath
          (gameDrive ++ "\\default.xex".toList) = some (d, "\\default.xex".toList) :=
  ⟨by decide, by decide, initializeFromPath_resolves_drives '\\' true .discImage _ (by decide)
    (.inl rfl) (by decide)⟩

/-! ## Mounting again -/

/-- A link to a name already linked is not created: `symlinks_.insert` keeps the old entry. -/
theorem FileSystem.createSymbolicLink_of_isSome {fs : FileSystem} {name : List Char}
    (h : (fs.symlinks.find name).isSome) (target : List Char) :
    (fs.createSymbolicLink name target).1 = fs := by
  have hmem : name ∈ fs.symlinks.entries.map Prod.fst := by
    by_contra hn
    rw [← SymlinkTable.find_eq_none_iff] at hn
    simp [hn] at h
  simp [FileSystem.createSymbolicLink, SymlinkTable.insert, hmem]

/-- Devices registered later are scanned after the earlier ones: a path that resolved still
resolves to the same device and remainder. -/
theorem FileSystem.resolvePath_append_devices {fs : FileSystem} {p : List Char}
    {r : Device × List Char} (h : fs.resolvePath p = some r) (ds : List Device) :
    ({ fs with devices := fs.devices ++ ds } : FileSystem).resolvePath p = some r := by
  have hfull : ({ fs with devices := fs.devices ++ ds } : FileSystem).fullPath p = fs.fullPath p :=
    rfl
  unfold resolvePath at h ⊢
  obtain ⟨dev, hfind, rfl⟩ := Option.map_eq_some'.mp h
  simp only [hfull, List.find?_append, hfind, Option.or_some, Option.map_some']

/-- With `game:` and `d:` already links, `InitializeFromPath` only appends a device, or
changes nothing when the device fails to initialize. -/
theorem initializeFromPath_extends (deviceInit : Bool) (type : FileSystemType)
    (localPath : List Char) {fs : FileSystem} (hgame : (fs.symlinks.find gameDrive).isSome)
    (hd : (fs.symlinks.find dDrive).isSome) :
    ∃ ds, (fs.initializeFromPath pathSeparator deviceInit type localPath).1 =
      { fs with devices := fs.devices ++ ds } := by
  have hlink (ds : List Device) (target : List Char) :
      ({ fs with devices := fs.devices ++ ds } : FileSystem).linkDrives target =
        { fs with devices := fs.devices ++ ds } := by
    unfold FileSystem.linkDrives
    rw [@FileSystem.createSymbolicLink_of_isSome { fs with devices := fs.devices ++ ds } _ hgame,
      @FileSystem.createSymbolicLink_of_isSome { fs with devices := fs.devices ++ ds } _ hd]
  cases type <;> cases deviceInit <;>
    simp only [FileSystem.initializeFromPath, FileSystem.registerSTFSContainerDevice,
      FileSystem.registerDiscImageDevice, FileSystem.registerHostPathDevice,
      FileSystem.registerDevice, hlink, Bool.false_eq_true, if_false, if_true, ne_eq,
      not_true_eq_false]
  all_goals first
    | exact ⟨_, rfl⟩
    | exact ⟨[], by simp⟩

/-- **Mounting again changes no resolution.** On a file system where `game:` and `d:` are
links, as after any successful `InitializeFromPath`, any sequence of further
`InitializeFromPath` calls, of any type and host path, whether their devices initialize or
not, leaves the links as they are and only appends devices, which the scan of `ResolvePath`
reaches after every earlier one: every guest path that resolved keeps its device and
remainder, so `game:` and `d:` stay on the first title mounted. -/
theorem initializeFromPath_keeps_resolutions (fs : FileSystem)
    (hgame : (fs.symlinks.find gameDrive).isSome) (hd : (fs.symlinks.find dDrive).isSome)
    (calls : List (Bool × FileSystemType × List Char)) :
    let fs' := calls.foldl (fun fs c => (fs.initializeFromPath pathSeparator c.1 c.2.1 c.2.2).1) fs
    fs'.symlinks = fs.symlinks ∧ (∃ ds, fs'.devices = fs.devices ++ ds) ∧
      ∀ p r, fs.resolvePath p = some r → fs'.resolvePath p = some r := by
  induction calls generalizing fs with
  | nil => exact ⟨rfl, ⟨[], (List.append_nil _).symm⟩, fun _ _ h => h⟩
  | cons c calls ih =>
    obtain ⟨ds, hds⟩ := initializeFromPath_extends pathSeparator c.1 c.2.1 c.2.2 hgame hd
    obtain ⟨hs, ⟨ds', hds'⟩, hres⟩ := ih { fs with devices := fs.devices ++ ds } hgame hd
    simp only [List.foldl_cons, hds]
    exact ⟨hs, ⟨ds ++ ds', by rw [hds', List.append_assoc]⟩,
      fun p r h => hres p r (FileSystem.resolvePath_append_devices h ds)⟩

/-- A disc image mounted from `game.iso`, then a naked `.xex` mounted after it. -/
theorem initializeFromPath_keeps_resolutions_iso_then_xex :
    let fs := (FileSystem.empty.initializeFromPath '\\' true .discImage "game.iso".toList).1
    let calls : List (Bool × FileSystemType × List Char) :=
      [(true, .xexFile, "dev\\default.xex".toList)]
    let fs' := calls.foldl (fun fs c => (fs.initializeFromPath '\\' c.1 c.2.1 c.2.2).1) fs
    (fs.symlinks.find gameDrive).isSome ∧ (fs.symlinks.find dDrive).isSome ∧
      fs'.symlinks = fs.symlinks ∧ (∃ ds, fs'.devices = fs.devices ++ ds) ∧
      ∀ p r, fs.resolvePath p = some r → fs'.resolvePath p = some r :=
  ⟨by decide, by decide, initializeFromPath_keeps_resolutions '\\' _ (by decide) (by decide) _⟩

end Host

end Xenia.Kernel.Fs
