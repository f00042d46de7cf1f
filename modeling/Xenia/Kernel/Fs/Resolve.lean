import Mathlib.Data.List.Pairwise
import Mathlib.Data.List.Perm.Basic
import Xenia.Kernel.Fs.FileSystem

/-!
# Path resolution

Both loops of `ResolvePath` take the *first* entry whose name begins the path, up to
case.  When no two names are prefix-comparable, at most one entry can match any path, so
the first match is the only match and the order of registration and of the symbolic-link
table does not matter.  The device loop tests a plain string prefix, not a prefix of
whole path components, and every path that starts with `\` is first taken under `game:`.

## Main definitions

* `AtMostOne p l`: no two entries of `l` both satisfy `p`
* `PrefixFree paths`: no path is a case-insensitive prefix of another

## Main results

* `resolvePath_perm_eq`: resolution ignores the order of devices and of links
* `createSymbolicLink_expands`: a path that begins with a new link's name is rewritten to
  its target
* `resolvePath_own_path`: a device whose mount path does not start with `\` is reached
  by its own path, with the rest of the path handed to it
* `resolvePath_split`: the path handed to a device is what follows its mount path in the
  expanded path, whatever character comes next
-/

namespace Xenia.Kernel.Fs

open Xenia.Poly

/-! ## First matches that are only matches -/

section FirstMatch

variable {α : Type} {p : α → Bool} {l l₁ l₂ : List α}

/-- No two entries of `l`, at different positions, both satisfy `p`. -/
def AtMostOne (p : α → Bool) (l : List α) : Prop :=
  l.Pairwise fun a b => ¬(p a = true ∧ p b = true)

theorem AtMostOne.eq_of_mem (h : AtMostOne p l) {a b : α} (ha : a ∈ l) (hb : b ∈ l)
    (pa : p a = true) (pb : p b = true) : a = b := by
  by_contra hne
  exact List.Pairwise.forall (R := fun a b => ¬(p a = true ∧ p b = true))
    (fun _ _ hxy hyx => hxy ⟨hyx.2, hyx.1⟩) h ha hb hne ⟨pa, pb⟩

/-- The first match is any match. -/
theorem AtMostOne.find?_eq (h : AtMostOne p l) {a : α} (ha : a ∈ l) (pa : p a = true) :
    l.find? p = some a := by
  obtain ⟨b, hb⟩ := Option.isSome_iff_exists.mp (List.find?_isSome.mpr ⟨a, ha, pa⟩)
  rw [hb, h.eq_of_mem (List.mem_of_find?_eq_some hb) ha (List.find?_some hb) pa]

/-- **Order does not matter** for a first match that is the only match. -/
theorem AtMostOne.find?_perm (h : AtMostOne p l₁) (hp : l₁.Perm l₂) :
    l₁.find? p = l₂.find? p := by
  cases h₂ : l₂.find? p with
  | none =>
    rw [List.find?_eq_none] at h₂ ⊢
    exact fun x hx => h₂ x (hp.mem_iff.mp hx)
  | some b => exact h.find?_eq (hp.mem_iff.mpr (List.mem_of_find?_eq_some h₂)) (List.find?_some h₂)

end FirstMatch

/-- Pairwise, neither of two paths begins the other up to case. -/
def PrefixFree (paths : List (List Char)) : Prop :=
  paths.Pairwise fun a b => prefixCase a b = false ∧ prefixCase b a = false

instance : DecidablePred PrefixFree := fun paths =>
  inferInstanceAs (Decidable (paths.Pairwise _))

/-- Among prefix-free roots, at most one begins a given path. -/
theorem PrefixFree.atMostOne {β : Type} {f : β → List Char} {l : List β}
    (h : PrefixFree (l.map f)) (path : List Char) :
    AtMostOne (fun x => FileSystem.startsWithCase path (f x)) l := by
  refine (List.pairwise_map.mp h).imp fun {a b} hab hmatch => ?_
  simp only [FileSystem.startsWithCase_iff] at hmatch
  rcases prefixCase_total_of_common hmatch.1.2 hmatch.2.2 with hc | hc <;> simp_all

namespace FileSystem

/-! ## Order independence -/

/-- **Resolution ignores registration order.** Two file systems with the same devices and
the same links, each listed in any order, resolve every path alike, provided device roots
and link names are each prefix-free. -/
theorem resolvePath_perm_eq {fs₁ fs₂ : FileSystem} (hdev : fs₁.devices.Perm fs₂.devices)
    (hlinks : fs₁.symlinks.entries.Perm fs₂.symlinks.entries)
    (hdevFree : PrefixFree (fs₁.devices.map Device.path))
    (hlinkFree : PrefixFree (fs₁.symlinks.entries.map Prod.fst)) (path : List Char) :
    fs₁.resolvePath path = fs₂.resolvePath path := by
  have hfull : fs₁.fullPath path = fs₂.fullPath path := by
    simp only [fullPath, expandSymlinks, (hlinkFree.atMostOne _).find?_perm hlinks]
  simp only [resolvePath, hfull, (hdevFree.atMostOne _).find?_perm hdev]

/-- A disc image and a host directory with their drive links, registered in either order,
resolve `d:\x` alike. -/
theorem resolvePath_perm_eq_drives :
    let cdrom : Device := ⟨cdrom0, .discImage "game.iso".toList⟩
    let hdd : Device := ⟨harddisk1Partition0, .hostPath "dir".toList true⟩
    (⟨[cdrom, hdd], ⟨[(gameDrive, cdrom0), (dDrive, harddisk1Partition0)], by decide⟩⟩ :
        FileSystem).resolvePath "d:\\x".toList =
      (⟨[hdd, cdrom], ⟨[(dDrive, harddisk1Partition0), (gameDrive, cdrom0)], by decide⟩⟩ :
        FileSystem).resolvePath "d:\\x".toList :=
  resolvePath_perm_eq (by decide) (by decide) (by decide) (by decide) _

/-! ## Expanding a link -/

/-- With prefix-free link names, a path that begins with a link's name is expanded to the
link's target followed by the rest of the path. -/
theorem expandSymlinks_of_mem {links : List (List Char × List Char)}
    (hfree : PrefixFree (links.map Prod.fst)) {s t r : List Char} (hst : (s, t) ∈ links)
    (hne : s ++ r ≠ []) : expandSymlinks links (s ++ r) = t ++ r := by
  have hmatch : startsWithCase (s ++ r) s = true :=
    (startsWithCase_iff _ _).mpr ⟨hne, prefixCase_append _ _⟩
  simp [expandSymlinks, (hfree.atMostOne _).find?_eq hst hmatch]

/-- **A new link is followed.** Once `CreateSymbolicLink(s, t)` has added the name `s`, and
link names stay prefix-free, the symbolic-link loop of `ResolvePath` rewrites every path
that begins with `s` to `t` followed by the rest of the path. -/
theorem createSymbolicLink_expands {fs : FileSystem} {s t r : List Char}
    (hnew : fs.symlinks.find s = none)
    (hfree : PrefixFree ((fs.createSymbolicLink s t).1.symlinks.entries.map Prod.fst))
    (hne : s ++ r ≠ []) :
    expandSymlinks (fs.createSymbolicLink s t).1.symlinks.entries (s ++ r) = t ++ r := by
  have hst : (s, t) ∈ (fs.createSymbolicLink s t).1.symlinks.entries := by
    rw [← SymlinkTable.find_eq_some_iff]
    simp [createSymbolicLink, hnew]
  exact expandSymlinks_of_mem hfree hst hne

/-- Linking `game:` to `\Device\Cdrom0` on a fresh file system sends `game:\x` to
`\Device\Cdrom0\x`. -/
theorem createSymbolicLink_expands_game :
    empty.symlinks.find gameDrive = none ∧
      PrefixFree ((empty.createSymbolicLink gameDrive cdrom0).1.symlinks.entries.map Prod.fst) ∧
      gameDrive ++ "\\x".toList ≠ [] ∧
      expandSymlinks (empty.createSymbolicLink gameDrive cdrom0).1.symlinks.entries
        (gameDrive ++ "\\x".toList) = cdrom0 ++ "\\x".toList :=
  ⟨rfl, by decide, by decide, createSymbolicLink_expands rfl (by decide) (by decide)⟩

/-! ## What a device is handed -/

/-- **The remainder.** The path handed to a device is what follows, in the expanded path,
a run of characters equal to the device's mount path up to case. -/
theorem resolvePath_split {fs : FileSystem} {path r : List Char} {d : Device}
    (h : fs.resolvePath path = some (d, r)) :
    d ∈ fs.devices ∧ ∃ root, prefixCase d.path root = true ∧ root.length = d.path.length ∧
      fs.fullPath path = root ++ r := by
  obtain ⟨d', hfind, hd⟩ := Option.map_eq_some'.mp h
  obtain ⟨rfl, rfl⟩ := Prod.mk.inj hd
  have hmatch := (startsWithCase_iff (fs.fullPath path) d'.path).mp
    (List.find?_some
      (p := fun device : Device => startsWithCase (fs.fullPath path) device.path) hfind)
  refine ⟨List.mem_of_find?_eq_some hfind, _, prefixCase_take hmatch.2, ?_,
    (List.take_append_drop _ _).symm⟩
  simpa using length_le_of_prefixCase hmatch.2

/-- For `game:x` with `game:` linked to `\Device\Cdrom0`, the disc image is handed `x`. -/
theorem resolvePath_split_game_x :
    let fs := (initializeFromPath '\\' true empty .discImage "game.iso".toList).1
    ⟨cdrom0, .discImage "game.iso".toList⟩ ∈ fs.devices ∧ ∃ root,
      prefixCase cdrom0 root = true ∧ root.length = cdrom0.length ∧
        fs.fullPath "game:x".toList = root ++ "x".toList :=
  resolvePath_split (by decide)

/-- A device mounted at `\Device\Cdrom0` and linked from `game:` is handed `x` for the
guest path `game:x`: a name beside its mount point, not beneath it. -/
theorem resolvePath_beside_mount :
    ((initializeFromPath '\\' true empty .discImage "game.iso".toList).1.resolvePath
      "game:x".toList).map Prod.snd = some "x".toList := by
  decide

/-! ## A device reached by its own path -/

/-- **Direct addressing.** With prefix-free device roots, and no link name and device root
a prefix of one another, a device whose mount path is nonempty and does not start with
`\` is reached by its mount path followed by any `r` that canonicalization keeps, and is
handed exactly `r`. -/
theorem resolvePath_own_path {fs : FileSystem} (hdev : PrefixFree (fs.devices.map Device.path))
    (hlinks : ∀ l ∈ fs.symlinks.entries, ∀ d ∈ fs.devices,
      prefixCase l.1 d.path = false ∧ prefixCase d.path l.1 = false)
    {d : Device} (hd : d ∈ fs.devices) (hne : d.path ≠ []) (hroot : d.path.head? ≠ some '\\')
    {r : List Char} (hcanon : canonicalizePath (d.path ++ r) = d.path ++ r) :
    fs.resolvePath (d.path ++ r) = some (d, r) := by
  have hpre : prefixCase d.path (d.path ++ r) = true := prefixCase_append _ _
  have hrel : gameRelative (d.path ++ r) = d.path ++ r := by
    simp [gameRelative, List.head?_append_of_ne_nil _ hne, hroot]
  have hnolink : fs.symlinks.entries.find? (fun l => startsWithCase (d.path ++ r) l.1) = none := by
    refine List.find?_eq_none.mpr fun l hl hmatch => ?_
    have hl' := ((startsWithCase_iff _ _).mp hmatch).2
    obtain ⟨h₁, h₂⟩ := hlinks l hl d hd
    rcases prefixCase_total_of_common hl' hpre with hc | hc <;> simp [hc] at h₁ h₂
  have hfull : fs.fullPath (d.path ++ r) = d.path ++ r := by
    simp only [fullPath, hcanon, hrel, expandSymlinks, hnolink]
  have hmatch : startsWithCase (d.path ++ r) d.path = true :=
    (startsWithCase_iff _ _).mpr ⟨by simp [hne], hpre⟩
  simp [resolvePath, hfull, (hdev.atMostOne _).find?_eq hd hmatch]

/-- A host directory mounted at `d:` is reached by `d:\x` and handed `\x`. -/
theorem resolvePath_own_path_drive :
    let dir : Device := ⟨dDrive, .hostPath "dir".toList true⟩
    (empty.registerDevice dDrive dir).1.resolvePath (dir.path ++ "\\x".toList) =
      some (dir, "\\x".toList) :=
  resolvePath_own_path (by decide) (by decide) (by decide) (by decide) (by decide) (by decide)

/-- The disc-image device `InitializeFromPath` mounts at `\Device\Cdrom0` is not reached
by its own path: the path is taken under `game:` and the device is handed its own mount
path again. -/
theorem resolvePath_device_path_via_game :
    ((initializeFromPath '\\' true empty .discImage "game.iso".toList).1.resolvePath
      (cdrom0 ++ "\\default.xex".toList)).map Prod.snd =
      some (cdrom0 ++ "\\default.xex".toList) := by
  decide

end FileSystem

end Xenia.Kernel.Fs
