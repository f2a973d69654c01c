import InstanceCatalog.Files.Disk
import InstanceCatalog.Proofs.World

namespace InstanceCatalog
namespace Disk

theorem lookup_filter_ne {path other : List Text} (h : other ≠ path)
    (entries : List (List Text × DiskEntry)) :
    (entries.filter (·.1 != path)).lookup other = entries.lookup other := by
  induction entries with
  | nil => rfl
  | cons e rest ih =>
    obtain ⟨at_, found⟩ := e
    by_cases hq : at_ = path
    · have hb : (other == path) = false := beq_eq_false_iff_ne.mpr h
      simp [hq, List.lookup_cons, hb, ih]
    · simp [hq, List.lookup_cons, ih]

theorem found?_put (disk : Disk) {path : List Text} (hp : path ≠ []) (entry : DiskEntry)
    (other : List Text) :
    (disk.put path entry).found? other =
      if other = path then some entry else disk.found? other := by
  unfold found? put
  by_cases ho : other = path
  · simp [ho, hp]
  · have hb : (other == path) = false := beq_eq_false_iff_ne.mpr ho
    simp [ho, List.lookup_cons, hb, lookup_filter_ne ho]

theorem put_put (disk : Disk) (path : List Text) (first second : DiskEntry) :
    (disk.put path first).put path second = disk.put path second := by
  simp [put]

theorem walk_cons_eq_ok_iff {disk : Disk} {start rest place : List Text} {name : Text} :
    disk.walk start (name :: rest) = .ok place ↔
      (Utf8.encode name).length ≤ 255 ∧ disk.found? start = some .directory ∧
        disk.walk (walkName start name) rest = .ok place := by
  rw [walk]
  split
  · next hf => simp [hf]
  · next hf => simp [hf]
  · next hf =>
    split
    · next hl =>
      simp only [reduceCtorEq, false_iff, not_and]
      omega
    · next hl => simp [hf, Nat.not_lt.mp hl]

/-- A walk that succeeds does so on a disk that still has all directories. -/
theorem walk_of_directories {disk next : Disk}
    (h : ∀ path, disk.found? path = some .directory → next.found? path = some .directory)
    {names start absolute : List Text} (hw : disk.walk start names = .ok absolute) :
    next.walk start names = .ok absolute := by
  induction names generalizing start with
  | nil => exact hw
  | cons name rest ih =>
    obtain ⟨hf, hd, hr⟩ := walk_cons_eq_ok_iff.mp hw
    exact walk_cons_eq_ok_iff.mpr ⟨hf, h start hd, ih hr⟩

structure Writable (disk : Disk) (path : Text) (absolute : List Text) : Prop where
  noNul : path.contains '\x00' = false
  nonempty : path.isEmpty = false
  fits : (Utf8.encode path).length ≤ pathLimit
  above : ∃ above, disk.walk (startOf path) (Path.names path).dropLast = .ok above ∧
    disk.found? above = some .directory
  namesFile : endsInDirectory path = false
  leads : disk.walk (startOf path) (Path.names path) = .ok absolute
  noDirectory : disk.found? absolute ≠ some .directory

theorem write_eq_ok_iff {disk next : Disk} {path : Text} {contents : Bytes} :
    disk.write path contents = .ok next ↔
      ∃ absolute, disk.Writable path absolute ∧ next = disk.put absolute (.file contents) := by
  simp only [write, bind, Except.bind, pure, Except.pure, throw, throwThe, MonadExceptOf.throw]
  constructor
  · intro h
    split at h
    · cases h
    · next hz =>
      split at h
      · cases h
      · next he =>
        split at h
        · cases h
        · next ht =>
          split at h
          · cases h
          · next above ha =>
            split at h
            · cases h
            · cases h
            · next hd =>
              split at h
              · cases h
              · next hf =>
                split at h
                · cases h
                · next absolute hl =>
                  split at h
                  · cases h
                  · next hn =>
                    exact ⟨absolute, ⟨by simpa using hz, by simpa using he, Nat.not_lt.mp ht,
                      ⟨above, ha, hd⟩, by simpa using hf, hl, hn⟩, (Except.ok.inj h).symm⟩
  · rintro ⟨absolute, hw, rfl⟩
    obtain ⟨above, ha, hd⟩ := hw.above
    rw [hw.noNul, hw.nonempty, hw.namesFile]
    simp only [Bool.false_eq_true, if_false, Nat.not_lt.mpr hw.fits, ha, hd, hw.leads]
    split
    · next hn => exact absurd hn hw.noDirectory
    · rfl

/-- The root is a directory, so no file is written there. -/
theorem Writable.ne_nil {disk : Disk} {path : Text} {absolute : List Text}
    (h : disk.Writable path absolute) : absolute ≠ [] := by
  rintro rfl
  exact h.noDirectory rfl

/-- A file where no directory was leaves all directories. -/
theorem directory_put {disk : Disk} {absolute : List Text} (hn : absolute ≠ [])
    (h : disk.found? absolute ≠ some .directory) (contents : Bytes) {path : List Text}
    (hp : disk.found? path = some .directory) :
    (disk.put absolute (.file contents)).found? path = some .directory := by
  rw [found?_put disk hn, if_neg, hp]
  rintro rfl
  exact h hp

/-- What can be written stays so on a disk that still has all directories. -/
theorem Writable.of_directories {disk next : Disk} {path : Text} {absolute : List Text}
    (h : disk.Writable path absolute)
    (hk : ∀ p, disk.found? p = some .directory → next.found? p = some .directory)
    (hn : next.found? absolute ≠ some .directory) : next.Writable path absolute := by
  obtain ⟨above, ha, hd⟩ := h.above
  exact ⟨h.noNul, h.nonempty, h.fits, ⟨above, walk_of_directories hk ha, hk above hd⟩,
    h.namesFile, walk_of_directories hk h.leads, hn⟩

theorem Writable.put {disk : Disk} {path : Text} {absolute : List Text}
    (h : disk.Writable path absolute) (contents : Bytes) :
    (disk.put absolute (.file contents)).Writable path absolute := by
  apply h.of_directories fun p hp => directory_put h.ne_nil h.noDirectory contents hp
  rw [found?_put disk h.ne_nil, if_pos rfl]
  exact fun hc => nomatch hc

theorem write_of_writable {disk : Disk} {path : Text} {absolute : List Text}
    (h : disk.Writable path absolute) (contents : Bytes) :
    disk.write path contents = .ok (disk.put absolute (.file contents)) :=
  write_eq_ok_iff.mpr ⟨absolute, h, rfl⟩

theorem write_write {disk next : Disk} {path : Text} {first : Bytes}
    (h : disk.write path first = .ok next) (second : Bytes) :
    next.write path second = disk.write path second := by
  obtain ⟨absolute, hw, rfl⟩ := write_eq_ok_iff.mp h
  rw [write_of_writable hw, write_of_writable (hw.put first), put_put]

theorem exists_write {disk next : Disk} {path : Text} {first : Bytes}
    (h : disk.write path first = .ok next) (second : Bytes) :
    ∃ final, disk.write path second = .ok final := by
  obtain ⟨absolute, hw, -⟩ := write_eq_ok_iff.mp h
  exact ⟨_, write_of_writable hw second⟩

/-- How a path that holds no NUL and is not empty is resolved. -/
theorem resolve_of_noNul (disk : Disk) {path : Text} (hz : path.contains '\x00' = false)
    (he : path.isEmpty = false) :
    disk.resolve path = disk.walk (startOf path) (Path.names path) := by
  rw [resolve, hz, he]
  simp only [Bool.false_eq_true, if_false]

theorem resolve_eq_ok {disk : Disk} {path : Text} {absolute : List Text}
    (h : disk.resolve path = .ok absolute) :
    path.contains '\x00' = false ∧ path.isEmpty = false ∧
      disk.walk (startOf path) (Path.names path) = .ok absolute := by
  by_cases hz : path.contains '\x00' = true
  · rw [resolve, if_pos hz] at h
    cases h
  · by_cases he : path.isEmpty = true
    · rw [resolve, if_neg hz, if_pos he] at h
      cases h
    · have hz : path.contains '\x00' = false := by simpa using hz
      have he : path.isEmpty = false := by simpa using he
      rw [disk.resolve_of_noNul hz he] at h
      exact ⟨hz, he, h⟩

theorem openFile_eq_ok {disk : Disk} {path : Text} {opened : Except FileError Bytes}
    (h : disk.openFile path = .ok opened) :
    ∃ absolute, disk.resolve path = .ok absolute ∧
      ∀ contents, opened = .ok contents → disk.found? absolute = some (.file contents) := by
  simp only [openFile, bind, Except.bind, pure, Except.pure] at h
  split at h
  · cases h
  · next absolute hr =>
    refine ⟨absolute, hr, ?_⟩
    rintro contents rfl
    split at h
    · cases h
    · cases h
    · next hf =>
      cases h
      exact hf

theorem openFile_of_resolve {disk : Disk} {path : Text} {absolute : List Text} {contents : Bytes}
    (hr : disk.resolve path = .ok absolute) (hf : disk.found? absolute = some (.file contents)) :
    disk.openFile path = .ok (.ok contents) := by
  simp only [openFile, hr, bind, Except.bind, hf]
  rfl

theorem openFile_of_walk {disk : Disk} {path : Text} {absolute : List Text} {contents : Bytes}
    (hz : path.contains '\x00' = false) (hn : path.isEmpty = false)
    (hw : disk.walk (startOf path) (Path.names path) = .ok absolute)
    (hf : disk.found? absolute = some (.file contents)) :
    disk.openFile path = .ok (.ok contents) :=
  openFile_of_resolve ((disk.resolve_of_noNul hz hn).trans hw) hf

theorem Writable.openFile {disk : Disk} {path : Text} {absolute : List Text}
    (h : disk.Writable path absolute) {contents : Bytes}
    (hf : disk.found? absolute = some (.file contents)) :
    disk.openFile path = .ok (.ok contents) :=
  openFile_of_walk h.noNul h.nonempty h.leads hf

structure HasFile (disk : Disk) (path : Text) (contents : Bytes) : Prop where
  fits : (Utf8.encode path).length ≤ pathLimit
  opens : disk.openFile path = .ok (.ok contents)

theorem Writable.hasFile {disk : Disk} {path : Text} {absolute : List Text}
    (h : disk.Writable path absolute) {contents : Bytes}
    (hf : disk.found? absolute = some (.file contents)) : disk.HasFile path contents :=
  ⟨h.fits, h.openFile hf⟩

theorem openFile_of_write {disk next : Disk} {path : Text} {contents : Bytes}
    (h : disk.write path contents = .ok next) : next.openFile path = .ok (.ok contents) := by
  obtain ⟨absolute, hw, rfl⟩ := write_eq_ok_iff.mp h
  apply (hw.put contents).openFile
  rw [found?_put disk hw.ne_nil, if_pos rfl]

theorem attempt_apply (change : Disk → Except FileError Disk) (disk : Disk) :
    attempt change disk =
      match change disk with
      | .ok next => (.ok (), next)
      | .error cause => (.error cause, disk) := by
  have hg : (get : StateM Disk Disk) disk = (disk, disk) := rfl
  rw [attempt, World.bind_apply, hg]
  cases change disk with
  | ok next => rfl
  | error cause => rfl

theorem access_write (disk : Disk) (path : Text) (contents : Bytes) :
    access.write path contents disk =
      match disk.write path contents with
      | .ok next => (.ok (), next)
      | .error cause => (.error cause, disk) := attempt_apply _ disk

theorem access_write_of_ok {disk next : Disk} {path : Text} {contents : Bytes}
    (h : disk.write path contents = .ok next) :
    access.write path contents disk = (.ok (), next) := by
  rw [access_write, h]

theorem access_write_of_not_writable {disk : Disk} {path : Text}
    (h : ¬∃ absolute, disk.Writable path absolute) (contents : Bytes) :
    (access.write path contents disk).2 = disk := by
  rw [access_write]
  cases hw : disk.write path contents with
  | ok next =>
    obtain ⟨absolute, ha, -⟩ := write_eq_ok_iff.mp hw
    exact absurd ⟨absolute, ha⟩ h
  | error cause => rfl

theorem access_openFile (disk : Disk) (path : Text) :
    access.openFile path disk = (disk.openFile path, disk) := rfl

/-- A file that is found stays so on a disk that still has all entries. -/
theorem openFile_of_found? {disk next : Disk} {path : Text} {contents : Bytes}
    (hk : ∀ place entry, disk.found? place = some entry → next.found? place = some entry)
    (h : disk.openFile path = .ok (.ok contents)) : next.openFile path = .ok (.ok contents) := by
  obtain ⟨absolute, hr, hf⟩ := openFile_eq_ok h
  obtain ⟨hz, hn, hw⟩ := resolve_eq_ok hr
  exact openFile_of_walk hz hn (walk_of_directories (fun place => hk place _) hw)
    (hk absolute _ (hf contents rfl))

def KeepsEntries {α : Type} (program : StateM Disk α) : Prop :=
  ∀ disk place entry, disk.found? place = some entry →
    (program disk).2.found? place = some entry

theorem keepsEntries_makeDirectory (start names : List Text) :
    KeepsEntries (makeDirectory start names) := by
  intro disk place entry h
  rw [makeDirectory, attempt_apply]
  cases hw : disk.walk start (names.dropWhile List.isEmpty).reverse with
  | error cause => exact h
  | ok absolute =>
    dsimp only [bind, Except.bind]
    cases hn : disk.found? absolute with
    | none =>
      -- the new directory is not where the entry is, and not the root either
      have hr : absolute ≠ [] := by
        rintro rfl
        cases hn
      have hne : place ≠ absolute := by
        rintro rfl
        rw [hn] at h
        cases h
      exact (found?_put disk hr .directory place).trans ((if_neg hne).trans h)
    | some found =>
      cases found with
      | file contents => exact h
      | directory => exact h

theorem KeepsEntries.makeAfter {above make : StateM Disk (Except FileError Unit)}
    (ha : KeepsEntries above) (hm : KeepsEntries make) : KeepsEntries (makeAfter above make) := by
  intro disk place entry h
  have h := hm disk place entry h
  rw [Disk.makeAfter, World.bind_apply]
  generalize make disk = made at h ⊢
  obtain ⟨answer, next⟩ := made
  dsimp only at h ⊢
  split
  · have h := ha next place entry h
    rw [World.bind_apply]
    generalize above next = made at h ⊢
    obtain ⟨answer, next⟩ := made
    dsimp only at h ⊢
    split
    · exact hm next place entry h
    · exact h
  · exact h

theorem keepsEntries_makeAll (start names : List Text) : KeepsEntries (makeAll start names) := by
  induction names with
  | nil => exact fun _ _ _ h => h
  | cons name above ih =>
    rw [makeAll]
    split
    · exact ih
    · exact ih.makeAfter (keepsEntries_makeDirectory _ _)

theorem keepsEntries_makePath (path : Text) : KeepsEntries (makePath path) := by
  unfold makePath
  split
  · exact fun _ _ _ h => h
  · split
    · exact fun _ _ _ h => h
    · split
      · exact fun _ _ _ h => h
      · exact (keepsEntries_makeAll _ _).makeAfter (keepsEntries_makeDirectory _ _)

theorem found?_createDirectories {disk next : Disk} {path : Text} {answer : Except FileError Unit}
    (h : disk.createDirectories path = (answer, next)) {place : List Text} {entry : DiskEntry}
    (hf : disk.found? place = some entry) : next.found? place = some entry := by
  obtain rfl : (makePath path disk).2 = next := congrArg Prod.snd h
  exact keepsEntries_makePath path disk place entry hf

end Disk
end InstanceCatalog
