import InstanceCatalog.Proofs.Files.Folder

namespace InstanceCatalog

namespace Path

theorem exists_join_append (base s ending : Text) :
    ∃ front, join base (s ++ ending) = front ++ ending := by
  unfold join
  split
  · exact ⟨s, rfl⟩
  · split
    · exact ⟨base ++ s, (List.append_assoc _ _ _).symm⟩
    · exact ⟨base ++ '/' :: s, by simp⟩

end Path

namespace Disk

open InstanceCatalog.Path

/-- Where a path leads if it leads anywhere. -/
def placeOf (path : Text) : List Text := (names path).foldl walkName (startOf path)

variable {disk next : Disk} {path : Text} {absolute : List Text}

theorem eq_foldl_of_walk {names start : List Text} (h : disk.walk start names = .ok absolute) :
    absolute = names.foldl walkName start := by
  induction names generalizing start with
  | nil => exact (Except.ok.inj h).symm
  | cons name rest ih => exact ih (walk_cons_eq_ok_iff.mp h).2.2

theorem Writable.eq_placeOf (h : disk.Writable path absolute) : absolute = placeOf path :=
  eq_foldl_of_walk h.leads

theorem Writable.resolve (h : disk.Writable path absolute) :
    disk.resolve path = .ok (placeOf path) := by
  rw [← h.eq_placeOf, disk.resolve_of_noNul h.noNul h.nonempty, h.leads]

theorem resolve_eq_placeOf (h : disk.resolve path = .ok absolute) : absolute = placeOf path :=
  eq_foldl_of_walk (resolve_eq_ok h).2.2

/-- A file of a folder is at its name below where the folder is. -/
theorem placeOf_join {folder name : Text} (h : IsFileName name) :
    placeOf (join folder name) = (folderNames folder).foldl walkName (startOf folder) ++ [name] := by
  rw [placeOf, startOf_join h, names_join h, List.foldl_concat, walkName_of_isFileName h]

/-- An ending that is no directory name is that of the place as well. -/
theorem exists_placeOf_join (base s : Text) {ending : Text} (hs : '/' ∉ ending)
    (hl : 2 < ending.length) :
    ∃ above last, placeOf (join base (s ++ ending)) = above ++ [last ++ ending] := by
  obtain ⟨front, hj⟩ := exists_join_append base s ending
  obtain ⟨names, last, hp⟩ := Text.exists_splitOn_append hs front
  have hm : last ++ ending ∈ List.splitOn '/' (front ++ ending) := by
    rw [hp]
    exact List.mem_append_right _ (List.mem_singleton_self _)
  have hlast : '/' ∉ last := fun h =>
    Text.notMem_of_mem_splitOn hm (List.mem_append_left _ h)
  refine ⟨names.foldl walkName (startOf (front ++ ending)), last, ?_⟩
  rw [hj, placeOf, Path.names, hp, List.foldl_concat,
    walkName_of_isFileName (.of_ending hlast hs hl)]

/-- The entries of one disk are those of the other, but for the contents of files. -/
def SameShape (disk next : Disk) : Prop :=
  ∀ place, (next.found? place).map DiskEntry.isFile = (disk.found? place).map DiskEntry.isFile

namespace SameShape

theorem refl (disk : Disk) : SameShape disk disk := fun _ => rfl

theorem trans {final : Disk} (h : SameShape disk next) (h' : SameShape next final) :
    SameShape disk final := fun place => (h' place).trans (h place)

theorem directory_iff (h : SameShape disk next) (place : List Text) :
    next.found? place = some .directory ↔ disk.found? place = some .directory := by
  have hd : ∀ disk : Disk, disk.found? place = some .directory ↔
      (disk.found? place).map DiskEntry.isFile = some false := by
    intro disk
    rcases disk.found? place with _ | _ | _ <;> simp [DiskEntry.isFile]
  rw [hd, hd, h place]

/-- Paths are followed alike. -/
theorem walk (h : SameShape disk next) (start names : List Text) :
    next.walk start names = disk.walk start names := by
  induction names generalizing start with
  | nil => rfl
  | cons name rest ih =>
    have hs := h start
    rw [Disk.walk, Disk.walk]
    rcases hn : next.found? start with _ | _ | _ <;> rcases hd : disk.found? start with _ | _ | _ <;>
      simp [hn, hd, DiskEntry.isFile, ih] at hs ⊢

theorem resolve (h : SameShape disk next) (path : Text) :
    next.resolve path = disk.resolve path := by
  simp only [Disk.resolve, h.walk]

/-- A file can be opened as on a disk of the same shape that has the same in its place. -/
theorem openFile (h : SameShape disk next)
    (he : next.found? (placeOf path) = disk.found? (placeOf path)) :
    next.openFile path = disk.openFile path := by
  rw [Disk.openFile, Disk.openFile, h.resolve]
  cases hr : disk.resolve path with
  | error cause => rfl
  | ok absolute =>
    obtain rfl := resolve_eq_placeOf hr
    simp only [bind, Except.bind, he]

theorem writable (h : SameShape disk next) (hw : disk.Writable path absolute) :
    next.Writable path absolute :=
  hw.of_directories (fun place => (h.directory_iff place).mpr)
    (mt (h.directory_iff absolute).mp hw.noDirectory)

end SameShape

theorem found?_write_congr (h : ∀ place, next.found? place = disk.found? place) (path : Text)
    (contents : Bytes) (place : List Text) :
    (access.write path contents next).2.found? place =
      (access.write path contents disk).2.found? place := by
  have hs : SameShape disk next := fun place => by rw [h]
  have hs' : SameShape next disk := fun place => by rw [h]
  by_cases hw : ∃ absolute, disk.Writable path absolute
  · obtain ⟨absolute, hw⟩ := hw
    rw [access_write_of_ok (write_of_writable hw contents),
      access_write_of_ok (write_of_writable (hs.writable hw) contents),
      found?_put disk hw.ne_nil, found?_put next hw.ne_nil, h]
  · have hn : ¬∃ absolute, next.Writable path absolute := fun ⟨_, hw'⟩ => hw ⟨_, hs'.writable hw'⟩
    rw [access_write_of_not_writable hw, access_write_of_not_writable hn, h]

/-- New contents for a file leave the shape as it is. -/
theorem sameShape_put (hn : absolute ≠ []) {old : Bytes}
    (hf : disk.found? absolute = some (.file old)) (new : Bytes) :
    SameShape disk (disk.put absolute (.file new)) := by
  intro place
  rw [found?_put disk hn]
  split
  · next he => rw [he, hf]; rfl
  · rfl

end Disk
end InstanceCatalog
