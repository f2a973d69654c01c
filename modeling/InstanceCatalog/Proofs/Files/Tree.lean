import InstanceCatalog.Proofs.Files.Folder

namespace InstanceCatalog

namespace Path

structure IsEntryName (name : Text) : Prop extends IsFileName name where
  noNul : '\x00' ∉ name
  fits : (Utf8.encode name).length ≤ 255

instance (name : Text) : Decidable (IsEntryName name) :=
  decidable_of_iff ('/' ∉ name ∧ name ≠ [] ∧ name ≠ ['.'] ∧ name ≠ ['.', '.'] ∧ '\x00' ∉ name ∧
    (Utf8.encode name).length ≤ 255)
    ⟨fun ⟨hs, hn, hd, hu, hz, hf⟩ => ⟨⟨hs, hn, hd, hu⟩, hz, hf⟩,
      fun h => ⟨h.noSlash, h.nonempty, h.ne_dot, h.ne_dots, h.noNul, h.fits⟩⟩

/-- A character of a path is a slash or belongs to one of its names. -/
theorem exists_name_of_mem {path : Text} {c : Char} (h : c ∈ path) (hc : c ≠ '/') :
    ∃ name ∈ names path, c ∈ name := by
  have hj : List.intercalate ['/'] (names path) = path := List.intercalate_splitOn '/'
  rw [← hj] at h
  exact (Text.mem_intercalate h).resolve_left hc

end Path

namespace Disk

open InstanceCatalog.Path

structure IsTree (disk : Disk) : Prop where
  nodup : (disk.entries.map Prod.fst).Nodup
  named : ∀ place ∈ disk.entries.map Prod.fst, place ≠ [] ∧ ∀ name ∈ place, IsEntryName name
  above : ∀ place ∈ disk.entries.map Prod.fst, disk.found? place.dropLast = some .directory

instance (disk : Disk) : Decidable disk.IsTree :=
  decidable_of_iff (_ ∧ _ ∧ _)
    ⟨fun ⟨hd, hn, ha⟩ => ⟨hd, hn, ha⟩, fun h => ⟨h.nodup, h.named, h.above⟩⟩

/-- Without a second entry for the place the first one found is the one that is there. -/
theorem lookup_eq_some_iff_mem {entries : List (List Text × DiskEntry)} {place : List Text}
    {entry : DiskEntry} (hd : (entries.map Prod.fst).Nodup) :
    entries.lookup place = some entry ↔ (place, entry) ∈ entries := by
  rw [List.lookup_eq_some_iff]
  constructor
  · rintro ⟨before, after, rfl, -⟩
    simp
  · intro hm
    obtain ⟨before, after, rfl⟩ := List.append_of_mem hm
    refine ⟨before, after, rfl, fun other ho => ?_⟩
    rw [List.map_append, List.map_cons] at hd
    have hn := (List.nodup_append.mp hd).2.2 other.1 (List.mem_map_of_mem ho) place
      List.mem_cons_self
    exact bne_iff_ne.mpr hn.symm

/-- What a directory shows of an entry: its last name, if it stands in the directory. -/
def shown? (place : List Text) : List Text × DiskEntry → Option DirectoryEntry
  | (path, entry) =>
    match path.getLast? with
    | some name =>
      if path.dropLast = place then some ⟨name, entry.isFile⟩ else none
    | none => none

theorem shown?_eq_some_iff {place path : List Text} {entry : DiskEntry} {name : Text} :
    shown? place (path, entry) = some ⟨name, true⟩ ↔
      path = place ++ [name] ∧ ∃ contents, entry = .file contents := by
  constructor
  · intro h
    simp only [shown?] at h
    split at h
    · next hl =>
      split at h
      · next hp =>
        cases entry with
        | directory => cases h
        | file contents =>
          cases h
          exact ⟨by rw [← hp, List.dropLast_append_getLast? name hl], contents, rfl⟩
      · cases h
    · cases h
  · rintro ⟨rfl, contents, rfl⟩
    simp [shown?, DiskEntry.isFile]

theorem list_eq_ok_iff {disk : Disk} {path : Text} {listed : List DirectoryEntry} :
    disk.list path = .ok listed ↔ ∃ place, disk.resolve path = .ok place ∧
      disk.found? place = some .directory ∧ disk.entries.filterMap (shown? place) = listed := by
  rw [list]
  cases disk.resolve path with
  | error cause => simp [bind, Except.bind]
  | ok place =>
    simp only [bind, Except.bind, pure, Except.pure, Except.ok.injEq, exists_eq_left']
    split
    · next hf => simp [hf]
    · next hf => simp [hf]
    · next hf =>
      rw [hf, Except.ok.injEq]
      exact (and_iff_right rfl).symm

namespace IsTree

variable {disk : Disk} {place : List Text} {name : Text} {entry : DiskEntry}

theorem found?_concat_iff (h : disk.IsTree) :
    disk.found? (place ++ [name]) = some entry ↔ (place ++ [name], entry) ∈ disk.entries := by
  have he : (place ++ [name]).isEmpty = false := by simp
  rw [found?, he, if_neg (by decide)]
  exact lookup_eq_some_iff_mem h.nodup

/-- What is found has the name of an entry and stands in a directory. -/
theorem of_found?_concat (h : disk.IsTree) (hf : disk.found? (place ++ [name]) = some entry) :
    IsEntryName name ∧ disk.found? place = some .directory := by
  have hm := List.mem_map_of_mem (f := Prod.fst) (h.found?_concat_iff.mp hf)
  have ha := h.above _ hm
  rw [List.dropLast_concat] at ha
  exact ⟨(h.named _ hm).2 name (by simp), ha⟩

/-- A directory lists the files that stand in it. -/
theorem mem_list_iff (h : disk.IsTree) {path : Text} :
    (∃ entries, disk.list path = .ok entries ∧ ⟨name, true⟩ ∈ entries) ↔
      ∃ place contents, disk.resolve path = .ok place ∧
        disk.found? (place ++ [name]) = some (.file contents) := by
  simp only [list_eq_ok_iff]
  constructor
  · rintro ⟨_, ⟨place, hr, -, rfl⟩, hm⟩
    obtain ⟨⟨at_, entry⟩, he, hs⟩ := List.mem_filterMap.mp hm
    obtain ⟨rfl, contents, rfl⟩ := shown?_eq_some_iff.mp hs
    exact ⟨place, contents, hr, h.found?_concat_iff.mpr he⟩
  · rintro ⟨place, contents, hr, hf⟩
    exact ⟨_, ⟨place, hr, (h.of_found?_concat hf).2, rfl⟩,
      List.mem_filterMap.mpr ⟨_, h.found?_concat_iff.mp hf, shown?_eq_some_iff.mpr ⟨rfl, _, rfl⟩⟩⟩

/-- A way that leads to something has no name with a NUL. -/
theorem noNul_of_walk (h : disk.IsTree) {start names : List Text}
    (hw : disk.walk start names = .ok place) (hf : (disk.found? place).isSome = true) :
    ∀ name ∈ names, '\x00' ∉ name := by
  induction names generalizing start with
  | nil => simp
  | cons name rest ih =>
    obtain ⟨-, -, hr⟩ := walk_cons_eq_ok_iff.mp hw
    -- the way goes on from what this name leads to, or ends there
    have hs : (disk.found? (walkName start name)).isSome = true := by
      cases rest with
      | nil =>
        obtain rfl := Except.ok.inj hr
        exact hf
      | cons next rest => rw [(walk_cons_eq_ok_iff.mp hr).2.1, Option.isSome_some]
    refine List.forall_mem_cons.mpr ⟨fun hz => ?_, ih hr⟩
    have hn : walkName start name = start ++ [name] := by
      rw [walkName, if_neg, if_neg]
      · rintro rfl
        simp at hz
      · rw [isIdle, Bool.or_eq_true, not_or]
        constructor
        · rw [List.isEmpty_iff]
          rintro rfl
          cases hz
        · rw [decide_eq_true_eq]
          rintro rfl
          simp at hz
    obtain ⟨entry, he⟩ := Option.isSome_iff_exists.mp hs
    rw [hn] at he
    exact (h.of_found?_concat he).1.noNul hz

end IsTree

/-- Without a double dot a way leads to below where it begins. -/
theorem prefix_of_walk {disk : Disk} {start names place : List Text}
    (hw : disk.walk start names = .ok place) (hn : ['.', '.'] ∉ names) : start <+: place := by
  induction names generalizing start with
  | nil =>
    obtain rfl := Except.ok.inj hw
    exact List.prefix_rfl
  | cons name rest ih =>
    rw [List.mem_cons, not_or] at hn
    have hs : start <+: walkName start name := by
      rw [walkName]
      split
      · exact List.prefix_rfl
      · rw [if_neg (Ne.symm hn.1)]
        exact List.prefix_append start [name]
    exact hs.trans (ih (walk_cons_eq_ok_iff.mp hw).2.2 hn.2)

end Disk
end InstanceCatalog
