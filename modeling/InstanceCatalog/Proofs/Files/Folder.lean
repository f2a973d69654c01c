import InstanceCatalog.Proofs.Files.Disk
import InstanceCatalog.Proofs.Text.Pieces

namespace InstanceCatalog

namespace Path

/-- The names on the way to what a folder holds. -/
def folderNames (folder : Text) : List Text :=
  if folder.isEmpty then []
  else if folder.getLast? = some '/' then names folder.dropLast
  else names folder

structure IsFileName (name : Text) : Prop where
  noSlash : '/' ∉ name
  nonempty : name ≠ []
  ne_dot : name ≠ ['.']
  ne_dots : name ≠ ['.', '.']

theorem IsFileName.of_ending {stem ending : Text} (hs : '/' ∉ stem) (he : '/' ∉ ending)
    (hl : 2 < ending.length) : IsFileName (stem ++ ending) := by
  have hl' : 2 < (stem ++ ending).length := by
    rw [List.length_append]
    omega
  refine ⟨fun h => (List.mem_append.mp h).elim hs he, ?_, ?_, ?_⟩
  all_goals
    intro h
    simp [h] at hl'

theorem IsFileName.head? {name : Text} (h : IsFileName name) : name.head? ≠ some '/' :=
  fun hh => h.noSlash (List.mem_of_mem_head? hh)

/-- The names of a path below a folder are those on the way to it and its own. -/
theorem names_join_of_relative {folder path : Text} (h : path.head? ≠ some '/') :
    names (join folder path) = folderNames folder ++ names path := by
  rw [join, folderNames]
  by_cases he : folder.isEmpty = true
  · simp [he]
  · have hj : ¬(decide (path.head? = some '/') || folder.isEmpty) = true := by simp [h, he]
    rw [if_neg hj, if_neg he]
    by_cases hl : folder.getLast? = some '/'
    · rw [if_pos hl, if_pos hl]
      obtain ⟨front, rfl⟩ := List.getLast?_eq_some_iff.mp hl
      rw [List.dropLast_concat, List.append_assoc]
      exact List.splitOn_append_cons_self _ _
    · rw [if_neg hl, if_neg hl]
      exact List.splitOn_append_cons_self _ _

theorem IsFileName.names_eq {name : Text} (h : IsFileName name) : names name = [name] :=
  List.splitOn_eq_singleton h.noSlash

theorem names_join {folder name : Text} (h : IsFileName name) :
    names (join folder name) = folderNames folder ++ [name] := by
  rw [names_join_of_relative h.head?, h.names_eq]

theorem join_ne_nil {folder name : Text} (h : IsFileName name) :
    (join folder name).isEmpty = false := by
  rw [List.isEmpty_eq_false_iff, join]
  split
  · exact h.nonempty
  · split
    · simp [h.nonempty]
    · simp

end Path

namespace Disk

open InstanceCatalog.Path

theorem startOf_join_of_relative {folder path : Text} (h : path.head? ≠ some '/') :
    startOf (join folder path) = startOf folder := by
  unfold startOf join
  cases folder with
  | nil => simp [h]
  | cons c rest =>
    simp only [h, List.isEmpty_cons, decide_false, Bool.or_self, Bool.false_eq_true, if_false]
    split
    · rw [List.cons_append, List.head?_cons, List.head?_cons]
    · rw [List.cons_append, List.head?_cons, List.head?_cons]

theorem startOf_join {folder name : Text} (h : IsFileName name) :
    startOf (join folder name) = startOf folder := startOf_join_of_relative h.head?

theorem walk_append (disk : Disk) (start first second : List Text) :
    disk.walk start (first ++ second) =
      (disk.walk start first).bind fun reached => disk.walk reached second := by
  induction first generalizing start with
  | nil => rfl
  | cons name rest ih =>
    rw [List.cons_append, walk, walk]
    split
    · rfl
    · rfl
    · split
      · rfl
      · exact ih _

theorem walk_congr {disk next : Disk} (h : ∀ place, next.found? place = disk.found? place)
    (start names : List Text) : next.walk start names = disk.walk start names := by
  induction names generalizing start with
  | nil => rfl
  | cons name rest ih => simp only [walk, h, ih]

/-- Files are opened alike on disks with the same entries. -/
theorem openFile_congr {disk next : Disk} (h : ∀ place, next.found? place = disk.found? place)
    (path : Text) : next.openFile path = disk.openFile path := by
  simp only [openFile, resolve, walk_congr h, h]

structure LeadsTo (disk : Disk) (folder : Text) (reached : List Text) : Prop where
  walk : disk.walk (startOf folder) (folderNames folder) = .ok reached
  directory : disk.found? reached = some .directory

theorem walkName_of_isFileName {name : Text} (h : IsFileName name) (reached : List Text) :
    walkName reached name = reached ++ [name] := by
  simp [walkName, isIdle, h.nonempty, h.ne_dot, h.ne_dots]

/-- A name below a directory. -/
theorem walk_name {disk : Disk} {reached : List Text} {name : Text} (hn : IsFileName name)
    (hd : disk.found? reached = some .directory) :
    disk.walk reached [name] =
      if 255 < (Utf8.encode name).length then .error .invalidName else .ok (reached ++ [name]) := by
  simp only [Disk.walk, hd, walkName_of_isFileName hn]

theorem exists_leadsTo {disk : Disk} {folder name : Text} {absolute : List Text}
    (hn : IsFileName name)
    (h : disk.walk (startOf (join folder name)) (names (join folder name)) = .ok absolute) :
    ∃ reached, disk.LeadsTo folder reached ∧ absolute = reached ++ [name] := by
  rw [startOf_join hn, names_join hn, walk_append] at h
  cases hw : disk.walk (startOf folder) (folderNames folder) with
  | error e => rw [hw] at h; cases h
  | ok reached =>
    rw [hw] at h
    -- the last step of the walk starts in a directory
    obtain ⟨-, hd, hr⟩ := walk_cons_eq_ok_iff.mp h
    refine ⟨reached, ⟨hw, hd⟩, ?_⟩
    rw [← walkName_of_isFileName hn]
    exact (Except.ok.inj hr).symm

theorem exists_leadsTo_of_openFile {disk : Disk} {folder name : Text}
    {opened : Except FileError Bytes} (hn : IsFileName name)
    (h : disk.openFile (join folder name) = .ok opened) :
    ∃ reached, disk.LeadsTo folder reached := by
  obtain ⟨absolute, hr, -⟩ := openFile_eq_ok h
  obtain ⟨reached, hl, -⟩ := exists_leadsTo hn (resolve_eq_ok hr).2.2
  exact ⟨reached, hl⟩

namespace LeadsTo

variable {disk next : Disk} {folder name : Text} {reached : List Text}

theorem resolve_join (h : disk.LeadsTo folder reached) (hn : IsFileName name) :
    disk.resolve (join folder name) =
      if (join folder name).contains '\x00' then .error .invalidInput
      else if 255 < (Utf8.encode name).length then .error .invalidName
      else .ok (reached ++ [name]) := by
  by_cases hz : (join folder name).contains '\x00' = true
  · rw [resolve, if_pos hz, if_pos hz]
  · rw [disk.resolve_of_noNul (by simpa using hz) (join_ne_nil hn), startOf_join hn, names_join hn,
      walk_append, h.walk, if_neg hz]
    exact walk_name hn h.directory

theorem endsInDirectory_join (hn : IsFileName name) :
    endsInDirectory (join folder name) = false := by
  simp [endsInDirectory, names_join hn, hn.nonempty, hn.ne_dot, hn.ne_dots]

theorem write_join (h : disk.LeadsTo folder reached) (hn : IsFileName name)
    (hf : (Utf8.encode (join folder name)).length ≤ pathLimit) (contents : Bytes) :
    disk.write (join folder name) contents =
      (disk.resolve (join folder name)).bind fun absolute =>
        if disk.found? absolute = some .directory then .error .isDirectory
        else .ok (disk.put absolute (.file contents)) := by
  by_cases hz : (join folder name).contains '\x00' = true
  · rw [write, resolve, hz]
    rfl
  · have hz : (join folder name).contains '\x00' = false := by simpa using hz
    rw [disk.resolve_of_noNul hz (join_ne_nil hn), startOf_join hn, write, hz, join_ne_nil hn,
      if_neg (Nat.not_lt.mpr hf), endsInDirectory_join hn, startOf_join hn, names_join hn]
    have hd : (folderNames folder ++ [name]).dropLast = folderNames folder := List.dropLast_concat
    simp only [bind, Except.bind, pure, Except.pure, Bool.false_eq_true, if_false, hd, h.walk,
      h.directory]
    cases disk.walk (startOf folder) (folderNames folder ++ [name]) with
    | error e => rfl
    | ok absolute =>
      dsimp only
      cases hf : disk.found? absolute with
      | none => rfl
      | some entry =>
        cases entry with
        | file _ => rfl
        | directory => rfl

/-- A file can be opened as on a disk that has the same at its place. -/
theorem openFile_congr (h : disk.LeadsTo folder reached) (h' : next.LeadsTo folder reached)
    (hn : IsFileName name) (he : next.found? (reached ++ [name]) = disk.found? (reached ++ [name])) :
    next.openFile (join folder name) = disk.openFile (join folder name) := by
  rw [openFile, openFile, h.resolve_join hn, h'.resolve_join hn]
  split
  · rfl
  · split
    · rfl
    · simp only [bind, Except.bind, he]

end LeadsTo

def refusal? (disk : Disk) (path : Text) (contents : Bytes) : Option FileError :=
  match disk.write path contents with
  | .ok _ => none
  | .error cause => some cause

theorem refusal?_eq_none_iff {disk : Disk} {path : Text} {contents : Bytes} :
    disk.refusal? path contents = none ↔ ∃ absolute, disk.Writable path absolute := by
  have hw : disk.refusal? path contents = none ↔ ∃ next, disk.write path contents = .ok next := by
    rw [refusal?]
    split
    · next h => simp [h]
    · next h => simp [h]
  rw [hw]
  constructor
  · rintro ⟨next, h⟩
    obtain ⟨absolute, ha, -⟩ := write_eq_ok_iff.mp h
    exact ⟨absolute, ha⟩
  · rintro ⟨absolute, ha⟩
    exact ⟨_, write_of_writable ha contents⟩

/-- Why a path that is too long is refused is told from the path alone. -/
theorem write_of_long (disk : Disk) {path : Text} (h : pathLimit < (Utf8.encode path).length)
    (contents : Bytes) :
    disk.write path contents =
      .error (if path.contains '\x00' then .invalidInput
        else if path.isEmpty then .notFound else .invalidName) := by
  rw [write]
  by_cases hz : path.contains '\x00' = true
  · rw [if_pos hz, if_pos hz]
    rfl
  · by_cases he : path.isEmpty = true
    · rw [if_neg hz, if_neg hz, if_pos he, if_pos he]
      rfl
    · rw [if_neg hz, if_neg hz, if_neg he, if_neg he, if_pos h]
      rfl

/-- A write is refused as on a disk that has the same directories at its place. -/
theorem LeadsTo.refusal?_congr {disk next : Disk} {folder name : Text} {reached : List Text}
    (h : disk.LeadsTo folder reached) (h' : next.LeadsTo folder reached) (hn : IsFileName name)
    (he : next.found? (reached ++ [name]) = some .directory ↔
      disk.found? (reached ++ [name]) = some .directory) (contents : Bytes) :
    next.refusal? (join folder name) contents = disk.refusal? (join folder name) contents := by
  by_cases hf : pathLimit < (Utf8.encode (join folder name)).length
  · rw [refusal?, refusal?, write_of_long next hf, write_of_long disk hf]
  have hf := Nat.not_lt.mp hf
  rw [refusal?, refusal?, h.write_join hn hf, h'.write_join hn hf, h.resolve_join hn,
    h'.resolve_join hn]
  by_cases hz : (join folder name).contains '\x00' = true
  · rw [if_pos hz]
    rfl
  · by_cases hl : 255 < (Utf8.encode name).length
    · rw [if_neg hz, if_pos hl]
      rfl
    · rw [if_neg hz, if_neg hl]
      by_cases hd : disk.found? (reached ++ [name]) = some .directory
      · simp only [Except.bind, if_pos hd, if_pos (he.mpr hd)]
      · simp only [Except.bind, if_neg hd, if_neg fun hc => hd (he.mp hc)]

theorem LeadsTo.of_directories {disk next : Disk} {folder : Text} {reached : List Text}
    (h : disk.LeadsTo folder reached)
    (hk : ∀ p, disk.found? p = some .directory → next.found? p = some .directory) :
    next.LeadsTo folder reached := ⟨walk_of_directories hk h.walk, hk reached h.directory⟩

/-- A file where no directory was leaves the way to every folder. -/
theorem LeadsTo.put {disk : Disk} {folder path : Text} {reached absolute : List Text}
    (h : disk.LeadsTo folder reached) (hw : disk.Writable path absolute) (contents : Bytes) :
    (disk.put absolute (.file contents)).LeadsTo folder reached :=
  h.of_directories fun _ hp => directory_put hw.ne_nil hw.noDirectory contents hp

end Disk
end InstanceCatalog
