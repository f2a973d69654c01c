import InstanceCatalog.Proofs.Files.Tree
import InstanceCatalog.Proofs.Source.Discovery

/-!
Documents of a checkout. The documents found are the files in the size folders that have the name of
a series document, and each is fetched with the text that it holds. Where the settings have no
double dot, nothing but what is below the root is looked at, with one exception: settings that name
no directory for the size folders make their paths begin with a slash, and then the folders are
those of the whole disk.
-/

namespace InstanceCatalog

namespace Disk

def places (disk : Disk) (path : Text) : List (List Text) := (disk.resolve path).toOption.toList

theorem mem_places_iff {disk : Disk} {path : Text} {place : List Text} :
    place ∈ disk.places path ↔ disk.resolve path = .ok place := by
  rw [places]
  cases disk.resolve path with
  | error cause => simp [Except.toOption]
  | ok reached => simp [Except.toOption, eq_comm]

/-- The disk as a world that keeps a record of the places that were opened or listed. -/
def watched : FileAccess (StateM (Disk × List (List Text))) where
  openFile path := do
    let (disk, seen) ← get
    set (disk, seen ++ disk.places path)
    return disk.openFile path
  write path contents := do
    let (disk, seen) ← get
    let (answer, next) := access.write path contents disk
    set (next, seen)
    return answer
  createDirectories path := do
    let (disk, seen) ← get
    let (answer, next) := access.createDirectories path disk
    set (next, seen)
    return answer
  list path := do
    let (disk, seen) ← get
    set (disk, seen ++ disk.places path)
    return disk.list path

def IsBelow (disk : Disk) (folder : Text) (place : List Text) : Prop :=
  ∃ top, disk.walk (startOf folder) (Path.folderNames folder) = .ok top ∧ top <+: place

end Disk

namespace LocalSource

open Disk InstanceCatalog.Path

def sizesPath (settings : Settings) : Text := Text.strip (· == '/') settings.sizesRoot

/-- Where the size folders are looked for: below the root, or on the whole disk if the settings name
no directory for them. -/
def base (root : Text) (settings : Settings) : Text :=
  if sizesPath settings = [] then ['/'] else root

def namesFrom (base : Text) (settings : Settings) (below : Text) : List Text :=
  folderNames base ++ names (sizesPath settings) ++ names below

/-- In the folder for a subfolder stands a file with the name of a series document. -/
structure Holds (disk : Disk) (base : Text) (settings : Settings) (subfolder name : Text)
    (contents : Bytes) : Prop where
  series : settings.isSeriesDocument name = true
  stands : ∃ place, disk.walk (startOf base) (namesFrom base settings subfolder) = .ok place ∧
    disk.found? (place ++ [name]) = some (.file contents)

theorem walk_join_folderPath (disk : Disk) (root : Text) (settings : Settings) (below : Text) :
    disk.walk (startOf (join root (folderPath settings below)))
        (names (join root (folderPath settings below))) =
      disk.walk (startOf (base root settings)) (namesFrom (base root settings) settings below) := by
  have hf : folderPath settings below = sizesPath settings ++ '/' :: below := rfl
  have hn : names (folderPath settings below) = names (sizesPath settings) ++ names below :=
    List.splitOn_append_cons_self _ _
  rw [base, namesFrom]
  by_cases hs : sizesPath settings = []
  · -- the path is absolute, and both ways begin with steps that stay at the root of the disk
    have hj : join root (folderPath settings below) = folderPath settings below := by
      rw [join, hf, hs, if_pos (by simp)]
    rw [if_pos hs, hj, hn, hs, hf, hs]
    rfl
  · have hh : (folderPath settings below).head? ≠ some '/' := by
      rw [hf, List.head?_append_of_ne_nil _ hs]
      intro hc
      exact absurd (Text.head?_strip _ _ _ hc) (by decide)
    rw [if_neg hs, startOf_join_of_relative hh, names_join_of_relative hh, hn, List.append_assoc]

theorem walk_of_resolve {disk : Disk} {root below : Text} {settings : Settings}
    {place : List Text}
    (h : disk.resolve (join root (folderPath settings below)) = .ok place) :
    disk.walk (startOf (base root settings)) (namesFrom (base root settings) settings below) =
      .ok place := by
  rw [← walk_join_folderPath]
  exact (resolve_eq_ok h).2.2

theorem resolve_of_walk {disk : Disk} (ht : disk.IsTree) {root below : Text} {settings : Settings}
    {place : List Text} (hf : (disk.found? place).isSome = true)
    (h : disk.walk (startOf (base root settings)) (namesFrom (base root settings) settings below) =
      .ok place) :
    disk.resolve (join root (folderPath settings below)) = .ok place := by
  rw [← walk_join_folderPath] at h
  have hz : (join root (folderPath settings below)).contains '\x00' = false := by
    rw [Bool.eq_false_iff, ne_eq, List.contains_iff_mem]
    intro hm
    obtain ⟨name, hn, hc⟩ := exists_name_of_mem hm (by decide)
    exact ht.noNul_of_walk h hf name hn hc
  have he : (join root (folderPath settings below)).isEmpty = false := by
    rw [List.isEmpty_eq_false_iff, join, folderPath]
    split
    · simp
    · split
      · simp
      · simp
  rw [disk.resolve_of_noNul hz he, h]

theorem mem_listing_iff_holds {disk : Disk} (ht : disk.IsTree) {root subfolder path : Text}
    {settings : Settings} :
    path ∈ listing disk.list root settings subfolder ↔
      ∃ name contents, Holds disk (base root settings) settings subfolder name contents ∧
        path = folderPath settings subfolder ++ '/' :: name := by
  rw [mem_listing_iff]
  constructor
  · rintro ⟨⟨name, isFile⟩, ⟨entries, hl, hm⟩, hf, hs, rfl⟩
    obtain rfl : isFile = true := hf
    obtain ⟨place, contents, hr, hc⟩ := ht.mem_list_iff.mp ⟨entries, hl, hm⟩
    exact ⟨name, contents, ⟨hs, place, walk_of_resolve hr, hc⟩, rfl⟩
  · rintro ⟨name, contents, ⟨hs, place, hw, hc⟩, rfl⟩
    have hd : (disk.found? place).isSome = true := by rw [(ht.of_found?_concat hc).2]; rfl
    obtain ⟨entries, hl, hm⟩ :=
      ht.mem_list_iff.mpr ⟨place, contents, resolve_of_walk ht hd hw, hc⟩
    exact ⟨⟨name, true⟩, ⟨entries, hl, hm⟩, rfl, hs, rfl⟩

theorem folderPath_append (settings : Settings) (subfolder name : Text) :
    folderPath settings subfolder ++ '/' :: name = folderPath settings (subfolder ++ '/' :: name) :=
  List.append_assoc _ _ _

theorem names_append_name {subfolder name : Text} (hn : IsFileName name) :
    names (subfolder ++ '/' :: name) = names subfolder ++ [name] := by
  rw [← hn.names_eq]
  exact List.splitOn_append_cons_self subfolder name

/-- The path of a document leads to its file. -/
theorem Holds.resolve {disk : Disk} (ht : disk.IsTree) {root subfolder name : Text}
    {settings : Settings} {contents : Bytes}
    (h : Holds disk (base root settings) settings subfolder name contents) :
    ∃ place, disk.resolve (join root (folderPath settings (subfolder ++ '/' :: name))) = .ok place ∧
      disk.found? place = some (.file contents) := by
  obtain ⟨place, hw, hc⟩ := h.stands
  obtain ⟨hn, hd⟩ := ht.of_found?_concat hc
  refine ⟨place ++ [name], resolve_of_walk ht (by rw [hc]; rfl) ?_, hc⟩
  rw [namesFrom, names_append_name hn.toIsFileName, ← List.append_assoc, walk_append, ← namesFrom,
    hw]
  exact (walk_name hn.toIsFileName hd).trans (if_neg (Nat.not_lt.mpr hn.fits))

theorem discover_watched (disk : Disk) (root : Text) (settings : Settings)
    (seen : List (List Text)) :
    (localSource watched root settings).discover (disk, seen) =
      (((localSource access root settings).discover disk).1, disk,
        seen ++ settings.subfolders.flatMap fun subfolder =>
          disk.places (join root (folderPath settings subfolder))) := by
  have hl : ∀ subfolder seen, listFolder watched root settings subfolder (disk, seen) =
      (listing disk.list root settings subfolder, disk,
        seen ++ disk.places (join root (folderPath settings subfolder))) := by
    intro subfolder seen
    simp only [listFolder, listing, World.bind_apply]
    have hw : (watched.list (join root (folderPath settings subfolder))) (disk, seen) =
        (disk.list (join root (folderPath settings subfolder)), disk,
          seen ++ disk.places (join root (folderPath settings subfolder))) := rfl
    rw [hw]
    cases disk.list (join root (folderPath settings subfolder)) <;> rfl
  have hd : (localSource access root settings).discover disk =
      (Text.sortedSet (settings.subfolders.flatMap (listing disk.list root settings)), disk) :=
    DocumentSource.discoverIn_eq (listFolder_eq (fun _ => rfl) root settings)
  rw [hd]
  simp only [localSource, DocumentSource.discoverIn, World.bind_apply, World.pure_apply,
    World.mapM_recorded hl, List.flatMap_def]

def text? : Except FileError (Except FileError Bytes) → Option Text
  | .ok (.ok contents) => Utf8.decode contents
  | _ => none

theorem fetch_eq {σ : Type} {files : FileAccess (StateM σ)} {world next : σ} {root path : Text}
    {opened : Except FileError (Except FileError Bytes)}
    (h : files.openFile (join root path) world = (opened, next)) :
    fetch files root path world = (text? opened, next) := by
  simp only [fetch, FileAccess.readText, World.bind_apply, h]
  cases opened with
  | error cause => rfl
  | ok answer =>
    cases answer with
    | error cause => rfl
    | ok contents =>
      dsimp only [text?]
      cases Utf8.decode contents <;> rfl

theorem fetch_access (disk : Disk) (root path : Text) :
    fetch access root path disk = (text? (disk.openFile (join root path)), disk) :=
  fetch_eq (access_openFile disk _)

theorem fetch_watched (disk : Disk) (root path : Text) (seen : List (List Text)) :
    fetch watched root path (disk, seen) =
      ((fetch access root path disk).1, disk, seen ++ disk.places (join root path)) := by
  rw [fetch_access]
  exact fetch_eq rfl

/-- Without a double dot in the settings or below, a path leads to below the base. -/
theorem isBelow_of_resolve {disk : Disk} {root below : Text} {settings : Settings}
    {place : List Text} (hs : ['.', '.'] ∉ names settings.sizesRoot) (hb : ['.', '.'] ∉ names below)
    (h : disk.resolve (join root (folderPath settings below)) = .ok place) :
    disk.IsBelow (base root settings) place := by
  have hw := walk_of_resolve h
  rw [namesFrom, List.append_assoc, walk_append] at hw
  cases ht : disk.walk (startOf (base root settings)) (folderNames (base root settings)) with
  | error cause =>
    rw [ht] at hw
    cases hw
  | ok top =>
    rw [ht] at hw
    refine ⟨top, ht, prefix_of_walk hw ?_⟩
    rw [List.mem_append, not_or]
    refine ⟨fun hc => ?_, hb⟩
    rcases Text.mem_splitOn_strip hc with he | hm
    · cases he
    · exact hs hm

/-- On every directory tree the documents found are the files with the name of a series document in
the folders below the base, and each is fetched with its text. Settings without a double dot list
and open nothing but what is below the base, which is the root wherever the settings name a
directory for the size folders. -/
theorem documents_below_base {disk : Disk} (ht : disk.IsTree) (root : Text)
    (settings : Settings) :
    ∃ paths, (localSource access root settings).Finds disk settings.subfolders
        (fun subfolder path => ∃ name contents,
          Holds disk (base root settings) settings subfolder name contents ∧
            path = folderPath settings subfolder ++ '/' :: name) paths ∧
      (∀ subfolder name contents,
        Holds disk (base root settings) settings subfolder name contents →
          (localSource access root settings).fetch
            (folderPath settings subfolder ++ '/' :: name) disk = (Utf8.decode contents, disk)) ∧
      ((∀ text ∈ settings.sizesRoot :: settings.subfolders, ['.', '.'] ∉ names text) →
        ∃ listed, (localSource watched root settings).discover (disk, []) =
            (paths, disk, listed) ∧
          (∀ place ∈ listed, disk.IsBelow (base root settings) place) ∧
          ∀ path ∈ paths, ∃ opened, (localSource watched root settings).fetch path (disk, []) =
              (((localSource access root settings).fetch path disk).1, disk, opened) ∧
            ∀ place ∈ opened, disk.IsBelow (base root settings) place) := by
  have hd : (localSource access root settings).discover =
      DocumentSource.discoverIn (listFolder access root settings) settings.subfolders := rfl
  obtain ⟨paths, hp⟩ := DocumentSource.exists_finds hd
    (listFolder_eq (fun _ => rfl) root settings) fun _ _ => mem_listing_iff_holds ht
  refine ⟨paths, hp, ?_, ?_⟩
  · intro subfolder name contents h
    obtain ⟨place, hr, hc⟩ := h.resolve ht
    refine (fetch_access disk root _).trans ?_
    rw [folderPath_append, openFile_of_resolve hr hc]
    rfl
  · intro hn
    obtain ⟨hs, hf⟩ := List.forall_mem_cons.mp hn
    refine ⟨_, (discover_watched disk root settings []).trans (by rw [hp.discover]), ?_, ?_⟩
    · intro place hm
      obtain ⟨subfolder, hsub, hm⟩ := List.mem_flatMap.mp hm
      exact isBelow_of_resolve hs (hf subfolder hsub) (mem_places_iff.mp hm)
    · intro path hm
      obtain ⟨subfolder, hsub, name, contents, h, rfl⟩ := (hp.mem_iff path).mp hm
      refine ⟨_, fetch_watched disk root _ [], fun place hm => ?_⟩
      rw [folderPath_append] at hm
      refine isBelow_of_resolve hs ?_ (mem_places_iff.mp hm)
      obtain ⟨_, -, hc⟩ := h.stands
      have he := (ht.of_found?_concat hc).1.toIsFileName
      rw [names_append_name he, List.mem_append, not_or, List.mem_singleton]
      exact ⟨hf subfolder hsub, he.ne_dots.symm⟩

def oneFolder (sizesRoot subfolder : Text) : Settings :=
  { Settings.standard with sizesRoot := sizesRoot, subfolders := [subfolder] }

theorem documents_below_base_slashes :
    ∃ disk : Disk, disk.IsTree ∧
      (∀ text ∈ ["/a//b/".toList, "/c/".toList], ['.', '.'] ∉ names text) ∧
      ∃ paths listed, "a//b//c//x-series.md".toList ∈ paths ∧
        (localSource watched ['d'] (oneFolder "/a//b/".toList "/c/".toList)).discover (disk, []) =
          (paths, disk, listed) ∧
        (∀ place ∈ listed, disk.IsBelow ['d'] place) ∧
        (localSource access ['d'] (oneFolder "/a//b/".toList "/c/".toList)).fetch
          "a//b//c//x-series.md".toList disk = (some "| Size |".toList, disk) := by
  generalize hs : oneFolder "/a//b/".toList "/c/".toList = settings
  generalize hd : Disk.initial.withWorkEntry "d/a/b/c/x-series.md".toList
    (.file (Utf8.encode "| Size |".toList)) = disk
  have hn : ∀ text ∈ settings.sizesRoot :: settings.subfolders, ['.', '.'] ∉ names text := by
    subst hs
    decide +kernel
  have ht : disk.IsTree := by
    subst hd
    decide +kernel
  have hb : base ['d'] settings = ['d'] := by
    subst hs
    decide +kernel
  have hp : folderPath settings "/c/".toList ++ '/' :: "x-series.md".toList =
      "a//b//c//x-series.md".toList := by
    subst hs
    decide +kernel
  have hh : Holds disk (base ['d'] settings) settings "/c/".toList "x-series.md".toList
      (Utf8.encode "| Size |".toList) := by
    rw [hb]
    refine ⟨?_, ["scratch", "work", "d", "a", "b", "c"].map String.toList, ?_, ?_⟩
    · subst hs
      decide +kernel
    · subst hs hd
      decide +kernel
    · subst hd
      decide +kernel
  obtain ⟨paths, hf, hc, hw⟩ := documents_below_base ht ['d'] settings
  obtain ⟨listed, hl, hi, -⟩ := hw hn
  have hm : "/c/".toList ∈ settings.subfolders := by
    subst hs
    exact List.mem_singleton_self _
  have hx := hc _ _ _ hh
  have hl' := (hf.mem_iff _).mpr ⟨_, hm, _, _, hh, rfl⟩
  rw [hp] at hx hl'
  rw [Utf8.decode_encode] at hx
  rw [hb] at hi
  subst hs
  exact ⟨disk, ht, hn, paths, listed, hl', hl, hi, hx⟩

/-- With no directory named, the document in the size folder below the root is not found, and the
one in the folder of that name on the whole disk is. -/
theorem whole_disk_searched :
    ∃ disk : Disk, disk.IsTree ∧
      Holds disk ['.'] (oneFolder [] ['g']) ['g'] "x-series.md".toList [] ∧
      (localSource watched ['.'] (oneFolder [] ['g'])).discover (disk, []) =
        (["/g/y-series.md".toList], disk, [[['g']]]) ∧
      ¬disk.IsBelow ['.'] [['g']] := by
  refine ⟨((Disk.initial.withWorkEntry "g/x-series.md".toList (.file [])).put [['g']]
    .directory).put [['g'], "y-series.md".toList] (.file []), by decide +kernel,
    ⟨by decide +kernel, ["scratch", "work", "g"].map String.toList, by decide +kernel,
      by decide +kernel⟩, ?_, ?_⟩
  · change @Eq (List Text × Disk × List (List Text)) _ _
    decide +kernel
  · rintro ⟨top, hw, hp⟩
    obtain rfl : workingDirectory = top := Except.ok.inj hw
    revert hp
    decide +kernel

end LocalSource
end InstanceCatalog
