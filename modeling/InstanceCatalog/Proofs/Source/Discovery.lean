import InstanceCatalog.Files.Disk
import InstanceCatalog.Source.Local
import InstanceCatalog.Source.Remote
import InstanceCatalog.Proofs.Text.ByteOrder
import InstanceCatalog.Proofs.World

namespace InstanceCatalog

variable {σ : Type} {world : σ}

def WebAccess.AnswersAt (web : WebAccess (StateM σ)) (world : σ)
    (answer : WebRequest → Option WebResponse) : Prop :=
  ∀ request, web.send request world = (answer request, world)

def FileAccess.ListsAt (files : FileAccess (StateM σ)) (world : σ)
    (tree : Text → Except FileError (List DirectoryEntry)) : Prop :=
  ∀ path, files.list path world = (tree path, world)

namespace DocumentSource

/-- The source finds these paths: those accepted in one of the folders, in the order of their
bytes and each once. -/
structure Finds (source : DocumentSource (StateM σ)) (world : σ) (folders : List Text)
    (accepts : Text → Text → Prop) (paths : List Text) : Prop where
  discover : source.discover world = (paths, world)
  ascending : Text.Ascending paths
  nodup : paths.Nodup
  mem_iff : ∀ path, path ∈ paths ↔ ∃ folder ∈ folders, accepts folder path

theorem discoverIn_eq {listFolder : Text → StateM σ (List Text)} {listing : Text → List Text}
    {folders : List Text} (h : ∀ folder, listFolder folder world = (listing folder, world)) :
    discoverIn listFolder folders world = (Text.sortedSet (folders.flatMap listing), world) := by
  have hm : folders.mapM listFolder world = (folders.map listing, world) :=
    World.mapM_apply fun folder _ => h folder
  simp only [discoverIn, World.bind_apply, World.pure_apply, hm, List.flatMap_def]

theorem exists_finds {source : DocumentSource (StateM σ)} {folders : List Text}
    {listFolder : Text → StateM σ (List Text)} {listing : Text → List Text}
    {accepts : Text → Text → Prop} (hd : source.discover = discoverIn listFolder folders)
    (hl : ∀ folder, listFolder folder world = (listing folder, world))
    (ha : ∀ folder path, path ∈ listing folder ↔ accepts folder path) :
    ∃ paths, source.Finds world folders accepts paths := by
  have hs := Text.ascending_sortedSet (folders.flatMap listing)
  refine ⟨_, ?_, hs, hs.nodup, ?_⟩
  · rw [hd, discoverIn_eq hl]
  · intro path
    simp only [Text.mem_sortedSet, List.mem_flatMap, ha]

end DocumentSource

namespace RemoteSource

def listing? (answer : WebRequest → Option WebResponse) (settings : Settings) (folder : Text) :
    Option JsonValue := do
  let url ← WebUrl.parse? (contentsAddress settings folder)
  let response ← answer ⟨url, "application/vnd.github+json".toList, settings.userAgent⟩
  if response.isSuccess then Json.read? response.text else none

/-- An entry is listed in a folder when the answer is an array that has it as an item. -/
def Lists (answer : WebRequest → Option WebResponse) (settings : Settings) (folder : Text)
    (entry : ListingEntry) : Prop :=
  ∃ items, listing? answer settings folder = some (.array items) ∧
    ∃ item ∈ items, ListingEntry.ofJson? item = some entry

/-- The path of an entry is accepted when it is a file with the name of a series document. -/
def Accepts (answer : WebRequest → Option WebResponse) (settings : Settings)
    (folder path : Text) : Prop :=
  ∃ entry, Lists answer settings folder entry ∧ entry.kind = "file".toList ∧
    settings.isSeriesDocument entry.name = true ∧ entry.path = path

variable {web : WebAccess (StateM σ)} {answer : WebRequest → Option WebResponse}

theorem listFolder_eq (h : web.AnswersAt world answer) (settings : Settings) (folder : Text) :
    listFolder web settings folder world =
      (((listing? answer settings folder).map (documentPaths settings)).getD [], world) := by
  have hs : ∀ request, web.send request world = (answer request, world) := h
  unfold listFolder getText listing?
  cases WebUrl.parse? (contentsAddress settings folder) with
  | none => rfl
  | some url =>
    simp only [WebAccess.getText, World.bind_apply, hs, Option.bind_eq_bind, Option.bind_some]
    cases answer ⟨url, "application/vnd.github+json".toList, settings.userAgent⟩ with
    | none => rfl
    | some response =>
      simp only [World.pure_apply, Option.bind_some]
      cases response.isSuccess with
      | false => rfl
      | true =>
        simp only [if_true, Option.bind_some]
        cases Json.read? response.text <;> rfl

theorem mem_listing_iff (settings : Settings) (folder path : Text) :
    path ∈ ((listing? answer settings folder).map (documentPaths settings)).getD [] ↔
      Accepts answer settings folder path := by
  unfold Accepts Lists
  cases listing? answer settings folder with
  | none => simp
  | some listing =>
    cases listing with
    | array items =>
      simp only [documentPaths, JsonValue.items?, Option.map_some, Option.getD_some, List.mem_map,
        List.mem_filter, List.mem_filterMap, Bool.and_eq_true, beq_iff_eq, Option.some.injEq,
        JsonValue.array.injEq, exists_eq_left']
      constructor
      · rintro ⟨entry, ⟨hm, hk, hn⟩, hp⟩
        exact ⟨entry, hm, hk, hn, hp⟩
      · rintro ⟨entry, hm, hk, hn, hp⟩
        exact ⟨entry, ⟨hm, hk, hn⟩, hp⟩
    | _ => simp [documentPaths, JsonValue.items?]

end RemoteSource

namespace LocalSource

def Lists (tree : Text → Except FileError (List DirectoryEntry)) (root : Text)
    (settings : Settings) (folder : Text) (entry : DirectoryEntry) : Prop :=
  ∃ entries, tree (Path.join root (folderPath settings folder)) = .ok entries ∧ entry ∈ entries

def Accepts (tree : Text → Except FileError (List DirectoryEntry)) (root : Text)
    (settings : Settings) (folder path : Text) : Prop :=
  ∃ entry, Lists tree root settings folder entry ∧ entry.isFile = true ∧
    settings.isSeriesDocument entry.name = true ∧
    folderPath settings folder ++ '/' :: entry.name = path

variable {files : FileAccess (StateM σ)}
  {tree : Text → Except FileError (List DirectoryEntry)}

def listing (tree : Text → Except FileError (List DirectoryEntry)) (root : Text)
    (settings : Settings) (folder : Text) : List Text :=
  match tree (Path.join root (folderPath settings folder)) with
  | .ok entries => documentPaths settings (folderPath settings folder) entries
  | .error _ => []

theorem listFolder_eq (h : files.ListsAt world tree) (root : Text) (settings : Settings)
    (folder : Text) :
    listFolder files root settings folder world = (listing tree root settings folder, world) := by
  have hs : ∀ path, files.list path world = (tree path, world) := h
  simp only [listFolder, listing, World.bind_apply, hs]
  cases tree (Path.join root (folderPath settings folder)) <;> rfl

theorem mem_listing_iff (root : Text) (settings : Settings) (folder path : Text) :
    path ∈ listing tree root settings folder ↔ Accepts tree root settings folder path := by
  unfold Accepts Lists listing
  cases tree (Path.join root (folderPath settings folder)) with
  | error _ => simp
  | ok entries =>
    simp only [documentPaths, List.mem_map, List.mem_filter, Bool.and_eq_true, Except.ok.injEq,
      exists_eq_left', and_assoc]

end LocalSource

namespace DocumentSource

end DocumentSource
end InstanceCatalog
