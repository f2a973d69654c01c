import InstanceCatalog.Proofs.Web.Address
import InstanceCatalog.Source.Remote

namespace InstanceCatalog
namespace RemoteSource

open WebUrl (IsLiteral PlainRoot percentDecode)

/-- A plain root, with any number of slashes behind it and no path. -/
def IsPlainRoot (written : Text) : Prop :=
  ∃ (root : PlainRoot) (slashes : Nat), written = root.text ++ List.replicate slashes '/'

def IsDocumentPath (path : Text) : Prop :=
  ∀ segment ∈ List.splitOn '/' path, segment ≠ [] ∧ segment ≠ ['.'] ∧ segment ≠ ['.', '.']

instance : DecidablePred IsDocumentPath := fun path =>
  inferInstanceAs (Decidable (∀ segment ∈ List.splitOn '/' path, _))

def documentName (settings : Settings) (path : Text) : Text :=
  settings.owner ++ '/' :: settings.repo ++ '/' :: settings.branch ++ '/' :: path

/-- In every world the document is fetched by one request, which goes to this address. -/
def FetchesAt (settings : Settings) (path : Text) (url : WebUrl) : Prop :=
  ∀ (m : Type → Type) [Monad m] (web : WebAccess m),
    fetch web settings path = web.getText ⟨url, "*/*".toList, settings.userAgent⟩

variable {settings : Settings}

theorem documentName_injective {path other : Text}
    (h : documentName settings other = documentName settings path) : other = path := by
  simpa only [documentName, List.append_cancel_left_eq, List.cons.injEq, true_and] using h

theorem fetchesAt_of_parse? {path : Text} {url : WebUrl}
    (h : WebUrl.parse? (rawAddress settings path) = some url) : FetchesAt settings path url := by
  intro m _ web
  rw [fetch, getText, h]

/-- Slashes behind the root are not doubled. -/
theorem dropEndWhile_root (root : PlainRoot) (slashes : Nat) :
    Text.dropEndWhile (· == '/') (root.text ++ List.replicate slashes '/') = root.text := by
  have hs : Text.dropEndWhile (· == '/') (List.replicate slashes '/') = [] := by
    change List.rdropWhile _ _ = _
    rw [List.rdropWhile_eq_nil_iff]
    intro c hc
    rw [List.eq_of_mem_replicate hc]
    rfl
  rw [Text.dropEndWhile_append, if_pos hs]
  apply Text.dropEndWhile_eq_self
  intro c hc
  rw [PlainRoot.text, List.getLast?_append_of_ne_nil _ root.authority_ne_nil] at hc
  exact (Bool.or_eq_false_iff.mp (root.isPlain c (List.mem_of_getLast? hc)).2.1).1

theorem IsDocumentPath.dropWhile_eq {path : Text} (h : IsDocumentPath path) :
    path.dropWhile (· == '/') = path := by
  cases path with
  | nil => rfl
  | cons c rest =>
    apply List.dropWhile_cons_of_neg
    rw [beq_iff_eq]
    rintro rfl
    exact (h [] List.mem_cons_self).1 rfl

/-- The address of a document is always read. -/
theorem exists_parse?_rawAddress (hr : IsPlainRoot settings.rawRoot) (path : Text) :
    ∃ url, WebUrl.parse? (rawAddress settings path) = some url ∧
      url.Keeps (documentName settings (path.dropWhile (· == '/'))) := by
  obtain ⟨root, slashes, hw⟩ := hr
  have ha : rawAddress settings path =
      root.text ++ '/' :: documentName settings (path.dropWhile (· == '/')) := by
    rw [rawAddress, hw, dropEndWhile_root]
    simp only [documentName, List.append_assoc, List.cons_append]
  rw [ha]
  exact root.exists_parse? _

theorem decodes_iff {url : WebUrl} {name : Text} (h : url.Keeps name) :
    percentDecode url.target = Utf8.encode ('/' :: name) ↔ IsLiteral name := by
  have he : Utf8.encode ('/' :: name) = 0x2F :: Utf8.encode name := rfl
  rw [h.percentDecode_target, he, List.cons.injEq, WebUrl.percentDecode_asked_eq_iff]
  exact and_iff_right rfl

/-- Every document is asked for at an address. The server reads its name there exactly when the name
is literal, and all of it as a path when no `?` is in it; so documents of literal names are asked
for apart. -/
theorem fetches_by_name_iff (hr : IsPlainRoot settings.rawRoot) :
    ∃ address : Text → WebUrl, ∀ path, IsDocumentPath path →
      FetchesAt settings path (address path) ∧
      (percentDecode (address path).target = Utf8.encode ('/' :: documentName settings path) ↔
        IsLiteral (documentName settings path)) ∧
      (percentDecode (address path).target = Utf8.encode ('/' :: documentName settings path) ∧
          (address path).query = none ↔
        IsLiteral (documentName settings path) ∧ '?' ∉ documentName settings path) ∧
      (IsLiteral (documentName settings path) → ∀ other, IsDocumentPath other →
        IsLiteral (documentName settings other) →
        (address other).target = (address path).target → other = path) := by
  choose address hparse hkept using exists_parse?_rawAddress hr
  have hkeeps : ∀ path, IsDocumentPath path → (address path).Keeps (documentName settings path) := by
    intro path hp
    have hk := hkept path
    rwa [hp.dropWhile_eq] at hk
  refine ⟨address, fun path hp => ?_⟩
  have hd := decodes_iff (hkeeps path hp)
  refine ⟨fetchesAt_of_parse? (hparse path), hd, ?_, ?_⟩
  · rw [hd, (hkeeps path hp).query_eq_none_iff]
    apply and_congr_right
    intro hl
    rw [(WebUrl.kept_eq_self_iff _).mpr ⟨hl.last, hl.unbroken, hl.unmarked⟩]
  · intro hl other ho hlo ht
    have hb : Utf8.encode ('/' :: documentName settings other) =
        Utf8.encode ('/' :: documentName settings path) := by
      rw [← (decodes_iff (hkeeps other ho)).mpr hlo, ht, hd.mpr hl]
    exact documentName_injective (List.cons.inj (Utf8.encode_inj.mp hb)).2

theorem isPlainRoot_standard : IsPlainRoot Settings.standard.rawRoot := by
  have hp : "raw.githubusercontent.com".toList.all (fun c => !WebUrl.isControlOrBlank c &&
      (!WebUrl.isSlash c && !WebUrl.isEndOfPath c)) = true := by decide
  refine ⟨⟨"https".toList, "raw.githubusercontent.com".toList, .inr rfl, fun c hc => ?_,
    by decide⟩, 0, rfl⟩
  simpa using List.all_eq_true.mp hp c hc

/-- Blanks inside, letters beyond ASCII and lone percent signs are escaped and read back. -/
theorem fetches_by_name_standard :
    IsPlainRoot Settings.standard.rawRoot ∧ ∃ url,
      FetchesAt Settings.standard "gp/Größe 100% (v5)-series.md".toList url ∧
        percentDecode url.target = Utf8.encode
          ('/' :: "MicrosoftDocs/azure-compute-docs/main/gp/Größe 100% (v5)-series.md".toList) ∧
        url.query = none := by
  obtain ⟨address, ha⟩ := fetches_by_name_iff isPlainRoot_standard
  obtain ⟨hf, -, hd, -⟩ := ha "gp/Größe 100% (v5)-series.md".toList (by decide)
  have hn : documentName Settings.standard "gp/Größe 100% (v5)-series.md".toList =
      "MicrosoftDocs/azure-compute-docs/main/gp/Größe 100% (v5)-series.md".toList := by decide
  rw [hn] at hd
  have hl : IsLiteral
      "MicrosoftDocs/azure-compute-docs/main/gp/Größe 100% (v5)-series.md".toList := by
    refine ⟨?_, ?_, by decide, by decide, by decide, by decide⟩
    · have he : "MicrosoftDocs/azure-compute-docs/main/gp/Größe 100% (v5)-series.md".toList.getLast?
          = some 'd' := by decide
      rw [he]
      rintro c ⟨⟩
      rfl
    · have hb : "MicrosoftDocs/azure-compute-docs/main/gp/Größe 100% (v5)-series.md".toList.all
          (!WebUrl.isTabOrLineBreak ·) = true := by decide
      exact fun c hc => by simpa using List.all_eq_true.mp hb c hc
  exact ⟨isPlainRoot_standard, _, hf, hd.mpr ⟨hl, by decide⟩⟩

/-- Two documents are fetched from one address, and it is the name of neither. -/
theorem fetched_at_one_address :
    IsPlainRoot Settings.standard.rawRoot ∧ IsDocumentPath "gp/a#1-series.md".toList ∧
      IsDocumentPath "gp/a#2-series.md".toList ∧ ∃ url,
        FetchesAt Settings.standard "gp/a#1-series.md".toList url ∧
        FetchesAt Settings.standard "gp/a#2-series.md".toList url ∧
        percentDecode url.target =
          Utf8.encode "/MicrosoftDocs/azure-compute-docs/main/gp/a".toList ∧
        ∀ path ∈ ["gp/a#1-series.md".toList, "gp/a#2-series.md".toList],
          percentDecode url.target ≠ Utf8.encode ('/' :: documentName Settings.standard path) := by
  refine ⟨isPlainRoot_standard, by decide, by decide, ⟨true, "raw.githubusercontent.com".toList,
    none, ["MicrosoftDocs".toList, "azure-compute-docs".toList, "main".toList, "gp".toList,
    "a".toList], none⟩, fetchesAt_of_parse? ?_, fetchesAt_of_parse? ?_, by decide, by decide⟩
  · decide +kernel
  · decide +kernel

end RemoteSource
end InstanceCatalog
