import InstanceCatalog.Proofs.LookupTable.Reading
import InstanceCatalog.Proofs.Text.Pieces

namespace InstanceCatalog
namespace LookupTable

/-- The characters that end a line of source text. A line feed does; on a carriage return alone
compilers differ. -/
structure LineEnds where
  ends : Char → Bool
  lineFeed : ends '\n' = true
  only : ∀ c, ends c = true → c = '\n' ∨ c = '\r'

def escapes : List (Char × Char) :=
  [('\'', '\''), ('"', '"'), ('?', '?'), ('\\', '\\'), ('a', '\x07'), ('b', '\x08'), ('t', '\t'),
    ('n', '\n'), ('v', '\x0B'), ('f', '\x0C'), ('r', '\r')]

/-- The inside of a string literal, and the text that it denotes. Quotes, backslashes and line ends
do not stand for themselves. -/
inductive Spells (lines : LineEnds) : Text → Text → Prop
  | done : Spells lines [] []
  | plain {c inside value} : c ≠ '"' → c ≠ '\\' → lines.ends c = false → Spells lines inside value →
    Spells lines (c :: inside) (c :: value)
  | escape {mark c inside value} : (mark, c) ∈ escapes → Spells lines inside value →
    Spells lines ('\\' :: mark :: inside) (c :: value)

def Denotes (lines : LineEnds) (literal value : Text) : Prop :=
  ∃ inside, literal = '"' :: inside ++ ['"'] ∧ Spells lines inside value

variable {lines : LineEnds}

theorem LineEnds.ends_eq_false (lines : LineEnds) {c : Char} (hf : c ≠ '\n') (hr : c ≠ '\r') :
    lines.ends c = false := by
  rw [Bool.eq_false_iff]
  intro he
  exact (lines.only c he).elim hf hr

theorem spells_plain_iff {c : Char} {inside value : Text} (hq : c ≠ '"') (hb : c ≠ '\\') :
    Spells lines (c :: inside) value ↔
      lines.ends c = false ∧ ∃ rest, value = c :: rest ∧ Spells lines inside rest := by
  constructor
  · intro h
    cases h with
    | plain _ _ hl h => exact ⟨hl, _, rfl, h⟩
    | escape => exact absurd rfl hb
  · rintro ⟨hl, rest, rfl, h⟩
    exact .plain hq hb hl h

theorem spells_escape_iff {mark : Char} {inside value : Text} :
    Spells lines ('\\' :: mark :: inside) value ↔
      ∃ c rest, (mark, c) ∈ escapes ∧ value = c :: rest ∧ Spells lines inside rest := by
  constructor
  · intro h
    cases h with
    | plain _ hb => exact absurd rfl hb
    | escape hm h => exact ⟨_, _, hm, rfl, h⟩
  · rintro ⟨c, rest, hm, rfl, h⟩
    exact .escape hm h

/-- A quote or a backslash is meant by itself behind a backslash, and nothing else is. -/
theorem mem_escapes_iff {mark c : Char} (h : mark = '"' ∨ mark = '\\') :
    (mark, c) ∈ escapes ↔ c = mark := by
  rcases h with rfl | rfl
  · simp [escapes]
  · simp [escapes]

theorem spells_escaped_iff (lines : LineEnds) (name value : Text) :
    Spells lines (name.flatMap fun c => if c = '"' || c = '\\' then ['\\', c] else [c]) value ↔
      value = name ∧ ∀ c ∈ name, lines.ends c = false := by
  induction name generalizing value with
  | nil =>
    constructor
    · intro h
      cases h
      exact ⟨rfl, by simp⟩
    · rintro ⟨rfl, -⟩
      exact .done
  | cons c name ih =>
    rw [List.flatMap_cons, List.forall_mem_cons]
    by_cases hc : c = '"' ∨ c = '\\'
    · have hl : lines.ends c = false := by
        rcases hc with rfl | rfl
        · exact lines.ends_eq_false (by decide) (by decide)
        · exact lines.ends_eq_false (by decide) (by decide)
      have hf : (if c = '"' || c = '\\' then ['\\', c] else [c]) = ['\\', c] := by
        rw [if_pos (by simpa only [Bool.or_eq_true, decide_eq_true_eq] using hc)]
      rw [hf, List.cons_append, List.singleton_append, spells_escape_iff]
      simp only [mem_escapes_iff hc, ih, hl, true_and]
      constructor
      · rintro ⟨_, _, rfl, rfl, rfl, hn⟩
        exact ⟨rfl, hn⟩
      · rintro ⟨rfl, hn⟩
        exact ⟨c, name, rfl, rfl, rfl, hn⟩
    · obtain ⟨hq, hb⟩ := not_or.mp hc
      have hf : (if c = '"' || c = '\\' then ['\\', c] else [c]) = [c] := by
        rw [if_neg (by simpa only [Bool.or_eq_true, decide_eq_true_eq] using hc)]
      rw [hf, List.singleton_append, spells_plain_iff hq hb]
      simp only [ih]
      constructor
      · rintro ⟨hl, _, rfl, rfl, hn⟩
        exact ⟨rfl, hl, hn⟩
      · rintro ⟨rfl, hl, hn⟩
        exact ⟨hl, name, rfl, rfl, hn⟩

/-- A quoted name is a literal exactly if no line ends in the name, and then it denotes the name. -/
theorem denotes_quoteName_iff (lines : LineEnds) (name value : Text) :
    Denotes lines (quoteName name) value ↔ value = name ∧ ∀ c ∈ name, lines.ends c = false := by
  rw [← spells_escaped_iff, Denotes]
  constructor
  · rintro ⟨inside, he, h⟩
    obtain rfl := List.append_cancel_right (List.cons.inj he).2
    exact h
  · exact fun h => ⟨_, rfl, h⟩

namespace LineEnds

def count (lines : LineEnds) (s : Text) : Nat := s.countP lines.ends

theorem count_append (lines : LineEnds) (s t : Text) :
    lines.count (s ++ t) = lines.count s + lines.count t := List.countP_append

theorem count_eq_zero_iff (lines : LineEnds) {s : Text} :
    lines.count s = 0 ↔ ∀ c ∈ s, lines.ends c = false := by
  simp [count, List.countP_eq_zero]

theorem count_of_notMem (lines : LineEnds) {s : Text} (hf : '\n' ∉ s) (hr : '\r' ∉ s) :
    lines.count s = 0 :=
  lines.count_eq_zero_iff.mpr fun _ hc =>
    lines.ends_eq_false (ne_of_mem_of_not_mem hc hf) (ne_of_mem_of_not_mem hc hr)

theorem count_concat (lines : LineEnds) {s : Text} (hf : '\n' ∉ s) (hr : '\r' ∉ s) :
    lines.count (s ++ ['\n']) = 1 := by
  rw [lines.count_append, lines.count_of_notMem hf hr]
  simp [count, lines.lineFeed]

theorem count_quoteName (lines : LineEnds) (name : Text) :
    lines.count (quoteName name) = lines.count name := by
  have hq : lines.count ['"'] = 0 := lines.count_of_notMem (by decide) (by decide)
  have hb : lines.count ['\\'] = 0 := lines.count_of_notMem (by decide) (by decide)
  have hi : lines.count (name.flatMap fun c => if c = '"' || c = '\\' then ['\\', c] else [c]) =
      lines.count name := by
    induction name with
    | nil => rfl
    | cons c name ih =>
      have hc : lines.count (c :: name) = lines.count [c] + lines.count name :=
        lines.count_append [c] name
      have he : lines.count ['\\', c] = lines.count ['\\'] + lines.count [c] :=
        lines.count_append ['\\'] [c]
      rw [List.flatMap_cons, lines.count_append, ih, hc]
      split
      · rw [he, hb, Nat.zero_add]
      · rfl
  rw [quoteName, ← List.singleton_append, List.append_assoc, lines.count_append,
    lines.count_append, hi, hq, Nat.zero_add, Nat.add_zero]

/-- The lines of an initializer end inside its name. -/
theorem count_initializer (lines : LineEnds) {entry : Entry} (h : entry.memory.IsDouble) :
    lines.count (initializer entry.shaped) = lines.count entry.name := by
  have hd : ∀ {c : Char}, c = '\n' ∨ c = '\r' → c.isDigit = false := by
    rintro c (rfl | rfl)
    · rfl
    · rfl
  have hm : lines.count entry.memory.toText = 0 := by
    apply lines.count_of_notMem
    · exact fun hc => absurd (Binary64.mem_toText h hc) (by decide)
    · exact fun hc => absurd (Binary64.mem_toText h hc) (by decide)
  have hn : ∀ n, lines.count (Text.ofNat n) = 0 := by
    intro n
    apply lines.count_of_notMem
    · exact fun hc => absurd (Text.isDigit_of_mem_ofNat hc) (by decide)
    · exact fun hc => absurd (Text.isDigit_of_mem_ofNat hc) (by decide)
  have hc : lines.count ", ".toList = 0 := lines.count_of_notMem (by decide) (by decide)
  have ho : lines.count "\x7b ".toList = 0 := lines.count_of_notMem (by decide) (by decide)
  have he : lines.count " \x7d".toList = 0 := lines.count_of_notMem (by decide) (by decide)
  simp only [initializer_shaped, lines.count_append, lines.count_quoteName, hm, hn, hc, ho, he]
  omega

theorem count_intercalate (lines : LineEnds) {entries : List Entry}
    (h : ∀ entry ∈ entries, entry.memory.IsDouble) (hn : entries ≠ []) :
    lines.count
        (List.intercalate ",\n".toList (entries.map fun entry => initializer entry.shaped)) + 1 =
      entries.length + (entries.map fun entry => lines.count entry.name).sum := by
  have hs : lines.count ",\n".toList = 1 := lines.count_concat (s := [',']) (by decide) (by decide)
  induction entries with
  | nil => exact absurd rfl hn
  | cons entry entries ih =>
    obtain ⟨he, h⟩ := List.forall_mem_cons.mp h
    by_cases hn : entries = []
    · subst hn
      simp [List.intercalate, lines.count_initializer he, Nat.add_comm]
    · have hm : entries.map (fun entry => initializer entry.shaped) ≠ [] := by simpa using hn
      have hr := ih h hn
      rw [List.map_cons, List.intercalate_cons_of_ne_nil hm, lines.count_append, lines.count_append,
        hs, lines.count_initializer he, List.length_cons, List.map_cons, List.sum_cons]
      omega

/-- A table has a line for each of its records, and one more for each line end in a name. -/
theorem count_render (lines : LineEnds) (vendor : Text) {entries : List Entry}
    (h : ∀ entry ∈ entries, entry.memory.IsDouble) :
    lines.count (render vendor (entries.map Entry.shaped)) =
      lines.count (render vendor []) + entries.length +
        (entries.map fun entry => lines.count entry.name).sum := by
  by_cases hn : entries = []
  · simp [hn]
  · have he : (entries.map Entry.shaped).isEmpty = false := by simpa using hn
    have hj : (entries.map Entry.shaped).map initializer =
        entries.map fun entry => initializer entry.shaped := List.map_map
    have h0 : lines.count "\x7b\x7d;\n".toList = 1 :=
      lines.count_concat (s := "\x7b\x7d;".toList) (by decide) (by decide)
    have h1 : lines.count "\x7b\n".toList = 1 :=
      lines.count_concat (s := ['\x7b']) (by decide) (by decide)
    have h2 : lines.count " \x7d;\n".toList = 1 :=
      lines.count_concat (s := " \x7d;".toList) (by decide) (by decide)
    have hr := lines.count_intercalate h hn
    simp only [render, initializers, he, List.isEmpty_nil, if_true, Bool.false_eq_true, if_false,
      hj, lines.count_append, h0, h1, h2]
    omega

end LineEnds

def nameCells (schema : VendorSchema) (bytes : Bytes) : List Text :=
  match ExportTable.read bytes with
  | .ok (some table) =>
    match schema.columns table.headers with
    | .ok columns => table.rows.map (VendorSchema.cell · columns.name)
    | .error _ => []
  | _ => []

/-- Shaping an export gives the records of entries that have the cells as their names. -/
theorem exists_entries_shapeExport {schema : VendorSchema} {path : Text} {bytes : Bytes}
    {records : List ShapedRecord} (h : schema.shapeExport path bytes = .ok records) :
    ∃ entries : List Entry, (∀ entry ∈ entries, entry.memory.IsDouble) ∧
      entries.map Entry.shaped = records ∧ entries.map Entry.name = nameCells schema bytes := by
  rw [VendorSchema.shapeExport] at h
  rw [nameCells]
  cases hr : ExportTable.read bytes with
  | error index =>
    rw [hr] at h
    cases h
  | ok read =>
    rw [hr] at h
    cases read with
    | none =>
      cases h
      exact ⟨[], by simp, rfl, rfl⟩
    | some table =>
      dsimp only at h ⊢
      rw [VendorSchema.shapeTable] at h
      cases hc : schema.columns table.headers with
      | error failure =>
        rw [hc] at h
        cases h
      | ok columns =>
        rw [hc] at h
        obtain rfl : table.rows.map (schema.shape columns) = records := Except.ok.inj h
        refine ⟨table.rows.map (.ofRow schema columns), ?_, ?_, ?_⟩
        · simp only [List.mem_map]
          rintro _ ⟨row, -, rfl⟩
          exact Entry.isDouble_ofRow schema columns row
        · rw [List.map_map]
          exact List.map_congr_left fun row _ => Entry.shaped_ofRow schema columns row
        · rw [List.map_map]
          rfl

theorem count_render_of_shapeExport {schema : VendorSchema} {path : Text} {bytes : Bytes}
    {records : List ShapedRecord} (h : schema.shapeExport path bytes = .ok records)
    (lines : LineEnds) (vendor : Text) :
    lines.count (render vendor records) = lines.count (render vendor []) + records.length +
      ((nameCells schema bytes).map lines.count).sum := by
  obtain ⟨entries, hd, rfl, hn⟩ := exists_entries_shapeExport h
  rw [lines.count_render vendor hd, ← hn, List.length_map, List.map_map]
  rfl

/-- Whatever an export holds that can be shaped, each of its names in quotes is a string literal
exactly if no line ends in the name, and then it denotes the name. A table has a source line for
each record exactly if this is so for all names: each line end in a name adds one more line. -/
theorem literals_of_shapeExport {schema : VendorSchema} {path : Text} {bytes : Bytes}
    {records : List ShapedRecord} (h : schema.shapeExport path bytes = .ok records)
    (lines : LineEnds) :
    records.map ShapedRecord.name = (nameCells schema bytes).map quoteName ∧
      (∀ name ∈ nameCells schema bytes, ∀ value,
        Denotes lines (quoteName name) value ↔ value = name ∧ ∀ c ∈ name, lines.ends c = false) ∧
      (∀ vendor, lines.count (render vendor records) =
        lines.count (render vendor []) + records.length +
          ((nameCells schema bytes).map lines.count).sum) ∧
      ∀ vendor, lines.count (render vendor records) =
          lines.count (render vendor []) + records.length ↔
        ∀ name ∈ nameCells schema bytes, Denotes lines (quoteName name) name := by
  have hc := count_render_of_shapeExport h lines
  refine ⟨?_, fun name _ value => denotes_quoteName_iff lines name value, hc, fun vendor => ?_⟩
  · obtain ⟨entries, -, rfl, hn⟩ := exists_entries_shapeExport h
    rw [← hn, List.map_map, List.map_map]
    rfl
  · simp only [hc vendor, Nat.add_eq_left, List.sum_eq_zero_iff, List.forall_mem_map,
      lines.count_eq_zero_iff, denotes_quoteName_iff, true_and]

def lineFeeds : LineEnds := ⟨(· == '\n'), rfl, fun _ h => .inl (beq_iff_eq.mp h)⟩

/-- A name with a quote, a carriage return and a backslash at its end. -/
theorem literals_of_shapeExport_escapes :
    VendorSchema.azure.shapeExport "azure.csv".toList
        (Utf8.encode "Size,vC,Memory,Network Bandwidth\n\"a\"\"\rb\\\",2,8,1000\n".toList) =
      .ok [⟨"\"a\\\"\rb\\\\\"".toList, .finite false 4503599627370496 (-49), 2, 1000⟩] ∧
    Denotes lineFeeds "\"a\\\"\rb\\\\\"".toList "a\"\rb\\".toList ∧
    ∀ vendor, lineFeeds.count (render vendor
        [⟨"\"a\\\"\rb\\\\\"".toList, .finite false 4503599627370496 (-49), 2, 1000⟩]) =
      lineFeeds.count (render vendor []) + 1 := by
  have hs : VendorSchema.azure.shapeExport "azure.csv".toList
        (Utf8.encode "Size,vC,Memory,Network Bandwidth\n\"a\"\"\rb\\\",2,8,1000\n".toList) =
      .ok [⟨"\"a\\\"\rb\\\\\"".toList, .finite false 4503599627370496 (-49), 2, 1000⟩] := by
    decide +kernel
  have hn : nameCells .azure
      (Utf8.encode "Size,vC,Memory,Network Bandwidth\n\"a\"\"\rb\\\",2,8,1000\n".toList) =
      ["a\"\rb\\".toList] := by decide +kernel
  obtain ⟨-, hd, -, hc⟩ := literals_of_shapeExport hs lineFeeds
  rw [hn] at hd hc
  have hq : Denotes lineFeeds (quoteName "a\"\rb\\".toList) "a\"\rb\\".toList :=
    (hd _ List.mem_cons_self _).mpr ⟨rfl, by simp [lineFeeds]⟩
  exact ⟨hs, hq, fun vendor => (hc vendor).mpr fun name hm => by
    rw [List.mem_singleton.mp hm]
    exact hq⟩

/-- A line that ends inside a name ends inside its literal. -/
theorem broken_literal :
    VendorSchema.azure.shapeExport "azure.csv".toList
        (Utf8.encode "Size,vC,Memory,Network Bandwidth\n\"a\nb\",2,8,1000\n".toList) =
      .ok [⟨"\"a\nb\"".toList, .finite false 4503599627370496 (-49), 2, 1000⟩] ∧
    ∀ lines : LineEnds, (∀ value, ¬Denotes lines "\"a\nb\"".toList value) ∧
      ∀ vendor, lines.count (render vendor
          [⟨"\"a\nb\"".toList, .finite false 4503599627370496 (-49), 2, 1000⟩]) =
        lines.count (render vendor []) + 2 := by
  have hs : VendorSchema.azure.shapeExport "azure.csv".toList
        (Utf8.encode "Size,vC,Memory,Network Bandwidth\n\"a\nb\",2,8,1000\n".toList) =
      .ok [⟨"\"a\nb\"".toList, .finite false 4503599627370496 (-49), 2, 1000⟩] := by decide +kernel
  have hn : nameCells .azure
      (Utf8.encode "Size,vC,Memory,Network Bandwidth\n\"a\nb\",2,8,1000\n".toList) =
      ["a\nb".toList] := by decide +kernel
  refine ⟨hs, fun lines => ⟨fun value h => ?_, fun vendor => ?_⟩⟩
  · have hl := ((denotes_quoteName_iff lines "a\nb".toList value).mp h).2 '\n' (by decide)
    rw [lines.lineFeed] at hl
    cases hl
  · have ha : lines.count ['a', '\n'] = 1 := lines.count_concat (s := ['a']) (by decide) (by decide)
    have hb : lines.count ['b'] = 0 := lines.count_of_notMem (by decide) (by decide)
    have hc : lines.count "a\nb".toList = lines.count ['a', '\n'] + lines.count ['b'] :=
      lines.count_append ['a', '\n'] ['b']
    rw [count_render_of_shapeExport hs lines vendor, hn, List.map_singleton, List.sum_singleton, hc,
      ha, hb]
    rfl

end LookupTable
end InstanceCatalog
