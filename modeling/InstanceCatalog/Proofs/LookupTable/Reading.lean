import InstanceCatalog.LookupTable
import InstanceCatalog.Proofs.Number.Written

/-!
The initializers of a lookup table are read back as the records they were written for. A reader of
source text ends a string at its first quote without a backslash before it. No name, whatever it
contains, makes such a reader see an initializer end early or another one begin.
-/

namespace InstanceCatalog
namespace LookupTable

/-- What an initializer says, with the name as it was before it was put in quotes. -/
structure Entry where
  name : Text
  memory : Binary64
  vcpu : Nat
  network : Nat
deriving DecidableEq, Repr

def Entry.shaped (entry : Entry) : ShapedRecord :=
  ⟨quoteName entry.name, entry.memory, entry.vcpu, entry.network⟩

def behind? (mark s : Text) : Option Text :=
  if mark.isPrefixOf s then some (s.drop mark.length) else none

/-- A string from behind its opening quote, and the text behind its closing quote. A backslash is
left out and protects the character behind it. -/
def readString? : Text → Option (Text × Text)
  | '"' :: rest => some ([], rest)
  | '\\' :: c :: rest => (readString? rest).map fun (read, behind) => (c :: read, behind)
  | ['\\'] | [] => none
  | c :: rest => (readString? rest).map fun (read, behind) => (c :: read, behind)

def readMemory? (s : Text) : Option (Binary64 × Text) :=
  (Binary64.read? (s.takeWhile (· != ','))).map (·, s.dropWhile (· != ','))

def readCount? (s : Text) : Option (Nat × Text) :=
  let digits := s.takeWhile Char.isDigit
  if digits.isEmpty then none else some (Text.decimalValue digits, s.dropWhile Char.isDigit)

def readEntry? (s : Text) : Option (Entry × Text) := do
  let (name, s) ← readString? (← behind? "\x7b \"".toList s)
  let (memory, s) ← readMemory? (← behind? ", ".toList s)
  let (vcpu, s) ← readCount? (← behind? ", ".toList s)
  let (network, s) ← readCount? (← behind? ", ".toList s)
  return (⟨name, memory, vcpu, network⟩, ← behind? " \x7d".toList s)

/-- Initializers, of which there is one at least, with commas and line breaks between. Each has a
character, so the length of the text bounds their number. -/
def readEntriesWithin : Nat → Text → Option (List Entry × Text)
  | 0, _ => none
  | steps + 1, s => do
    let (entry, s) ← readEntry? s
    match behind? ",\n".toList s with
    | none => return ([entry], s)
    | some s =>
      let (entries, s) ← readEntriesWithin steps s
      return (entry :: entries, s)

def readInitializers? (s : Text) : Option (List Entry × Text) :=
  match behind? "\x7b\x7d;\n".toList s with
  | some s => some ([], s)
  | none => do
    let s ← behind? "\x7b\n".toList s
    let (entries, s) ← readEntriesWithin s.length s
    return (entries, ← behind? " \x7d;\n".toList s)

/-- Reads the table of a vendor. Nothing else than its closing lines may follow the initializers. -/
def read? (vendor s : Text) : Option (List Entry) := do
  let (entries, s) ← readInitializers? (← behind? (opening vendor) s)
  if s = closing then return entries else none

theorem isDouble_of_joined {text : Text} {x : Binary64} (h : Amount.joined text = some x) :
    x.IsDouble := by
  unfold Amount.joined at h
  split at h
  · simp only at h
    split at h
    · next d _ hf =>
      obtain rfl := Option.some.inj h
      exact Binary64.isDouble_ofRatio d.digits (by positivity) hf
    · cases h
  · cases h

def Entry.ofRow (schema : VendorSchema) (columns : SchemaColumns) (row : List Text) : Entry :=
  let shaped := schema.shape columns row
  ⟨VendorSchema.cell row columns.name, shaped.memory, shaped.vcpu, shaped.network⟩

theorem Entry.shaped_ofRow (schema : VendorSchema) (columns : SchemaColumns) (row : List Text) :
    (ofRow schema columns row).shaped = schema.shape columns row := rfl

/-- Whatever the row holds, the memory of its entry is finite. -/
theorem Entry.isDouble_ofRow (schema : VendorSchema) (columns : SchemaColumns) (row : List Text) :
    (ofRow schema columns row).memory.IsDouble := by
  change ((Amount.joined (VendorSchema.cell row columns.memory)).getD .zero).IsDouble
  cases hj : Amount.joined (VendorSchema.cell row columns.memory) with
  | none => exact Binary64.isDouble_zero
  | some x => exact isDouble_of_joined hj

theorem behind?_append (mark s : Text) : behind? mark (mark ++ s) = some s := by
  have hp : mark.isPrefixOf (mark ++ s) = true :=
    List.isPrefixOf_iff_prefix.mpr (List.prefix_append mark s)
  rw [behind?, if_pos hp, List.drop_left]

/-- A name comes out of its quotes as it went in, whatever follows. -/
theorem readString?_quoteName (name rest : Text) :
    ∃ inner, quoteName name ++ rest = '"' :: inner ∧ readString? inner = some (name, rest) := by
  refine ⟨name.flatMap (fun c => if c = '"' || c = '\\' then ['\\', c] else [c]) ++ '"' :: rest,
    by simp [quoteName], ?_⟩
  induction name with
  | nil => simp [readString?]
  | cons c name ih =>
    rw [List.flatMap_cons, List.append_assoc]
    generalize name.flatMap _ ++ '"' :: rest = inner at ih ⊢
    by_cases hq : c = '"'
    · subst hq
      simp [readString?, ih]
    · by_cases hb : c = '\\'
      · subst hb
        simp [readString?, ih]
      · simp [readString?, hq, hb, ih]

theorem readMemory?_toText {memory : Binary64} (h : memory.IsDouble) {rest : Text}
    (hs : ∀ c ∈ rest.head?, (c != ',') = false) :
    readMemory? (memory.toText ++ rest) = some (memory, rest) := by
  have hm : ∀ c ∈ memory.toText, (c != ',') = true := by
    intro c hc
    rw [bne_iff_ne]
    rintro rfl
    exact absurd (Binary64.mem_toText h hc) (by decide)
  rw [readMemory?, Text.takeWhile_append_of_stop hm hs, Text.dropWhile_append_of_stop hm hs,
    Binary64.read?_toText h]
  rfl

theorem readCount?_ofNat (n : Nat) {rest : Text} (h : ∀ c ∈ rest.head?, c.isDigit = false) :
    readCount? (Text.ofNat n ++ rest) = some (n, rest) := by
  have hd : ∀ c ∈ Text.ofNat n, c.isDigit = true := fun _ => Text.isDigit_of_mem_ofNat
  simp only [readCount?, Text.takeWhile_append_of_stop hd h, Text.dropWhile_append_of_stop hd h,
    Text.decimalValue_ofNat]
  simp [Text.ofNat_ne_nil]

theorem initializer_shaped (entry : Entry) : initializer entry.shaped =
    "\x7b ".toList ++ (quoteName entry.name ++ (", ".toList ++ (entry.memory.toText ++
      (", ".toList ++ (Text.ofNat entry.vcpu ++ (", ".toList ++ (Text.ofNat entry.network ++
        " \x7d".toList))))))) := by
  delta initializer
  simp only [Entry.shaped, List.append_assoc]

theorem readEntry?_initializer {entry : Entry} (h : entry.memory.IsDouble) (rest : Text) :
    readEntry? (initializer entry.shaped ++ rest) = some (entry, rest) := by
  obtain ⟨inner, hi, hs⟩ := readString?_quoteName entry.name
    (", ".toList ++ (entry.memory.toText ++ (", ".toList ++ (Text.ofNat entry.vcpu ++
      (", ".toList ++ (Text.ofNat entry.network ++ (" \x7d".toList ++ rest)))))))
  -- the quote that opens the name is read with the brace
  have ht : initializer entry.shaped ++ rest = "\x7b \"".toList ++ inner := by
    simp only [initializer_shaped, List.append_assoc, hi]
    rfl
  have hm : ∀ s, readMemory? (entry.memory.toText ++ (", ".toList ++ s)) =
      some (entry.memory, ", ".toList ++ s) := fun s => readMemory?_toText h (by simp)
  have hc : ∀ n s, readCount? (Text.ofNat n ++ (", ".toList ++ s)) = some (n, ", ".toList ++ s) :=
    fun n s => readCount?_ofNat n (by simp)
  have hl : ∀ n s, readCount? (Text.ofNat n ++ (" \x7d".toList ++ s)) =
      some (n, " \x7d".toList ++ s) := fun n s => readCount?_ofNat n (by simp)
  rw [ht, readEntry?]
  simp only [behind?_append, hs, hm, hc, hl, Option.bind_eq_bind, Option.bind_some]
  rfl

theorem length_le_intercalate (entries : List Entry) :
    entries.length ≤
      (List.intercalate ",\n".toList (entries.map fun entry => initializer entry.shaped)).length := by
  induction entries with
  | nil => exact Nat.zero_le _
  | cons entry entries ih =>
    have hi : 1 ≤ (initializer entry.shaped).length := by
      simp [initializer_shaped]
    cases entries with
    | nil => simpa [List.intercalate] using hi
    | cons next entries =>
      simp only [List.map_cons, List.intercalate_cons_cons, List.length_append,
        List.length_cons] at ih ⊢
      omega

theorem readEntriesWithin_intercalate {entries : List Entry} (hn : entries ≠ [])
    (h : ∀ entry ∈ entries, entry.memory.IsDouble) {rest : Text}
    (hr : behind? ",\n".toList rest = none) (steps : Nat) (hs : entries.length ≤ steps) :
    readEntriesWithin steps
      (List.intercalate ",\n".toList (entries.map fun entry => initializer entry.shaped) ++ rest) =
      some (entries, rest) := by
  induction entries generalizing steps with
  | nil => exact absurd rfl hn
  | cons entry entries ih =>
    obtain ⟨he, h⟩ := List.forall_mem_cons.mp h
    obtain ⟨steps, rfl⟩ : ∃ k, steps = k + 1 := ⟨steps - 1, by simp at hs; omega⟩
    rw [readEntriesWithin]
    cases entries with
    | nil =>
      simp only [List.map_cons, List.map_nil, List.intercalate_singleton, readEntry?_initializer he,
        Option.bind_eq_bind, Option.bind_some, hr]
      rfl
    | cons next entries =>
      have hl : (next :: entries).length ≤ steps := by simpa using hs
      have hi := ih (List.cons_ne_nil _ _) h steps hl
      rw [List.map_cons] at hi
      simp only [List.map_cons, List.intercalate_cons_cons, List.append_assoc,
        readEntry?_initializer he, Option.bind_eq_bind, Option.bind_some, behind?_append]
      rw [hi]
      rfl

theorem readInitializers?_initializers {entries : List Entry}
    (h : ∀ entry ∈ entries, entry.memory.IsDouble) (rest : Text) :
    readInitializers? (initializers (entries.map Entry.shaped) ++ rest) = some (entries, rest) := by
  unfold initializers
  cases hn : entries with
  | nil =>
    rw [List.map_nil, List.isEmpty_nil, if_pos rfl, readInitializers?, behind?_append]
  | cons entry others =>
    rw [← hn]
    have he : (entries.map Entry.shaped).isEmpty = false := by simp [hn]
    -- only a list without records has its braces side by side
    have hb : ∀ s, behind? "\x7b\x7d;\n".toList ("\x7b\n".toList ++ s) = none := fun s => rfl
    have hj : (entries.map Entry.shaped).map initializer =
        entries.map fun entry => initializer entry.shaped := List.map_map
    have hr := readEntriesWithin_intercalate (hn ▸ List.cons_ne_nil entry others) h
      (rfl : behind? ",\n".toList (" \x7d;\n".toList ++ rest) = none)
    rw [he, if_neg (by decide), hj, List.append_assoc, List.append_assoc, readInitializers?, hb]
    simp only [behind?_append, Option.bind_eq_bind, Option.bind_some]
    rw [hr]
    · simp only [behind?_append, Option.bind_some]
      rfl
    · rw [List.length_append]
      exact (length_le_intercalate entries).trans (Nat.le_add_right _ _)

/-- The table of any records, whatever their names contain, is read back as these records in their
order, so no two lists of records have the same table. -/
theorem read?_render (vendor : Text) (entries others : List Entry)
    (h : ∀ entry ∈ entries, entry.memory.IsDouble) (ho : ∀ entry ∈ others, entry.memory.IsDouble) :
    read? vendor (render vendor (entries.map Entry.shaped)) = some entries ∧
      (render vendor (entries.map Entry.shaped) = render vendor (others.map Entry.shaped) →
        entries = others) := by
  have hr : ∀ {entries : List Entry}, (∀ entry ∈ entries, entry.memory.IsDouble) →
      read? vendor (render vendor (entries.map Entry.shaped)) = some entries := by
    intro entries h
    rw [render, List.append_assoc, read?, behind?_append]
    simp [readInitializers?_initializers h]
  refine ⟨hr h, fun he => ?_⟩
  have hs := hr h
  rw [he, hr ho] at hs
  exact (Option.some.inj hs).symm

/-- One name ends with a backslash, the other holds all that stands between two names. -/
def deceptive : List Entry :=
  [⟨"m5\\".toList, .finite false 7205759403792794 (-56), 2, 10000⟩,
    ⟨"a\", 8.0, 2, 5 \x7d,\n\x7b \"b".toList, .finite true 0 (-1074), 0, 0⟩]

theorem read?_render_deceptive :
    read? "AWS".toList (render "AWS".toList (deceptive.map Entry.shaped)) = some deceptive ∧
      render "AWS".toList (deceptive.map Entry.shaped) ≠
        render "AWS".toList (([] : List Entry).map Entry.shaped) := by
  have hd : ∀ entry ∈ deceptive, entry.memory.IsDouble := by
    simp only [deceptive, List.forall_mem_cons]
    exact ⟨⟨by decide, by decide, by decide, by decide⟩,
      ⟨by decide, by decide, by decide, by decide⟩, nofun⟩
  obtain ⟨hr, hi⟩ := read?_render "AWS".toList deceptive [] hd nofun
  exact ⟨hr, fun he => absurd (hi he) (by decide)⟩

end LookupTable
end InstanceCatalog
