import InstanceCatalog.Csv.Format
import Mathlib.Data.List.Infix

namespace InstanceCatalog
namespace Csv

/-- A reader between two bytes, with the bytes of its field and the fields before it, last
first. -/
structure Reader where
  place : Place
  field : Bytes
  fields : List Bytes

namespace Reader

def start : Reader := ⟨.recordStart, [], []⟩

def record (r : Reader) : List Bytes := (r.field.reverse :: r.fields).reverse

def advance (r : Reader) (b : UInt8) : Reader :=
  match step r.place b with
  | (.keep, next) => ⟨next, b :: r.field, r.fields⟩
  | (.drop, next) => ⟨next, r.field, r.fields⟩
  | (.endField, next) => ⟨next, [], r.field.reverse :: r.fields⟩
  | (.endRecord, next) => ⟨next, [], []⟩

def after (r : Reader) (bytes : Bytes) : Reader := bytes.foldl advance r

/-- The records that bytes complete. -/
def completed (r : Reader) : Bytes → List (List Bytes)
  | [] => []
  | b :: rest =>
    match step r.place b with
    | (.endRecord, _) => r.record :: completed (r.advance b) rest
    | _ => completed (r.advance b) rest

def cutOff (r : Reader) : List (List Bytes) :=
  match r.place with
  | .recordStart => []
  | _ => [r.record]

theorem after_append (r : Reader) (first second : Bytes) :
    r.after (first ++ second) = (r.after first).after second := List.foldl_append

theorem completed_append (r : Reader) (first second : Bytes) :
    r.completed (first ++ second) = r.completed first ++ (r.after first).completed second := by
  induction first generalizing r with
  | nil => rfl
  | cons b rest ih =>
    simp only [List.cons_append, completed, ih]
    split <;> rfl

/-- Reading to the end gives the completed records and the one that is cut off. -/
theorem readFrom_eq (r : Reader) (bytes : Bytes) :
    readFrom r.place r.field r.fields bytes = r.completed bytes ++ (r.after bytes).cutOff := by
  induction bytes generalizing r with
  | nil => rfl
  | cons b rest ih =>
    have ha : r.after (b :: rest) = (r.advance b).after rest := rfl
    rw [ha, readFrom, completed]
    split
    all_goals
      next h =>
        have hr := ih (r.advance b)
        simp only [advance, h] at hr ⊢
        simpa [record] using hr

/-- Bytes within one record: they complete none and lead from one reader to another. -/
def Reads (r : Reader) (bytes : Bytes) (last : Reader) : Prop :=
  r.completed bytes = [] ∧ r.after bytes = last

theorem Reads.append {r middle last : Reader} {first second : Bytes}
    (h : r.Reads first middle) (h' : middle.Reads second last) :
    r.Reads (first ++ second) last := by
  obtain ⟨hc, rfl⟩ := h
  obtain ⟨hc', rfl⟩ := h'
  exact ⟨by rw [completed_append, hc, hc']; rfl, after_append ..⟩

theorem Reads.completed_of_prefix {r last : Reader} {bytes part : Bytes} (h : r.Reads bytes last)
    (hp : part <+: bytes) : r.completed part = [] := by
  obtain ⟨rest, rfl⟩ := hp
  have hc := h.1
  rw [completed_append] at hc
  exact (List.append_eq_nil_iff.mp hc).1

theorem Reads.of_keep {r : Reader} {b : UInt8} {next : Place} (h : step r.place b = (.keep, next)) :
    r.Reads [b] ⟨next, b :: r.field, r.fields⟩ := by
  simp [Reads, completed, after, advance, h]

theorem Reads.of_drop {r : Reader} {b : UInt8} {next : Place} (h : step r.place b = (.drop, next)) :
    r.Reads [b] ⟨next, r.field, r.fields⟩ := by
  simp [Reads, completed, after, advance, h]

theorem Reads.of_endField {r : Reader} {b : UInt8} {next : Place}
    (h : step r.place b = (.endField, next)) :
    r.Reads [b] ⟨next, [], r.field.reverse :: r.fields⟩ := by
  simp [Reads, completed, after, advance, h]

end Reader

def IsPlain (b : UInt8) : Prop := b ≠ comma ∧ b ≠ quote ∧ isLineBreak b = false

theorem isPlain_of_needsQuotes {field : Bytes} (h : needsQuotes field = false) :
    ∀ b ∈ field, IsPlain b := by
  intro b hb
  have hs := List.any_eq_false.mp h b hb
  simpa [IsPlain, and_assoc] using hs

theorem step_of_isPlain {b : UInt8} (h : IsPlain b) {place : Place}
    (hp : place = .recordStart ∨ place = .fieldStart ∨ place = .plain) :
    step place b = (.keep, .plain) := by
  obtain ⟨hc, hq, hl⟩ := h
  rcases hp with rfl | rfl | rfl <;> simp [step, plainStep, hc, hq, hl]

namespace Reader

theorem reads_plain (written field : Bytes) (fields : List Bytes)
    (h : ∀ b ∈ written, IsPlain b) :
    Reads ⟨.plain, field, fields⟩ written ⟨.plain, written.reverse ++ field, fields⟩ := by
  induction written generalizing field with
  | nil => exact ⟨rfl, rfl⟩
  | cons b rest ih =>
    have hb : Reads ⟨.plain, field, fields⟩ [b] ⟨.plain, b :: field, fields⟩ :=
      Reads.of_keep (step_of_isPlain (h b List.mem_cons_self) (by simp))
    have hr := hb.append (ih (b :: field) fun c hc => h c (List.mem_cons_of_mem _ hc))
    simpa using hr

theorem reads_quoted (written field : Bytes) (fields : List Bytes) :
    Reads ⟨.quoted, field, fields⟩
      (written.map fun b => if b == quote then [quote, quote] else [b]).flatten
      ⟨.quoted, written.reverse ++ field, fields⟩ := by
  induction written generalizing field with
  | nil => exact ⟨rfl, rfl⟩
  | cons b rest ih =>
    have hb : Reads ⟨.quoted, field, fields⟩ (if b == quote then [quote, quote] else [b])
        ⟨.quoted, b :: field, fields⟩ := by
      by_cases hq : b = quote
      · subst hq
        have hf : step .quoted quote = (.drop, .afterQuote) := rfl
        have hs : step .afterQuote quote = (.keep, .quoted) := rfl
        exact Reads.append (Reads.of_drop hf) (Reads.of_keep hs)
      · rw [if_neg (by simpa using hq)]
        exact Reads.of_keep (by simp [step, hq])
    have hr := hb.append (ih (b :: field))
    simpa using hr

def endPlace (place : Place) (field : Bytes) : Place :=
  if needsQuotes field then .afterQuote else if field = [] then place else .plain

theorem reads_field {place : Place} (hp : place = .recordStart ∨ place = .fieldStart)
    (field : Bytes) (fields : List Bytes) :
    Reads ⟨place, [], fields⟩ (fieldPieces field).flatten
      ⟨endPlace place field, field.reverse, fields⟩ := by
  unfold fieldPieces endPlace
  by_cases hq : needsQuotes field
  · rw [if_pos hq, if_pos hq]
    have ho : Reads ⟨place, [], fields⟩ [quote] ⟨.quoted, [], fields⟩ := by
      apply Reads.of_drop
      rcases hp with rfl | rfl <;> rfl
    have hc : Reads ⟨.quoted, field.reverse, fields⟩ [quote]
        ⟨.afterQuote, field.reverse, fields⟩ := Reads.of_drop rfl
    have hb := reads_quoted field [] fields
    rw [List.append_nil] at hb
    simpa using (ho.append hb).append hc
  · have hn : needsQuotes field = false := by simpa using hq
    rw [if_neg hq, if_neg hq]
    cases field with
    | nil => exact ⟨rfl, rfl⟩
    | cons b rest =>
      have hs := isPlain_of_needsQuotes hn
      have hb : Reads ⟨place, [], fields⟩ [b] ⟨.plain, [b], fields⟩ := by
        apply Reads.of_keep
        apply step_of_isPlain (hs b List.mem_cons_self)
        rcases hp with rfl | rfl <;> simp
      have hs' : ∀ c ∈ rest, IsPlain c := fun c hc => hs c (List.mem_cons_of_mem _ hc)
      have hr := hb.append (reads_plain rest [b] fields hs')
      have hf : (rest.map ([·])).flatten = rest := by
        rw [← List.flatMap_def, List.flatMap_singleton']
      simpa [hf] using hr

theorem step_comma {place : Place} (hp : place = .recordStart ∨ place = .fieldStart)
    (field : Bytes) : step (endPlace place field) comma = (.endField, .fieldStart) := by
  unfold endPlace
  split
  · rfl
  · split
    · rcases hp with rfl | rfl <;> rfl
    · rfl

theorem step_lineFeed (field : Bytes) :
    step (endPlace .fieldStart field) lineFeed = (.endRecord, .recordStart) := by
  unfold endPlace
  split
  · rfl
  · split <;> rfl

/-- Fields after the first are read up to the line feed that ends their record. -/
theorem reads_fields (field : Bytes) (rest done : List Bytes) :
    ∃ last : Reader, Reads ⟨.fieldStart, [], done⟩ (fieldsPieces (field :: rest)).flatten last ∧
      last.record = done.reverse ++ field :: rest ∧
      step last.place lineFeed = (.endRecord, .recordStart) := by
  induction rest generalizing field done with
  | nil =>
    exact ⟨_, reads_field (.inr rfl) field done, by simp [record], step_lineFeed field⟩
  | cons next rest ih =>
    obtain ⟨last, hr, he, hl⟩ := ih next (field :: done)
    have hf := reads_field (.inr rfl) field done
    have hc := Reads.of_endField (r := ⟨endPlace .fieldStart field, field.reverse, done⟩)
      (step_comma (.inr rfl) field)
    rw [List.reverse_reverse] at hc
    refine ⟨last, ?_, by simpa using he, hl⟩
    simpa [fieldsPieces] using (hf.append hc).append hr

/-- A record of two fields or more is read from the start up to the line feed that ends it. -/
theorem reads_record {fields : List Bytes} (h : 2 ≤ fields.length) :
    ∃ last : Reader, Reads start (fieldsPieces fields).flatten last ∧ last.record = fields ∧
      step last.place lineFeed = (.endRecord, .recordStart) := by
  match fields, h with
  | first :: next :: rest, _ =>
    obtain ⟨last, hr, he, hl⟩ := reads_fields next rest [first]
    have hf := reads_field (.inl rfl) first []
    have hc := Reads.of_endField (r := ⟨endPlace .recordStart first, first.reverse, []⟩)
      (step_comma (.inl rfl) first)
    rw [List.reverse_reverse] at hc
    refine ⟨last, ?_, by simpa using he, hl⟩
    simpa [fieldsPieces, start] using (hf.append hc).append hr

theorem completed_writeRecord {fields : List Bytes} (h : 2 ≤ fields.length) :
    start.completed (writeRecord fields) = [fields] ∧ start.after (writeRecord fields) = start := by
  obtain ⟨last, ⟨hc, ha⟩, he, hl⟩ := reads_record h
  have hw : writeRecord fields = (fieldsPieces fields).flatten ++ [lineFeed] := by
    simp [writeRecord, recordPieces]
  rw [hw, completed_append, after_append, hc, ha]
  simp [completed, after, advance, hl, he, start]

/-- Nothing is complete before the line feed of a record, its last piece. -/
theorem completed_of_recordPieces {fields : List Bytes} (h : 2 ≤ fields.length)
    {done rest : List Bytes} (hp : recordPieces fields = done ++ rest) (hr : rest ≠ []) :
    start.completed done.flatten = [] := by
  obtain ⟨last, hl, -, -⟩ := reads_record h
  apply hl.completed_of_prefix
  have hd : done <+: fieldsPieces fields ++ [[lineFeed]] := ⟨rest, hp.symm⟩
  rcases List.prefix_concat_iff.mp hd with he | he
  · rw [recordPieces, he] at hp
    exact absurd (List.self_eq_append_right.mp hp) hr
  · exact he.flatten

theorem completed_writeRecords {records : List (List Bytes)}
    (h : ∀ fields ∈ records, 2 ≤ fields.length) :
    start.completed (records.flatMap writeRecord) = records ∧
      start.after (records.flatMap writeRecord) = start := by
  induction records with
  | nil => exact ⟨rfl, rfl⟩
  | cons fields rest ih =>
    obtain ⟨hc, ha⟩ := completed_writeRecord (h fields List.mem_cons_self)
    obtain ⟨hr, hs⟩ := ih fun f hf => h f (List.mem_cons_of_mem _ hf)
    rw [List.flatMap_cons, completed_append, after_append, hc, ha, hr, hs]
    exact ⟨rfl, rfl⟩

end Reader

/-- Written records are read back as they are, if they do not begin with a byte order mark. -/
theorem readRecords_writeRecords {records : List (List Bytes)}
    (h : ∀ fields ∈ records, 2 ≤ fields.length)
    (hm : Utf8.byteOrderMark.isPrefixOf (records.flatMap writeRecord) = false) :
    readRecords (records.flatMap writeRecord) = records := by
  obtain ⟨hc, ha⟩ := Reader.completed_writeRecords h
  have hr := Reader.readFrom_eq .start (records.flatMap writeRecord)
  rw [hc, ha] at hr
  rw [readRecords, hm, if_neg (by decide)]
  simpa [Reader.start, Reader.cutOff] using hr

end Csv
end InstanceCatalog
