import InstanceCatalog.Proofs.Sink.Delivery

namespace InstanceCatalog
namespace Sink

theorem two_le_length_fields (r : Record) : 2 ≤ ((recordFields r).map Utf8.encode).length := by
  simp [recordFields]

theorem writeRows_eq_none {sink next : Sink} {records : List Record}
    (h : sink.writeRows records = (next, none)) :
    next.pipe.written = sink.added ++ records.flatMap encodeRecord ∧ next.buffer = [] ∧
      next.rows = sink.rows + records.length ∧ next.pipe.limit = sink.pipe.limit ∧
      ¬ next.Refused := by
  induction records generalizing sink with
  | nil =>
    unfold writeRows at h
    by_cases hr : sink.Refused
    · simp [flush?_eq_none.mpr hr] at h
    · rw [flush?_of_fits hr] at h
      cases h
      rw [refused_iff] at hr
      simpa [refused_iff, added] using hr
  | cons r rest ih =>
    unfold writeRows at h
    split at h
    · simp at h
    · next middle hp =>
      obtain ⟨ha, hw, hl⟩ := pushAll_eq_true hp
      obtain ⟨hn, hb, hc, hl', hr⟩ := ih h
      refine ⟨?_, hb, ?_, hl'.trans hl, hr⟩
      · have hm : added { middle with rows := middle.rows + 1 } = middle.added := rfl
        rw [hn, hm, ha, List.flatMap_cons, List.append_assoc]
        rfl
      · rw [hc, List.length_cons]
        simp only [hw]
        omega

/-- A failure leaves the rows that count added, and a part of the next one. -/
theorem writeRows_eq_some {sink next : Sink} {records : List Record} {e : SinkError}
    (h : sink.writeRows records = (next, some e)) :
    next.Refused ∧ next.pipe.limit = sink.pipe.limit ∧
      ∃ done rest part, records = done ++ rest ∧ next.rows = sink.rows + done.length ∧
        next.added = sink.added ++ done.flatMap encodeRecord ++ part ∧
        part <+: rest.flatMap encodeRecord ∧ Csv.Reader.start.completed part = [] := by
  induction records generalizing sink with
  | nil =>
    unfold writeRows at h
    by_cases hr : sink.Refused
    · rw [flush?_eq_none.mpr hr] at h
      cases h
      exact ⟨hr, rfl, [], [], [], rfl, rfl, by simp, List.nil_prefix, rfl⟩
    · rw [flush?_of_fits hr] at h
      simp at h
  | cons r rest ih =>
    unfold writeRows at h
    split at h
    · next hp =>
      cases h
      -- the refusal came within this row, so no part of it ends in a line feed
      obtain ⟨hr, hw, hl, done, last, hd, hn, ha⟩ := pushAll_eq_false hp
      refine ⟨hr, hl, [], r :: rest, done.flatten, rfl, hw, by simpa using ha, ?_,
        Csv.Reader.completed_of_recordPieces (two_le_length_fields r) hd hn⟩
      have hf : encodeRecord r = done.flatten ++ last.flatten := by
        rw [encodeRecord, Csv.writeRecord, hd, List.flatten_append]
      rw [List.flatMap_cons, hf, List.append_assoc]
      exact List.prefix_append _ _
    · next middle hp =>
      obtain ⟨ha, hw, hl⟩ := pushAll_eq_true hp
      obtain ⟨hr, hl', done, last, part, hd, hc, hn, hs, hz⟩ := ih h
      refine ⟨hr, hl'.trans hl, r :: done, last, part, by rw [hd]; rfl, ?_, ?_, hs, hz⟩
      · rw [hc, List.length_cons]
        simp only [hw]
        omega
      · have hm : added { middle with rows := middle.rows + 1 } = middle.added := rfl
        rw [hn, hm, ha, List.flatMap_cons]
        simp [encodeRecord, Csv.writeRecord]

/-- Once the pipe refuses the buffer it takes nothing more. -/
theorem Refused.writeRows {sink : Sink} (hr : sink.Refused) (records : List Record) :
    (sink.writeRows records).1.Refused ∧ (sink.writeRows records).1.pipe = sink.pipe ∧
      (sink.writeRows records).2 ≠ none := by
  induction records generalizing sink with
  | nil => simp [Sink.writeRows, flush?_eq_none.mpr hr, hr]
  | cons r rest ih =>
    obtain ⟨hp, he⟩ := hr.pushAll (Csv.recordPieces ((recordFields r).map Utf8.encode))
    unfold Sink.writeRows
    split
    · next middle hs =>
      rw [hs] at hp he
      exact ⟨hp, he, by simp⟩
    · next middle hs =>
      rw [hs] at hp he
      have hm : Refused { middle with rows := middle.rows + 1 } := hp
      obtain ⟨hr', he', hn⟩ := ih hm
      exact ⟨hr', he'.trans he, hn⟩

theorem rows_le_writeRows (sink : Sink) (records : List Record) :
    sink.rows ≤ (sink.writeRows records).1.rows := by
  cases h : sink.writeRows records with
  | mk next error =>
    cases error with
    | none =>
      obtain ⟨-, -, hr, -⟩ := writeRows_eq_none h
      simp only [hr]
      omega
    | some e =>
      obtain ⟨-, -, done, -, -, -, hr, -⟩ := writeRows_eq_some h
      simp only [hr]
      omega

theorem encoding_append (records more : List Record) :
    encoding (records ++ more) = encoding records ++ more.flatMap encodeRecord := by
  simp [encoding]

theorem encoding_eq (records : List Record) :
    encoding records =
      ((header :: records.map recordFields).map (·.map Utf8.encode)).flatMap Csv.writeRecord := by
  simp only [encoding, List.map_cons, List.map_map, List.flatMap_cons, List.flatMap_map]
  rfl

theorem two_le_length_rows (records : List Record) :
    ∀ fields ∈ (header :: records.map recordFields).map (·.map Utf8.encode),
      2 ≤ fields.length := by
  intro fields hf
  obtain ⟨row, hr, rfl⟩ := List.mem_map.mp hf
  rcases List.mem_cons.mp hr with rfl | hr
  · simp [header]
  · obtain ⟨r, -, rfl⟩ := List.mem_map.mp hr
    exact two_le_length_fields r

/-- A reader completes the rows of all records and nothing of a part that follows. -/
theorem dataRows_encoding_append (records : List Record) {part : Bytes}
    (h : Csv.Reader.start.completed part = []) :
    dataRows (encoding records ++ part) = records.length := by
  obtain ⟨hc, ha⟩ := Csv.Reader.completed_writeRecords (two_le_length_rows records)
  rw [dataRows, Csv.Reader.completed_append, encoding_eq, hc, ha, h]
  simp

theorem readRecords_encoding (records : List Record) :
    Csv.readRecords (encoding records) =
      (header :: records.map recordFields).map (·.map Utf8.encode) := by
  have hm : Utf8.byteOrderMark.isPrefixOf (encoding records) = false := rfl
  rw [encoding_eq] at hm ⊢
  exact Csv.readRecords_writeRecords (two_le_length_rows records) hm

theorem dataRows_mono {bytes more : Bytes} (h : bytes <+: more) :
    dataRows bytes ≤ dataRows more := by
  obtain ⟨rest, rfl⟩ := h
  unfold dataRows
  rw [Csv.Reader.completed_append, List.length_append]
  omega

/-- What holds of a sink to which records were passed, whether or not they could be written. -/
structure Delivers (sink : Sink) (records : List Record) : Prop where
  written_prefix : sink.pipe.written <+: encoding records
  dataRows_le : dataRows sink.pipe.written ≤ sink.rows
  refused_or_added : sink.Refused ∨ sink.added = encoding records ∧ sink.rows = records.length
  lt_of_refused : sink.Refused →
    ∃ bound, sink.pipe.limit = some bound ∧ bound < (encoding records).length

/-- A sink to which no more was added than the records is refused only when they are too long. -/
theorem lt_of_added {sink : Sink} {records : List Record} (h : sink.added <+: encoding records)
    (hr : sink.Refused) : ∃ bound, sink.pipe.limit = some bound ∧
      bound < (encoding records).length := by
  obtain ⟨bound, hl, hb⟩ := refused_iff.mp hr
  exact ⟨bound, hl, hb.trans_le h.length_le⟩

theorem create_eq (pipe : Pipe) : create pipe = ⟨pipe, encoding [], 0⟩ := by
  have hr : ([] : Bytes).length + (Csv.recordPieces (header.map Utf8.encode)).flatten.length ≤
      capacity := by decide
  rw [create, pushAll_of_room hr]
  simp [encoding, Csv.writeRecord]

theorem delivers_create (limit : Option Nat) : (create (.empty limit)).Delivers [] := by
  rw [create_eq]
  exact ⟨List.nil_prefix, Nat.zero_le _, .inr ⟨rfl, rfl⟩, lt_of_added List.prefix_rfl⟩

theorem writeAll_of_not_failed {sink : Sink} {records batch : List Record}
    (h : sink.Delivers records) (hn : (sink.writeAll batch).2 = none) :
    (sink.writeAll batch).1.pipe.written = encoding (records ++ batch) ∧
      (sink.writeAll batch).1.rows = (records ++ batch).length ∧
      ¬ (sink.writeAll batch).1.Refused := by
  rcases h.refused_or_added with hr | ⟨ha, hc⟩
  · exact absurd hn (hr.writeRows batch).2.2
  · obtain ⟨hw, -, hl, -, hr⟩ := writeRows_eq_none
      (show sink.writeRows batch = ((sink.writeAll batch).1, none) by rw [← hn]; rfl)
    exact ⟨by rw [hw, ha, encoding_append], by rw [hl, hc, List.length_append], hr⟩

theorem Delivers.writeAll {sink : Sink} {records : List Record} (h : sink.Delivers records)
    (batch : List Record) : (sink.writeAll batch).1.Delivers (records ++ batch) := by
  rcases h.refused_or_added with hr | ⟨ha, hc⟩
  · obtain ⟨hr', he, -⟩ := hr.writeRows batch
    have hw := rows_le_writeRows sink batch
    refine ⟨?_, ?_, .inl hr', fun _ => ?_⟩
    · rw [Sink.writeAll, he, encoding_append]
      exact h.written_prefix.trans (List.prefix_append _ _)
    · rw [Sink.writeAll, he]
      exact h.dataRows_le.trans hw
    · obtain ⟨bound, hl, hb⟩ := h.lt_of_refused hr
      rw [Sink.writeAll, he, encoding_append, List.length_append]
      exact ⟨bound, hl, by omega⟩
  · cases hs : sink.writeRows batch with
    | mk next error =>
      have hn : (sink.writeAll batch).1 = next := by rw [Sink.writeAll, hs]
      rw [hn]
      cases error with
      | none =>
        obtain ⟨hw, hb, hl, -, -⟩ := writeRows_eq_none hs
        have hd : next.pipe.written = encoding (records ++ batch) := by
          rw [hw, ha, encoding_append]
        have hr : next.rows = (records ++ batch).length := by
          rw [hl, hc, List.length_append]
        have hz : dataRows (encoding (records ++ batch) ++ []) = (records ++ batch).length :=
          dataRows_encoding_append _ rfl
        rw [List.append_nil] at hz
        have ht : next.added = encoding (records ++ batch) := by
          rw [added, hb, hd, List.append_nil]
        exact ⟨by rw [hd], by rw [hd, hz, hr], .inr ⟨ht, hr⟩, lt_of_added (by rw [ht])⟩
      | some e =>
        obtain ⟨hr, -, done, rest, part, hd, hl, hp, hs, hz⟩ := writeRows_eq_some hs
        have ht : next.added = encoding (records ++ done) ++ part := by
          rw [hp, ha, encoding_append]
        have hw : next.pipe.written <+: next.added := List.prefix_append _ _
        have he : next.added <+: encoding (records ++ batch) := by
          rw [ht, hd, ← List.append_assoc, encoding_append (records ++ done)]
          exact (List.prefix_append_right_inj _).mpr hs
        refine ⟨hw.trans he, (dataRows_mono hw).trans ?_, .inl hr, lt_of_added he⟩
        rw [ht, dataRows_encoding_append _ hz, hl, hc, List.length_append]

theorem delivers_writeBatches {sink : Sink} {records : List Record} (h : sink.Delivers records)
    (batches : List (List Record)) :
    (sink.writeBatches batches).Delivers (records ++ batches.flatten) := by
  induction batches generalizing sink records with
  | nil => simpa [writeBatches] using h
  | cons batch rest ih =>
    rw [List.flatten_cons, ← List.append_assoc]
    exact ih (h.writeAll batch)

theorem Refused.writeBatches {sink : Sink} (hr : sink.Refused) (batches : List (List Record)) :
    (sink.writeBatches batches).Refused ∧ (sink.writeBatches batches).pipe = sink.pipe := by
  induction batches generalizing sink with
  | nil => exact ⟨hr, rfl⟩
  | cons batch rest ih =>
    obtain ⟨hn, he, -⟩ := hr.writeRows batch
    obtain ⟨hr', he'⟩ := ih hn
    exact ⟨hr', he'.trans he⟩

theorem refused_of_failed {sink : Sink} {batch : List Record}
    (h : (sink.writeAll batch).2 ≠ none) : (sink.writeAll batch).1.Refused := by
  obtain ⟨e, he⟩ := Option.ne_none_iff_exists'.mp h
  exact (writeRows_eq_some
    (show sink.writeRows batch = ((sink.writeAll batch).1, some e) by rw [← he]; rfl)).1

theorem limit_writeAll (sink : Sink) (batch : List Record) :
    (sink.writeAll batch).1.pipe.limit = sink.pipe.limit := by
  cases hs : sink.writeRows batch with
  | mk next error =>
    rw [writeAll, hs]
    cases error with
    | none => exact (writeRows_eq_none hs).2.2.2.1
    | some e => exact (writeRows_eq_some hs).2.1

/-- A batch succeeds exactly when the pipe has room for all records up to its end. -/
theorem Delivers.writeAll_eq_none_iff {sink : Sink} {records : List Record}
    (h : sink.Delivers records) (batch : List Record) :
    (sink.writeAll batch).2 = none ↔
      ∀ bound, sink.pipe.limit = some bound → (encoding (records ++ batch)).length ≤ bound := by
  constructor
  · intro hn bound hl
    obtain ⟨hw, -, hr⟩ := writeAll_of_not_failed h hn
    by_contra hb
    apply hr
    refine refused_iff.mpr ⟨bound, (limit_writeAll sink batch).trans hl, ?_⟩
    rw [added, hw, List.length_append]
    omega
  · intro hb
    by_contra hf
    obtain ⟨bound, hl, hlt⟩ := (h.writeAll batch).lt_of_refused (refused_of_failed hf)
    have hle := hb bound ((limit_writeAll sink batch).symm.trans hl)
    omega

theorem limit_writeBatches (sink : Sink) (batches : List (List Record)) :
    (sink.writeBatches batches).pipe.limit = sink.pipe.limit := by
  induction batches generalizing sink with
  | nil => rfl
  | cons batch rest ih => exact (ih _).trans (limit_writeAll sink batch)

theorem writeAll_of_unlimited {sink : Sink} (h : sink.pipe.limit = none) (batch : List Record) :
    (sink.writeAll batch).2 = none := by
  by_contra hf
  exact not_refused_of_unlimited ((limit_writeAll sink batch).trans h) (refused_of_failed hf)

theorem finish?_of_delivers {sink : Sink} {records : List Record} (h : sink.Delivers records)
    (hr : ¬ sink.Refused) : sink.finish? = some (encoding records) := by
  rcases h.refused_or_added with hr' | ⟨ha, -⟩
  · exact absurd hr' hr
  · rw [finish?, flush?_of_fits hr, ← ha]
    rfl

theorem finish?_writeBatches (batches : List (List Record)) :
    ((create (.empty none)).writeBatches batches).finish? = some (encoding batches.flatten) := by
  apply finish?_of_delivers (delivers_writeBatches (delivers_create none) batches)
  apply not_refused_of_unlimited
  rw [limit_writeBatches, create_eq]
  rfl

theorem eq_encoding_of_finish? {limit : Option Nat} {batches : List (List Record)} {bytes : Bytes}
    (h : ((create (.empty limit)).writeBatches batches).finish? = some bytes) :
    bytes = encoding batches.flatten := by
  have hd : ((create (.empty limit)).writeBatches batches).Delivers batches.flatten :=
    delivers_writeBatches (delivers_create limit) batches
  by_cases hr : ((create (.empty limit)).writeBatches batches).Refused
  · rw [finish?, flush?_eq_none.mpr hr] at h
    cases h
  · rw [finish?_of_delivers hd hr] at h
    exact (Option.some.inj h).symm

/-- A sink over a pipe of any limit, after any batches and one more. The pipe holds a part of the
written form of all records; the whole of it, with all rows counted, when the batch succeeds, which
it does exactly when the pipe has room for that. The row count never falls and covers the complete
rows in the pipe. After a failure the pipe stays as it is, every batch fails and so does the end of
the output. -/
theorem writeBatches_delivers (limit : Option Nat) (batches : List (List Record))
    (batch : List Record) :
    let sink := (create (.empty limit)).writeBatches batches
    let next := (sink.writeAll batch).1
    sink.pipe.written <+: encoding batches.flatten ∧
    ((sink.writeAll batch).2 = none → next.pipe.written = encoding (batches.flatten ++ batch) ∧
      next.rows = (batches.flatten ++ batch).length) ∧
    ((sink.writeAll batch).2 = none ↔
      ∀ bound, limit = some bound → (encoding (batches.flatten ++ batch)).length ≤ bound) ∧
    (sink.rows ≤ next.rows ∧ dataRows sink.pipe.written ≤ sink.rows) ∧
    ((sink.writeAll batch).2 ≠ none → ∀ later : List (List Record),
      (next.writeBatches later).pipe = next.pipe ∧
      (∀ more, ((next.writeBatches later).writeAll more).2 ≠ none) ∧
      (next.writeBatches later).finish? = none) := by
  intro sink next
  have hd : sink.Delivers batches.flatten := delivers_writeBatches (delivers_create limit) batches
  have hl : sink.pipe.limit = limit := by
    rw [limit_writeBatches, create_eq]
    rfl
  refine ⟨hd.written_prefix, ?_, hl ▸ hd.writeAll_eq_none_iff batch,
    ⟨rows_le_writeRows sink batch, hd.dataRows_le⟩, ?_⟩
  · intro hn
    obtain ⟨hw, hr, -⟩ := writeAll_of_not_failed hd hn
    exact ⟨hw, hr⟩
  · intro hf later
    obtain ⟨hr, he⟩ := (refused_of_failed hf).writeBatches later
    refine ⟨he, fun more => (hr.writeRows more).2.2, ?_⟩
    rw [finish?, flush?_eq_none.mpr hr]
    rfl

theorem writeBatches_delivers_at_limit :
    let next := ((create (.empty (some 40))).writeAll [⟨"Standard_D2".toList, 2, 8, 3000⟩]).1
    next.pipe.written = [] ∧ (next.writeAll []).2 ≠ none ∧ next.finish? = none := by
  intro next
  have hf : ((create (.empty (some 40))).writeAll
      [⟨"Standard_D2".toList, 2, 8, 3000⟩]).2 ≠ none := by decide +kernel
  have hd := (writeBatches_delivers (some 40) [] [⟨"Standard_D2".toList, 2, 8, 3000⟩]).2.2.2.2 hf []
  exact ⟨by decide +kernel, hd.2.1 [], hd.2.2⟩

end Sink
end InstanceCatalog
