import InstanceCatalog.Sink
import InstanceCatalog.Proofs.Csv.Reading

namespace InstanceCatalog

theorem Pipe.fits_of_append {pipe : Pipe} {bytes more : Bytes}
    (h : pipe.fits (bytes ++ more) = true) : pipe.fits bytes = true := by
  unfold fits at h ⊢
  split at h
  · rfl
  · simp only [List.length_append, decide_eq_true_eq] at h ⊢
    omega

namespace Sink

def added (sink : Sink) : Bytes := sink.pipe.written ++ sink.buffer

def Refused (sink : Sink) : Prop := sink.pipe.fits sink.buffer = false

def encodeRecord (r : Record) : Bytes := Csv.writeRecord ((recordFields r).map Utf8.encode)

def encoding (records : List Record) : Bytes :=
  Csv.writeRecord (header.map Utf8.encode) ++ records.flatMap encodeRecord

def dataRows (written : Bytes) : Nat := (Csv.Reader.start.completed written).length - 1

def writeBatches (sink : Sink) (batches : List (List Record)) : Sink :=
  batches.foldl (fun sink batch => (sink.writeAll batch).1) sink

theorem flush?_eq_none {sink : Sink} : sink.flush? = none ↔ sink.Refused := by
  unfold flush? Pipe.accept? Refused
  split <;> simp_all

theorem flush?_of_fits {sink : Sink} (h : ¬ sink.Refused) :
    sink.flush? = some ⟨⟨sink.added, sink.pipe.limit⟩, [], sink.rows⟩ := by
  have hf : sink.pipe.fits sink.buffer = true := by simpa [Refused] using h
  simp [flush?, Pipe.accept?, hf, added]

theorem refused_iff {sink : Sink} :
    sink.Refused ↔ ∃ bound, sink.pipe.limit = some bound ∧ bound < sink.added.length := by
  unfold Refused Pipe.fits added
  cases sink.pipe.limit with
  | none => simp
  | some bound => simp

theorem not_refused_of_unlimited {sink : Sink} (h : sink.pipe.limit = none) : ¬ sink.Refused := by
  simp [refused_iff, h]

/-- A piece that is taken comes after all that was added before. -/
theorem push?_eq_some {sink next : Sink} {piece : Bytes} (h : sink.push? piece = some next) :
    next.added = sink.added ++ piece ∧ next.rows = sink.rows ∧
      next.pipe.limit = sink.pipe.limit := by
  unfold push? at h
  split at h
  · cases h
    simp [added]
  · by_cases hr : sink.Refused
    · simp [flush?_eq_none.mpr hr] at h
    · rw [flush?_of_fits hr] at h
      cases h
      simp [added]

theorem refused_of_push? {sink : Sink} {piece : Bytes} (h : sink.push? piece = none) :
    sink.Refused := by
  unfold push? at h
  split at h
  · simp at h
  · exact flush?_eq_none.mp (Option.map_eq_none_iff.mp h)

theorem Refused.push? {sink next : Sink} {piece : Bytes} (hr : sink.Refused)
    (h : sink.push? piece = some next) : next.Refused ∧ next.pipe = sink.pipe := by
  unfold Sink.push? at h
  split at h
  · cases h
    refine ⟨?_, rfl⟩
    -- a longer buffer fits no better
    unfold Refused at hr ⊢
    by_contra hf
    simp [Pipe.fits_of_append (by simpa using hf)] at hr
  · simp [flush?_eq_none.mpr hr] at h

theorem pushAll_eq_true {sink next : Sink} {pieces : List Bytes}
    (h : sink.pushAll pieces = (next, true)) :
    next.added = sink.added ++ pieces.flatten ∧ next.rows = sink.rows ∧
      next.pipe.limit = sink.pipe.limit := by
  induction pieces generalizing sink with
  | nil =>
    cases h
    simp
  | cons piece pieces ih =>
    unfold pushAll at h
    cases hp : sink.push? piece with
    | none => simp [hp] at h
    | some middle =>
      obtain ⟨ha, hw, hl⟩ := push?_eq_some hp
      obtain ⟨ha', hw', hl'⟩ := ih (by simpa [hp] using h)
      exact ⟨by rw [ha', ha]; simp, hw'.trans hw, hl'.trans hl⟩

/-- A refusal leaves the pieces before it added. -/
theorem pushAll_eq_false {sink next : Sink} {pieces : List Bytes}
    (h : sink.pushAll pieces = (next, false)) :
    next.Refused ∧ next.rows = sink.rows ∧ next.pipe.limit = sink.pipe.limit ∧
      ∃ done rest, pieces = done ++ rest ∧ rest ≠ [] ∧
        next.added = sink.added ++ done.flatten := by
  induction pieces generalizing sink with
  | nil => cases h
  | cons piece pieces ih =>
    unfold pushAll at h
    cases hp : sink.push? piece with
    | none =>
      simp only [hp, Prod.mk.injEq, and_true] at h
      subst h
      exact ⟨refused_of_push? hp, rfl, rfl, [], piece :: pieces, rfl, by simp, by simp⟩
    | some middle =>
      obtain ⟨ha, hw, hl⟩ := push?_eq_some hp
      obtain ⟨hr, hw', hl', done, rest, hd, hn, ha'⟩ := ih (by simpa [hp] using h)
      exact ⟨hr, hw'.trans hw, hl'.trans hl, piece :: done, rest, by rw [hd]; rfl, hn,
        by rw [ha', ha]; simp⟩

theorem Refused.pushAll {sink : Sink} (hr : sink.Refused) (pieces : List Bytes) :
    (sink.pushAll pieces).1.Refused ∧ (sink.pushAll pieces).1.pipe = sink.pipe := by
  induction pieces generalizing sink with
  | nil => exact ⟨hr, rfl⟩
  | cons piece pieces ih =>
    unfold Sink.pushAll
    cases hp : sink.push? piece with
    | none => exact ⟨hr, rfl⟩
    | some next =>
      obtain ⟨hn, he⟩ := hr.push? hp
      obtain ⟨hr', he'⟩ := ih hn
      exact ⟨hr', he'.trans he⟩

/-- Pieces that all find room in the buffer are not handed over. -/
theorem pushAll_of_room {sink : Sink} {pieces : List Bytes}
    (h : sink.buffer.length + pieces.flatten.length ≤ capacity) :
    sink.pushAll pieces = ({ sink with buffer := sink.buffer ++ pieces.flatten }, true) := by
  induction pieces generalizing sink with
  | nil => simp [pushAll]
  | cons piece pieces ih =>
    simp only [List.flatten_cons, List.length_append] at h
    have hp : sink.push? piece = some { sink with buffer := sink.buffer ++ piece } := by
      rw [push?, if_pos (by omega)]
    simp only [pushAll, hp]
    rw [ih (by simp only [List.length_append]; omega)]
    simp

end Sink
end InstanceCatalog
