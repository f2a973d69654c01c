import InstanceCatalog.Scrape.Run
import InstanceCatalog.Proofs.Files.Disk
import InstanceCatalog.Proofs.Scrape.Window
import InstanceCatalog.Proofs.Sink.Batches

namespace InstanceCatalog

/-- A source with these paths whose answers depend on the path alone, as long as nothing but the
output is written. -/
structure DocumentSource.AnswersOn (source : DocumentSource (StateM Disk)) (disk : Disk)
    (output : Text) (paths : List Text) (answer : Text → Option Text) : Prop where
  discover : source.discover disk = (paths, disk)
  fetch : ∀ contents written, disk.write output contents = .ok written →
    ∀ path ∈ paths, source.fetch path written = (answer path, written)

namespace DocumentSource

def ofAnswers (paths : List Text) (answer : Text → Option Text) :
    DocumentSource (StateM Disk) where
  discover := return paths
  fetch path := return answer path

theorem answersOn_ofAnswers (disk : Disk) (output : Text) (paths : List Text)
    (answer : Text → Option Text) : (ofAnswers paths answer).AnswersOn disk output paths answer :=
  ⟨rfl, fun _ _ _ _ _ => rfl⟩

end DocumentSource

namespace Document

def processAnswer (policies : Policies) (answer : Option Text) : List Record × JoinStats :=
  process policies (answer.getD [])

theorem process_nil (policies : Policies) : process policies [] = ([], ⟨0, 0, 0, 0⟩) := rfl

end Document

namespace Scrape

variable {policies : Policies} {output : Text} {disk world : Disk}

theorem save_eq {before after : Bytes} (hp : before <+: after)
    (h : disk.write output before = .ok world) :
    ∃ next, save Disk.access output before after world = (.ok (), next) ∧
      disk.write output after = .ok next := by
  by_cases hl : after.length = before.length
  · have he : before = after := hp.eq_of_length hl.symm
    refine ⟨world, ?_, he ▸ h⟩
    rw [save, if_pos hl]
    rfl
  · obtain ⟨next, hn⟩ := Disk.exists_write h after
    refine ⟨next, ?_, hn⟩
    have hw := Disk.access_write_of_ok ((Disk.write_write h after).trans hn)
    simp only [save, if_neg hl, World.bind_apply, hw]
    rfl

/-- What holds of a scrape and of the world when these answers have been used. -/
structure Reached (policies : Policies) (output : Text) (disk : Disk)
    (answers : List (Option Text)) (s : Scrape) (world : Disk) : Prop where
  delivers : s.sink.Delivers (answers.flatMap fun a => (Document.processAnswer policies a).1)
  unlimited : s.sink.pipe.limit = none
  documents : s.documents = answers.length
  missing : s.missing = answers.countP Option.isNone
  tables : s.tables = (answers.map fun a => (Document.processAnswer policies a).2.tables).sum
  file : disk.write output s.sink.pipe.written = .ok world

theorem reached_initial (h : disk.write output [] = .ok world) :
    Reached policies output disk [] initial world := by
  have hp : initial.sink.pipe = .empty none := by rw [initial, Sink.create_eq]
  exact ⟨Sink.delivers_create none, by rw [hp]; rfl, rfl, rfl, rfl, by rw [hp]; exact h⟩

/-- One more document keeps the counts and the file up to date, and it does not fail. -/
theorem Reached.step {answers : List (Option Text)} {s : Scrape}
    (h : Reached policies output disk answers s world) (a : Option Text) :
    ∃ next after, Scrape.step Disk.access policies output s a world = (.ok next, after) ∧
      Reached policies output disk (answers ++ [a]) next after := by
  cases a with
  | none =>
    -- the sink is not touched, and the empty text would have added no rows to it
    have hs : s.sink.pipe.written <+: s.sink.pipe.written := List.prefix_rfl
    obtain ⟨after, hv, hf⟩ := save_eq hs h.file
    refine ⟨{ s with documents := s.documents + 1, missing := s.missing + 1 }, after, ?_, ?_⟩
    · simp only [Scrape.step, addDocument, World.bind_apply, hv]
      rfl
    · refine ⟨?_, h.unlimited, ?_, ?_, ?_, hf⟩
      · simpa [Document.processAnswer, Document.process_nil] using h.delivers
      · simp [h.documents]
      · simp [h.missing]
      · simp [h.tables, Document.processAnswer, Document.process_nil]
  | some text =>
    generalize hb : (Document.process policies text).1 = batch
    have hn := Sink.writeAll_of_unlimited h.unlimited batch
    have hd := h.delivers.writeAll batch
    obtain ⟨hw, -, -⟩ := Sink.writeAll_of_not_failed h.delivers hn
    have hs : s.sink.pipe.written <+: (s.sink.writeAll batch).1.pipe.written := by
      rw [hw, Sink.encoding_append]
      exact h.delivers.written_prefix.trans (List.prefix_append _ _)
    obtain ⟨after, hv, hf⟩ := save_eq hs h.file
    have ha : s.addDocument policies (some text) =
        (⟨(s.sink.writeAll batch).1, s.documents + 1, s.missing,
          s.tables + (Document.process policies text).2.tables⟩, none) := by
      rw [← hn, ← hb]
      rfl
    refine ⟨⟨(s.sink.writeAll batch).1, s.documents + 1, s.missing,
      s.tables + (Document.process policies text).2.tables⟩, after, ?_, ?_⟩
    · simp only [Scrape.step, ha, World.bind_apply, hv]
      rfl
    · refine ⟨?_, (Sink.limit_writeAll _ _).trans h.unlimited, ?_, ?_, ?_, hf⟩
      · simpa [Document.processAnswer, hb] using hd
      · simp [h.documents]
      · simp [h.missing]
      · simp [h.tables, Document.processAnswer]

theorem Reached.useInOrder {done : List (Option Text)} {s : Scrape}
    (h : Reached policies output disk done s world) (answers : List (Option Text)) :
    ∃ final after,
      Window.useInOrder (Scrape.step Disk.access policies output) answers s world =
        (.ok final, after) ∧
      Reached policies output disk (done ++ answers) final after := by
  induction answers generalizing done s world with
  | nil => exact ⟨s, world, rfl, by rwa [List.append_nil]⟩
  | cons a rest ih =>
    obtain ⟨next, middle, hs, hr⟩ := h.step a
    obtain ⟨final, after, hu, hf⟩ := ih hr
    refine ⟨final, after, ?_, by simpa using hf⟩
    simp only [Window.useInOrder, World.bind_apply, hs]
    exact hu

theorem Reached.drain (policies : Policies) {source : DocumentSource (StateM Disk)}
    {paths : List Text} {answer : Text → Option Text} (ha : source.AnswersOn disk output paths answer)
    (h : disk.write output [] = .ok world) (concurrency : Nat) (schedule : Schedule) :
    ∃ final after,
      Window.drain source.fetch concurrency schedule (Scrape.step Disk.access policies output) paths
        initial world = (.ok final, after) ∧
      Reached policies output disk (paths.map answer) final after := by
  have hi : Reached policies output disk [] initial world := reached_initial h
  have hf : ∀ s world, (∃ answers, Reached policies output disk answers s world) →
      ∀ path ∈ paths, source.fetch path world = (answer path, world) := by
    rintro s world ⟨answers, hr⟩ path hp
    exact ha.fetch _ _ hr.file path hp
  have hu : ∀ s world, (∃ answers, Reached policies output disk answers s world) →
      ∀ a next after, Scrape.step Disk.access policies output s a world = (.ok next, after) →
        ∃ answers, Reached policies output disk answers next after := by
    rintro s world ⟨answers, hr⟩ a next after hs
    obtain ⟨next', after', hs', hr'⟩ := hr.step a
    rw [hs] at hs'
    cases hs'
    exact ⟨_, hr'⟩
  obtain ⟨final, after, hv, hr⟩ := hi.useInOrder (paths.map answer)
  exact ⟨final, after, (Window.drain_eq hf hu concurrency schedule ⟨[], hi⟩).trans hv, hr⟩

theorem Reached.close {answers : List (Option Text)} {s : Scrape}
    (h : Reached policies output disk answers s world) :
    ∃ final, Scrape.close Disk.access output s world = ((), final) ∧
      disk.write output
        (Sink.encoding (answers.flatMap fun a => (Document.processAnswer policies a).1)) =
          .ok final := by
  have hf := Sink.finish?_of_delivers h.delivers (Sink.not_refused_of_unlimited h.unlimited)
  obtain ⟨final, hv, hw⟩ := save_eq h.delivers.written_prefix h.file
  refine ⟨final, ?_, hw⟩
  simp only [Scrape.close, hf, World.bind_apply, hv]
  rfl

theorem Reached.rows {answers : List (Option Text)} {s : Scrape}
    (h : Reached policies output disk answers s world) :
    s.sink.rows = (answers.flatMap fun a => (Document.processAnswer policies a).1).length := by
  rcases h.delivers.refused_or_added with hr | ⟨-, hr⟩
  · exact absurd hr (Sink.not_refused_of_unlimited h.unlimited)
  · exact hr

/-- A run over documents whose answers depend on their paths alone. Without documents it fails and
leaves the disk as it is. Otherwise, if the output can be created, it ends with the rows of all
documents in order below the header row, one document after the other, and counts them. -/
theorem run_eq_sequential (source : DocumentSource (StateM Disk)) (policies : Policies)
    (output : Text) (concurrency : Nat) (schedule : Schedule) (disk : Disk) (paths : List Text)
    (answer : Text → Option Text) (h : source.AnswersOn disk output paths answer) :
    (paths = [] → run Disk.access source policies output concurrency schedule disk =
      (.error .nothingDiscovered, disk)) ∧
    (paths ≠ [] → ∀ created, disk.write output [] = .ok created → ∃ bytes final,
      bytes = Sink.encoding
        (paths.flatMap fun path => (Document.process policies ((answer path).getD [])).1) ∧
      disk.write output bytes = .ok final ∧ final.openFile output = .ok (.ok bytes) ∧
      run Disk.access source policies output concurrency schedule disk =
        (.ok {
          documents := paths.length
          missing := paths.countP fun path => (answer path).isNone
          tables := (paths.map fun path =>
            (Document.process policies ((answer path).getD [])).2.tables).sum
          rows := (Csv.readRecords bytes).length - 1 }, final)) := by
  constructor
  · rintro rfl
    simp only [run, World.bind_apply, h.discover]
    rfl
  · intro hn created hc
    obtain ⟨s, after, hd, hr⟩ := Reached.drain policies h hc concurrency schedule
    obtain ⟨final, hv, hw⟩ := hr.close
    have he : paths.isEmpty = false := by simpa using hn
    rw [List.flatMap_map] at hw
    refine ⟨_, final, rfl, hw, Disk.openFile_of_write hw, ?_⟩
    have hs : s.summary = ⟨paths.length, paths.countP fun path => (answer path).isNone,
        (paths.map fun path => (Document.process policies ((answer path).getD [])).2.tables).sum,
        (Csv.readRecords (Sink.encoding (paths.flatMap fun path =>
          (Document.process policies ((answer path).getD [])).1))).length - 1⟩ := by
      rw [Sink.readRecords_encoding, summary, hr.documents, hr.missing, hr.tables, hr.rows,
        List.flatMap_map, List.countP_map, List.map_map]
      simp only [List.length_map, List.length_cons, Nat.add_sub_cancel]
      rfl
    rw [← hs]
    simp only [run, World.bind_apply, h.discover, he, Bool.false_eq_true, if_false,
      Disk.access_write_of_ok hc, hd, hv]
    rfl

theorem run_eq_sequential_missing_document :
    ∃ final,
      final.openFile "azure.csv".toList =
        .ok (.ok (Utf8.encode "Size,vC,Memory,Network Bandwidth\nD2,2,8,3000\n".toList)) ∧
      run Disk.access
        (.ofAnswers ["a".toList, "b".toList] fun path =>
          if path = "a".toList then none
          else some "|Size|vCPU|Memory|Network bandwidth|\n|-|-|-|-|\n|D2|2|8|3000|".toList)
        .standard "azure.csv".toList 2 (fun _ => 1) .initial = (.ok ⟨2, 1, 1, 1⟩, final) := by
  have ha := DocumentSource.answersOn_ofAnswers .initial "azure.csv".toList
    ["a".toList, "b".toList] fun path =>
      if path = "a".toList then none
      else some "|Size|vCPU|Memory|Network bandwidth|\n|-|-|-|-|\n|D2|2|8|3000|".toList
  obtain ⟨bytes, final, hb, -, ho, hr⟩ :=
    (run_eq_sequential _ .standard _ 2 (fun _ => 1) _ _ _ ha).2 (by decide) _ rfl
  have he : bytes = Utf8.encode "Size,vC,Memory,Network Bandwidth\nD2,2,8,3000\n".toList := by
    rw [hb]
    decide +kernel
  rw [he] at ho hr
  exact ⟨final, ho, hr⟩

end Scrape
end InstanceCatalog
