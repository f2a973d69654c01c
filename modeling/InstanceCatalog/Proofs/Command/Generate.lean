import InstanceCatalog.Proofs.Command.Formatting

namespace InstanceCatalog
namespace Generate

open LookupTable

def pool (input output : Text) (schemas : List VendorSchema) : List (Job Disk Result) :=
  schemas.map fun schema => LookupTable.generate Disk.shared schema input output

def failures (results : List Result) : Nat := results.countP fun result => !result.isOk

def writtenPath? : Result → Option Text
  | .ok (path, _) => some path
  | .error _ => none

theorem review_format (formatter : Formatter) (noFormat : Bool) (results : List Result)
    (disk : Disk) :
    review formatter.format noFormat results disk = (failures results,
      if noFormat then disk else formatter.formatAll (results.filterMap writtenPath?) disk) := by
  induction results generalizing disk with
  | nil => cases noFormat <;> rfl
  | cons result rest ih =>
    cases result with
    | error failure =>
      have hf : failures (.error failure :: rest) = failures rest + 1 :=
        List.countP_cons_of_pos rfl
      rw [review, World.bind_apply, ih, hf]
      rfl
    | ok written =>
      cases noFormat with
      | true => exact ih disk
      | false => exact ih (formatter.format written.1 disk).2

theorem sameShape_review (formatter : Formatter) (noFormat : Bool) (results : List Result)
    (disk : Disk) : Disk.SameShape disk (review formatter.format noFormat results disk).2 := by
  rw [review_format]
  cases noFormat with
  | true => exact .refl disk
  | false => exact formatter.sameShape_formatAll _ disk

theorem found?_review {results : List Result} {place : List Text}
    (h : ∀ path ∈ results.filterMap writtenPath?, Disk.placeOf path ≠ place)
    (formatter : Formatter) (noFormat : Bool) (disk : Disk) :
    (review formatter.format noFormat results disk).2.found? place = disk.found? place := by
  rw [review_format]
  cases noFormat with
  | true => rfl
  | false => exact Formatter.found?_formatAll h

/-- A run for the schemas that are selected: how it ends, the disk when all jobs are done, and the
disk when the formatter has been over their tables. -/
inductive Runs (formatter : Formatter) (options : GenerateOptions) (selected : List VendorSchema)
    (disk : Disk) : Except Failure Unit → Disk → Disk → Prop
  | noSchemas : selected = [] → Runs formatter options selected disk (.error .noSchemas) disk disk
  | creating {cause after} : selected ≠ [] →
    disk.createDirectories options.output = (.error cause, after) →
    Runs formatter options selected disk (.error (.creating options.output cause)) after after
  | pool {start results written} : selected ≠ [] →
    disk.createDirectories options.output = (.ok (), start) →
    Interleaves (pool options.input options.output selected) start results written →
    Runs formatter options selected disk
      (conclude (review formatter.format options.noFormat results written).1) written
      (review formatter.format options.noFormat results written).2

theorem mapM_generate (input output : Text) (schemas : List VendorSchema) :
    schemas.mapM (fun schema => LookupTable.generate Disk.access schema input output) =
      (pool input output schemas).mapM Job.run := by
  rw [pool, List.mapM_map]
  congr 1
  funext schema
  exact (run_generate schema input output).symm

theorem readText_access (path : Text) (disk : Disk) :
    (Disk.access.readText path disk).2 = disk := by
  rw [FileAccess.readText, World.bind_apply, Disk.access_openFile]
  rcases disk.openFile path with cause | cause | bytes
  · rfl
  · rfl
  · dsimp only
    cases Utf8.decode bytes with
    | none => rfl
    | some text => rfl

/-- Schemas are read without a change of the disk. -/
theorem schemas_access (path : Option Text) (disk : Disk) :
    (schemas Disk.access path disk).2 = disk := by
  cases path with
  | none => rfl
  | some path =>
    show (VendorSchema.load Disk.access path disk).2 = disk
    rw [VendorSchema.load, World.bind_apply, readText_access]
    cases (Disk.access.readText path disk).1 with
    | error cause => rfl
    | ok text =>
      dsimp only
      cases VendorSchema.ofText? text with
      | none => rfl
      | some schemas => rfl

/-- The program that takes one schema after the other is one of the runs. -/
theorem exists_runs_run (formatter : Formatter) {options : GenerateOptions} {disk : Disk}
    {all : List VendorSchema} (h : (schemas Disk.access options.schemaFile disk).1 = .ok all) :
    ∃ written, Runs formatter options (select options.vendors all) disk
      (run Disk.access formatter.format options disk).1 written
      (run Disk.access formatter.format options disk).2 := by
  rw [run, World.bind_apply, schemas_access, h]
  dsimp only
  generalize select options.vendors all = selected
  by_cases he : selected.isEmpty = true
  · rw [if_pos he]
    exact ⟨disk, .noSchemas (List.isEmpty_iff.mp he)⟩
  · have hne : selected ≠ [] := fun hn => he (List.isEmpty_iff.mpr hn)
    rw [if_neg he, World.bind_apply]
    cases hc : disk.createDirectories options.output with
    | mk answer start =>
      have hc' : Disk.access.createDirectories options.output disk = (answer, start) := hc
      rw [hc']
      cases answer with
      | error cause => exact ⟨start, .creating hne hc⟩
      | ok done =>
        dsimp only
        rw [World.bind_apply, mapM_generate]
        -- one schema after the other is an order of the jobs
        exact ⟨_, .pool hne hc (.sequential (pool options.input options.output selected) start)⟩

/-- Alone on the disk, the job of the schema shapes its export and writes its table. -/
def Succeeds (disk : Disk) (input output : Text) (schema : VendorSchema) : Prop :=
  ∃ records next,
    (schema.shapeFile Disk.access (inputPath input schema.vendor) disk).1 = .ok records ∧
      disk.write (outputPath output schema.vendor) (tableBytes schema records) = .ok next

variable {disk : Disk} {input output : Text} {schema : VendorSchema}

theorem isOk_alone_iff :
    (alone disk input output schema).isOk = true ↔ Succeeds disk input output schema := by
  rw [alone, Succeeds, shaped]
  cases (schema.shapeFile Disk.access (inputPath input schema.vendor) disk).1 with
  | error failure => simp [Except.isOk, Except.toBool]
  | ok records =>
    simp only [written, Disk.refusal?, Except.ok.injEq, exists_and_left, exists_eq_left']
    cases disk.write (outputPath output schema.vendor) (tableBytes schema records) with
    | error cause => simp [Except.isOk, Except.toBool]
    | ok next => simp [Except.isOk, Except.toBool]

instance : Decidable (Succeeds disk input output schema) := decidable_of_iff _ isOk_alone_iff

theorem succeeds_iff_exists_writes :
    Succeeds disk input output schema ↔
      ∃ place contents, Writes disk input output schema place contents := by
  constructor
  · rintro ⟨records, next, hs, hw⟩
    obtain ⟨place, hw, -⟩ := Disk.write_eq_ok_iff.mp hw
    exact ⟨place, _, records, hs, rfl, hw⟩
  · rintro ⟨place, contents, records, hs, -, hw⟩
    exact ⟨records, _, hs, Disk.write_of_writable hw _⟩

theorem not_succeeds_of_unusable
    (h : schema.Unusable disk (inputPath input schema.vendor)) :
    ¬ Succeeds disk input output schema := by
  rintro ⟨records, next, hs, -⟩
  obtain ⟨failure, hf⟩ := VendorSchema.exists_shapeFile_eq_error_iff.mpr h
  rw [hs] at hf
  cases hf

theorem writtenPath?_eq {result : Result} {path : Text}
    (h : ∀ written, result = .ok written → written.1 = path) :
    writtenPath? result = if result.isOk then some path else none := by
  cases result with
  | error failure => rfl
  | ok written => exact congrArg some (h written rfl)

theorem fst_of_alone_eq_ok {schema : VendorSchema} {done : Text × Nat}
    (h : alone disk input output schema = .ok done) :
    done.1 = outputPath output schema.vendor := by
  rw [alone] at h
  split at h
  · cases h
  · unfold written at h
    split at h
    · cases h
    · rw [← Except.ok.inj h]

/-- The tables that are written are those of the schemas that succeed. -/
theorem filterMap_writtenPath? (start : Disk) (input output : Text) (schemas : List VendorSchema) :
    (schemas.map (alone start input output)).filterMap writtenPath? =
      outputPaths output (schemas.filter fun schema => (alone start input output schema).isOk) := by
  induction schemas with
  | nil => rfl
  | cons schema rest ih =>
    have hp : writtenPath? (alone start input output schema) = _ :=
      writtenPath?_eq fun _ => fst_of_alone_eq_ok
    rw [List.map_cons, List.filter_cons]
    by_cases ho : (alone start input output schema).isOk = true
    · rw [if_pos ho] at hp ⊢
      rw [List.filterMap_cons_some hp, ih]
      rfl
    · rw [if_neg ho] at hp ⊢
      rw [List.filterMap_cons_none hp, ih]

/-- What a run makes of one schema. The run finds the first disk, the jobs start on the second and
leave the third, and the last is there when the formatter has been over the tables. -/
structure Settled (formatter : Formatter) (options : GenerateOptions)
    (disk start written final : Disk) (schema : VendorSchema) : Prop where
  table_iff : (∃ records, shaped start options.input schema = .ok records ∧
      written.HasFile (outputPath options.output schema.vendor) (tableBytes schema records)) ↔
    Succeeds start options.input options.output schema
  formatted : Succeeds start options.input options.output schema → ∃ records contents,
    shaped start options.input schema = .ok records ∧
      formatter.Passes (outputPath options.output schema.vendor) (tableBytes schema records)
        (if options.noFormat then 0 else 1) contents ∧
      final.HasFile (outputPath options.output schema.vendor) contents
  fails_of_unusable : schema.Unusable start (inputPath options.input schema.vendor) →
    ¬ Succeeds start options.input options.output schema
  kept : ¬ Succeeds start options.input options.output schema →
    final.openFile (outputPath options.output schema.vendor) =
      start.openFile (outputPath options.output schema.vendor)
  earlier : ¬ Succeeds start options.input options.output schema →
    ∀ contents, disk.openFile (outputPath options.output schema.vendor) = .ok (.ok contents) →
      final.openFile (outputPath options.output schema.vendor) = .ok (.ok contents)

variable {formatter : Formatter} {options : GenerateOptions} {selected : List VendorSchema}

section Progress

variable {start written : Disk} {results : List Result}

/-- A schema that fails finds its file as it was, also behind the formatter. -/
theorem openFile_of_fails (hn : NamesApart selected)
    (h : Progress start options.input options.output selected (results.map .done) written)
    (hm : schema ∈ selected) (hf : ¬ Succeeds start options.input options.output schema) :
    (review formatter.format options.noFormat results written).2.openFile
        (outputPath options.output schema.vendor) =
      start.openFile (outputPath options.output schema.vendor) := by
  have hw : written.openFile (outputPath options.output schema.vendor) =
      start.openFile (outputPath options.output schema.vendor) := by
    apply h.openFile_of_not_writes hn hm
    intro place contents hw
    exact hf (succeeds_iff_exists_writes.mpr ⟨place, contents, hw⟩)
  rw [← hw]
  apply (sameShape_review formatter options.noFormat results written).openFile
  apply found?_review
  -- a table in its place would be its own
  intro path hp he
  rw [h.finished.1, filterMap_writtenPath?] at hp
  obtain ⟨other, ho, rfl⟩ := List.mem_map.mp hp
  obtain ⟨ho, hs⟩ := List.mem_filter.mp ho
  rw [hn.hasOwnFile options.output hm other ho he] at hs
  exact hf (isOk_alone_iff.mp hs)

/-- The table of a schema that succeeds is formatted once. -/
theorem exists_formatted (hn : NamesApart selected)
    (h : Progress start options.input options.output selected (results.map .done) written)
    (hm : schema ∈ selected) (hs : Succeeds start options.input options.output schema) :
    ∃ records contents, shaped start options.input schema = .ok records ∧
      formatter.Passes (outputPath options.output schema.vendor) (tableBytes schema records)
        (if options.noFormat then 0 else 1) contents ∧
      (review formatter.format options.noFormat results written).2.HasFile
        (outputPath options.output schema.vendor) contents := by
  obtain ⟨records, next, hr, hwrite⟩ := hs
  obtain ⟨place, hw, -⟩ := Disk.write_eq_ok_iff.mp hwrite
  obtain rfl : place = tablePlace options.output schema := hw.eq_placeOf
  have hwrites : Writes start options.input options.output schema
      (tablePlace options.output schema) (tableBytes schema records) := ⟨records, hr, rfl, hw⟩
  rw [review_format, h.finished.1, filterMap_writtenPath?]
  obtain ⟨contents, hp, hc⟩ := exists_passes_table formatter options.noFormat
    (List.filter_subset_self (p := fun schema =>
      (alone start options.input options.output schema).isOk) selected)
    (hn.hasOwnFile options.output hm) (h.writable_of_writes hm hwrites)
    (h.finished.2 schema hm _ _ hwrites)
  have hok : (alone start options.input options.output schema).isOk = true :=
    isOk_alone_iff.mpr ⟨records, next, hr, hwrite⟩
  rw [List.count_filter (p := fun schema =>
      (alone start options.input options.output schema).isOk) hok,
    List.count_eq_one_of_mem (List.Nodup.of_map _ hn.nodup) hm] at hp
  exact ⟨records, contents, hr, hp, hc⟩

theorem settled_of_progress (hn : NamesApart selected)
    (hc : disk.createDirectories options.output = (.ok (), start))
    (h : Progress start options.input options.output selected (results.map .done) written)
    (hm : schema ∈ selected) :
    Settled formatter options disk start written
      (review formatter.format options.noFormat results written).2 schema := by
  refine ⟨⟨?_, ?_⟩, exists_formatted hn h hm, not_succeeds_of_unusable,
    openFile_of_fails hn h hm, ?_⟩
  · rintro ⟨records, hs, ho⟩
    obtain ⟨place, hw⟩ := h.writable_of_hasFile hn hm ho
    exact ⟨records, _, hs, Disk.write_of_writable hw _⟩
  · rintro ⟨records, next, hs, hw⟩
    obtain ⟨place, hw, -⟩ := Disk.write_eq_ok_iff.mp hw
    exact ⟨records, hs, h.hasFile_of_writes hm ⟨records, hs, rfl, hw⟩⟩
  · intro hf contents ho
    rw [openFile_of_fails hn h hm hf]
    exact Disk.openFile_of_found? (fun _ _ => Disk.found?_createDirectories hc) ho

end Progress

theorem failures_alone (start : Disk) :
    failures (selected.map (alone start input output)) =
      selected.countP fun schema => ¬ Succeeds start input output schema := by
  rw [failures, List.countP_map]
  congr 1
  funext schema
  rw [Function.comp_apply, Bool.eq_iff_iff]
  simp [← isOk_alone_iff]

theorem conclude_eq_error_iff {failed n : Nat} :
    conclude failed = .error (.vendorsFailed n) ↔ 0 < n ∧ n = failed := by
  cases failed with
  | zero =>
    simp only [conclude, reduceCtorEq, false_iff]
    omega
  | succ failed =>
    simp only [conclude, Except.error.injEq, Failure.vendorsFailed.injEq]
    omega

theorem exitCode_conclude_ne_zero_iff {failed : Nat} :
    (Outcome.ofResult (conclude failed)).exitCode ≠ 0 ↔ failed ≠ 0 := by
  cases failed with
  | zero => simp [conclude, Outcome.ofResult, Outcome.exitCode]
  | succ failed => simp [conclude, Outcome.ofResult, Outcome.exitCode]

variable {outcome outcome' : Except Failure Unit} {written written' final final' : Disk}

/-- A run that gets as far as its jobs counts those that fail alone. -/
theorem Runs.of_start (hn : NamesApart selected) {start : Disk}
    (h : Runs formatter options selected disk outcome written final) (hne : selected ≠ [])
    (hc : disk.createDirectories options.output = (.ok (), start)) :
    outcome = conclude (failures (selected.map (alone start options.input options.output))) ∧
      ∃ results : List Result,
        Progress start options.input options.output selected (results.map .done) written ∧
          final = (review formatter.format options.noFormat results written).2 := by
  cases h with
  | noSchemas he => exact absurd he hne
  | creating _ hc' =>
    rw [hc] at hc'
    cases hc'
  | pool _ hc' hi =>
    rw [hc] at hc'
    obtain ⟨-, rfl⟩ := Prod.mk.inj hc'
    have hp := progress_of_interleaves hn hi
    rw [review_format, hp.finished.1]
    exact ⟨rfl, _, hp.finished.1 ▸ hp, by rw [review_format]⟩

theorem exists_runs (formatter : Formatter) (options : GenerateOptions)
    (selected : List VendorSchema) (disk : Disk) :
    ∃ outcome written final, Runs formatter options selected disk outcome written final := by
  by_cases he : selected = []
  · exact ⟨_, _, _, .noSchemas he⟩
  · cases hc : disk.createDirectories options.output with
    | mk answer start =>
      cases answer with
      | error cause => exact ⟨_, _, _, .creating he hc⟩
      | ok done => exact ⟨_, _, _, .pool he hc (.sequential _ start)⟩

/-- Two runs end alike, on the same entries. -/
theorem Runs.unique (hn : NamesApart selected)
    (h : Runs formatter options selected disk outcome written final)
    (h' : Runs formatter options selected disk outcome' written' final') :
    outcome' = outcome ∧ (∀ place, written'.found? place = written.found? place) ∧
      ∀ place, final'.found? place = final.found? place := by
  cases h with
  | noSchemas he =>
    cases h' with
    | noSchemas => exact ⟨rfl, fun _ => rfl, fun _ => rfl⟩
    | creating hne => exact absurd he hne
    | pool hne => exact absurd he hne
  | creating hne hc =>
    cases h' with
    | noSchemas he => exact absurd he hne
    | creating _ hc' =>
      rw [hc] at hc'
      cases hc'
      exact ⟨rfl, fun _ => rfl, fun _ => rfl⟩
    | pool _ hc' =>
      rw [hc] at hc'
      cases hc'
  | pool hne hc hi =>
    obtain ⟨ho', results, hp', rfl⟩ := h'.of_start hn hne hc
    have hp := progress_of_interleaves hn hi
    have hw := hp'.found?_eq hp
    rw [review_format, review_format, hp.finished.1, hp'.finished.1]
    refine ⟨ho', hw, fun place => ?_⟩
    dsimp only
    split
    · exact hw place
    · exact formatter.found?_formatAll_congr _ hw place

/-- A run fails for want of schemas or of its directory, or because some schema fails. -/
theorem Runs.exitCode_ne_zero_iff (hn : NamesApart selected)
    (h : Runs formatter options selected disk outcome written final) :
    (Outcome.ofResult outcome).exitCode ≠ 0 ↔
      selected = [] ∨ (∃ cause after,
          disk.createDirectories options.output = (.error cause, after)) ∨
        ∃ start, disk.createDirectories options.output = (.ok (), start) ∧
          ∃ schema ∈ selected, ¬ Succeeds start options.input options.output schema := by
  cases h with
  | noSchemas he => simp [he, Outcome.ofResult, Outcome.exitCode]
  | creating hne hc => simp [hc, Outcome.ofResult, Outcome.exitCode]
  | @pool start _ _ hne hc hi =>
    rw [review_format, (progress_of_interleaves hn hi).finished.1, exitCode_conclude_ne_zero_iff,
      failures_alone, ← Nat.pos_iff_ne_zero, List.countP_pos_iff]
    simp [hne, hc]

theorem Runs.eq_vendorsFailed_iff (hn : NamesApart selected)
    (h : Runs formatter options selected disk outcome written final) (n : Nat) :
    outcome = .error (.vendorsFailed n) ↔
      selected ≠ [] ∧ ∃ start, disk.createDirectories options.output = (.ok (), start) ∧
        0 < n ∧ n = selected.countP fun schema =>
          ¬ Succeeds start options.input options.output schema := by
  cases h with
  | noSchemas he => simp [he]
  | creating hne hc => simp [hc]
  | pool hne hc hi =>
    rw [review_format, (progress_of_interleaves hn hi).finished.1, conclude_eq_error_iff,
      failures_alone]
    simp [hne, hc]

/-- A run without the formatter ends when its jobs are done. -/
theorem Runs.eq_written (hf : options.noFormat = true)
    (h : Runs formatter options selected disk outcome written final) : final = written := by
  cases h with
  | noSchemas => rfl
  | creating => rfl
  | pool => rw [review_format, if_pos hf]

/-- The generator whatever the order of its jobs. There is a run, and one schema after the other is
one; all runs end alike, on the same files, each schema settled by its own export. Tables are what
the formatter makes of them, and unless it is wanted they stay as they are written. -/
theorem runs_any_order (formatter : Formatter) (options : GenerateOptions)
    {selected : List VendorSchema} (hn : NamesApart selected) (disk : Disk) :
    (∃ outcome written final, Runs formatter options selected disk outcome written final) ∧
      (∀ all, (schemas Disk.access options.schemaFile disk).1 = .ok all →
        select options.vendors all = selected →
        ∃ written, Runs formatter options selected disk
          (run Disk.access formatter.format options disk).1 written
          (run Disk.access formatter.format options disk).2) ∧
      ∀ outcome written final, Runs formatter options selected disk outcome written final →
        (∀ outcome' written' final',
          Runs formatter options selected disk outcome' written' final' →
          outcome' = outcome ∧ (∀ place, written'.found? place = written.found? place) ∧
            ∀ place, final'.found? place = final.found? place) ∧
        (options.noFormat = true → final = written) ∧
        (∀ start, selected ≠ [] →
          disk.createDirectories options.output = (.ok (), start) →
          ∀ schema ∈ selected, Settled formatter options disk start written final schema) ∧
        ((Outcome.ofResult outcome).exitCode ≠ 0 ↔
          selected = [] ∨ (∃ cause after,
              disk.createDirectories options.output = (.error cause, after)) ∨
            ∃ start, disk.createDirectories options.output = (.ok (), start) ∧
              ∃ schema ∈ selected, ¬ Succeeds start options.input options.output schema) ∧
        ∀ n, outcome = .error (.vendorsFailed n) ↔
          selected ≠ [] ∧ ∃ start, disk.createDirectories options.output = (.ok (), start) ∧
            0 < n ∧ n = selected.countP fun schema =>
              ¬ Succeeds start options.input options.output schema := by
  refine ⟨exists_runs formatter options selected disk, ?_, ?_⟩
  · rintro all hs rfl
    exact exists_runs_run formatter hs
  · intro outcome written final h
    refine ⟨fun _ _ _ h' => h.unique hn h', fun hf => h.eq_written hf, ?_,
      h.exitCode_ne_zero_iff hn, h.eq_vendorsFailed_iff hn⟩
    intro start hne hc schema hm
    obtain ⟨-, results, hp, rfl⟩ := h.of_start hn hne hc
    exact settled_of_progress hn hc hp hm

def halfDisk : Disk :=
  let columns := "API Name,Instance Memory,vCPUs,Network Performance\n"
  (Disk.initial.withWorkEntry "aws.csv".toList (.file (Utf8.encode columns.toList))).withWorkEntry
    "out/gcp_instances.cpp".toList (.file [0x6F])

def withReturns (contents : Bytes) : Bytes :=
  contents.flatMap fun b => if b = 0x0A then [0x0D, 0x0A] else [b]

/-- A formatter may be set to end lines with a carriage return and a line feed. -/
def lineEndFormatter : Formatter := ⟨fun _ _ contents => some (withReturns contents)⟩

theorem eq_withReturns_of_passes {path : Text} {contents formatted : Bytes}
    (h : lineEndFormatter.Passes path contents 1 formatted) : formatted = withReturns contents := by
  cases h with
  | next seen h =>
    cases h
    rfl

theorem runs_any_order_half :
    ∃ outcome written final, Runs lineEndFormatter
        ⟨".".toList, "out".toList, none, ["aws".toList, "GCP".toList], false, false⟩
        [VendorSchema.aws, VendorSchema.gcp] halfDisk outcome written final ∧
      outcome = .error (.vendorsFailed 1) ∧
      final.openFile (outputPath "out".toList VendorSchema.aws.vendor) =
        .ok (.ok (withReturns (tableBytes VendorSchema.aws []))) ∧
      final.openFile (outputPath "out".toList VendorSchema.gcp.vendor) = .ok (.ok [0x6F]) := by
  have hn : NamesApart [VendorSchema.aws, VendorSchema.gcp] :=
    ⟨by decide +kernel, by decide +kernel⟩
  have hc : halfDisk.createDirectories "out".toList = (.ok (), halfDisk) := rfl
  obtain ⟨-, hrun, hall⟩ := runs_any_order lineEndFormatter
    ⟨".".toList, "out".toList, none, ["aws".toList, "GCP".toList], false, false⟩ hn halfDisk
  obtain ⟨written, h⟩ := hrun VendorSchema.builtIn rfl (by decide +kernel)
  obtain ⟨-, -, hsettled, -, hcount⟩ := hall _ _ _ h
  have haws := hsettled halfDisk (by decide) hc VendorSchema.aws (by simp)
  have hgcp := hsettled halfDisk (by decide) hc VendorSchema.gcp (by simp)
  have hmissing : halfDisk.openFile (inputPath ".".toList VendorSchema.gcp.vendor) =
      .error .notFound := rfl
  have hu : VendorSchema.gcp.Unusable halfDisk (inputPath ".".toList VendorSchema.gcp.vendor) := by
    apply VendorSchema.Unusable.missing
    intro bytes hb
    rw [hmissing] at hb
    cases hb
  refine ⟨_, _, _, h, ?_, ?_, hgcp.earlier (hgcp.fails_of_unusable hu) _ rfl⟩
  · rw [hcount]
    exact ⟨by decide, halfDisk, hc, by decide, by decide +kernel⟩
  · obtain ⟨records, contents, hs, hp, ho⟩ := haws.formatted (by decide +kernel)
    have he : shaped halfDisk ".".toList VendorSchema.aws = .ok [] := by rfl
    rw [he] at hs
    obtain rfl := Except.ok.inj hs
    rw [← eq_withReturns_of_passes hp]
    exact ho.opens

/-- A run fails without a schema, when none has failed. Bytes that are no text are an export all the
same if their fields are texts, so its table replaces the earlier one. And a table that is formatted
is not what was written. -/
theorem failure_without_failing_schema :
    ¬ ((Outcome.ofResult (run Disk.access Tools.none.format
          ⟨".".toList, "out".toList, none, ["nosuch".toList], true, false⟩
          Disk.initial).1).exitCode ≠ 0 ↔
        ∃ schema ∈ select ["nosuch".toList] VendorSchema.builtIn,
          ¬ Succeeds Disk.initial ".".toList "out".toList schema) ∧
      (let columns := "API Name,Instance Memory,vCPUs,Network Performance,"
      let bytes := Utf8.encode columns.toList ++ [0x22, 0xC3, 0x22, 0xA9, 0x0A]
      let disk := (Disk.initial.withWorkEntry "aws.csv".toList (.file bytes)).withWorkEntry
        "out/aws_instances.cpp".toList (.file [0x6F])
      let final := run Disk.access Tools.none.format
        ⟨".".toList, "out".toList, none, ["aws".toList], true, false⟩ disk
      Utf8.decode bytes = none ∧ (Outcome.ofResult final.1).exitCode = 0 ∧
        final.2.openFile (outputPath "out".toList VendorSchema.aws.vendor) ≠ .ok (.ok [0x6F])) ∧
      let final := run Disk.access lineEndFormatter.format
        ⟨".".toList, "out".toList, none, ["aws".toList], false, false⟩ halfDisk
      (Outcome.ofResult final.1).exitCode = 0 ∧
        shaped halfDisk ".".toList VendorSchema.aws = .ok [] ∧
        final.2.openFile (outputPath "out".toList VendorSchema.aws.vendor) ≠
          .ok (.ok (tableBytes VendorSchema.aws [])) := by
  refine ⟨?_, ⟨by decide +kernel, by decide +kernel, by decide +kernel⟩, by decide +kernel, rfl,
    by decide +kernel⟩
  have hs : select ["nosuch".toList] VendorSchema.builtIn = [] := by decide +kernel
  have hr : (Outcome.ofResult (run Disk.access Tools.none.format
      ⟨".".toList, "out".toList, none, ["nosuch".toList], true, false⟩
      Disk.initial).1).exitCode ≠ 0 := by decide +kernel
  rw [hs]
  intro h
  obtain ⟨schema, hm, -⟩ := h.mp hr
  cases hm

end Generate
end InstanceCatalog
