import InstanceCatalog.Proofs.Command.Generate
import InstanceCatalog.Proofs.Text.Utf8

namespace InstanceCatalog
namespace LookupTable

/-- Tables of one vendor are told apart by their records. -/
theorem initializers_eq_of_tableBytes {a b : VendorSchema} {records others : List ShapedRecord}
    (hv : a.vendor = b.vendor) (h : tableBytes a records = tableBytes b others) :
    initializers records = initializers others := by
  have hr := congrArg Utf8.decode h
  rw [tableBytes, tableBytes, Utf8.decode_encode, Utf8.decode_encode, render, render, hv] at hr
  exact List.append_cancel_left (List.append_cancel_right (Option.some.inj hr))

/-- Directories and exports are those of another disk. -/
structure Keeps (start now : Disk) : Prop where
  directory_iff : ∀ place, now.found? place = some .directory ↔ start.found? place = some .directory
  exports : ∀ above last, now.found? (above ++ [last ++ ".csv".toList]) =
    start.found? (above ++ [last ++ ".csv".toList])

namespace Keeps

variable {start now : Disk} {input output : Text} {schema : VendorSchema}
  {records : List ShapedRecord} {place : List Text}

theorem refl (disk : Disk) : Keeps disk disk := ⟨fun _ => Iff.rfl, fun _ _ => rfl⟩

theorem writable (h : Keeps start now) {path : Text} (hw : now.Writable path place) :
    start.Writable path place :=
  hw.of_directories (fun p => (h.directory_iff p).mp)
    (mt (h.directory_iff place).mpr hw.noDirectory)

theorem openFile (h : Keeps start now) {bytes : Bytes}
    (ho : now.openFile (inputPath input schema.vendor) = .ok (.ok bytes)) :
    start.openFile (inputPath input schema.vendor) = .ok (.ok bytes) := by
  obtain ⟨place, hr, hf⟩ := Disk.openFile_eq_ok ho
  obtain ⟨hz, he, hw⟩ := Disk.resolve_eq_ok hr
  obtain ⟨above, last, hp⟩ : ∃ above last, Disk.placeOf (inputPath input schema.vendor) =
      above ++ [last ++ ".csv".toList] :=
    Disk.exists_placeOf_join input _ (by decide) (by decide)
  obtain rfl : place = Disk.placeOf (inputPath input schema.vendor) := Disk.eq_foldl_of_walk hw
  have hf := hf bytes rfl
  rw [hp, h.exports, ← hp] at hf
  exact Disk.openFile_of_walk hz he
    (Disk.walk_of_directories (fun p => (h.directory_iff p).mp) hw) hf

theorem shaped (h : Keeps start now) (hs : shaped now input schema = .ok records) :
    LookupTable.shaped start input schema = .ok records := by
  rw [LookupTable.shaped, VendorSchema.shapeFile_access] at hs ⊢
  rcases ho : now.openFile (inputPath input schema.vendor) with cause | cause | bytes
  · rw [ho] at hs
    cases hs
  · rw [ho] at hs
    cases hs
  · rw [ho] at hs
    rw [h.openFile ho]
    exact hs

/-- A table where none was, or in the place of another one. -/
theorem put (h : Keeps start now) (hw : now.Writable (outputPath output schema.vendor) place)
    (contents : Bytes) : Keeps start (now.put place (.file contents)) := by
  refine ⟨fun other => ?_, fun above last => ?_⟩
  · rw [Disk.found?_put now hw.ne_nil, ← h.directory_iff other]
    split
    · next he =>
      rw [he]
      exact ⟨fun hd => (nomatch hd), fun hd => absurd hd hw.noDirectory⟩
    · rfl
  · obtain ⟨above', last', hp⟩ := exists_tablePlace output schema
    rw [Disk.found?_put now hw.ne_nil, if_neg, h.exports]
    intro he
    rw [hw.eq_placeOf, ← tablePlace, hp] at he
    exact export_ne_table _ _ (List.cons.inj (List.append_inj' he rfl).2).1

end Keeps

/-- How far the job of a schema has come, and what it has made of its file if that is its own. -/
inductive Stage (start : Disk) (input output : Text) (schemas : List VendorSchema) (now : Disk)
    (schema : VendorSchema) : Job Disk Result → Prop
  | reading : Stage start input output schemas now schema (reading input output schema)
  | writing {records} : shaped start input schema = .ok records →
    Stage start input output schemas now schema (writing output schema records)
  | failed {failure} : Stage start input output schemas now schema (.done (.error failure))
  | finished {records} : shaped start input schema = .ok records →
    start.Writable (outputPath output schema.vendor) (tablePlace output schema) →
    (HasOwnFile output schemas schema →
      now.found? (tablePlace output schema) = some (.file (tableBytes schema records))) →
    Stage start input output schemas now schema
      (.done (.ok (outputPath output schema.vendor, records.length)))

variable {start now : Disk} {input output : Text} {schemas : List VendorSchema}
  {schema : VendorSchema}

theorem Stage.mono {next : Disk} {job : Job Disk Result}
    (h : Stage start input output schemas now schema job)
    (hk : ∀ records, shaped start input schema = .ok records → HasOwnFile output schemas schema →
      now.found? (tablePlace output schema) = some (.file (tableBytes schema records)) →
      next.found? (tablePlace output schema) = some (.file (tableBytes schema records))) :
    Stage start input output schemas next schema job := by
  cases h with
  | reading => exact .reading
  | writing hs => exact .writing hs
  | failed => exact .failed
  | finished hs hw hf => exact .finished hs hw fun ho => hk _ hs ho (hf ho)

structure Underway (start : Disk) (input output : Text) (schemas : List VendorSchema)
    (pool : List (Job Disk Result)) (now : Disk) : Prop where
  keeps : Keeps start now
  stages : List.Forall₂ (Stage start input output schemas now) schemas pool

theorem Underway.initial (disk : Disk) (input output : Text) (schemas : List VendorSchema) :
    Underway disk input output schemas
      (schemas.map fun schema => generate Disk.shared schema input output) disk := by
  refine ⟨.refl disk, ?_⟩
  rw [List.forall₂_map_right_iff, List.forall₂_same]
  intro schema _
  rw [generate_shared]
  exact .reading

theorem Underway.step {pool : List (Job Disk Result)}
    (h : Underway start input output schemas pool now) {before after : List (Job Disk Result)}
    {change : Disk → Disk} {following : Disk → Job Disk Result}
    (he : pool = before ++ .step change following :: after) :
    Underway start input output schemas (before ++ following now :: after) (change now) := by
  subst he
  obtain ⟨schema, hm, hs, hr⟩ := forall₂_replace h.stages
  generalize hj : Job.step change following = job at hs
  cases hs with
  | reading =>
    rw [reading] at hj
    obtain ⟨rfl, rfl⟩ := Job.step.inj hj
    -- what can be shaped now could be shaped at the start, to the same records
    refine ⟨h.keeps, hr _ _ (fun _ _ _ hd => hd) ?_⟩
    dsimp only
    cases hs : shaped now input schema with
    | error failure => exact .failed
    | ok records => exact .writing (h.keeps.shaped hs)
  | @writing records hs =>
    rw [writing] at hj
    obtain ⟨rfl, rfl⟩ := Job.step.inj hj
    simp only [Disk.access_write, written, Disk.refusal?]
    cases hw : now.write (outputPath output schema.vendor) (tableBytes schema records) with
    | error cause => exact ⟨h.keeps, hr _ _ (fun _ _ _ hd => hd) .failed⟩
    | ok next =>
      obtain ⟨place, hwr, rfl⟩ := Disk.write_eq_ok_iff.mp hw
      obtain rfl : place = tablePlace output schema := hwr.eq_placeOf
      refine ⟨h.keeps.put hwr _, hr _ _ ?_ (.finished hs (h.keeps.writable hwr) fun _ => ?_)⟩
      · intro other ho job hd
        refine hd.mono fun others hso hown hf => ?_
        rw [Disk.found?_put now hwr.ne_nil]
        split
        · next he =>
          -- a file of its own is written by the schema itself
          obtain rfl := hown schema hm he.symm
          rw [hs] at hso
          rw [Except.ok.inj hso]
        · exact hf
      · rw [Disk.found?_put now hwr.ne_nil, if_pos rfl]
  | failed => cases hj
  | finished => cases hj

theorem underway_of_interleaves {results : List Result} {final : Disk}
    (h : Interleaves (schemas.map fun schema => generate Disk.shared schema input output) start
      results final) :
    Underway start input output schemas (results.map .done) final :=
  h.of_invariant (Underway start input output schemas) (fun _ _ _ _ _ hp => hp.step rfl)
    (.initial start input output schemas)

theorem Stage.exists_of_isOk {result : Result}
    (h : Stage start input output schemas now schema (.done result)) (ho : result.isOk) :
    ∃ records, result = .ok (outputPath output schema.vendor, records.length) ∧
      shaped start input schema = .ok records ∧
      start.Writable (outputPath output schema.vendor) (tablePlace output schema) ∧
      (HasOwnFile output schemas schema →
        now.found? (tablePlace output schema) = some (.file (tableBytes schema records))) := by
  generalize hj : Job.done result = job at h
  cases h with
  | reading =>
    rw [LookupTable.reading] at hj
    cases hj
  | writing =>
    rw [LookupTable.writing] at hj
    cases hj
  | failed =>
    cases hj
    cases ho
  | finished hs hw hf =>
    cases hj
    exact ⟨_, rfl, hs, hw, hf⟩

end LookupTable

namespace Generate

open LookupTable

theorem conclude_failures_eq_ok_iff {results : List Result} :
    conclude (failures results) = .ok () ↔ ∀ result ∈ results, result.isOk := by
  have hf : failures results = 0 ↔ ∀ result ∈ results, result.isOk := by
    simp [failures, List.countP_eq_zero]
  rw [← hf]
  cases failures results with
  | zero => simp [conclude]
  | succ failed => simp [conclude]

/-- All schemas have written, so all tables are formatted, in the order of the schemas. -/
theorem filterMap_writtenPath?_of_isOk {start now : Disk} {input output : Text}
    {schemas named : List VendorSchema} {results : List Result}
    (h : List.Forall₂ (fun schema result =>
      Stage start input output schemas now schema (.done result)) named results)
    (ho : ∀ result ∈ results, result.isOk) :
    results.filterMap writtenPath? = outputPaths output named := by
  induction h with
  | nil => rfl
  | cons hs _ ih =>
    obtain ⟨hr, hrest⟩ := List.forall_mem_cons.mp ho
    obtain ⟨records, rfl, -⟩ := hs.exists_of_isOk hr
    exact congrArg (_ :: ·) (ih hrest)

/-- The file of a schema holds its table when the jobs are done, and in the end what the formatter
has made of it, once for each time that the schema is selected. -/
structure HoldsTable (formatter : Formatter) (options : GenerateOptions)
    (selected : List VendorSchema) (written final : Disk) (schema : VendorSchema)
    (records : List ShapedRecord) : Prop where
  written : written.HasFile (outputPath options.output schema.vendor) (tableBytes schema records)
  final : ∃ contents,
    formatter.Passes (outputPath options.output schema.vendor) (tableBytes schema records)
        (if options.noFormat then 0 else selected.count schema) contents ∧
      final.HasFile (outputPath options.output schema.vendor) contents

structure Made (formatter : Formatter) (options : GenerateOptions) (selected : List VendorSchema)
    (start written final : Disk) (schema : VendorSchema) (records : List ShapedRecord) :
    Prop where
  shaped : shaped start options.input schema = .ok records
  place : final.resolve (outputPath options.output schema.vendor) =
    .ok (tablePlace options.output schema)
  own : HasOwnFile options.output selected schema →
    HoldsTable formatter options selected written final schema records

variable {formatter : Formatter} {options : GenerateOptions} {selected : List VendorSchema}
  {disk written final : Disk}

theorem exists_made {start : Disk} {results : List Result}
    (h : Underway start options.input options.output selected (results.map .done) written)
    (ho : ∀ result ∈ results, result.isOk) {schema : VendorSchema} (hm : schema ∈ selected) :
    ∃ records, Made formatter options selected start written
      (review formatter.format options.noFormat results written).2 schema records := by
  have hs := List.forall₂_map_right_iff.mp h.stages
  obtain ⟨i, hx, rfl⟩ := List.getElem_of_mem hm
  have hy : i < results.length := hs.length_eq ▸ hx
  obtain ⟨records, -, hr, hw, hf⟩ := (hs.get hx hy).exists_of_isOk (ho _ (List.getElem_mem hy))
  have hww := hw.of_directories (fun p => (h.keeps.directory_iff p).mpr)
    (mt (h.keeps.directory_iff _).mp hw.noDirectory)
  have hshape := sameShape_review formatter options.noFormat results written
  refine ⟨records, hr, (hshape.writable hww).resolve, fun hown => ⟨hww.hasFile (hf hown), ?_⟩⟩
  rw [review_format, filterMap_writtenPath?_of_isOk hs ho]
  exact exists_passes_table formatter options.noFormat (List.Subset.refl selected) hown hww
    (hf hown)

/-- A run that succeeds has shaped all exports and written to all files, whatever the order. -/
theorem Runs.exists_made (h : Runs formatter options selected disk (.ok ()) written final) :
    ∃ start, disk.createDirectories options.output = (.ok (), start) ∧ ∀ schema ∈ selected,
      ∃ records, Made formatter options selected start written final schema records := by
  generalize ho : Except.ok () = outcome at h
  cases h with
  | noSchemas => cases ho
  | creating => cases ho
  | @pool start results _ _ hc hi =>
    rw [review_format] at ho
    exact ⟨start, hc, fun schema hm => Generate.exists_made (underway_of_interleaves hi)
      (conclude_failures_eq_ok_iff.mp ho.symm) hm⟩

/-- The built-in schemas never share a file, whichever are wanted. -/
theorem hasOwnFile_builtIn (output : Text) (vendors : List Text) {schema : VendorSchema}
    (hm : schema ∈ select vendors VendorSchema.builtIn) :
    HasOwnFile output (select vendors VendorSchema.builtIn) schema := by
  have hs : select vendors VendorSchema.builtIn ⊆ VendorSchema.builtIn := by
    unfold select
    split
    · exact List.Subset.refl _
    · exact List.filter_subset_self _
  have hn : NamesApart VendorSchema.builtIn := ⟨by decide +kernel, by decide +kernel⟩
  exact fun other ho => hn.hasOwnFile output (hs hm) other (hs ho)

/-- After a run that succeeds, in whatever order, each schema that shares its file with no other one
finds its own table there, or what the formatter has made of it. So all do exactly where no two have
one file, as no two of the built-in ones have; and below one directory those have one file whose
vendors' names are the same in lower case. -/
theorem own_tables_iff (h : Runs formatter options selected disk (.ok ()) written final) :
    ∃ start, disk.createDirectories options.output = (.ok (), start) ∧
      (∀ schema ∈ selected,
        ∃ records, Made formatter options selected start written final schema records) ∧
      (((∀ a ∈ selected, ∀ b ∈ selected, a ≠ b →
          final.resolve (outputPath options.output a.vendor) ≠
            final.resolve (outputPath options.output b.vendor)) ∧
        ∀ schema ∈ selected, ∃ records, shaped start options.input schema = .ok records ∧
          HoldsTable formatter options selected written final schema records) ↔
        ∀ schema ∈ selected, HasOwnFile options.output selected schema) ∧
      (options.noFormat = true → final = written) ∧
      (∀ a ∈ selected, ∀ b ∈ selected,
        '/' ∉ Text.lowercase a.vendor → '/' ∉ Text.lowercase b.vendor →
          (tablePlace options.output a = tablePlace options.output b ↔
            Text.lowercase a.vendor = Text.lowercase b.vendor)) ∧
      ∀ vendors, selected = select vendors VendorSchema.builtIn →
        ∀ schema ∈ selected, HasOwnFile options.output selected schema := by
  obtain ⟨start, hc, hmade⟩ := h.exists_made
  refine ⟨start, hc, hmade, ⟨?_, ?_⟩, fun hf => h.eq_written hf,
    fun a _ b _ => tablePlace_eq_iff options.output, ?_⟩
  · rintro ⟨hne, -⟩ schema hm other ho he
    by_contra hn
    obtain ⟨_, hs⟩ := hmade schema hm
    obtain ⟨_, hso⟩ := hmade other ho
    exact hne other ho schema hm hn (by rw [hs.place, hso.place, he])
  · intro hown
    constructor
    · intro a ha b hb hn he
      obtain ⟨_, hsa⟩ := hmade a ha
      obtain ⟨_, hsb⟩ := hmade b hb
      rw [hsa.place, hsb.place] at he
      exact hn (hown b hb a ha (Except.ok.inj he))
    · intro schema hm
      obtain ⟨records, hs⟩ := hmade schema hm
      exact ⟨records, hs.shaped, hs.own (hown schema hm)⟩
  · rintro vendors rfl schema hm
    exact hasOwnFile_builtIn options.output vendors hm

def inMegabits : VendorSchema :=
  ⟨"IBM".toList, "Name".toList, "Memory".toList, "vCPU".toList, "Network".toList, none, 1⟩

def inGigabits (vendor : String) : VendorSchema := { inMegabits with
  vendor := vendor.toList
  networkScale := 1000 }

def twoExports : Disk :=
  let rows := DiskEntry.file (Utf8.encode "Name,Memory,vCPU,Network\nbx2,8,2,5\n".toList)
  let columns := "name: Name, memory: Memory, vcpu: vCPU, network: Network"
  let vendors := DiskEntry.file (Utf8.encode
    ("- \x7bvendor: IBM, " ++ columns ++ ", network_scale: 1\x7d\n" ++
      "- \x7bvendor: IBM, " ++ columns ++ "\x7d\n").toList)
  ((Disk.initial.withWorkEntry "vendors.yaml".toList vendors).withWorkEntry
    "ibm.csv".toList rows).withWorkEntry "oci.csv".toList rows

def startOfTwo : Disk := twoExports.withWorkEntry "out".toList .directory

def twoOptions (noFormat : Bool) : GenerateOptions :=
  ⟨".".toList, "out".toList, some "vendors.yaml".toList, [], noFormat, false⟩

theorem exists_runs_two (noFormat : Bool) {selected : List VendorSchema} (hn : selected ≠ [])
    (h : failures ((pool ".".toList "out".toList selected).mapM Job.run startOfTwo).1 = 0) :
    ∃ written final,
      Runs lineEndFormatter (twoOptions noFormat) selected twoExports (.ok ()) written final := by
  have hc : twoExports.createDirectories "out".toList = (.ok (), startOfTwo) := by decide +kernel
  have hr : Runs lineEndFormatter (twoOptions noFormat) selected twoExports _ _ _ :=
    .pool hn hc (.sequential (pool ".".toList "out".toList selected) startOfTwo)
  rw [review_format, h] at hr
  exact ⟨_, _, hr⟩

theorem own_tables_iff_two : ∃ start written final,
    Runs lineEndFormatter (twoOptions false) [inMegabits, inGigabits "OCI"] twoExports (.ok ())
        written final ∧
      ∀ schema ∈ [inMegabits, inGigabits "OCI"], ∃ records,
        shaped start ".".toList schema = .ok records ∧
          final.openFile (outputPath "out".toList schema.vendor) =
            .ok (.ok (withReturns (tableBytes schema records))) := by
  obtain ⟨written, final, hr⟩ :=
    exists_runs_two false (List.cons_ne_nil inMegabits [inGigabits "OCI"]) (by decide +kernel)
  obtain ⟨start, -, -, hiff, -⟩ := own_tables_iff hr
  refine ⟨start, written, final, hr, fun schema hm => ?_⟩
  obtain ⟨records, hs, ho⟩ := (hiff.mpr (by decide +kernel)).2 schema hm
  obtain ⟨contents, hp, hf⟩ := ho.final
  have hone : [inMegabits, inGigabits "OCI"].count schema = 1 :=
    List.count_eq_one_of_mem (by decide) hm
  rw [if_neg (by decide), hone] at hp
  rw [eq_withReturns_of_passes hp] at hf
  exact ⟨records, hs, hf.opens⟩

/-- Two schemas for one vendor are accepted, and the run succeeds. There is one file, and in no
order do both schemas find their tables there. -/
theorem one_file_for_two_schemas :
    (schemas Disk.access (twoOptions true).schemaFile twoExports).1 =
        .ok [inMegabits, inGigabits "IBM"] ∧
      inMegabits ≠ inGigabits "IBM" ∧
      (∃ written final, Runs lineEndFormatter (twoOptions true) [inMegabits, inGigabits "IBM"]
        twoExports (.ok ()) written final) ∧
      ∀ written final, Runs lineEndFormatter (twoOptions true) [inMegabits, inGigabits "IBM"]
        twoExports (.ok ()) written final →
          final.resolve (outputPath "out".toList inMegabits.vendor) =
            final.resolve (outputPath "out".toList (inGigabits "IBM").vendor) ∧
          ¬∀ schema ∈ [inMegabits, inGigabits "IBM"], ∃ records,
            shaped twoExports ".".toList schema = .ok records ∧
              final.openFile (outputPath "out".toList schema.vendor) =
                .ok (.ok (tableBytes schema records)) := by
  refine ⟨by decide +kernel, by decide,
    exists_runs_two true (List.cons_ne_nil inMegabits [inGigabits "IBM"]) (by decide +kernel),
    fun written final _ => ⟨rfl, fun hown => ?_⟩⟩
  obtain ⟨records, hs, ho⟩ := hown inMegabits (by simp)
  obtain ⟨others, hs', ho'⟩ := hown (inGigabits "IBM") (by simp)
  have hb : tableBytes inMegabits records = tableBytes (inGigabits "IBM") others :=
    Except.ok.inj (Except.ok.inj (ho.symm.trans ho'))
  have hi := initializers_eq_of_tableBytes rfl hb
  have hd : (shaped twoExports ".".toList inMegabits).map initializers ≠
      (shaped twoExports ".".toList (inGigabits "IBM")).map initializers := by decide +kernel
  exact hd (by rw [hs, hs', Except.map, Except.map, hi])

end Generate
end InstanceCatalog
