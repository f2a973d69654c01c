import InstanceCatalog.Proofs.Jobs
import InstanceCatalog.Proofs.LookupTable.Places
import InstanceCatalog.Proofs.Vendor.Unusable

/-!
A pool of jobs, one for each vendor's table, on one disk. A job reads in the folder of the exports
and then writes in the folder of the tables, perhaps the same one; others may take steps in between.
No table is an export, so in every order each job comes to what it would come to alone.
-/

namespace InstanceCatalog

/-- The disk as a world in which other jobs take their steps between those of a program. To open a
file and read it is one step, to write it another: no two jobs have to do with one file. -/
def Disk.shared : FileAccess (Job Disk) where
  openFile path := .atomic (Disk.access.openFile path)
  write path contents := .atomic (Disk.access.write path contents)
  createDirectories path := .atomic (Disk.access.createDirectories path)
  list path := .atomic (Disk.access.list path)

namespace LookupTable

/-! ## One job -/

def shaped (disk : Disk) (input : Text) (schema : VendorSchema) :
    Except Failure (List ShapedRecord) :=
  (schema.shapeFile Disk.access (inputPath input schema.vendor) disk).1

def tableBytes (schema : VendorSchema) (records : List ShapedRecord) : Bytes :=
  Utf8.encode (render schema.vendor records)

def written (disk : Disk) (output : Text) (schema : VendorSchema) (records : List ShapedRecord) :
    Result :=
  match disk.refusal? (outputPath output schema.vendor) (tableBytes schema records) with
  | some cause => .error (.writing (outputPath output schema.vendor) cause)
  | none => .ok (outputPath output schema.vendor, records.length)

/-- What a job comes to that has the disk to itself. -/
def alone (disk : Disk) (input output : Text) (schema : VendorSchema) : Result :=
  match shaped disk input schema with
  | .error failure => .error failure
  | .ok records => written disk output schema records

/-- The rest of a job that has shaped its export. -/
def writing (output : Text) (schema : VendorSchema) (records : List ShapedRecord) :
    Job Disk Result :=
  .step (fun disk => (Disk.access.write (outputPath output schema.vendor)
    (tableBytes schema records) disk).2) fun disk => .done (written disk output schema records)

def reading (input output : Text) (schema : VendorSchema) : Job Disk Result :=
  .step (fun disk => disk) fun disk =>
    match shaped disk input schema with
    | .error failure => .done (.error failure)
    | .ok records => writing output schema records

theorem shapeFile_shared (schema : VendorSchema) (path : Text) :
    schema.shapeFile Disk.shared path =
      .step (fun disk => disk) fun disk => .done (schema.shapeFile Disk.access path disk).1 := by
  -- the bind of one step is one step
  show Job.step _ _ = _
  congr 1
  funext disk
  rw [VendorSchema.shapeFile_access]
  show Job.bind (.done _) _ = _
  rw [Job.bind, Disk.access_openFile]
  rcases disk.openFile path with cause | _ | bytes
  · rfl
  · rfl
  · rfl

theorem generate_shared (schema : VendorSchema) (input output : Text) :
    generate Disk.shared schema input output = reading input output schema := by
  rw [generate, shapeFile_shared]
  show Job.step _ _ = _
  rw [reading]
  congr 1
  funext disk
  rw [shaped]
  show Job.bind (.done _) _ = _
  rw [Job.bind]
  cases (schema.shapeFile Disk.access (inputPath input schema.vendor) disk).1 with
  | error failure => rfl
  | ok records =>
    show Job.step _ _ = writing output schema records
    rw [writing]
    congr 1
    funext disk
    rw [written, Disk.refusal?, tableBytes]
    show Job.bind (.done _) _ = _
    rw [Job.bind, Disk.access_write]
    cases disk.write (outputPath output schema.vendor)
      (Utf8.encode (render schema.vendor records)) with
    | ok next => rfl
    | error cause => rfl

theorem run_shapeFile (schema : VendorSchema) (path : Text) :
    (schema.shapeFile Disk.shared path).run = schema.shapeFile Disk.access path := by
  have ho : (Disk.shared.openFile path).run = Disk.access.openFile path := Job.run_atomic _
  rw [VendorSchema.shapeFile, VendorSchema.shapeFile, Job.run_bind, ho]
  congr 1
  funext opened
  rcases opened with cause | cause | bytes
  · rfl
  · rfl
  · rfl

/-- With the disk to itself a job is the program it is made of. -/
theorem run_generate (schema : VendorSchema) (input output : Text) :
    (generate Disk.shared schema input output).run = generate Disk.access schema input output := by
  rw [generate, generate, Job.run_bind, run_shapeFile]
  congr 1
  funext shaped
  cases shaped with
  | error failure => rfl
  | ok records =>
    have hw (path : Text) (contents : Bytes) :
        (Disk.shared.write path contents).run = Disk.access.write path contents :=
      Job.run_atomic _
    dsimp only
    rw [Job.run_bind, hw]
    congr 1
    funext answer
    cases answer with
    | error cause => rfl
    | ok done => rfl

/-! ## Where a job writes -/

/-- Alone on the disk, the job of a schema writes these contents at this place. -/
def Writes (disk : Disk) (input output : Text) (schema : VendorSchema) (place : List Text)
    (contents : Bytes) : Prop :=
  ∃ records, shaped disk input schema = .ok records ∧ contents = tableBytes schema records ∧
    disk.Writable (outputPath output schema.vendor) place

variable {disk now : Disk} {input output : Text} {schemas : List VendorSchema}

theorem Writes.unique {schema : VendorSchema} {place place' : List Text} {contents contents' : Bytes}
    (h : Writes disk input output schema place contents)
    (h' : Writes disk input output schema place' contents') :
    place = place' ∧ contents = contents' := by
  obtain ⟨records, hs, hc, hw⟩ := h
  obtain ⟨records', hs', hc', hw'⟩ := h'
  rw [hs] at hs'
  refine ⟨Except.ok.inj (hw.leads.symm.trans hw'.leads), ?_⟩
  rw [hc, hc', Except.ok.inj hs']

theorem Writes.writable {schema : VendorSchema} {place : List Text} {contents : Bytes}
    (h : Writes disk input output schema place contents) :
    disk.Writable (outputPath output schema.vendor) place := by
  obtain ⟨-, -, -, hw⟩ := h
  exact hw

/-- A table is written in the folder of the tables, under its own name. -/
theorem Writes.exists_leadsTo {schema : VendorSchema} {place : List Text} {contents : Bytes}
    (h : Writes disk input output schema place contents)
    (hn : '/' ∉ Text.lowercase schema.vendor) :
    ∃ folder, disk.LeadsTo output folder ∧
      place = folder ++ [Text.lowercase schema.vendor ++ "_instances.cpp".toList] :=
  Disk.exists_leadsTo (isFileName_table hn) h.writable.leads

theorem Writes.eq_tablePlace {schema : VendorSchema} {place : List Text} {contents : Bytes}
    (h : Writes disk input output schema place contents) : place = tablePlace output schema :=
  h.writable.eq_placeOf

/-- Two jobs do not write at one place. -/
theorem Writes.schema_unique {a b : VendorSchema} {place : List Text} {contents contents' : Bytes}
    (h : Writes disk input output a place contents)
    (h' : Writes disk input output b place contents') (hn : NamesApart schemas)
    (ha : a ∈ schemas) (hb : b ∈ schemas) : a = b :=
  hn.hasOwnFile output hb a ha (h.eq_tablePlace.symm.trans h'.eq_tablePlace)

/-! ## The pool -/

/-- How far a job has come: what is left of it, and what it has made of the disk that the pool
started on. -/
inductive Phase (disk : Disk) (input output : Text) (now : Disk) (schema : VendorSchema) :
    Job Disk Result → Prop
  | reading : Phase disk input output now schema (reading input output schema)
  | writing {records} : shaped disk input schema = .ok records →
    Phase disk input output now schema (writing output schema records)
  | done : (∀ place contents, Writes disk input output schema place contents →
      now.found? place = some (.file contents)) →
    Phase disk input output now schema (.done (alone disk input output schema))

/-- What holds between the steps of a pool: to no job does the disk look different, but for its
own table, from the one that the pool started on. -/
structure Progress (disk : Disk) (input output : Text) (schemas : List VendorSchema)
    (pool : List (Job Disk Result)) (now : Disk) : Prop where
  opens : ∀ schema ∈ schemas, now.openFile (inputPath input schema.vendor) =
    disk.openFile (inputPath input schema.vendor)
  refuses : ∀ schema ∈ schemas, ∀ contents,
    now.refusal? (outputPath output schema.vendor) contents =
      disk.refusal? (outputPath output schema.vendor) contents
  elsewhere : ∀ place, (∀ schema ∈ schemas, ∀ contents,
    ¬ Writes disk input output schema place contents) → now.found? place = disk.found? place
  phases : List.Forall₂ (Phase disk input output now) schemas pool

theorem Progress.start (disk : Disk) (input output : Text) (schemas : List VendorSchema) :
    Progress disk input output schemas
      (schemas.map fun schema => generate Disk.shared schema input output) disk := by
  refine ⟨fun _ _ => rfl, fun _ _ _ => rfl, fun _ _ => rfl, ?_⟩
  rw [List.forall₂_map_right_iff, List.forall₂_same]
  intro schema _
  rw [generate_shared]
  exact .reading

theorem Phase.mono {next : Disk} {schema : VendorSchema} {job : Job Disk Result}
    (h : Phase disk input output now schema job)
    (hk : ∀ place contents, Writes disk input output schema place contents →
      now.found? place = some (.file contents) → next.found? place = some (.file contents)) :
    Phase disk input output next schema job := by
  cases h with
  | reading => exact .reading
  | writing hs => exact .writing hs
  | done hw => exact .done fun place contents h => hk place contents h (hw place contents h)

/-- The directories are those of the start, and no table has taken the place of one. -/
theorem Progress.found?_directory {pool : List (Job Disk Result)}
    (h : Progress disk input output schemas pool now) {place : List Text}
    (hd : disk.found? place = some .directory) : now.found? place = some .directory := by
  rw [h.elsewhere, hd]
  rintro schema - contents ⟨-, -, -, hw⟩
  exact hw.noDirectory hd

theorem shaped_congr {schema : VendorSchema}
    (h : now.openFile (inputPath input schema.vendor) =
      disk.openFile (inputPath input schema.vendor)) :
    shaped now input schema = shaped disk input schema := by
  rw [shaped, shaped, VendorSchema.shapeFile_access, VendorSchema.shapeFile_access, h]

/-- An export that is shaped stands in a folder that can be reached. -/
theorem exists_leadsTo_of_shaped {schema : VendorSchema} {records : List ShapedRecord}
    (hn : '/' ∉ Text.lowercase schema.vendor) (h : shaped disk input schema = .ok records) :
    ∃ reached, disk.LeadsTo input reached := by
  rw [shaped, VendorSchema.shapeFile_access] at h
  cases ho : disk.openFile (inputPath input schema.vendor) with
  | error cause => rw [ho] at h; cases h
  | ok opened => exact Disk.exists_leadsTo_of_openFile (isFileName_export hn) ho

namespace Progress

variable {pool : List (Job Disk Result)} {schema : VendorSchema}

/-- What can be written now could be written, at the same place, at the start. -/
theorem writable (h : Progress disk input output schemas pool now) (hm : schema ∈ schemas)
    {place : List Text} (hw : now.Writable (outputPath output schema.vendor) place) :
    disk.Writable (outputPath output schema.vendor) place := by
  have hr := h.refuses schema hm []
  rw [Disk.refusal?_eq_none_iff.mpr ⟨place, hw⟩] at hr
  obtain ⟨place', hw'⟩ := Disk.refusal?_eq_none_iff.mp hr.symm
  -- no directory on the way has gone, so it is the same place
  have hl := Disk.walk_of_directories (fun _ => h.found?_directory) hw'.leads
  obtain rfl := Except.ok.inj (hw.leads.symm.trans hl)
  exact hw'

section Write

variable {records : List ShapedRecord} {place : List Text}

/-- Writing a table leaves the tables that others have written. -/
theorem found?_of_writes (h : Progress disk input output schemas pool now) (hn : NamesApart schemas)
    (hm : schema ∈ schemas) (hs : shaped disk input schema = .ok records)
    (hw : now.Writable (outputPath output schema.vendor) place) {other : VendorSchema}
    (ho : other ∈ schemas) {place' : List Text} {contents : Bytes}
    (hwo : Writes disk input output other place' contents)
    (hf : other = schema ∨ now.found? place' = some (.file contents)) :
    (now.put place (.file (tableBytes schema records))).found? place' = some (.file contents) := by
  have hws : Writes disk input output schema place (tableBytes schema records) :=
    ⟨records, hs, rfl, h.writable hm hw⟩
  rw [Disk.found?_put now hw.ne_nil]
  by_cases he : place' = place
  · rw [if_pos he]
    rw [he] at hwo
    obtain rfl : other = schema := hwo.schema_unique hws hn ho hm
    rw [(hwo.unique hws).2]
  · rw [if_neg he]
    refine hf.resolve_left ?_
    rintro rfl
    exact he (hwo.unique hws).1

/-- A table that is written makes no difference to any export and to no other write. -/
theorem put (h : Progress disk input output schemas pool now) (hn : NamesApart schemas)
    (hm : schema ∈ schemas) (hs : shaped disk input schema = .ok records)
    (hw : now.Writable (outputPath output schema.vendor) place) {pool' : List (Job Disk Result)}
    (hp : List.Forall₂
      (Phase disk input output (now.put place (.file (tableBytes schema records)))) schemas pool') :
    Progress disk input output schemas pool'
      (now.put place (.file (tableBytes schema records))) := by
  have hne := hw.ne_nil
  -- both folders are reached now, so they are after the write
  obtain ⟨source, hsource⟩ := exists_leadsTo_of_shaped (hn.noSlash schema hm)
    ((shaped_congr (h.opens schema hm)).trans hs)
  obtain ⟨target, htarget, hplace⟩ :=
    Disk.exists_leadsTo (isFileName_table (hn.noSlash schema hm)) hw.leads
  refine ⟨?_, ?_, ?_, hp⟩
  · intro other ho
    rw [← h.opens other ho]
    apply hsource.openFile_congr (hsource.put hw _) (isFileName_export (hn.noSlash other ho))
    rw [Disk.found?_put now hne, if_neg]
    intro he
    rw [hplace] at he
    exact export_ne_table _ _ (List.cons.inj (List.append_inj' he rfl).2).1
  · intro other ho contents
    rw [← h.refuses other ho]
    apply htarget.refusal?_congr (htarget.put hw _) (isFileName_table (hn.noSlash other ho))
    rw [Disk.found?_put now hne]
    split
    · next he =>
      rw [he]
      exact ⟨fun hd => (nomatch hd), fun hd => absurd hd hw.noDirectory⟩
    · rfl
  · intro place' hno
    rw [Disk.found?_put now hne, if_neg, h.elsewhere place' hno]
    rintro rfl
    exact hno schema hm _ ⟨records, hs, rfl, h.writable hm hw⟩

end Write

/-- What one job comes to between others is what it would come to alone. -/
theorem step (h : Progress disk input output schemas pool now) (hn : NamesApart schemas)
    {before after : List (Job Disk Result)} {change : Disk → Disk}
    {following : Disk → Job Disk Result} (he : pool = before ++ .step change following :: after) :
    Progress disk input output schemas (before ++ following now :: after) (change now) := by
  subst he
  obtain ⟨schema, hm, hp, hr⟩ := forall₂_replace h.phases
  generalize hj : Job.step change following = job at hp
  cases hp with
  | reading =>
    -- the export is the one that the start had, and the disk stays as it is
    rw [reading] at hj
    obtain ⟨rfl, rfl⟩ := Job.step.inj hj
    refine ⟨h.opens, h.refuses, h.elsewhere, hr _ _ (fun _ _ _ hd => hd) ?_⟩
    simp only [shaped_congr (h.opens schema hm)]
    cases hs : shaped disk input schema with
    | error failure =>
      have ha : alone disk input output schema = .error failure := by rw [alone, hs]
      simp only [← ha]
      apply Phase.done
      rintro place contents ⟨records, hs', -⟩
      rw [hs] at hs'
      cases hs'
    | ok records => exact .writing hs
  | @writing records hs =>
    rw [writing] at hj
    obtain ⟨rfl, rfl⟩ := Job.step.inj hj
    have ha : written now output schema records = alone disk input output schema := by
      rw [alone, hs, written, h.refuses schema hm]
      rfl
    simp only [ha, Disk.access_write]
    cases hw : now.write (outputPath output schema.vendor) (tableBytes schema records) with
    | error cause =>
      -- the write is refused as it would have been at the start, and nothing changes
      refine ⟨h.opens, h.refuses, h.elsewhere, hr _ _ (fun _ _ _ hd => hd) (.done ?_)⟩
      rintro place contents ⟨-, -, -, hwd⟩
      have hd : disk.refusal? (outputPath output schema.vendor) (tableBytes schema records) = none :=
        Disk.refusal?_eq_none_iff.mpr ⟨place, hwd⟩
      rw [← h.refuses schema hm, Disk.refusal?, hw] at hd
      cases hd
    | ok next =>
      -- the table is new, and whatever the others have written is still there
      obtain ⟨place, hwr, rfl⟩ := Disk.write_eq_ok_iff.mp hw
      apply h.put hn hm hs hwr
      apply hr
      · intro other ho job hd
        exact hd.mono fun _ _ hwo hf => h.found?_of_writes hn hm hs hwr ho hwo (.inr hf)
      · exact .done fun _ _ hwo => h.found?_of_writes hn hm hs hwr hm hwo (.inl rfl)
  | done => cases hj

end Progress

/-! ## The end -/

/-- At the end of any order of steps, all jobs done, the invariant still holds. -/
theorem progress_of_interleaves (hn : NamesApart schemas) {results : List Result} {final : Disk}
    (h : Interleaves (schemas.map fun schema => generate Disk.shared schema input output) disk
      results final) :
    Progress disk input output schemas (results.map .done) final :=
  h.of_invariant (Progress disk input output schemas) (fun _ _ _ _ _ hp => hp.step hn rfl)
    (.start disk input output schemas)

theorem Phase.of_done {schema : VendorSchema} {result : Result}
    (h : Phase disk input output now schema (.done result)) :
    (∀ place contents, Writes disk input output schema place contents →
      now.found? place = some (.file contents)) ∧ alone disk input output schema = result := by
  generalize hj : Job.done result = job at h
  cases h with
  | reading =>
    rw [LookupTable.reading] at hj
    cases hj
  | writing =>
    rw [LookupTable.writing] at hj
    cases hj
  | done hw => exact ⟨hw, (Job.done.inj hj).symm⟩

namespace Progress

variable {results : List Result} {final : Disk} {schema : VendorSchema}

theorem finished (h : Progress disk input output schemas (results.map .done) final) :
    results = schemas.map (alone disk input output) ∧
      ∀ schema ∈ schemas, ∀ place contents, Writes disk input output schema place contents →
        final.found? place = some (.file contents) := by
  have hd := (List.forall₂_map_right_iff.mp h.phases).imp fun _ _ => Phase.of_done
  obtain ⟨hw, hr⟩ := (List.forall₂_and_left _ _).mp hd
  refine ⟨?_, hw⟩
  have he : List.Forall₂ Eq (schemas.map (alone disk input output)) results :=
    List.forall₂_map_left_iff.mpr hr
  rw [List.forall₂_eq_eq_eq] at he
  exact he.symm

/-- All orders end on the same entries. -/
theorem found?_eq {results' : List Result} {final' : Disk}
    (h : Progress disk input output schemas (results.map .done) final)
    (h' : Progress disk input output schemas (results'.map .done) final') (place : List Text) :
    final.found? place = final'.found? place := by
  by_cases hw : ∃ schema ∈ schemas, ∃ contents, Writes disk input output schema place contents
  · obtain ⟨schema, hm, contents, hw⟩ := hw
    rw [h.finished.2 schema hm place contents hw, h'.finished.2 schema hm place contents hw]
  · have hno : ∀ schema ∈ schemas, ∀ contents, ¬ Writes disk input output schema place contents :=
      fun schema hm contents hc => hw ⟨schema, hm, contents, hc⟩
    rw [h.elsewhere place hno, h'.elsewhere place hno]

/-- No directory is new at the end. -/
theorem directory_of_found? (h : Progress disk input output schemas (results.map .done) final)
    {place : List Text} (hd : final.found? place = some .directory) :
    disk.found? place = some .directory := by
  rw [← hd, h.elsewhere place]
  intro schema hm contents hw
  rw [h.finished.2 schema hm place contents hw] at hd
  cases hd

theorem writable_of_writes (h : Progress disk input output schemas (results.map .done) final)
    (hm : schema ∈ schemas) {place : List Text} {contents : Bytes}
    (hw : Writes disk input output schema place contents) :
    final.Writable (outputPath output schema.vendor) place := by
  refine hw.writable.of_directories (fun _ => h.found?_directory) ?_
  rw [h.finished.2 schema hm place contents hw]
  exact fun hc => nomatch hc

theorem hasFile_of_writes (h : Progress disk input output schemas (results.map .done) final)
    (hm : schema ∈ schemas) {place : List Text} {contents : Bytes}
    (hw : Writes disk input output schema place contents) :
    final.HasFile (outputPath output schema.vendor) contents :=
  (h.writable_of_writes hm hw).hasFile (h.finished.2 schema hm place contents hw)

/-- Where a table can be read at the end, it could be written at the start. -/
theorem writable_of_hasFile (h : Progress disk input output schemas (results.map .done) final)
    (hn : NamesApart schemas) (hm : schema ∈ schemas) {contents : Bytes}
    (ho : final.HasFile (outputPath output schema.vendor) contents) :
    ∃ place, disk.Writable (outputPath output schema.vendor) place := by
  have hname := isFileName_table (hn.noSlash schema hm)
  obtain ⟨place, hr, hf⟩ := Disk.openFile_eq_ok ho.opens
  obtain ⟨hz, he, hw⟩ := Disk.resolve_eq_ok hr
  have hw := Disk.walk_of_directories (fun _ => h.directory_of_found?) hw
  obtain ⟨folder, hl, -⟩ := Disk.exists_leadsTo hname hw
  refine ⟨place, hz, he, ho.fits, ⟨folder, ?_, hl.directory⟩,
    Disk.LeadsTo.endsInDirectory_join hname, hw, ?_⟩
  · rw [outputPath, Disk.startOf_join hname, Path.names_join hname, List.dropLast_concat]
    exact hl.walk
  · intro hd
    have hd := h.found?_directory hd
    rw [hf contents rfl] at hd
    cases hd

/-- The table of a schema that writes none is what it was at the start. -/
theorem openFile_of_not_writes (h : Progress disk input output schemas (results.map .done) final)
    (hn : NamesApart schemas) (hm : schema ∈ schemas)
    (hw : ∀ place contents, ¬ Writes disk input output schema place contents) :
    final.openFile (outputPath output schema.vendor) =
      disk.openFile (outputPath output schema.vendor) := by
  by_cases hl : ∃ folder, disk.LeadsTo output folder
  · obtain ⟨folder, hl⟩ := hl
    apply hl.openFile_congr (hl.of_directories fun _ => h.found?_directory)
      (isFileName_table (hn.noSlash schema hm))
    apply h.elsewhere
    intro other ho contents hwo
    -- only the schema itself writes under its name
    obtain ⟨folder', -, hp⟩ := hwo.exists_leadsTo (hn.noSlash other ho)
    obtain rfl := hn.eq_of_place hm ho hp
    exact hw _ _ hwo
  · -- without a folder nothing is written at all
    apply Disk.openFile_congr
    intro place
    apply h.elsewhere
    intro other ho contents hwo
    obtain ⟨folder, hf, -⟩ := hwo.exists_leadsTo (hn.noSlash other ho)
    exact hl ⟨folder, hf⟩

end Progress

end LookupTable
end InstanceCatalog
