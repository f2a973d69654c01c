import InstanceCatalog.Command.Generate
import InstanceCatalog.Proofs.LookupTable.Pool

namespace InstanceCatalog

/-- A formatter gives a file new contents, or none where it is missing or fails. It sees all that
is on the disk, and the path and the contents of the file. -/
structure Formatter where
  formatted? : (List Text → Option DiskEntry) → Text → Bytes → Option Bytes

namespace Formatter

open Disk (placeOf SameShape)

def rewritten? (formatter : Formatter) (path : Text) (disk : Disk) : Option Bytes :=
  match disk.openFile path with
  | .ok (.ok contents) => formatter.formatted? disk.found? path contents
  | _ => none

def format (formatter : Formatter) (path : Text) : StateM Disk Unit := fun disk =>
  match formatter.rewritten? path disk with
  | some formatted => ((), (Disk.access.write path formatted disk).2)
  | none => ((), disk)

def formatAll (formatter : Formatter) (paths : List Text) (disk : Disk) : Disk :=
  paths.foldl (fun disk path => (formatter.format path disk).2) disk

/-- What a number of passes over a file make of its contents, whatever else is on the disk. -/
inductive Passes (formatter : Formatter) (path : Text) (contents : Bytes) : Nat → Bytes → Prop
  | none : Passes formatter path contents 0 contents
  | next {n now} (seen : List Text → Option DiskEntry) : Passes formatter path contents n now →
    Passes formatter path contents (n + 1) ((formatter.formatted? seen path now).getD now)

variable {formatter : Formatter} {disk next : Disk} {path : Text} {place : List Text}

theorem format_eq_or_put (formatter : Formatter) (path : Text) (disk : Disk) :
    (formatter.format path disk).2 = disk ∨ ∃ old new, disk.Writable path (placeOf path) ∧
      disk.found? (placeOf path) = some (.file old) ∧
      (formatter.format path disk).2 = disk.put (placeOf path) (.file new) := by
  rw [format]
  cases hr : formatter.rewritten? path disk with
  | none => exact .inl rfl
  | some formatted =>
    dsimp only
    rw [Disk.access_write]
    cases hw : disk.write path formatted with
    | error cause => exact .inl rfl
    | ok next =>
      obtain ⟨place, hwr, rfl⟩ := Disk.write_eq_ok_iff.mp hw
      obtain rfl := hwr.eq_placeOf
      -- only what can be opened is rewritten
      rw [rewritten?] at hr
      split at hr
      · next contents ho =>
        obtain ⟨place, hp, hf⟩ := Disk.openFile_eq_ok ho
        obtain rfl := Disk.resolve_eq_placeOf hp
        exact .inr ⟨contents, formatted, hwr, hf contents rfl, rfl⟩
      · cases hr

theorem sameShape_format (formatter : Formatter) (path : Text) (disk : Disk) :
    SameShape disk (formatter.format path disk).2 := by
  obtain he | ⟨old, new, hw, hf, he⟩ := formatter.format_eq_or_put path disk
  · rw [he]
    exact .refl disk
  · rw [he]
    exact Disk.sameShape_put hw.ne_nil hf new

theorem found?_format (hp : place ≠ placeOf path) :
    (formatter.format path disk).2.found? place = disk.found? place := by
  obtain he | ⟨old, new, hw, -, he⟩ := formatter.format_eq_or_put path disk
  · rw [he]
  · rw [he, Disk.found?_put disk hw.ne_nil, if_neg hp]

theorem found?_format_of_writable {contents : Bytes} (hw : disk.Writable path place)
    (hf : disk.found? place = some (.file contents)) :
    (formatter.format path disk).2.found? place =
      some (.file ((formatter.formatted? disk.found? path contents).getD contents)) := by
  have hr : formatter.rewritten? path disk = formatter.formatted? disk.found? path contents := by
    rw [rewritten?, hw.openFile hf]
  rw [format, hr]
  cases formatter.formatted? disk.found? path contents with
  | none => exact hf
  | some formatted =>
    dsimp only
    rw [Disk.access_write_of_ok (Disk.write_of_writable hw formatted), Option.getD_some,
      Disk.found?_put disk hw.ne_nil, if_pos rfl]

/-- A formatter does the same on disks with the same entries. -/
theorem found?_format_congr (h : ∀ place, next.found? place = disk.found? place)
    (place : List Text) :
    (formatter.format path next).2.found? place = (formatter.format path disk).2.found? place := by
  have hr : formatter.rewritten? path next = formatter.rewritten? path disk := by
    rw [rewritten?, rewritten?, Disk.openFile_congr h, funext h]
  rw [format, format, hr]
  cases formatter.rewritten? path disk with
  | none => exact h place
  | some formatted => exact Disk.found?_write_congr h path formatted place

theorem sameShape_formatAll (formatter : Formatter) (paths : List Text) (disk : Disk) :
    SameShape disk (formatter.formatAll paths disk) := by
  induction paths generalizing disk with
  | nil => exact .refl disk
  | cons path rest ih => exact (formatter.sameShape_format path disk).trans (ih _)

theorem found?_formatAll {paths : List Text} (h : ∀ path ∈ paths, placeOf path ≠ place) :
    (formatter.formatAll paths disk).found? place = disk.found? place := by
  induction paths generalizing disk with
  | nil => rfl
  | cons path rest ih =>
    obtain ⟨hp, hr⟩ := List.forall_mem_cons.mp h
    exact (ih hr).trans (found?_format hp.symm)

theorem found?_formatAll_congr (formatter : Formatter) (paths : List Text)
    (h : ∀ place, next.found? place = disk.found? place) (place : List Text) :
    (formatter.formatAll paths next).found? place =
      (formatter.formatAll paths disk).found? place := by
  induction paths generalizing disk next with
  | nil => exact h place
  | cons path rest ih => exact ih (found?_format_congr h)

/-- A file that no other path leads to is gone over as often as its path is named. -/
theorem exists_passes (formatter : Formatter) {contents : Bytes} (hw : disk.Writable path place)
    (hf : disk.found? place = some (.file contents)) {paths : List Text}
    (h : ∀ other ∈ paths, placeOf other = place → other = path) :
    ∃ formatted, formatter.Passes path contents (paths.count path) formatted ∧
      (formatter.formatAll paths disk).found? place = some (.file formatted) := by
  induction paths using List.reverseRecOn with
  | nil => exact ⟨contents, .none, hf⟩
  | append_singleton paths last ih =>
    obtain ⟨now, hp, hn⟩ := ih fun other ho => h other (List.mem_append_left _ ho)
    have ha : formatter.formatAll (paths ++ [last]) disk =
        (formatter.format last (formatter.formatAll paths disk)).2 := List.foldl_concat ..
    rw [ha, List.count_append]
    by_cases hl : last = path
    · rw [hl, List.count_singleton_self,
        found?_format_of_writable ((formatter.sameShape_formatAll paths disk).writable hw) hn]
      exact ⟨_, .next _ hp, rfl⟩
    · have hne : place ≠ placeOf last := fun he => hl (h last (by simp) he.symm)
      rw [List.count_singleton, if_neg (by simpa using hl), found?_format hne]
      exact ⟨now, hp, hn⟩

end Formatter

namespace LookupTable

variable {output : Text} {schemas named : List VendorSchema} {schema : VendorSchema}

/-- Of the tables of some schemas those in a file of its own are of its schema. -/
theorem count_outputPath (hs : named ⊆ schemas) (ho : HasOwnFile output schemas schema) :
    (outputPaths output named).count (outputPath output schema.vendor) =
      named.count schema := by
  rw [outputPaths, List.count, List.countP_map, List.count]
  apply List.countP_congr
  intro other hm
  simp only [Function.comp_apply, beq_iff_eq]
  constructor
  · intro he
    exact ho other (hs hm) (congrArg Disk.placeOf he)
  · rintro rfl
    rfl

/-- The tables of some schemas are formatted, unless that is not wanted. Of a table in a file of its
own the file then holds what as many passes as its schema is named make of it. -/
theorem exists_passes_table (formatter : Formatter) (noFormat : Bool) {written : Disk}
    {table : Bytes} (hs : named ⊆ schemas) (ho : HasOwnFile output schemas schema)
    (hw : written.Writable (outputPath output schema.vendor) (tablePlace output schema))
    (hf : written.found? (tablePlace output schema) = some (.file table)) :
    ∃ contents, formatter.Passes (outputPath output schema.vendor) table
        (if noFormat then 0 else named.count schema) contents ∧
      (if noFormat then written else formatter.formatAll (outputPaths output named) written).HasFile
        (outputPath output schema.vendor) contents := by
  cases noFormat with
  | true => exact ⟨table, .none, hw.hasFile hf⟩
  | false =>
    have hone : ∀ path ∈ outputPaths output named,
        Disk.placeOf path = tablePlace output schema → path = outputPath output schema.vendor := by
      intro path hm he
      obtain ⟨other, hn, rfl⟩ := List.mem_map.mp hm
      rw [ho other (hs hn) he]
    obtain ⟨contents, hp, hc⟩ := formatter.exists_passes hw hf hone
    rw [count_outputPath hs ho] at hp
    exact ⟨contents, hp, ((formatter.sameShape_formatAll _ written).writable hw).hasFile hc⟩

end LookupTable
end InstanceCatalog
