import ApiContract.Proofs.Emit.Write
import Mathlib.Data.List.TakeWhile

/-!
Each file is replaced whole or not at all: what a write has changed when it comes to its end and when
it stops, which files it tells as unchanged, and that a second write changes nothing.
-/

set_option autoImplicit false

namespace ApiContract.Emit

open Files (Disk IsName)
open Files.Disk (Grew)

variable (directory : String)

def Stands (disk : Disk) (file : GeneratedFile) : Prop :=
  disk.Stands (targetOf directory file) file.content

instance (disk : Disk) (file : GeneratedFile) : Decidable (Stands directory disk file) :=
  inferInstanceAs (Decidable (disk.Stands _ _))

-- If a file is there already, then on a later disk its path leads to it and it may be read.
def Reachable (disk later : Disk) (file : GeneratedFile) : Prop :=
  Stands directory disk file →
    later.isPresent (targetOf directory file) = true ∧
      later.withholds (placeOf directory later file) = none

theorem has_iff (disk : Disk) (file : GeneratedFile) :
    has directory disk file = true ↔
      Stands directory disk file ∧ disk.isPresent (targetOf directory file) = true ∧
        disk.withholds (placeOf directory disk file) = none := by
  rw [has, holds_iff, Disk.reads_iff_stands, Stands, placeOf]

-- What a summary of files is when those of a kind are told as unchanged and the others as written.
def summaryOf (unchanged : GeneratedFile → Bool) (files : List GeneratedFile) : Summary where
  written := (files.filter fun file => !unchanged file).map (targetOf directory)
  unchanged := (files.filter unchanged).map (targetOf directory)

theorem summary_of_congr (first second : GeneratedFile → Bool) (files : List GeneratedFile)
    (same : ∀ file ∈ files, first file = second file) :
    summaryOf directory first files = summaryOf directory second files := by
  have others : ∀ file ∈ files, (!first file) = !second file := fun file member =>
    congrArg Bool.not (same file member)
  rw [summaryOf, summaryOf, List.filter_congr same, List.filter_congr others]

theorem summary_of_inj (first second : GeneratedFile → Bool) (files : List GeneratedFile)
    (distinct : (files.map (targetOf directory)).Nodup)
    (same : summaryOf directory first files = summaryOf directory second files) :
    ∀ file ∈ files, first file = second file := by
  have told (unchanged : GeneratedFile → Bool) (file : GeneratedFile) (member : file ∈ files) :
      targetOf directory file ∈ (summaryOf directory unchanged files).unchanged ↔
        unchanged file = true := by
    rw [summaryOf, List.mem_map]
    constructor
    · rintro ⟨other, kept, sameTarget⟩
      obtain ⟨inFiles, isKept⟩ := List.mem_filter.mp kept
      rw [← List.inj_on_of_nodup_map distinct inFiles member sameTarget]
      exact isKept
    · exact fun kept => ⟨file, List.mem_filter.mpr ⟨member, kept⟩, rfl⟩
  intro file member
  rw [Bool.eq_iff_iff, ← told first file member, ← told second file member, same]

-- The disk as it is when the turn comes to a file.
def atTurn (disk : Disk) (files : List GeneratedFile) (file : GeneratedFile) : Disk :=
  (writeFiles directory disk (files.takeWhile fun other => decide (other ≠ file))).disk

theorem at_turn_first (disk : Disk) (file : GeneratedFile) (rest : List GeneratedFile) :
    atTurn directory disk (file :: rest) file = disk := by
  rw [atTurn, List.takeWhile_cons_of_neg (by simp)]
  rfl

theorem at_turn_later (disk : Disk) (file other : GeneratedFile) (rest : List GeneratedFile)
    (different : file ≠ other) (succeeds : (turn directory disk file).outcome = .ok ()) :
    atTurn directory disk (file :: rest) other =
      atTurn directory (turn directory disk file).disk rest other := by
  rw [atTurn, List.takeWhile_cons_of_pos (by simpa using different),
    write_files_cons_disk directory disk file _ succeeds, atTurn]

theorem mark_summary (disk : Disk) (file : GeneratedFile) (rest : List GeneratedFile)
    (unchanged : GeneratedFile → Bool) (same : unchanged file = has directory disk file) :
    mark directory disk file (summaryOf directory unchanged rest) =
      summaryOf directory unchanged (file :: rest) := by
  rw [mark, ← same]
  cases kept : unchanged file <;> simp [summaryOf, kept]

theorem write_files_summary (files : List GeneratedFile) (disk : Disk) (distinct : files.Nodup)
    (summary : Summary) (succeeds : (writeFiles directory disk files).outcome = .ok summary) :
    summary = summaryOf directory
      (fun file => has directory (atTurn directory disk files file) file) files := by
  induction files generalizing disk summary with
  | nil =>
      cases succeeds
      rfl
  | cons file rest ih =>
      obtain ⟨done, own, later, rfl⟩ :=
        (write_files_cons_ok directory disk file rest summary).mp succeeds
      obtain ⟨fresh, distinctRest⟩ := List.nodup_cons.mp distinct
      rw [ih _ distinctRest own later, ← mark_summary directory disk file rest _
        (by rw [at_turn_first])]
      refine congrArg _ (summary_of_congr directory _ _ rest fun other member => ?_)
      have different : file ≠ other := fun same => fresh (same ▸ member)
      rw [at_turn_later directory disk file other rest different done]

theorem write_files_append_ok (earlier later : List GeneratedFile) (disk : Disk)
    (summary : Summary)
    (succeeds : (writeFiles directory disk (earlier ++ later)).outcome = .ok summary) :
    ∃ own, (writeFiles directory disk earlier).outcome = .ok own := by
  induction earlier generalizing disk summary with
  | nil => exact ⟨_, rfl⟩
  | cons file rest ih =>
      obtain ⟨done, own, others, -⟩ :=
        (write_files_cons_ok directory disk file _ summary).mp succeeds
      obtain ⟨first, made⟩ := ih _ own others
      exact ⟨_, (write_files_cons_ok directory disk file rest _).mpr ⟨done, first, made, rfl⟩⟩

theorem targets_distinct (disk : Disk) (files : List GeneratedFile)
    (distinct : (files.map (placeOf directory disk)).Nodup) :
    (files.map (targetOf directory)).Nodup := by
  refine List.Nodup.of_map disk.landing ?_
  rw [List.map_map]
  exact distinct

section Completed

variable (disk : Disk) (files : List GeneratedFile)
  (distinct : (files.map (placeOf directory disk)).Nodup) (summary : Summary)
  (succeeds : (writeFiles directory disk files).outcome = .ok summary)

include distinct succeeds

-- Until its turn comes, a file is not touched.
theorem at_turn_grew (file : GeneratedFile) (member : file ∈ files) :
    ∃ written, Grew written disk (atTurn directory disk files file) ∧
      ¬ written (placeOf directory disk file) := by
  have whole := List.takeWhile_append_dropWhile (p := fun other => decide (other ≠ file)) (l := files)
  rw [← whole] at succeeds
  obtain ⟨own, made⟩ := write_files_append_ok directory _ _ disk summary succeeds
  refine ⟨_, write_files_grew directory _ disk own made, fun written => ?_⟩
  have known := written_places directory _ disk own made _ written
  obtain ⟨other, before, same⟩ := List.mem_map.mp known
  have inFiles := (List.takeWhile_prefix _).subset before
  rw [List.inj_on_of_nodup_map distinct inFiles member same] at before
  simpa using List.mem_takeWhile_imp before

theorem stands_at_turn (file : GeneratedFile) (member : file ∈ files) :
    Stands directory (atTurn directory disk files file) file ↔ Stands directory disk file := by
  obtain ⟨written, grew, untouched⟩ :=
    at_turn_grew directory disk files distinct summary succeeds file member
  exact Disk.stands_grew_iff written disk _ grew _ _ untouched

theorem reachable_at_turn (file : GeneratedFile) (member : file ∈ files)
    (reachable : Reachable directory disk disk file) :
    Reachable directory disk (atTurn directory disk files file) file := by
  intro stands
  obtain ⟨written, grew, untouched⟩ :=
    at_turn_grew directory disk files distinct summary succeeds file member
  obtain ⟨present, granted⟩ := reachable stands
  rw [places_grew directory written disk _ grew]
  exact ⟨Disk.present_grew written disk _ grew _ untouched present,
    Disk.granted_grew written disk _ grew _ granted⟩

-- The files told as unchanged are those that were there, just when each one that was there can be
-- reached in its turn.
theorem summary_by_content_iff :
    summary = summaryOf directory (fun file => decide (Stands directory disk file)) files ↔
      ∀ file ∈ files, Reachable directory disk (atTurn directory disk files file) file := by
  have told := write_files_summary directory files disk (List.Nodup.of_map _ distinct) summary succeeds
  have stands := stands_at_turn directory disk files distinct summary succeeds
  have kept (file : GeneratedFile) (member : file ∈ files) :
      has directory (atTurn directory disk files file) file = decide (Stands directory disk file) ↔
        Reachable directory disk (atTurn directory disk files file) file := by
    rw [Bool.eq_iff_iff, has_iff, stands file member, decide_eq_true_iff, Reachable]
    exact and_iff_left_iff_imp
  rw [told]
  constructor
  · intro same file member
    have targets := targets_distinct directory disk files distinct
    exact (kept file member).mp (summary_of_inj directory _ _ files targets same file member)
  · intro reachable
    exact summary_of_congr directory _ _ files fun file member =>
      (kept file member).mpr (reachable file member)

end Completed

theorem write_files_again (files : List GeneratedFile) (disk : Disk)
    (all : ∀ file ∈ files, has directory disk file = true) :
    (writeFiles directory disk files).disk = disk ∧
      (writeFiles directory disk files).outcome = .ok ⟨[], files.map (targetOf directory)⟩ := by
  induction files with
  | nil => exact ⟨rfl, rfl⟩
  | cons file rest ih =>
      obtain ⟨same, others⟩ := List.forall_mem_cons.mp all
      have kept := turn_kept directory disk file same
      obtain ⟨sameDisk, summary⟩ := ih others
      refine ⟨?_, (write_files_cons_ok directory disk file rest _).mpr
        ⟨by rw [kept], ⟨[], rest.map (targetOf directory)⟩, ?_, ?_⟩⟩
      · rw [write_files_cons_disk directory disk file rest (by rw [kept]), kept, sameDisk]
      · rw [kept, summary]
      · rw [mark, if_pos same]
        rfl

theorem note_error (w : Writing) (entry : LogEntry) (add : Summary → Summary)
    (fault : Files.Fault) :
    (w.note entry add).outcome = .error fault ↔ w.outcome = .error fault := by
  rw [← error_eq_some_iff, ← error_eq_some_iff, Writing.note, error_map]

-- A write that fails stops at one file: those before it are written, and that one is refused.
theorem write_files_stop (files : List GeneratedFile) (disk : Disk) (fault : Files.Fault)
    (fails : (writeFiles directory disk files).outcome = .error fault) :
    ∃ earlier file later, files = earlier ++ file :: later ∧
      (∃ summary, (writeFiles directory disk earlier).outcome = .ok summary) ∧
      turn directory (writeFiles directory disk earlier).disk file =
        ⟨(writeFiles directory disk files).disk, .error fault⟩ := by
  induction files generalizing disk with
  | nil => cases fails
  | cons file rest ih =>
      cases result : (turn directory disk file).outcome with
      | error own =>
          rw [write_files_cons, result] at fails ⊢
          cases fails
          exact ⟨[], file, rest, rfl, ⟨_, rfl⟩, Files.Attempt.ext rfl result⟩
      | ok done =>
          have laterFails :
              (writeFiles directory (turn directory disk file).disk rest).outcome = .error fault := by
            rw [write_files_cons, result] at fails
            exact (note_error _ _ _ fault).mp fails
          obtain ⟨earlier, stopped, later, rfl, ⟨summary, made⟩, refused⟩ := ih _ laterFails
          refine ⟨file :: earlier, stopped, later, rfl, ⟨_, (write_files_cons_ok directory disk file
            earlier _).mpr ⟨result, summary, made, rfl⟩⟩, ?_⟩
          rw [write_files_cons_disk directory disk file _ result,
            write_files_cons_disk directory disk file _ result, refused]

-- Where the directory is given without a way up, the path of a file leads to it when it is there.
theorem plain_reachable (disk : Disk) (plain : ".." ∉ Files.segments directory)
    (file : GeneratedFile) (placed : Placed file) (isName : IsName file.module)
    (granted : disk.withholds (placeOf directory disk file) = none) :
    Reachable directory disk disk file := by
  intro stands
  obtain ⟨below, segments⟩ := placed_segments file placed isName
  refine ⟨?_, granted⟩
  refine Disk.present_of_plain disk directory file.path below ?_ (by simp [segments]) plain _ stands
  rw [segments]
  simpa using ⟨isName, file_name_is_name file.kind⟩

-- What holds when all files are dealt with. Files that were there are told as unchanged as long as
-- their paths lead to them and they may be read; a directory that is made on the way may let a later
-- path lead there.
structure Completed (disk : Disk) (files : List GeneratedFile) (summary : Summary) : Prop where
  contents : ∀ file ∈ files,
    (writeFiles directory disk files).disk.readText (targetOf directory file) = .ok file.content
  others_kept : Grew (WrittenPlaces disk summary) disk (writeFiles directory disk files).disk
  by_content_iff :
    summary = summaryOf directory (fun file => decide (Stands directory disk file)) files ↔
      ∀ file ∈ files, Reachable directory disk (atTurn directory disk files file) file
  by_content_reachable : (∀ file ∈ files, Reachable directory disk disk file) →
    summary = summaryOf directory (fun file => decide (Stands directory disk file)) files
  by_content_plain : ".." ∉ Files.segments directory →
    (∀ file ∈ files, Placed file ∧ IsName file.module ∧
      disk.withholds (placeOf directory disk file) = none) →
    summary = summaryOf directory (fun file => decide (Stands directory disk file)) files
  again : let after := (writeFiles directory disk files).disk
    (writeFiles directory after files).disk = after ∧
      (writeFiles directory after files).outcome = .ok ⟨[], files.map (targetOf directory)⟩

-- What holds when one file is refused.
structure Stopped (disk : Disk) (files : List GeneratedFile) (fault : Files.Fault)
    (earlier : List GeneratedFile) (file : GeneratedFile) (later : List GeneratedFile) : Prop where
  files_eq : files = earlier ++ file :: later
  refused : (turn directory (writeFiles directory disk earlier).disk file).outcome = .error fault
  contents : ∀ done ∈ earlier,
    (writeFiles directory disk files).disk.readText (targetOf directory done) = .ok done.content
  others_kept : Grew (fun place => place ∈ earlier.map (placeOf directory disk)) disk
    (writeFiles directory disk files).disk
  rest_kept : ∀ other ∈ file :: later, ∀ content,
    (writeFiles directory disk files).disk.root.shapeAt (placeOf directory disk other) =
        .ok (.file content) ↔
      disk.root.shapeAt (placeOf directory disk other) = .ok (.file content)

theorem write_files_completed (disk : Disk) (files : List GeneratedFile)
    (distinct : (files.map (placeOf directory disk)).Nodup) (summary : Summary)
    (succeeds : (writeFiles directory disk files).outcome = .ok summary) :
    Completed directory disk files summary := by
  have contents := write_files_contents directory files disk distinct summary succeeds
  have byContent := summary_by_content_iff directory disk files distinct summary succeeds
  have reachable (reach : ∀ file ∈ files, Reachable directory disk disk file) := byContent.mpr
    fun file member =>
      reachable_at_turn directory disk files distinct summary succeeds file member (reach file member)
  refine ⟨contents, write_files_grew directory files disk summary succeeds, byContent, reachable,
    fun plain placed => reachable fun file member => ?_, ?_⟩
  · obtain ⟨own, isName, granted⟩ := placed file member
    exact plain_reachable directory disk plain file own isName granted
  · exact write_files_again directory files _ fun file member =>
      (holds_iff _ _ _).mpr (contents file member)

theorem write_files_stopped (disk : Disk) (files : List GeneratedFile)
    (distinct : (files.map (placeOf directory disk)).Nodup) (fault : Files.Fault)
    (fails : (writeFiles directory disk files).outcome = .error fault) :
    ∃ earlier file later, Stopped directory disk files fault earlier file later := by
  obtain ⟨earlier, file, later, split, ⟨summary, made⟩, refused⟩ :=
    write_files_stop directory files disk fault fails
  have places := distinct
  rw [split, List.map_append, List.nodup_append] at places
  obtain ⟨distinctEarlier, -, apart⟩ := places
  have done := write_files_completed directory disk earlier distinctEarlier summary made
  have last := turn_refused directory _ file fault (by rw [refused])
  rw [refused] at last
  have others : Grew (fun place => place ∈ earlier.map (placeOf directory disk)) disk
      (writeFiles directory disk files).disk :=
    Disk.grew_trans _ _ _ _
      (Disk.grew_mono _ _ _ _ (written_places directory earlier disk summary made) done.others_kept)
      (Disk.grew_mono _ _ _ _ (fun _ no => no.elim) last)
  refine ⟨earlier, file, later, split, by rw [refused], fun other member => ?_, others,
    fun other member content => ?_⟩
  · exact Disk.read_text_grew _ _ _ last _ _ (fun _ _ no => no) (done.contents other member)
  · have untouched : placeOf directory disk other ∉ earlier.map (placeOf directory disk) :=
      fun before => apart _ before _ (List.mem_map_of_mem member) rfl
    exact ⟨others.grown.files_were _ content untouched, others.grown.files_stay _ content untouched⟩

theorem files_replaced_whole_or_not_at_all (disk : Disk) (files : List GeneratedFile)
    (distinct : (files.map (placeOf directory disk)).Nodup) :
    (∀ summary, (writeFiles directory disk files).outcome = .ok summary →
      Completed directory disk files summary) ∧
    (∀ fault, (writeFiles directory disk files).outcome = .error fault →
      ∃ earlier file later, Stopped directory disk files fault earlier file later) :=
  ⟨write_files_completed directory disk files distinct,
    write_files_stopped directory disk files distinct⟩

def typesFile (module content : String) : GeneratedFile :=
  ⟨module, .types, FileKind.types.path module, content, Digest.ofText content⟩

-- Two modules have their files in the current directory; one place may be refused a new name.
def shelf (refused : Option (List String)) : Disk where
  root := .directory [("work", .directory
    [("one-api", .directory [("types.ts", .file "old".toUTF8)]),
     ("two-api", .directory [("types.ts", .file "two".toUTF8)])])]
  here := ["work"]
  refuses := fun _ step =>
    match step with
    | .rename _ target =>
        if refused = some target then some (.refused "No space left on device" 28) else none
    | _ => none

def shelved : List GeneratedFile :=
  [typesFile "one-api" "one", typesFile "two-api" "two", typesFile "new-api" "new"]

def fullShelf : Disk :=
  shelf (some ["work", "new-api", "types.ts"])

theorem shelf_filled_or_left :
    (shelved.map (placeOf "." (shelf none))).Nodup ∧
      (writeFiles "." (shelf none) shelved).outcome =
        .ok ⟨["./one-api/types.ts", "./new-api/types.ts"], ["./two-api/types.ts"]⟩ ∧
      Completed "." (shelf none) shelved
        ⟨["./one-api/types.ts", "./new-api/types.ts"], ["./two-api/types.ts"]⟩ ∧
      (writeFiles "." fullShelf shelved).outcome =
        .error (.refused "No space left on device" 28) ∧
      (writeFiles "." fullShelf shelved).disk.isDirectory "new-api" = true ∧
      ∃ earlier file later,
        Stopped "." fullShelf shelved (.refused "No space left on device" 28) earlier file later := by
  have distinct : (shelved.map (placeOf "." (shelf none))).Nodup := by decide +kernel
  have distinctFull : (shelved.map (placeOf "." fullShelf)).Nodup := distinct
  have filled : (writeFiles "." (shelf none) shelved).outcome =
      .ok ⟨["./one-api/types.ts", "./new-api/types.ts"], ["./two-api/types.ts"]⟩ := by
    decide +kernel
  have left : (writeFiles "." fullShelf shelved).outcome =
      .error (.refused "No space left on device" 28) := by
    decide +kernel
  exact ⟨distinct, filled,
    (files_replaced_whole_or_not_at_all "." (shelf none) shelved distinct).1 _ filled, left,
    by decide +kernel,
    (files_replaced_whole_or_not_at_all "." fullShelf shelved distinctFull).2 _ left⟩

-- Both files are there, but the way to them leads through a directory that is made for the first:
-- the first is written again, and the second is told as unchanged.
theorem detour_rewrites_first_file_only :
    let files := [typesFile "one-api" "old", typesFile "two-api" "two"]
    (files.map (placeOf "new/.." (shelf none))).Nodup ∧
      summaryOf "new/.." (fun file => decide (Stands "new/.." (shelf none) file)) files =
        ⟨[], ["new/../one-api/types.ts", "new/../two-api/types.ts"]⟩ ∧
      (writeFiles "new/.." (shelf none) files).outcome =
        .ok ⟨["new/../one-api/types.ts"], ["new/../two-api/types.ts"]⟩ := by
  refine ⟨?_, ?_, ?_⟩ <;> decide +kernel

end ApiContract.Emit
