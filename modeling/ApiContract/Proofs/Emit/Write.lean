import ApiContract.Emit.Write
import ApiContract.Proofs.Emit.Output
import ApiContract.Proofs.Files.Landing

/-!
Writing the files of an output, one after the other: when it comes to its end, every file has its
content and no other file has changed.
-/

set_option autoImplicit false

namespace ApiContract.Emit

open Files (Disk IsName)
open Files.Disk (Grew)

-- The places of files, wherever the output directory is.
def WrittenBy (files : List GeneratedFile) (path : List String) : Prop :=
  ∃ file ∈ files, ∃ names, path = names ++ [file.module, file.kind.fileName]

theorem holds_iff (disk : Disk) (path text : String) :
    holds disk path text = true ↔ disk.readText path = .ok text := by
  rw [holds]
  cases disk.readText path with
  | error fault => simp
  | ok found => simp

theorem placed_target (disk : Disk) (sound : disk.Sound) (directory : String)
    (file : GeneratedFile) (placed : Placed file) (isName : IsName file.module)
    (target : List String) (resolved : disk.resolve (joinPath directory file.path) = .ok target) :
    ∃ names, disk.Leads directory names ∧
      target = names ++ [file.module, file.kind.fileName] := by
  obtain ⟨below, segments⟩ := placed_segments file placed isName
  rw [← segments]
  refine Disk.leads_join_inside disk sound directory file.path below ?_ target
    ((Disk.resolve_join disk directory file.path below target).mp resolved)
  rw [segments]
  simpa using ⟨isName, file_name_is_name file.kind⟩

theorem directory_of_placed (disk : Disk) (sound : disk.Sound) (directory : String)
    (file : GeneratedFile) (placed : Placed file) (isName : IsName file.module) (text : String)
    (reads : disk.readText (joinPath directory file.path) = .ok text) :
    disk.AbsentOrDirectory directory := by
  obtain ⟨target, content, resolved, stands, -⟩ := (Disk.read_text_iff disk _ text).mp reads
  obtain ⟨names, leads, rfl⟩ := placed_target disk sound directory file placed isName target resolved
  obtain ⟨listed, isDirectory, -⟩ := Files.Entry.shape_at_parent disk.root names _ _ _ stands
  cases empty : directory.isEmpty with
  | true =>
      have unresolved : disk.resolve directory = .error .notFound := by
        rw [Disk.resolve, if_pos empty]
      exact .inl (by rw [Disk.get, unresolved])
  | false =>
      have here := Disk.resolve_of_leads disk directory names listed empty leads isDirectory
      exact .inr ((Disk.is_directory_iff disk directory).mpr ⟨names, listed, here, isDirectory⟩)

section Write

variable (directory : String)

def targetOf (file : GeneratedFile) : String :=
  joinPath directory file.path

def placeOf (disk : Disk) (file : GeneratedFile) : List String :=
  disk.landing (targetOf directory file)

def has (disk : Disk) (file : GeneratedFile) : Bool :=
  holds disk (targetOf directory file) file.content

-- What becomes of a file when its turn comes, and how it is told.
def turn (disk : Disk) (file : GeneratedFile) : Files.Attempt :=
  if has directory disk file then ⟨disk, .ok ()⟩
  else disk.replaceFile (targetOf directory file) file.content.toUTF8

def told (disk : Disk) (file : GeneratedFile) : LogEntry :=
  if has directory disk file then ⟨.debug, "unchanged " ++ targetOf directory file⟩
  else ⟨.info, "wrote " ++ targetOf directory file⟩

def mark (disk : Disk) (file : GeneratedFile) (s : Summary) : Summary :=
  if has directory disk file then { s with unchanged := targetOf directory file :: s.unchanged }
  else { s with written := targetOf directory file :: s.written }

variable (disk : Disk) (file : GeneratedFile) (rest : List GeneratedFile)

theorem turn_kept (same : has directory disk file = true) :
    turn directory disk file = ⟨disk, .ok ()⟩ :=
  if_pos same

theorem turn_replaced (differs : has directory disk file = false) :
    turn directory disk file =
      disk.replaceFile (targetOf directory file) file.content.toUTF8 :=
  if_neg (Bool.eq_false_iff.mp differs)

theorem write_files_cons :
    writeFiles directory disk (file :: rest) =
      match (turn directory disk file).outcome with
      | .error fault => ⟨(turn directory disk file).disk, [], .error fault⟩
      | .ok () =>
          (writeFiles directory (turn directory disk file).disk rest).note (told directory disk file)
            (mark directory disk file) := by
  unfold told mark
  cases same : has directory disk file with
  | true =>
      rw [turn_kept directory disk file same]
      exact if_pos same
  | false =>
      rw [turn_replaced directory disk file same]
      exact if_neg (Bool.eq_false_iff.mp same)

theorem turn_grew :
    Grew (fun place => has directory disk file = false ∧ place = placeOf directory disk file) disk
      (turn directory disk file).disk := by
  cases same : has directory disk file with
  | true =>
      rw [turn_kept directory disk file same]
      exact Disk.grew_refl _ disk
  | false =>
      rw [turn_replaced directory disk file same]
      cases Disk.replace_file_wrote disk (targetOf directory file) file.content.toUTF8 with
      | done target _ grew holds =>
          refine Disk.grew_mono _ _ disk _ (fun place same => ⟨rfl, ?_⟩) grew
          rw [same, Disk.resolve_landing _ _ target holds.resolved]
          exact Disk.landing_grew _ disk _ grew _
      | refused fault _ grew => exact Disk.grew_mono _ _ disk _ (fun _ no => no.elim) grew

theorem turn_refused (fault : Files.Fault) (fails : (turn directory disk file).outcome = .error fault) :
    Grew (fun _ => False) disk (turn directory disk file).disk := by
  cases same : has directory disk file with
  | true =>
      rw [turn_kept directory disk file same]
      exact Disk.grew_refl _ disk
  | false =>
      rw [turn_replaced directory disk file same] at fails ⊢
      cases Disk.replace_file_wrote disk (targetOf directory file) file.content.toUTF8 with
      | done target succeeds _ _ =>
          rw [succeeds] at fails
          cases fails
      | refused fault _ grew => exact grew

theorem turn_reads (succeeds : (turn directory disk file).outcome = .ok ()) :
    (turn directory disk file).disk.readText (targetOf directory file) = .ok file.content := by
  cases same : has directory disk file with
  | true =>
      rw [turn_kept directory disk file same]
      exact (holds_iff disk _ _).mp same
  | false =>
      rw [turn_replaced directory disk file same] at succeeds ⊢
      cases Disk.replace_file_wrote disk (targetOf directory file) file.content.toUTF8 with
      | done target _ _ holds => exact Disk.holds_text _ _ _ target holds
      | refused fault fails _ =>
          rw [fails] at succeeds
          cases succeeds

theorem write_files_cons_ok (summary : Summary) :
    (writeFiles directory disk (file :: rest)).outcome = .ok summary ↔
      (turn directory disk file).outcome = .ok () ∧
        ∃ own, (writeFiles directory (turn directory disk file).disk rest).outcome = .ok own ∧
          mark directory disk file own = summary := by
  rw [write_files_cons]
  cases (turn directory disk file).outcome with
  | error fault => simp
  | ok done => simp [Writing.note, map_ok_iff]

theorem write_files_cons_disk (succeeds : (turn directory disk file).outcome = .ok ()) :
    (writeFiles directory disk (file :: rest)).disk =
      (writeFiles directory (turn directory disk file).disk rest).disk := by
  rw [write_files_cons, succeeds]
  rfl

end Write

section Run

variable (directory : String)

-- The places that a summary tells to have been written.
def WrittenPlaces (disk : Disk) (summary : Summary) (place : List String) : Prop :=
  ∃ path ∈ summary.written, place = disk.landing path

theorem write_files_grew (files : List GeneratedFile) (disk : Disk) (summary : Summary)
    (succeeds : (writeFiles directory disk files).outcome = .ok summary) :
    Grew (WrittenPlaces disk summary) disk (writeFiles directory disk files).disk := by
  induction files generalizing disk summary with
  | nil => exact Disk.grew_refl _ disk
  | cons file rest ih =>
      obtain ⟨done, own, later, rfl⟩ :=
        (write_files_cons_ok directory disk file rest summary).mp succeeds
      have early := turn_grew directory disk file
      rw [write_files_cons_disk directory disk file rest done]
      refine Disk.grew_trans _ _ _ _ (Disk.grew_mono _ _ _ _ ?_ early)
        (Disk.grew_mono _ _ _ _ ?_ (ih _ own later))
      · rintro place ⟨differs, rfl⟩
        exact ⟨targetOf directory file, by simp [mark, differs], rfl⟩
      · rintro place ⟨path, member, rfl⟩
        refine ⟨path, ?_, Disk.landing_grew _ disk _ early path⟩
        rw [mark]
        split
        · exact member
        · exact List.mem_cons_of_mem _ member

theorem written_sources (files : List GeneratedFile) (disk : Disk) (summary : Summary)
    (succeeds : (writeFiles directory disk files).outcome = .ok summary) :
    ∀ path ∈ summary.written, ∃ file ∈ files, path = targetOf directory file := by
  induction files generalizing disk summary with
  | nil =>
      cases succeeds
      simp
  | cons file rest ih =>
      obtain ⟨-, own, later, rfl⟩ :=
        (write_files_cons_ok directory disk file rest summary).mp succeeds
      intro path member
      have known : path ∈ targetOf directory file :: own.written := by
        rw [mark] at member
        split at member
        · exact List.mem_cons_of_mem _ member
        · exact member
      rcases List.mem_cons.mp known with rfl | below
      · exact ⟨file, List.mem_cons_self, rfl⟩
      · obtain ⟨source, inRest, same⟩ := ih _ own later path below
        exact ⟨source, List.mem_cons_of_mem file inRest, same⟩

theorem written_places (files : List GeneratedFile) (disk : Disk) (summary : Summary)
    (succeeds : (writeFiles directory disk files).outcome = .ok summary) (place : List String)
    (written : WrittenPlaces disk summary place) : place ∈ files.map (placeOf directory disk) := by
  obtain ⟨path, member, rfl⟩ := written
  obtain ⟨file, source, rfl⟩ := written_sources directory files disk summary succeeds path member
  exact List.mem_map_of_mem source

theorem places_grew (written : List String → Prop) (before after : Disk)
    (grew : Grew written before after) :
    placeOf directory after = placeOf directory before :=
  funext fun _ => Disk.landing_grew written before after grew _

theorem write_files_contents (files : List GeneratedFile) (disk : Disk)
    (distinct : (files.map (placeOf directory disk)).Nodup) (summary : Summary)
    (succeeds : (writeFiles directory disk files).outcome = .ok summary) :
    ∀ file ∈ files, (writeFiles directory disk files).disk.readText (targetOf directory file) =
      .ok file.content := by
  induction files generalizing disk summary with
  | nil => simp
  | cons file rest ih =>
      obtain ⟨done, own, later, -⟩ :=
        (write_files_cons_ok directory disk file rest summary).mp succeeds
      have places := places_grew directory _ disk _ (turn_grew directory disk file)
      obtain ⟨fresh, distinctRest⟩ := List.nodup_cons.mp distinct
      rw [← places] at fresh distinctRest
      rw [write_files_cons_disk directory disk file rest done]
      refine List.forall_mem_cons.mpr ⟨?_, ih _ distinctRest own later⟩
      refine Disk.read_text_grew _ _ _ (write_files_grew directory rest _ own later) _ _ ?_
        (turn_reads directory disk file done)
      intro target resolved written
      rw [Disk.resolve_landing _ _ target resolved] at written
      exact fresh (written_places directory rest _ own later _ written)

theorem placed_place (disk : Disk) (file : GeneratedFile) (placed : Placed file)
    (isName : IsName file.module) :
    placeOf directory disk file =
      (Disk.landingFrom (disk.origin directory) (Files.segments directory)).reverse ++
        [file.module, file.kind.fileName] := by
  obtain ⟨below, segments⟩ := placed_segments file placed isName
  rw [placeOf, targetOf, Disk.landing_join disk directory file.path below, segments]
  rw [segments]
  simpa using ⟨isName, file_name_is_name file.kind⟩

theorem placed_places_distinct (files : List GeneratedFile) (disk : Disk)
    (placed : ∀ file ∈ files, Placed file ∧ IsName file.module) (distinct : (files.map key).Nodup) :
    (files.map (placeOf directory disk)).Nodup := by
  refine (List.nodup_map_iff_inj_on (List.Nodup.of_map key distinct)).mpr ?_
  intro first inFirst second inSecond same
  rw [placed_place directory disk first (placed first inFirst).1 (placed first inFirst).2,
    placed_place directory disk second (placed second inSecond).1 (placed second inSecond).2,
    List.append_cancel_left_eq] at same
  obtain ⟨sameModule, sameFile⟩ := List.cons.inj same
  have sameKey : key first = key second :=
    Prod.ext sameModule (file_name_injective _ _ (List.cons.inj sameFile).1)
  exact List.inj_on_of_nodup_map distinct inFirst inSecond sameKey

theorem write_files_hold (files : List GeneratedFile) (disk : Disk)
    (placed : ∀ file ∈ files, Placed file ∧ IsName file.module) (distinct : (files.map key).Nodup)
    (summary : Summary) (succeeds : (writeFiles directory disk files).outcome = .ok summary) :
    Grew (WrittenBy files) disk (writeFiles directory disk files).disk ∧
      ∀ file ∈ files, (writeFiles directory disk files).disk.readText
        (joinPath directory file.path) = .ok file.content := by
  have places := placed_places_distinct directory files disk placed distinct
  refine ⟨Disk.grew_mono _ _ disk _ (fun place written => ?_)
    (write_files_grew directory files disk summary succeeds),
    write_files_contents directory files disk places summary succeeds⟩
  have known := written_places directory files disk summary succeeds place written
  obtain ⟨file, member, rfl⟩ := List.mem_map.mp known
  exact ⟨file, member, _, placed_place directory disk file (placed file member).1
    (placed file member).2⟩

end Run

end ApiContract.Emit
