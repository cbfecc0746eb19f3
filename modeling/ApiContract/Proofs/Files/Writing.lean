import ApiContract.Proofs.Files.Reading
import ApiContract.Proofs.Files.Swapping

/-!
Writing on a disk: making directories and replacing a file let the tree grow, and the file that was
written is read back. What fails leaves all files as they were.
-/

set_option autoImplicit false

namespace ApiContract.Files

theorem segments_uncut (path : String) :
    ∀ part ∈ segments path, part ≠ "" ∧ '/' ∉ part.toList := by
  intro part member
  obtain ⟨piece, kept, rfl⟩ := List.mem_map.mp member
  obtain ⟨isPiece, nonempty⟩ := List.mem_filter.mp kept
  refine ⟨?_, ?_⟩
  · simpa [← String.toList_eq_nil_iff] using nonempty
  · rw [String.toList_ofList]
    intro slash
    simpa using Text.pieces_uncut _ _ piece isPiece '/' slash

theorem parts_uncut (path : String) : ∀ part ∈ parts path, part ≠ "" ∧ '/' ∉ part.toList := by
  intro part member
  rw [parts_eq] at member
  split at member
  · rcases List.mem_append.mp member with segment | last
    · exact segments_uncut path part segment
    · rw [List.mem_singleton.mp last]
      decide
  · exact segments_uncut path part member

namespace Disk

theorem place_ok (disk : Disk) (path : String) (names : List String) (name : String)
    (placed : disk.place path = .ok (names, name)) :
    ∃ initial, parts path = initial ++ [name] ∧
      walk disk.root (disk.origin path) initial = .ok names.reverse := by
  unfold place at placed
  cases last : (parts path).getLast? with
  | none => simp [last] at placed
  | some part =>
      obtain ⟨initial, ends⟩ := List.getLast?_eq_some_iff.mp last
      simp only [ends, List.getLast?_concat, List.dropLast_concat] at placed
      obtain ⟨back, walked, same⟩ := (map_ok_iff _ _ _).mp placed
      cases same
      exact ⟨initial, ends, by rw [List.reverse_reverse, walked]⟩

theorem placed_is_name (disk : Disk) (path : String) (names : List String) (name : String)
    (placed : disk.place path = .ok (names, name)) (plain : ¬ (name = "." ∨ name = "..")) :
    IsName name := by
  obtain ⟨initial, ends, -⟩ := place_ok disk path names name placed
  obtain ⟨nonempty, uncut⟩ := parts_uncut path name (by simp [ends])
  exact ⟨nonempty, uncut, fun here => plain (.inl here), fun up => plain (.inr up)⟩

theorem set_grew (disk : Disk) (names : List String) (name : String) (new root : Entry)
    (entries : List (String × Entry)) (stands : disk.root.get names = .ok (.directory entries))
    (isName : IsName name) (leaf : Entry.Leaf new)
    (free : ∀ old, Entry.find name entries = some old →
      ∃ content later, old = .file content ∧ new = .file later)
    (modified : disk.root.modify (Entry.set name new) names = .ok root) :
    Grew (fun path => path = names ++ [name] ∧ ∃ content, new = .file content) disk
      { disk with root := root } := by
  have givesWay : GivesWay disk.root new names name := by
    intro shape stood
    rw [Entry.shapeAt, Entry.get_below disk.root names entries name [] stands] at stood
    cases found : Entry.find name entries with
    | none => simp [found, Except.map] at stood
    | some old =>
        obtain ⟨content, later, rfl, rfl⟩ := free old found
        simp only [found, Entry.get, Except.map, Except.ok.injEq] at stood
        exact ⟨content, later, stood.symm, rfl⟩
  exact ⟨rfl, fun _ => .inl rfl, set_grown disk.root root new names name leaf givesWay modified,
    fun tidy => set_tidy disk.root root new names name leaf isName tidy modified⟩

theorem grant_grew (written : List String → Prop) (disk : Disk) (place : List String)
    (covers : written place) : Grew written disk (disk.grant place) where
  same_place := rfl
  rights_kept other := by
    by_cases same : other = place
    · exact .inr ⟨same ▸ covers, if_pos same⟩
    · exact .inl (if_neg same)
  grown := grown_refl written disk.root
  tidy := id

theorem make_directory_ok (disk made : Disk) (path : String)
    (succeeds : disk.makeDirectory path = .ok made) :
    ∃ names name entries, disk.root.get names = .ok (.directory entries) ∧ IsName name ∧
      Entry.find name entries = none ∧
      Alters disk made names (Entry.set name (.directory [])) := by
  unfold makeDirectory at succeeds
  split at succeeds
  · cases succeeds
  · rename_i names name placed
    split at succeeds
    · cases succeeds
    · cases succeeds
    · rename_i entries stands
      split at succeeds
      · cases succeeds
      · rename_i free
        simp only [not_or, Bool.not_eq_true, Option.isSome_eq_false_iff,
          Option.isNone_iff_eq_none] at free
        obtain ⟨notHere, notUp, absent⟩ := free
        have isName := placed_is_name disk _ names name placed (by simp [notHere, notUp])
        exact ⟨names, name, entries, stands, isName, absent, change_ok _ _ _ _ _ succeeds⟩

theorem make_directory_grew (disk made : Disk) (path : String)
    (succeeds : disk.makeDirectory path = .ok made) : Grew (fun _ => False) disk made := by
  obtain ⟨names, name, entries, stands, isName, absent, root, modified, rfl⟩ :=
    make_directory_ok disk made path succeeds
  have grew := set_grew disk names name (.directory []) root entries stands isName .empty
    (by simp [absent]) modified
  refine grew_mono _ _ disk _ ?_ grew
  rintro other ⟨-, content, impossible⟩
  cases impossible

theorem settle_directory_grew (disk : Disk) (path : String) :
    Grew (fun _ => False) disk (disk.settleDirectory path).disk := by
  unfold settleDirectory
  cases made : disk.makeDirectory path with
  | error fault => exact grew_refl _ disk
  | ok after => exact make_directory_grew disk after path made

theorem make_directories_grew (fuel : Nat) (disk : Disk) (path : String) :
    Grew (fun _ => False) disk (makeDirectories fuel disk path).disk := by
  induction fuel generalizing disk path with
  | zero => exact grew_refl _ disk
  | succ fuel ih =>
      unfold makeDirectories
      split
      · exact grew_refl _ disk
      · split
        · split
          · exact grew_refl _ disk
          · rename_i parent _
            have early := ih disk parent
            dsimp only
            split
            · exact early
            · exact grew_trans _ _ _ _ early (settle_directory_grew _ path)
        · exact settle_directory_grew disk path

theorem ensure_directory_grew (disk : Disk) (path : String) :
    Grew (fun _ => False) disk (disk.ensureDirectory path).disk :=
  make_directories_grew _ disk path

-- Reading back what was written: the path leads to the file, and nothing else changed.
structure Holds (disk : Disk) (path : String) (content : ByteArray) (target : List String) :
    Prop where
  resolved : disk.resolve path = .ok target
  stands : disk.root.shapeAt target = .ok (.file content)
  granted : disk.withholds target = none

theorem put_file_ok (disk after : Disk) (path : String) (content : ByteArray)
    (succeeds : disk.putFile path content = .ok after) :
    ∃ names name entries root, disk.place path = .ok (names, name) ∧
      disk.root.get names = .ok (.directory entries) ∧ IsName name ∧
      (∀ below, Entry.find name entries ≠ some (.directory below)) ∧
      disk.root.modify (Entry.set name (.file content)) names = .ok root ∧
      after = { disk with root := root }.grant (names ++ [name]) := by
  unfold putFile at succeeds
  split at succeeds
  · cases succeeds
  · rename_i names name placed
    split at succeeds
    · cases succeeds
    · cases succeeds
    · rename_i entries stands
      split at succeeds
      · cases succeeds
      · rename_i plain
        have isName := placed_is_name disk path names name placed plain
        split at succeeds
        · cases succeeds
        · rename_i notDirectory
          obtain ⟨root, modified, rfl⟩ := (map_ok_iff _ _ _).mp succeeds
          exact ⟨names, name, entries, root, placed, stands, isName, notDirectory, modified, rfl⟩

theorem put_file_holds (disk after : Disk) (path : String) (content : ByteArray)
    (succeeds : disk.putFile path content = .ok after) :
    ∃ target, Grew (fun other => other = target) disk after ∧ after.Holds path content target := by
  obtain ⟨names, name, entries, root, placed, stands, isName, notDirectory, modified, rfl⟩ :=
    put_file_ok disk after path content succeeds
  have free : ∀ old, Entry.find name entries = some old →
      ∃ before later, old = .file before ∧ Entry.file content = .file later := by
    intro old found
    cases old with
    | file before => exact ⟨before, content, rfl, rfl⟩
    | directory below => exact absurd found (notDirectory below)
  have grew := set_grew disk names name (.file content) root entries stands isName
    (.file content) free modified
  have file : root.shapeAt (names ++ [name]) = .ok (.file content) := by
    obtain ⟨list, -, changes⟩ := Entry.modify_at _ names disk.root root modified
    rw [Entry.shape_at_file, changes, Entry.get, Entry.find_set_same]
    rfl
  obtain ⟨listed, directory, member⟩ := Entry.shape_at_parent root names name [] _ file
  have granted := grant_grew (fun other => other = names ++ [name]) { disk with root := root } _ rfl
  refine ⟨names ++ [name],
    grew_trans _ _ _ _ (grew_mono _ _ disk _ (fun _ is => is.1) grew) granted, ?_, file, if_pos rfl⟩
  obtain ⟨initial, ends, walked⟩ := place_ok disk path names name placed
  refine (resolve_ok_iff _ path _).mpr ⟨?_, ?_⟩
  · rw [Bool.eq_false_iff]
    intro empty
    rw [String.isEmpty_iff.mp empty] at ends
    exact absurd ends.symm (List.append_ne_nil_of_right_ne_nil _ (List.cons_ne_nil _ _))
  · have around := walk_grown _ disk.root root grew.grown _ _ _ walked
    rw [ends]
    refine (walk_append_ok _ _ _ _ _).mpr ⟨_, around, ?_⟩
    refine (walk_cons_ok _ _ _ _ _).mpr ⟨listed, ?_, ?_⟩
    · rw [List.reverse_reverse]
      exact directory
    · exact .inr (.inr ⟨isName.not_here, isName.not_up, member, by rw [List.reverse_concat]; rfl⟩)

-- What a write comes to: the file is in its place and no other one has changed, or none has.
inductive Wrote (disk : Disk) (path : String) (content : ByteArray) (attempt : Attempt) : Prop
  | done (target : List String) (succeeds : attempt.outcome = .ok ())
      (grew : Grew (fun other => other = target) disk attempt.disk)
      (holds : attempt.disk.Holds path content target)
  | refused (fault : Fault) (fails : attempt.outcome = .error fault)
      (grew : Grew (fun _ => False) disk attempt.disk)

theorem wrote_after (disk around : Disk) (path : String) (content : ByteArray) (attempt : Attempt)
    (early : Grew (fun _ => False) disk around) (wrote : Wrote around path content attempt) :
    Wrote disk path content attempt := by
  cases wrote with
  | done target succeeds late holds =>
      have early := grew_mono _ (fun other => other = target) _ _ (fun _ no => no.elim) early
      exact .done target succeeds (grew_trans _ _ _ _ early late) holds
  | refused fault fails late => exact .refused fault fails (grew_trans _ _ _ _ early late)

theorem put_file_wrote (disk after : Disk) (path : String) (content : ByteArray)
    (succeeds : disk.putFile path content = .ok after) :
    Wrote disk path content ⟨after, .ok ()⟩ := by
  obtain ⟨target, grew, holds⟩ := put_file_holds disk after path content succeeds
  exact .done target rfl grew holds

theorem in_directory_wrote (disk : Disk) (path : String) (content : ByteArray)
    (act : Disk → Attempt) (acts : ∀ around, Wrote around path content (act around)) :
    Wrote disk path content (disk.inDirectoryOf path act) := by
  have early := ensure_directory_grew disk ((parent? path).getD "")
  simp only [inDirectoryOf]
  cases (disk.ensureDirectory ((parent? path).getD "")).outcome with
  | error fault => exact .refused fault rfl early
  | ok made => exact wrote_after disk _ path content _ early (acts _)

theorem replace_file_wrote (disk : Disk) (path : String) (content : ByteArray) :
    Wrote disk path content (disk.replaceFile path content) := by
  refine in_directory_wrote disk path content _ fun around => ?_
  have swapped := swap_file_swapped around path content
  generalize around.swapFile path content = attempt at swapped
  cases swapped with
  | done after puts => exact put_file_wrote around after path content puts
  | refused fault => exact .refused fault rfl (grew_refl _ around)

theorem decode_encoded (text : String) : String.fromUTF8? text.toUTF8 = some text := by
  rw [String.fromUTF8?, dif_pos (by simpa using text.isValidUTF8)]
  rfl

theorem holds_text (disk : Disk) (path text : String) (target : List String)
    (holds : disk.Holds path text.toUTF8 target) : disk.readText path = .ok text :=
  (read_text_iff disk path text).mpr
    ⟨target, _, holds.resolved, holds.stands, holds.granted, decode_encoded text⟩

end Disk

end ApiContract.Files
