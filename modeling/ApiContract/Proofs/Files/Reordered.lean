import ApiContract.Proofs.Files.Reading
import Mathlib.Data.List.Forall2
import Mathlib.Data.List.Perm.Basic

/-!
Disks that hold the same files in the same directories and list them in any order: a path leads to
the same place on both, and the same is read there.
-/

set_option autoImplicit false

namespace ApiContract.Files

-- The same is seen: the same refusal, the same content, or the same names in some order.
inductive SameLook : Except Fault Shape → Except Fault Shape → Prop
  | refused (fault : Fault) : SameLook (.error fault) (.error fault)
  | file (content : ByteArray) : SameLook (.ok (.file content)) (.ok (.file content))
  | directory {names others : List String} (reordered : names.Perm others) :
      SameLook (.ok (.directory names)) (.ok (.directory others))

theorem same_look_refl (look : Except Fault Shape) : SameLook look look := by
  cases look with
  | error fault => exact .refused fault
  | ok shape =>
      cases shape with
      | file content => exact .file content
      | directory names => exact .directory (.refl names)

theorem same_look_trans (look middle other : Except Fault Shape) (first : SameLook look middle)
    (second : SameLook middle other) : SameLook look other := by
  cases first with
  | refused fault => exact second
  | file content => exact second
  | directory reordered =>
      cases second with
      | directory again => exact .directory (reordered.trans again)

-- What two finds are that look the same.
theorem same_look_cases (found other : Except Fault Entry)
    (same : SameLook (found.map Entry.shape) (other.map Entry.shape)) :
    (∃ fault, found = .error fault ∧ other = .error fault) ∨
      (∃ content, found = .ok (.file content) ∧ other = .ok (.file content)) ∨
      ∃ entries listed, found = .ok (.directory entries) ∧ other = .ok (.directory listed) ∧
        (entries.map Prod.fst).Perm (listed.map Prod.fst) := by
  rcases found with fault | content | entries <;> rcases other with fault' | content' | listed <;>
    simp only [Except.map, Entry.shape] at same
  · cases same
    exact .inl ⟨fault, rfl, rfl⟩
  · cases same
  · cases same
  · cases same
  · cases same
    exact .inr (.inl ⟨content, rfl, rfl⟩)
  · cases same
  · cases same
  · cases same
  · cases same with
    | directory reordered => exact .inr (.inr ⟨entries, listed, rfl, rfl, reordered⟩)

-- The same tree, with each directory listed in any order.
def SameTree (root other : Entry) : Prop :=
  ∀ path, SameLook (root.shapeAt path) (other.shapeAt path)

theorem same_tree_trans (root middle other : Entry) (first : SameTree root middle)
    (second : SameTree middle other) : SameTree root other := fun path =>
  same_look_trans _ _ _ (first path) (second path)

theorem same_tree_listed (entries listed : List (String × Entry)) (reordered : entries.Perm listed)
    (distinct : (entries.map Prod.fst).Nodup) :
    SameTree (.directory entries) (.directory listed) := by
  have found (name : String) : Entry.find name entries = Entry.find name listed := by
    cases inFirst : Entry.find name entries with
    | none =>
        have absent := (Entry.find_none_iff name entries).mp inFirst
        exact ((Entry.find_none_iff name listed).mpr fun member =>
          absent ((reordered.map Prod.fst).mem_iff.mpr member)).symm
    | some entry =>
        have member := reordered.mem_iff.mp (Entry.find_member name entry entries inFirst)
        have distinctListed := (reordered.map Prod.fst).nodup_iff.mp distinct
        exact (Entry.find_distinct name entry listed distinctListed member).symm
  intro path
  cases path with
  | nil => exact .directory (reordered.map Prod.fst)
  | cons name rest =>
      have same : (Entry.directory entries).shapeAt (name :: rest) =
          (Entry.directory listed).shapeAt (name :: rest) := by
        simp only [Entry.shapeAt, Entry.get, found]
      exact same ▸ same_look_refl _

theorem same_tree_below (entries listed : List (String × Entry))
    (each : List.Forall₂ (fun entry other => entry.1 = other.1 ∧ SameTree entry.2 other.2)
      entries listed) : SameTree (.directory entries) (.directory listed) := by
  intro path
  cases path with
  | nil =>
      have names : entries.map Prod.fst = listed.map Prod.fst := by
        induction each with
        | nil => rfl
        | cons own _ ih => rw [List.map_cons, List.map_cons, own.1, ih]
      exact .directory (names ▸ .refl _)
  | cons name rest =>
      rw [Entry.shapeAt, Entry.shapeAt, Entry.get, Entry.get]
      induction each with
      | nil => exact .refused .notFound
      | @cons entry other entries listed own _ ih =>
          rw [Entry.find, Entry.find, ← own.1]
          by_cases here : entry.1 = name
          · rw [if_pos here, if_pos here]
            exact own.2 rest
          · rw [if_neg here, if_neg here]
            exact ih

namespace Disk

def look (disk : Disk) (path : String) : Except Fault Shape :=
  (disk.get path).map Entry.shape

section Looks

variable (first second : Disk) (path : String)
  (same : SameLook (first.look path) (second.look path))

include same

theorem read_text_same_look (openFirst : ∀ place, first.withholds place = none)
    (openSecond : ∀ place, second.withholds place = none) :
    first.readText path = second.readText path := by
  rw [read_text_open first openFirst, read_text_open second openSecond]
  rcases same_look_cases _ _ same with ⟨fault, one, two⟩ | ⟨content, one, two⟩ |
    ⟨entries, listed, one, two, -⟩ <;> rw [one, two]

theorem is_file_same_look : first.isFile path = second.isFile path := by
  rw [isFile, isFile]
  rcases same_look_cases _ _ same with ⟨fault, one, two⟩ | ⟨content, one, two⟩ |
    ⟨entries, listed, one, two, -⟩ <;> rw [one, two]
  rfl

theorem is_directory_same_look : first.isDirectory path = second.isDirectory path := by
  rw [isDirectory, isDirectory]
  rcases same_look_cases _ _ same with ⟨fault, one, two⟩ | ⟨content, one, two⟩ |
    ⟨entries, listed, one, two, -⟩ <;> rw [one, two]
  rfl

end Looks

structure Reordered (first second : Disk) : Prop where
  same_place : second.here = first.here
  same_rights : second.withholds = first.withholds
  same_look : SameTree first.root second.root

section Reordered

variable (first second : Disk) (reordered : Reordered first second)

include reordered

theorem walk_reordered (back parts : List String) :
    walk first.root back parts = walk second.root back parts := by
  induction parts generalizing back with
  | nil => rfl
  | cons part rest ih =>
      rw [walk, walk]
      rcases same_look_cases _ _ (reordered.same_look back.reverse) with ⟨fault, one, two⟩ |
        ⟨content, one, two⟩ | ⟨entries, listed, one, two, names⟩
      · rw [one, two]
      · rw [one, two]
      · have found : Entry.find part entries = none ↔ Entry.find part listed = none := by
          rw [Entry.find_none_iff, Entry.find_none_iff, names.mem_iff]
        rw [one, two]
        simp only [ih]
        cases inFirst : Entry.find part entries <;> cases inSecond : Entry.find part listed <;>
          simp_all

theorem resolve_reordered (path : String) : first.resolve path = second.resolve path := by
  have walked := walk_reordered first second reordered (first.origin path) (parts path)
  have origins : first.origin path = second.origin path := by
    rw [origin, origin, reordered.same_place]
  rw [resolve, resolve, walked, origins]

theorem look_reordered (path : String) : SameLook (first.look path) (second.look path) := by
  rw [look, look, get, get, resolve_reordered first second reordered path]
  cases second.resolve path with
  | error fault => exact .refused fault
  | ok names => exact reordered.same_look names

theorem read_text_reordered (path : String) : first.readText path = second.readText path := by
  rw [readText, readText, resolve_reordered first second reordered path, reordered.same_rights]
  cases second.resolve path with
  | error fault => rfl
  | ok names =>
      simp only
      rcases same_look_cases _ _ (reordered.same_look names) with ⟨fault, one, two⟩ |
        ⟨content, one, two⟩ | ⟨entries, listed, one, two, -⟩
      · rw [one, two]
      · rw [one, two]
      · rw [one, two]
        cases first.withholds names <;> rfl

theorem sound_reordered (sound : first.Sound) : second.Sound := by
  have back (path listed : List String)
      (stands : second.root.shapeAt path = .ok (.directory listed)) :
      ∃ names, first.root.shapeAt path = .ok (.directory names) ∧ names.Perm listed := by
    have same := reordered.same_look path
    rw [stands] at same
    generalize first.root.shapeAt path = look at same ⊢
    cases same with
    | directory reordered => exact ⟨_, rfl, reordered⟩
  refine ⟨fun path listed stands => ?_, ?_⟩
  · obtain ⟨names, wasThere, same⟩ := back path listed stands
    obtain ⟨distinct, named⟩ := sound.tidy path names wasThere
    exact ⟨same.nodup_iff.mp distinct, fun name member => named name (same.mem_iff.mpr member)⟩
  · obtain ⟨listed, stands⟩ := sound.inside
    have same := reordered.same_look first.here
    rw [stands] at same
    rw [reordered.same_place]
    generalize second.root.shapeAt first.here = look at same ⊢
    cases same with
    | directory reordered => exact ⟨_, rfl⟩

theorem list_reordered (path : String) :
    (∃ fault, first.list path = .error fault ∧ second.list path = .error fault) ∨
      ∃ names entries listed, first.resolve path = .ok names ∧
        first.root.get names = .ok (.directory entries) ∧
        second.root.get names = .ok (.directory listed) ∧ first.withholds names = none ∧
        first.list path = .ok entries ∧ second.list path = .ok listed ∧
        (entries.map Prod.fst).Perm (listed.map Prod.fst) := by
  rw [list, list, resolve_reordered first second reordered path, reordered.same_rights]
  cases second.resolve path with
  | error fault => exact .inl ⟨fault, rfl, rfl⟩
  | ok names =>
      simp only
      rcases same_look_cases _ _ (reordered.same_look names) with ⟨fault, one, two⟩ |
        ⟨content, one, two⟩ | ⟨entries, listed, one, two, same⟩
      · exact .inl ⟨fault, by rw [one], by rw [two]⟩
      · exact .inl ⟨.notDirectory, by rw [one], by rw [two]⟩
      · rw [one, two]
        cases withheld : first.withholds names with
        | some fault => exact .inl ⟨fault, rfl, rfl⟩
        | none => exact .inr ⟨names, entries, listed, rfl, one, two, withheld, rfl, rfl, same⟩

end Reordered

end Disk

end ApiContract.Files
