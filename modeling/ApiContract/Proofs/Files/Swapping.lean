import ApiContract.Files.Disk
import ApiContract.Proofs.Files.Shape

/-!
Replacing a file through a temporary one beside it: when the last step succeeds the tree is the one
with the file put in place, and when any step is refused it is the one before.
-/

set_option autoImplicit false

namespace ApiContract.Files

namespace Entry

theorem set_set (name : String) (first second : Entry) (entries : List (String × Entry)) :
    set name second (set name first entries) = set name second entries := by
  induction entries with
  | nil => simp [set]
  | cons entry rest ih =>
      by_cases same : entry.1 = name <;> simp [set, same, ih]

theorem set_found (name : String) (entry : Entry) (entries : List (String × Entry))
    (found : find name entries = some entry) : set name entry entries = entries := by
  induction entries with
  | nil => cases found
  | cons first rest ih =>
      by_cases same : first.1 = name
      · rw [find, if_pos same, Option.some.injEq] at found
        rw [set, if_pos same, ← same, ← found]
      · rw [find, if_neg same] at found
        rw [set, if_neg same, ih found]

theorem set_fresh (name : String) (new : Entry) (entries : List (String × Entry))
    (fresh : name ∉ entries.map Prod.fst) : set name new entries = entries ++ [(name, new)] := by
  induction entries with
  | nil => rfl
  | cons entry rest ih =>
      obtain ⟨different, later⟩ := List.ne_and_not_mem_of_not_mem_cons fresh
      rw [set, if_neg (Ne.symm different), ih later, List.cons_append]

theorem remove_set_fresh (name : String) (new : Entry) (entries : List (String × Entry))
    (fresh : name ∉ entries.map Prod.fst) : remove name (set name new entries) = entries := by
  have kept : remove name entries = entries := by
    refine List.filter_eq_self.mpr fun entry member => ?_
    have different : entry.1 ≠ name := fun same => fresh (same ▸ List.mem_map_of_mem member)
    simpa using different
  rw [set_fresh name new entries fresh, remove, List.filter_append]
  simpa [remove] using kept

theorem modify_congr (first second : List (String × Entry) → List (String × Entry))
    (names : List String) (root : Entry) (entries : List (String × Entry))
    (stands : root.get names = .ok (.directory entries)) (same : first entries = second entries) :
    root.modify first names = root.modify second names := by
  induction names generalizing root with
  | nil =>
      cases stands
      simp [modify, same]
  | cons name rest ih =>
      cases root with
      | file content => rfl
      | directory list =>
          simp only [get] at stands
          cases found : find name list with
          | none => simp [found] at stands
          | some next =>
              rw [found] at stands
              simp only [modify, found, ih next stands]

theorem modify_modify (first second : List (String × Entry) → List (String × Entry))
    (names : List String) (root middle : Entry) (succeeds : root.modify first names = .ok middle) :
    middle.modify second names = root.modify (second ∘ first) names := by
  induction names generalizing root middle with
  | nil =>
      obtain ⟨entries, rfl, rfl⟩ := modify_nil_ok first root middle succeeds
      rfl
  | cons name rest ih =>
      obtain ⟨entries, next, below, rfl, found, inner, rfl⟩ :=
        modify_cons_ok first name rest root middle succeeds
      simp only [modify, find_set_same, found, ih next below inner, set_set]

theorem modify_nothing (names : List String) (root : Entry) (entries : List (String × Entry))
    (stands : root.get names = .ok (.directory entries)) : root.modify id names = .ok root := by
  induction names generalizing root with
  | nil =>
      cases stands
      rfl
  | cons name rest ih =>
      cases root with
      | file content => cases stands
      | directory list =>
          simp only [get] at stands
          cases found : find name list with
          | none => simp [found] at stands
          | some next =>
              rw [found] at stands
              simp only [modify, found, ih next stands, Except.map, set_found name next list found]

end Entry

namespace Disk

-- All that a change of one directory does.
def Alters (disk after : Disk) (names : List String)
    (how : List (String × Entry) → List (String × Entry)) : Prop :=
  ∃ root, disk.root.modify how names = .ok root ∧ after = { disk with root := root }

theorem change_ok (disk after : Disk) (step : Step) (names : List String)
    (how : List (String × Entry) → List (String × Entry))
    (succeeds : disk.change step names how = .ok after) : Alters disk after names how := by
  rw [change] at succeeds
  split at succeeds
  · cases succeeds
  · obtain ⟨root, modified, rfl⟩ := (map_ok_iff _ _ _).mp succeeds
    exact ⟨root, modified, rfl⟩

section Alters

variable (disk middle after : Disk) (names : List String)
  (first second : List (String × Entry) → List (String × Entry)) (entries : List (String × Entry))

theorem alters_then (early : Alters disk middle names first)
    (late : Alters middle after names second) : Alters disk after names (second ∘ first) := by
  obtain ⟨half, begun, rfl⟩ := early
  obtain ⟨root, ended, rfl⟩ := late
  exact ⟨root, (Entry.modify_modify first second names _ _ begun).symm.trans ended, rfl⟩

variable (stands : disk.root.get names = .ok (.directory entries))

include stands

theorem alters_congr (alters : Alters disk after names first)
    (same : first entries = second entries) : Alters disk after names second := by
  obtain ⟨root, modified, rfl⟩ := alters
  exact ⟨root, (Entry.modify_congr first second names _ entries stands same).symm.trans modified, rfl⟩

theorem alters_stands (alters : Alters disk after names first) :
    after.root.get names = .ok (.directory (first entries)) := by
  obtain ⟨root, modified, rfl⟩ := alters
  obtain ⟨found, stood, changes⟩ := Entry.modify_at first names _ _ modified
  rw [stood] at stands
  cases stands
  simpa [Entry.get] using changes []

theorem discard_undoes (name : String) (new : Entry) (fresh : name ∉ entries.map Prod.fst)
    (alters : Alters disk after names (Entry.set name new)) : after.discard names name = disk := by
  obtain ⟨root, modified, rfl⟩ := alters
  have undone : root.modify (Entry.remove name) names = .ok disk.root := by
    rw [Entry.modify_modify _ _ names _ _ modified,
      Entry.modify_congr _ id names _ entries stands (Entry.remove_set_fresh name new entries fresh)]
    exact Entry.modify_nothing names _ entries stands
  rw [discard, undone]

end Alters

theorem names_length_bound (entries : List (String × Entry)) :
    ∀ entry ∈ entries, entry.1.length ≤ namesLength entries := by
  induction entries with
  | nil => simp
  | cons first rest ih =>
      refine List.forall_mem_cons.mpr ⟨Nat.le_add_right _ _, fun entry member => ?_⟩
      exact Nat.le_add_left_of_le (ih entry member)

theorem fresh_name_absent (entries : List (String × Entry)) :
    freshName entries ∉ entries.map Prod.fst := by
  intro taken
  obtain ⟨entry, member, same⟩ := List.mem_map.mp taken
  have short := names_length_bound entries entry member
  have long : (freshName entries).length = namesLength entries + 4 := by
    rw [freshName, String.length_ofList]
    simp
  rw [same] at short
  omega

theorem create_temporary_ok (disk created : Disk) (names : List String) (temporary : String)
    (succeeds : disk.createTemporary names = .ok (created, temporary)) :
    ∃ entries, disk.root.get names = .ok (.directory entries) ∧
      temporary ∉ entries.map Prod.fst ∧
      Alters disk created names (Entry.set temporary (.file .empty)) := by
  rw [createTemporary] at succeeds
  split at succeeds
  · cases succeeds
  · cases succeeds
  · rename_i entries stands
    obtain ⟨made, changed, same⟩ := (map_ok_iff _ _ _).mp succeeds
    cases same
    exact ⟨entries, stands, fresh_name_absent entries, change_ok _ _ _ _ _ changed⟩

theorem rename_ok (disk after : Disk) (names : List String) (name target : String)
    (succeeds : disk.rename names name target = .ok after) :
    ∃ entries entry, disk.root.get names = .ok (.directory entries) ∧
      ¬ (target = "." ∨ target = "..") ∧
      (∀ below, Entry.find target entries ≠ some (.directory below)) ∧
      Entry.find name entries = some entry ∧
      Alters disk after names fun entries => Entry.set target entry (Entry.remove name entries) := by
  rw [rename] at succeeds
  split at succeeds
  · cases succeeds
  · cases succeeds
  · rename_i entries stands
    split at succeeds
    · cases succeeds
    · rename_i plain
      split at succeeds
      · cases succeeds
      · cases succeeds
      · rename_i entry found notDirectory
        exact ⟨entries, entry, stands, plain, notDirectory, found, change_ok _ _ _ _ _ succeeds⟩

theorem fill_ok (disk created filled : Disk) (names : List String) (temporary : String)
    (content : ByteArray) (creation : disk.createTemporary names = .ok (created, temporary))
    (filling : created.fill names temporary content = .ok filled) :
    ∃ entries, disk.root.get names = .ok (.directory entries) ∧
      temporary ∉ entries.map Prod.fst ∧
      Alters disk filled names (Entry.set temporary (.file content)) := by
  obtain ⟨entries, stands, fresh, creates⟩ :=
    create_temporary_ok disk created names temporary creation
  have fills := alters_then disk created filled names _ _ creates (change_ok _ _ _ _ _ filling)
  exact ⟨entries, stands, fresh, alters_congr disk filled names _ _ entries stands fills
    (Entry.set_set _ _ _ _)⟩

-- The entry that is renamed is the one that was filled, and nothing is left of its old name.
theorem rename_filled (disk filled swapped : Disk) (names : List String) (temporary name : String)
    (content : ByteArray) (entries : List (String × Entry))
    (stands : disk.root.get names = .ok (.directory entries))
    (fresh : temporary ∉ entries.map Prod.fst)
    (fills : Alters disk filled names (Entry.set temporary (.file content)))
    (renamed : filled.rename names temporary name = .ok swapped) :
    ¬ (name = "." ∨ name = "..") ∧ (∀ below, Entry.find name entries ≠ some (.directory below)) ∧
      Alters disk swapped names (Entry.set name (.file content)) := by
  obtain ⟨list, entry, stood, plain, notDirectory, found, renames⟩ :=
    rename_ok filled swapped names temporary name renamed
  rw [alters_stands disk filled names _ entries stands fills, Except.ok.injEq,
    Entry.directory.injEq] at stood
  subst stood
  rw [Entry.find_set_same, Option.some.injEq] at found
  subst found
  refine ⟨plain, fun below => ?_, ?_⟩
  · by_cases same : name = temporary
    · rw [same, (Entry.find_none_iff temporary entries).mpr fresh]
      exact nofun
    · rw [← Entry.find_set_other temporary name (.file content) entries same]
      exact notDirectory below
  · refine alters_congr disk swapped names _ _ entries stands
      (alters_then disk filled swapped names _ _ fills renames) ?_
    rw [Function.comp_apply, Entry.remove_set_fresh temporary _ entries fresh]

theorem put_file_of_alters (disk after : Disk) (path : String) (content : ByteArray)
    (names : List String) (name : String) (entries : List (String × Entry))
    (placed : disk.place path = .ok (names, name))
    (stands : disk.root.get names = .ok (.directory entries)) (plain : ¬ (name = "." ∨ name = ".."))
    (notDirectory : ∀ below, Entry.find name entries ≠ some (.directory below))
    (alters : Alters disk after names (Entry.set name (.file content))) :
    disk.putFile path content = .ok (after.grant (names ++ [name])) := by
  obtain ⟨root, modified, rfl⟩ := alters
  simp only [putFile, placed, stands, if_neg plain, modified]
  rfl

section Swap

variable (disk : Disk) (path : String) (content : ByteArray)

inductive Swapped : Attempt → Prop
  | done (after : Disk) (puts : disk.putFile path content = .ok after) : Swapped ⟨after, .ok ()⟩
  | refused (fault : Fault) : Swapped ⟨disk, .error fault⟩

theorem swap_file_swapped : Swapped disk path content (disk.swapFile path content) := by
  rw [swapFile]
  cases placed : disk.place path with
  | error fault => exact .refused fault
  | ok place =>
      obtain ⟨names, name⟩ := place
      cases creation : disk.createTemporary names with
      | error fault =>
          simp only [creation]
          exact .refused fault
      | ok made =>
          obtain ⟨created, temporary⟩ := made
          cases filling : created.fill names temporary content with
          | error fault =>
              obtain ⟨entries, stands, fresh, creates⟩ :=
                create_temporary_ok disk created names temporary creation
              simp only [creation, filling,
                discard_undoes disk created names entries stands _ _ fresh creates]
              exact .refused fault
          | ok filled =>
              obtain ⟨entries, stands, fresh, fills⟩ :=
                fill_ok disk created filled names temporary content creation filling
              cases renamed : filled.rename names temporary name with
              | error fault =>
                  simp only [creation, filling, renamed,
                    discard_undoes disk filled names entries stands _ _ fresh fills]
                  exact .refused fault
              | ok swapped =>
                  obtain ⟨plain, notDirectory, swaps⟩ := rename_filled disk filled swapped names
                    temporary name content entries stands fresh fills renamed
                  simp only [creation, filling, renamed]
                  exact .done _ (put_file_of_alters disk swapped path content names name
                    entries placed stands plain notDirectory swaps)

end Swap

end Disk

end ApiContract.Files
