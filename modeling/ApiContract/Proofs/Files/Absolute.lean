import ApiContract.Proofs.Files.Reading
import Mathlib.Data.List.Induction

/-!
The absolute path of a place: it leads to the place, and its parent path is the absolute path of the
directory around it.
-/

set_option autoImplicit false

namespace ApiContract.Files

-- A path that ends in a name has no slash and no point at its end that could be taken off.
theorem trim_end_name (name : String) (isName : IsName name) (before : List Char) :
    trimEnd (name.toList.reverse ++ before) = name.toList.reverse ++ before := by
  have uncut : '/' ∉ name.toList.reverse := by simpa using isName.no_slash
  have nonempty : name.toList.reverse ≠ [] := by simpa using isName.nonempty
  have notHere : name.toList.reverse ≠ ['.'] := by
    intro same
    exact isName.not_here (String.toList_inj.mp (List.reverse_inj.mp same))
  obtain ⟨c, back, ends⟩ := List.exists_cons_of_ne_nil nonempty
  rw [ends] at uncut notHere ⊢
  refine trimEnd.eq_3 _ (fun rest slash => ?_) (fun rest point => ?_)
  · cases slash
    exact uncut List.mem_cons_self
  · cases back with
    | nil =>
        cases point
        exact notHere rfl
    | cons d others =>
        cases point
        exact uncut (List.mem_cons_of_mem _ List.mem_cons_self)

-- The names of a place, each behind a slash of its own.
def slashed (names : List String) : List Char :=
  names.flatMap fun name => '/' :: name.toList

theorem slashed_concat (names : List String) (name : String) :
    slashed (names ++ [name]) = slashed names ++ '/' :: name.toList := by
  simp [slashed]

theorem segments_slashed (names : List String) (named : ∀ name ∈ names, IsName name) :
    (segmentChars (slashed names)).map String.ofList = names := by
  induction names using List.reverseRecOn with
  | nil => rfl
  | append_singleton outer name ih =>
      obtain ⟨around, inner⟩ := List.forall_mem_append.mp named
      have whole := segments_name name (inner name List.mem_cons_self)
      rw [slashed_concat, segment_chars_cut, List.map_append, ih around]
      exact congrArg (outer ++ ·) whole

namespace Disk

theorem absolute_chars (names : List String) (nonempty : names ≠ []) :
    (absolute names).toList = slashed names := by
  obtain ⟨name, rest, rfl⟩ := List.exists_cons_of_ne_nil nonempty
  simp [absolute, slashed, Text.join_chars]

theorem segments_absolute (names : List String) (named : ∀ name ∈ names, IsName name) :
    segments (absolute names) = names := by
  by_cases top : names = []
  · rw [top]
    rfl
  · rw [segments, absolute_chars names top, segments_slashed names named]

theorem leads_absolute (disk : Disk) (names : List String) (shape : Shape)
    (named : ∀ name ∈ names, IsName name) (stands : disk.root.shapeAt names = .ok shape) :
    disk.Leads (absolute names) names := by
  have origin : disk.origin (absolute names) = [] := by
    simp [origin, isAbsolute, absolute]
  rw [Leads, segments_absolute names named, origin]
  refine (walk_names disk.root names [] _ disk.root.shape rfl named).mpr ⟨?_, shape, stands⟩
  rw [List.append_nil]

theorem resolve_absolute (disk : Disk) (names listed : List String)
    (named : ∀ name ∈ names, IsName name)
    (stands : disk.root.shapeAt names = .ok (.directory listed)) :
    disk.resolve (absolute names) = .ok names :=
  resolve_of_leads disk (absolute names) names listed (by simp [absolute])
    (leads_absolute disk names _ named stands) stands

-- What is looked up by a name in a place is what stands there in the tree.
theorem get_in_absolute (disk : Disk) (names : List String) (shape : Shape) (name : String)
    (named : ∀ other ∈ names ++ [name], IsName other)
    (stands : disk.root.shapeAt names = .ok shape) :
    disk.get (joinPath (absolute names) name) = disk.root.get (names ++ [name]) := by
  obtain ⟨outer, inner⟩ := List.forall_mem_append.mp named
  have isName := inner name List.mem_cons_self
  have leads := leads_absolute disk names shape outer stands
  obtain ⟨entry, found, -⟩ := (map_ok_iff _ _ _).mp stands
  have joined := get_join disk (absolute names) name (below_name name isName)
    (by simpa [segments_name name isName] using isName) names entry leads found
  rw [joined, segments_name name isName, Entry.get_from disk.root entry names _ found]

theorem parent_top : parent? (absolute []) = none := by decide

theorem trim_end_slashed (names : List String) (named : ∀ name ∈ names, IsName name) :
    trimEnd ('/' :: (slashed names).reverse) = (absolute names).toList.reverse := by
  rcases List.eq_nil_or_concat' names with rfl | ⟨outer, name, rfl⟩
  · rfl
  · have isName := named name List.mem_concat_self
    rw [absolute_chars _ (by simp), slashed_concat, List.reverse_append, List.reverse_cons,
      List.append_assoc, trimEnd, if_neg (by simp), trim_end_name name isName]

theorem parent_absolute (names : List String) (name : String)
    (named : ∀ other ∈ names ++ [name], IsName other) :
    parent? (absolute (names ++ [name])) = some (absolute names) := by
  obtain ⟨outer, inner⟩ := List.forall_mem_append.mp named
  have isName := inner name List.mem_cons_self
  have whole : ∀ c ∈ name.toList.reverse, (c != '/') = true := by
    intro c member
    simpa using fun same : c = '/' => isName.no_slash (same ▸ List.mem_reverse.mp member)
  have further (rest : List Char) : name.toList.reverse ++ '/' :: rest ≠ ['/'] := by
    simp [List.append_eq_singleton_iff, isName.nonempty]
  have back : (absolute (names ++ [name])).toList.reverse =
      name.toList.reverse ++ '/' :: (slashed names).reverse := by
    rw [absolute_chars _ (by simp), slashed_concat]
    simp
  rw [parent?, back, trim_end_name name isName, if_neg (by simp [further]),
    List.dropWhile_append_of_pos whole]
  simp [trim_end_slashed names outer]

end Disk

end ApiContract.Files
