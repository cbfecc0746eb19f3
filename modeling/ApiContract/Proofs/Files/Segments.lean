import ApiContract.Files.Path
import ApiContract.Proofs.Text.Lines

/-!
The names in the text of a path, and that joining two paths joins their names.
-/

set_option autoImplicit false

namespace ApiContract.Files

structure IsName (name : String) : Prop where
  nonempty : name ≠ ""
  no_slash : '/' ∉ name.toList
  not_here : name ≠ "."
  not_up : name ≠ ".."

instance (name : String) : Decidable (IsName name) :=
  decidable_of_iff (name ≠ "" ∧ '/' ∉ name.toList ∧ name ≠ "." ∧ name ≠ "..")
    ⟨fun ⟨nonempty, noSlash, notHere, notUp⟩ => ⟨nonempty, noSlash, notHere, notUp⟩,
      fun ⟨nonempty, noSlash, notHere, notUp⟩ => ⟨nonempty, noSlash, notHere, notUp⟩⟩

-- A path that can be put below a directory and whose last part is not asked to be one.
structure Below (path : String) : Prop where
  nonempty : path.toList ≠ []
  relative : path.toList.head? ≠ some '/'
  closed : path.toList.getLast? ≠ some '/'

def segmentChars (cs : List Char) : List (List Char) :=
  (Text.pieces (· == '/') cs).filter fun piece => !piece.isEmpty

def segments (path : String) : List String :=
  (segmentChars path.toList).map String.ofList

theorem parts_eq (path : String) :
    parts path =
      if path.toList.getLast? = some '/' then segments path ++ ["."] else segments path :=
  rfl

theorem segment_chars_cut (before after : List Char) :
    segmentChars (before ++ '/' :: after) = segmentChars before ++ segmentChars after := by
  rw [segmentChars, Text.pieces_cut _ '/' rfl, List.filter_append]
  rfl

theorem segments_name (name : String) (isName : IsName name) : segments name = [name] := by
  have nonempty : name.toList ≠ [] := by simpa using isName.nonempty
  have whole : ∀ c ∈ name.toList, (c == '/') = false := by
    intro c member
    simpa using fun same : c = '/' => isName.no_slash (same ▸ member)
  simp [segments, segmentChars, Text.pieces_whole _ _ whole, nonempty]

theorem below_name (name : String) (isName : IsName name) : Below name where
  nonempty := by simpa using isName.nonempty
  relative start := isName.no_slash (List.mem_of_head? start)
  closed last := isName.no_slash (List.mem_of_getLast? last)

theorem starts_with_slash (path : String) :
    path.startsWith "/" = true ↔ path.toList.head? = some '/' := by
  rw [String.startsWith_string_iff]
  cases path.toList with
  | nil => simp
  | cons c rest => simp [List.cons_prefix_cons, eq_comm]

theorem ends_with_slash (path : String) :
    path.endsWith "/" = true ↔ path.toList.getLast? = some '/' := by
  rw [String.endsWith, String.Slice.endsWith_string_iff, String.copy_toSlice,
    List.getLast?_eq_some_iff]
  exact ⟨fun ⟨before, ends⟩ => ⟨before, ends.symm⟩, fun ⟨before, ends⟩ => ⟨before, ends.symm⟩⟩

theorem join_path_chars (directory path : String) (relative : path.toList.head? ≠ some '/') :
    (joinPath directory path).toList =
      if directory.toList = [] then path.toList
      else if directory.toList.getLast? = some '/' then directory.toList ++ path.toList
      else directory.toList ++ '/' :: path.toList := by
  rw [joinPath]
  rw [if_neg (mt (starts_with_slash path).mp relative)]
  simp only [String.isEmpty_iff, ends_with_slash, ← String.toList_eq_nil_iff]
  split
  · rfl
  · split <;> simp

theorem segments_join (directory path : String) (relative : path.toList.head? ≠ some '/') :
    segments (joinPath directory path) = segments directory ++ segments path := by
  rw [segments, join_path_chars directory path relative]
  split
  · rename_i empty
    simp [segments, empty, segmentChars, Text.pieces]
  · split
    · rename_i slash
      obtain ⟨before, ends⟩ := List.getLast?_eq_some_iff.mp slash
      have opened : segmentChars (before ++ ['/']) = segmentChars before := by
        rw [segment_chars_cut]
        simp [segmentChars, Text.pieces]
      rw [segments, segments, ends, opened, List.append_assoc, List.singleton_append,
        segment_chars_cut, List.map_append]
    · rw [segment_chars_cut, List.map_append]
      rfl

theorem below_join (directory path : String) (outer : Below directory) (inner : Below path) :
    Below (joinPath directory path) := by
  have chars := join_path_chars directory path inner.relative
  rw [if_neg outer.nonempty, if_neg outer.closed] at chars
  refine ⟨?_, ?_, ?_⟩
  · simp [chars]
  · rw [chars, List.head?_append_of_ne_nil _ outer.nonempty]
    exact outer.relative
  · rw [chars, List.append_cons, List.getLast?_append_of_ne_nil _ inner.nonempty]
    exact inner.closed

theorem parts_join (directory path : String) (below : Below path) :
    parts (joinPath directory path) = segments directory ++ segments path := by
  have closed : (joinPath directory path).toList.getLast? ≠ some '/' := by
    rw [join_path_chars directory path below.relative]
    split
    · exact below.closed
    · split
      · rw [List.getLast?_append_of_ne_nil _ below.nonempty]
        exact below.closed
      · rw [List.append_cons, List.getLast?_append_of_ne_nil _ below.nonempty]
        exact below.closed
  rw [parts_eq, if_neg closed, segments_join directory path below.relative]

theorem is_absolute_join (directory path : String) (below : Below path) :
    isAbsolute (joinPath directory path) = isAbsolute directory := by
  unfold isAbsolute
  rw [join_path_chars directory path below.relative]
  split
  · rename_i empty
    simp [empty, below.relative]
  · rename_i nonempty
    split <;> rw [List.head?_append_of_ne_nil _ nonempty]

theorem join_path_nonempty (directory path : String) (below : Below path) :
    (joinPath directory path).isEmpty = false := by
  rw [Bool.eq_false_iff]
  intro empty
  have chars := join_path_chars directory path below.relative
  rw [String.isEmpty_iff.mp empty] at chars
  split at chars
  · exact below.nonempty chars.symm
  · split at chars <;> simp [below.nonempty] at chars

end ApiContract.Files
