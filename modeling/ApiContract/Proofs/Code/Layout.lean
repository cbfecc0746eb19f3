import ApiContract.Code.Layout
import ApiContract.Proofs.Text.Lines

/-!
Texts that are made of whole lines, and what moving them in and stacking them gives.
-/

set_option autoImplicit false

namespace ApiContract.Code

open Text (Unbroken)

-- A line by itself: it is not empty, and no line ends in it.
def IsLine (line : String) : Prop :=
  line.toList ≠ [] ∧ Unbroken line.toList

@[simp] theorem unbroken_nil : Unbroken [] := ⟨by simp, by simp⟩

@[simp] theorem unbroken_append (first second : List Char) :
    Unbroken (first ++ second) ↔ Unbroken first ∧ Unbroken second := by
  simp only [Unbroken, List.mem_append, not_or]
  tauto

@[simp] theorem unbroken_cons (c : Char) (rest : List Char) :
    Unbroken (c :: rest) ↔ c ≠ '\n' ∧ c ≠ '\r' ∧ Unbroken rest := by
  simp only [Unbroken, List.mem_cons, not_or, ne_eq, @eq_comm Char c]
  tauto

theorem lines_join (ls : List String) (whole : ∀ line ∈ ls, IsLine line) :
    Text.lines (Text.join "\n" ls).toList = ls.map String.toList := by
  induction ls with
  | nil => rfl
  | cons line rest ih =>
      obtain ⟨own, later⟩ := List.forall_mem_cons.mp whole
      cases rest with
      | nil => exact Text.lines_whole _ own.1 own.2
      | cons second others =>
          have parts : (Text.join "\n" (line :: second :: others)).toList =
              line.toList ++ '\n' :: (Text.join "\n" (second :: others)).toList := by
            simp [Text.join]
          rw [parts, Text.lines_feed _ _ own.2, ih later]
          rfl

-- Lines moved in by a number of levels.
def movedIn (level : Nat) (ls : List String) : List String :=
  ls.map fun line => String.ofList (margin level) ++ line

theorem indent_join (level : Nat) (ls : List String) (whole : ∀ line ∈ ls, IsLine line) :
    indent (level + 1) (Text.join "\n" ls) = Text.join "\n" (movedIn (level + 1) ls) := by
  have each : ∀ line ∈ ls, indentLine (level + 1) line.toList =
      String.ofList (margin (level + 1)) ++ line := by
    intro line member
    have nonempty := (whole line member).1
    simp [indentLine, nonempty, String.ofList_append]
  rw [indent, if_neg (Nat.succ_ne_zero level), lines_join ls whole, List.map_map, movedIn]
  exact congrArg (Text.join "\n") (List.map_congr_left each)

theorem join_apart (sep : String) (texts : List String) (nonempty : texts ≠ []) :
    sep.toList ++ (Text.join sep texts).toList =
      texts.flatMap fun text => sep.toList ++ text.toList := by
  obtain ⟨first, others, rfl⟩ := List.exists_cons_of_ne_nil nonempty
  rw [Text.join_chars, List.flatMap_cons, List.append_assoc]

theorem join_flatten (blocks : List (List String)) (full : ∀ block ∈ blocks, block ≠ []) :
    Text.join "\n" (blocks.map (Text.join "\n")) = Text.join "\n" blocks.flatten := by
  rw [← String.toList_inj, ← List.append_cancel_left_eq "\n".toList]
  by_cases none_ : blocks = []
  · simp [none_]
  · have some_ : blocks.flatten ≠ [] := by
      obtain ⟨first, others, rfl⟩ := List.exists_cons_of_ne_nil none_
      simp [full first (by simp)]
    rw [join_apart _ _ (by simpa using none_), join_apart _ _ some_]
    clear none_ some_
    induction blocks with
    | nil => rfl
    | cons block rest ih =>
        obtain ⟨own, later⟩ := List.forall_mem_cons.mp full
        rw [List.map_cons, List.flatMap_cons, ih later, join_apart _ _ own, List.flatten_cons,
          List.flatMap_append]

-- Blocks of lines on top of each other, moved in.
theorem stack_join (level : Nat) (blocks : List (List String))
    (full : ∀ block ∈ blocks, block ≠ [] ∧ ∀ line ∈ block, IsLine line) :
    stack (level + 1) (blocks.map (Text.join "\n")) =
      Text.join "\n" (movedIn (level + 1) blocks.flatten) := by
  have each : ∀ block ∈ blocks, (indent (level + 1) ∘ Text.join "\n") block =
      (Text.join "\n" ∘ movedIn (level + 1)) block := fun block member =>
    indent_join level block (full block member).2
  have moved : ∀ block ∈ blocks.map (movedIn (level + 1)), block ≠ [] := by
    simpa [movedIn] using fun block member => (full block member).1
  rw [stack, List.map_map, List.map_congr_left each, ← List.map_map, join_flatten _ moved, movedIn,
    List.map_flatten]
  rfl

theorem stack_lines (level : Nat) (ls : List String) (whole : ∀ line ∈ ls, IsLine line) :
    stack (level + 1) ls = Text.join "\n" (movedIn (level + 1) ls) :=
  congrArg (Text.join "\n") (List.map_congr_left fun line member =>
    indent_join level [line] (by simpa using whole line member))

-- The lines of a body, one level in, each behind the end of the line before it.
def bodyChars (ls : List String) : List Char :=
  ls.flatMap fun line => "\n  ".toList ++ line.toList

theorem moved_chars (ls : List String) (nonempty : ls ≠ []) :
    '\n' :: (Text.join "\n" (movedIn 1 ls)).toList = bodyChars ls := by
  have apart := join_apart "\n" (movedIn 1 ls) (by simpa [movedIn] using nonempty)
  simpa [bodyChars, movedIn, margin, List.flatMap_map] using apart

theorem braced_chars (ls : List String) (nonempty : ls ≠ []) :
    (braced (Text.join "\n" (movedIn 1 ls)) false).toList =
      '\x7b' :: (bodyChars ls ++ ['\n', '\x7d']) := by
  rw [← moved_chars ls nonempty]
  simp [braced]

-- Blocks with an empty line between them, one level in.
theorem stack_apart_chars (block : List String) (others : List (List String))
    (full : ∀ ls ∈ block :: others, ls ≠ [] ∧ ∀ line ∈ ls, IsLine line) :
    '\n' :: (stackApart 1 ((block :: others).map (Text.join "\n"))).toList =
      bodyChars block ++ others.flatMap fun ls => '\n' :: bodyChars ls := by
  obtain ⟨⟨nonempty, own⟩, later⟩ := List.forall_mem_cons.mp full
  have each : ∀ ls ∈ others, "\n\n".toList ++ (indent 1 (Text.join "\n" ls)).toList =
      '\n' :: bodyChars ls := by
    intro ls member
    rw [indent_join 0 ls (later ls member).2, ← moved_chars ls (later ls member).1]
    rfl
  rw [stackApart, List.map_cons, List.map_cons, Text.join_chars, indent_join 0 block own,
    ← List.cons_append, moved_chars block nonempty, List.map_map, List.flatMap_map]
  exact congrArg (bodyChars block ++ ·) (List.flatMap_congr each)

end ApiContract.Code
