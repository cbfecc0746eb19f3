import ApiContract.Text.Blank
import ApiContract.Text.Lines
import Mathlib.Data.List.Basic
import Mathlib.Data.List.TakeWhile

/-!
Cutting a text and joining texts undo each other where no text has what it is cut at, and trimming
takes off blanks alone.
-/

set_option autoImplicit false

namespace ApiContract.Text

theorem pieces_at_cut (cut : Char → Bool) (c : Char) (rest : List Char) (cuts : cut c = true) :
    pieces cut (c :: rest) = [] :: pieces cut rest :=
  if_pos cuts

theorem pieces_nonempty (cut : Char → Bool) (cs : List Char) : pieces cut cs ≠ [] := by
  cases cs with
  | nil => exact List.cons_ne_nil _ _
  | cons c rest =>
      simp only [pieces]
      split
      · simp
      · split <;> simp

theorem pieces_within (cut : Char → Bool) (c : Char) (rest : List Char) (own : cut c = false)
    (first : List Char) (others : List (List Char)) (start : pieces cut rest = first :: others) :
    pieces cut (c :: rest) = (c :: first) :: others := by
  simp [pieces, own, start]

-- A text without a cut goes to the front of the first piece of what follows it.
theorem pieces_after (cut : Char → Bool) (lead cs : List Char)
    (whole : ∀ c ∈ lead, cut c = false) :
    ∃ first others, pieces cut cs = first :: others ∧
      pieces cut (lead ++ cs) = (lead ++ first) :: others := by
  induction lead with
  | nil =>
      obtain ⟨first, others, start⟩ := List.exists_cons_of_ne_nil (pieces_nonempty cut cs)
      exact ⟨first, others, start, start⟩
  | cons c rest ih =>
      obtain ⟨own, later⟩ := List.forall_mem_cons.mp whole
      obtain ⟨first, others, start, following⟩ := ih later
      exact ⟨first, others, start, pieces_within cut c _ own _ _ following⟩

theorem pieces_whole (cut : Char → Bool) (cs : List Char) (whole : ∀ c ∈ cs, cut c = false) :
    pieces cut cs = [cs] := by
  obtain ⟨first, others, start, following⟩ := pieces_after cut cs [] whole
  cases start
  simpa using following

theorem pieces_cut (cut : Char → Bool) (at_ : Char) (cuts : cut at_ = true)
    (before after : List Char) :
    pieces cut (before ++ at_ :: after) = pieces cut before ++ pieces cut after := by
  induction before with
  | nil => exact pieces_at_cut cut at_ after cuts
  | cons c rest ih =>
      cases own : cut c with
      | true =>
          rw [List.cons_append, pieces_at_cut cut c _ own, pieces_at_cut cut c _ own, ih,
            List.cons_append]
      | false =>
          obtain ⟨first, others, start⟩ := List.exists_cons_of_ne_nil (pieces_nonempty cut rest)
          rw [start, List.cons_append] at ih
          rw [List.cons_append, pieces_within cut c _ own _ _ ih,
            pieces_within cut c _ own _ _ start, List.cons_append]

theorem pieces_uncut (cut : Char → Bool) (cs : List Char) :
    ∀ piece ∈ pieces cut cs, ∀ c ∈ piece, cut c = false := by
  induction cs with
  | nil => exact List.forall_mem_singleton.mpr fun c member => nomatch member
  | cons c rest ih =>
      cases own : cut c with
      | true => simpa [pieces_at_cut cut c rest own] using ih
      | false =>
          obtain ⟨first, others, start⟩ := List.exists_cons_of_ne_nil (pieces_nonempty cut rest)
          rw [start] at ih
          simpa [pieces_within cut c rest own first others start, own] using ih

theorem pieces_mem (cut : Char → Bool) (cs : List Char) :
    ∀ piece ∈ pieces cut cs, ∀ c ∈ piece, c ∈ cs := by
  induction cs with
  | nil => exact List.forall_mem_singleton.mpr fun c member => member
  | cons c rest ih =>
      cases own : cut c with
      | true =>
          simpa [pieces_at_cut cut c rest own] using
            fun piece member d inner => .inr (ih piece member d inner)
      | false =>
          obtain ⟨first, others, start⟩ := List.exists_cons_of_ne_nil (pieces_nonempty cut rest)
          rw [start] at ih
          obtain ⟨front, later⟩ := List.forall_mem_cons.mp ih
          simpa [pieces_within cut c rest own first others start] using
            ⟨fun d inner => .inr (front d inner),
              fun piece member d inner => .inr (later piece member d inner)⟩

theorem join_cons (sep first : String) (others : List String) (more : others ≠ []) :
    join sep (first :: others) = first ++ sep ++ join sep others := by
  obtain ⟨second, rest, rfl⟩ := List.exists_cons_of_ne_nil more
  rfl

theorem join_chars (sep first : String) (others : List String) :
    (join sep (first :: others)).toList =
      first.toList ++ others.flatMap fun text => sep.toList ++ text.toList := by
  induction others generalizing first with
  | nil => simp [join]
  | cons second rest ih => simp [join, ih second]

theorem lines_empty_iff (cs : List Char) : lines cs = [] ↔ cs = [] := by
  fun_cases lines cs <;> simp

-- A line as it is when no line end stands in it.
def Unbroken (line : List Char) : Prop :=
  '\n' ∉ line ∧ '\r' ∉ line

theorem lines_behind (line rest : List Char) (nonempty : line ≠ []) (unbroken : Unbroken line) :
    lines (line ++ rest) =
      match lines rest with
      | [] => [line]
      | first :: others => (line ++ first) :: others := by
  induction line with
  | nil => exact absurd rfl nonempty
  | cons c within ih =>
      obtain ⟨noFeed, noReturn⟩ := unbroken
      obtain ⟨ownFeed, laterFeed⟩ := List.ne_and_not_mem_of_not_mem_cons noFeed
      obtain ⟨ownReturn, laterReturn⟩ := List.ne_and_not_mem_of_not_mem_cons noReturn
      rw [List.cons_append, lines.eq_4 c _ (Ne.symm ownFeed) fun _ same _ => ownReturn same.symm]
      cases within with
      | nil => rfl
      | cons d more =>
          rw [ih (List.cons_ne_nil d more) ⟨laterFeed, laterReturn⟩]
          cases lines rest <;> rfl

theorem lines_whole (line : List Char) (nonempty : line ≠ []) (unbroken : Unbroken line) :
    lines line = [line] := by
  simpa [lines] using lines_behind line [] nonempty unbroken

theorem lines_feed (line rest : List Char) (unbroken : Unbroken line) :
    lines (line ++ '\n' :: rest) = line :: lines rest := by
  by_cases empty : line = []
  · rw [empty]
    rfl
  · simpa [lines] using lines_behind line ('\n' :: rest) empty unbroken

theorem trim_left_drops (cs : List Char) :
    ∃ blanks, cs = blanks ++ trimLeft cs ∧ ∀ c ∈ blanks, isBlank c = true :=
  ⟨cs.takeWhile isBlank, (List.takeWhile_append_dropWhile).symm, fun _ member =>
    List.mem_takeWhile_imp member⟩

theorem trim_right_drops (cs : List Char) :
    ∃ blanks, cs = trimRight cs ++ blanks ∧ ∀ c ∈ blanks, isBlank c = true := by
  induction cs with
  | nil => exact ⟨[], rfl, by simp⟩
  | cons c rest ih =>
      obtain ⟨blanks, same, allBlank⟩ := ih
      rw [trimRight]
      split
      · rename_i none_left
        rw [none_left, List.nil_append] at same
        by_cases blank : isBlank c = true
        · exact ⟨c :: rest, by simp [blank], by simpa [blank, same] using allBlank⟩
        · exact ⟨blanks, by simp [blank, same], allBlank⟩
      · exact ⟨blanks, congrArg (c :: ·) same, allBlank⟩

-- Trimming takes blanks off both ends and leaves what stands between them.
theorem trim_drops (cs : List Char) :
    ∃ before after, cs = before ++ trim cs ++ after ∧ (∀ c ∈ before, isBlank c = true) ∧
      ∀ c ∈ after, isBlank c = true := by
  obtain ⟨before, front, frontBlank⟩ := trim_left_drops cs
  obtain ⟨after, back, backBlank⟩ := trim_right_drops (trimLeft cs)
  exact ⟨before, after, by rw [List.append_assoc, trim, ← back, ← front], frontBlank, backBlank⟩

end ApiContract.Text
