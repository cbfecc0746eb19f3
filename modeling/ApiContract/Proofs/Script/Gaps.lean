import ApiContract.Script.Tree
import Mathlib.Data.List.Basic

/-!
What may stand in front of a token: blanks and whole comments, one behind the other.
-/

set_option autoImplicit false

namespace ApiContract.Script

-- Blanks and whole comments; each comment is told with how much of the gap is left where it starts.
inductive GapOf : List Char → List (List Char × Nat) → Prop
  | nil : GapOf [] []
  | blank {c : Char} {rest : List Char} {comments : List (List Char × Nat)}
      (own : isBlank c = true) (later : GapOf rest comments) : GapOf (c :: rest) comments
  | line {text rest : List Char} {ending : Char} {comments : List (List Char × Nat)}
      (within : ∀ c ∈ text, isLineEnd c = false) (ends : isLineEnd ending = true)
      (later : GapOf rest comments) :
      GapOf ('/' :: '/' :: (text ++ ending :: rest))
        (('/' :: '/' :: text, text.length + rest.length + 3) :: comments)
  | block {text rest : List Char} {comments : List (List Char × Nat)}
      (within : ∀ before after, text ≠ before ++ '*' :: '/' :: after)
      (later : GapOf rest comments) :
      GapOf ('/' :: '*' :: (text ++ '*' :: '/' :: rest))
        (('/' :: '*' :: (text ++ ['*', '/']), text.length + rest.length + 4) :: comments)

def IsGap (lead : List Char) : Prop :=
  ∃ comments, GapOf lead comments

-- Cutting a gap off loses nothing of a text.
theorem cut_gap_whole (gap : Gap) (cs : List Char) :
    (cutGap gap cs).1 ++ (cutGap gap cs).2 = cs := by
  fun_induction cutGap gap cs <;> simp_all [keep]

theorem cut_gap (c : Char) (rest : List Char) (noSlash : c ≠ '/') :
    cutGap .blanks (c :: rest) =
      if isBlank c then keep c (cutGap .blanks rest) else ([], c :: rest) := by
  rw [cutGap.eq_def]
  split <;> simp_all

theorem cut_gap_none (c : Char) (rest : List Char) (solid : isBlank c = false)
    (noSlash : c ≠ '/') : cutGap .blanks (c :: rest) = ([], c :: rest) := by
  rw [cut_gap c rest noSlash, solid, if_neg Bool.false_ne_true]

theorem cut_gap_blank (c : Char) (rest : List Char) (blank : isBlank c = true) :
    cutGap .blanks (c :: rest) = keep c (cutGap .blanks rest) := by
  have noSlash : c ≠ '/' := by
    rintro rfl
    exact absurd blank (by decide)
  rw [cut_gap c rest noSlash, if_pos blank]

theorem cut_gap_line (rest : List Char) :
    cutGap .blanks ('/' :: '/' :: rest) = keep '/' (keep '/' (cutGap .lineComment rest)) := rfl

theorem cut_gap_block (rest : List Char) :
    cutGap .blanks ('/' :: '*' :: rest) = keep '/' (keep '*' (cutGap .blockComment rest)) := rfl

theorem cut_line (c : Char) (rest : List Char) :
    cutGap .lineComment (c :: rest) =
      if isLineEnd c then keep c (cutGap .blanks rest) else keep c (cutGap .lineComment rest) := by
  rw [cutGap.eq_def]
  split <;> simp_all

theorem cut_line_end (c : Char) (rest : List Char) (ends : isLineEnd c = true) :
    cutGap .lineComment (c :: rest) = keep c (cutGap .blanks rest) := by
  rw [cut_line, if_pos ends]

theorem cut_line_on (c : Char) (rest : List Char) (within : isLineEnd c = false) :
    cutGap .lineComment (c :: rest) = keep c (cutGap .lineComment rest) := by
  rw [cut_line, within, if_neg Bool.false_ne_true]

theorem cut_block_on (c : Char) (rest : List Char) (within : c = '*' → rest.head? ≠ some '/') :
    cutGap .blockComment (c :: rest) = keep c (cutGap .blockComment rest) := by
  rw [cutGap.eq_def]
  split <;> simp_all

theorem cut_line_text (text rest : List Char) (within : ∀ c ∈ text, isLineEnd c = false) :
    cutGap .lineComment (text ++ rest) =
      (text ++ (cutGap .lineComment rest).1, (cutGap .lineComment rest).2) := by
  induction text with
  | nil => rfl
  | cons c others ih =>
      obtain ⟨own, later⟩ := List.forall_mem_cons.mp within
      rw [List.cons_append, cut_line_on c _ own, ih later]
      rfl

-- A text in which no comment ends does not end one together with what closes the comment.
theorem open_cons (c : Char) (text : List Char)
    (within : ∀ before after, c :: text ≠ before ++ '*' :: '/' :: after) :
    (∀ rest, c = '*' → (text ++ '*' :: rest).head? ≠ some '/') ∧
      ∀ before after, text ≠ before ++ '*' :: '/' :: after := by
  refine ⟨fun rest star starts => ?_,
    fun before after same => within (c :: before) after (by simp [same])⟩
  cases text with
  | nil => simp at starts
  | cons d others =>
      have slash : d = '/' := by simpa using starts
      exact within [] others (by simp [star, slash])

theorem cut_block_text (text rest : List Char)
    (within : ∀ before after, text ≠ before ++ '*' :: '/' :: after) :
    cutGap .blockComment (text ++ '*' :: '/' :: rest) =
      (text ++ '*' :: '/' :: (cutGap .blanks rest).1, (cutGap .blanks rest).2) := by
  induction text with
  | nil => rfl
  | cons c others ih =>
      obtain ⟨own, later⟩ := open_cons c others within
      rw [List.cons_append, cut_block_on c _ (own _), ih later]
      rfl

theorem gap_of_cut {lead : List Char} {comments : List (List Char × Nat)}
    (gap : GapOf lead comments) (rest : List Char) :
    cutGap .blanks (lead ++ rest) = (lead ++ (cutGap .blanks rest).1, (cutGap .blanks rest).2) := by
  induction gap with
  | nil => rfl
  | blank own _ ih => rw [List.cons_append, cut_gap_blank _ _ own, ih]; rfl
  | line within ends _ ih =>
      simp only [List.cons_append, List.append_assoc]
      rw [cut_gap_line, cut_line_text _ _ within, cut_line_end _ _ ends, ih]
      simp [keep]
  | block within _ ih =>
      simp only [List.cons_append, List.append_assoc]
      rw [cut_gap_block, cut_block_text _ _ within, ih]
      simp [keep]

theorem gap_cut (lead rest : List Char) (gap : IsGap lead) :
    cutGap .blanks (lead ++ rest) = (lead ++ (cutGap .blanks rest).1, (cutGap .blanks rest).2) := by
  obtain ⟨comments, own⟩ := gap
  exact gap_of_cut own rest

theorem comments_line (text rest begun : List Char) (ending : Char)
    (within : ∀ c ∈ text, isLineEnd c = false) (ends : isLineEnd ending = true) :
    commentsFrom .lineComment begun (text ++ ending :: rest) =
      (begun.reverse ++ text, begun.length + text.length + rest.length + 1) ::
        commentsFrom .blanks [] rest := by
  induction text generalizing begun with
  | nil => simp [commentsFrom, ends]
  | cons c others ih =>
      obtain ⟨own, later⟩ := List.forall_mem_cons.mp within
      rw [List.cons_append, commentsFrom, own, if_neg Bool.false_ne_true, ih _ later]
      simp [Nat.add_comm, Nat.add_left_comm]

theorem comments_block (text rest begun : List Char)
    (within : ∀ before after, text ≠ before ++ '*' :: '/' :: after) :
    commentsFrom .blockComment begun (text ++ '*' :: '/' :: rest) =
      (begun.reverse ++ text ++ ['*', '/'], begun.length + text.length + rest.length + 2) ::
        commentsFrom .blanks [] rest := by
  induction text generalizing begun with
  | nil => simp [commentsFrom]
  | cons c others ih =>
      obtain ⟨own, later⟩ := open_cons c others within
      rw [List.cons_append, commentsFrom, ih _ later]
      · simp [Nat.add_comm, Nat.add_left_comm]
      · rintro more rfl starts
        exact own _ rfl (by rw [starts]; rfl)

-- The comments that are found in a gap are those that it is told with.
theorem comments_found {lead : List Char} {comments : List (List Char × Nat)}
    (gap : GapOf lead comments) : commentsFrom .blanks [] lead = comments := by
  induction gap with
  | nil => rfl
  | @blank c rest _ own _ ih =>
      have noSlash : c ≠ '/' := by
        rintro rfl
        exact absurd own (by decide)
      rw [commentsFrom, ih] <;> simp [noSlash]
  | line within ends _ ih =>
      rw [commentsFrom, comments_line _ _ _ _ within ends, ih]
      simp only [List.reverse_cons, List.reverse_nil, List.nil_append, List.cons_append,
        List.length_cons, List.length_nil, List.cons.injEq, Prod.mk.injEq, and_true, true_and]
      omega
  | block within _ ih =>
      rw [commentsFrom, comments_block _ _ _ within, ih]
      simp only [List.reverse_cons, List.reverse_nil, List.nil_append, List.cons_append,
        List.length_cons, List.length_nil, List.cons.injEq, Prod.mk.injEq, and_true, true_and]
      omega

@[simp] theorem gap_nil : IsGap [] := ⟨[], .nil⟩

theorem gap_append (first second : List Char) (one : IsGap first) (two : IsGap second) :
    IsGap (first ++ second) := by
  obtain ⟨comments, gap⟩ := one
  induction gap with
  | nil => exact two
  | blank own _ ih =>
      obtain ⟨more, both⟩ := ih
      exact ⟨_, .blank own both⟩
  | line within ends _ ih =>
      obtain ⟨more, both⟩ := ih
      exact ⟨_, by simpa using GapOf.line within ends both⟩
  | block within _ ih =>
      obtain ⟨more, both⟩ := ih
      exact ⟨_, by simpa using GapOf.block within both⟩

theorem blanks_no_comments (blanks : List Char) (allBlank : blanks.all isBlank = true) :
    GapOf blanks [] := by
  induction blanks with
  | nil => exact .nil
  | cons c rest ih =>
      obtain ⟨own, later⟩ := Bool.and_eq_true_iff.mp allBlank
      exact .blank own (ih later)

@[simp] theorem gap_blanks (blanks : List Char) (allBlank : blanks.all isBlank = true) :
    IsGap blanks :=
  ⟨[], blanks_no_comments blanks allBlank⟩

theorem gap_line_comment (text : List Char) (within : ∀ c ∈ text, isLineEnd c = false) :
    IsGap ('/' :: '/' :: (text ++ ['\n'])) :=
  ⟨_, .line within rfl .nil⟩

theorem gap_doc (text : List Char) (free : '*' ∉ text) :
    IsGap ('/' :: '*' :: '*' :: ' ' :: (text ++ ['*', '/'])) := by
  have within : ∀ before after, '*' :: ' ' :: text ≠ before ++ '*' :: '/' :: after := by
    intro before after same
    match before with
    | [] => simp at same
    | [_] => simp at same
    | _ :: _ :: others =>
        have inner : text = others ++ '*' :: '/' :: after := by simp_all
        exact free (by simp [inner])
  exact ⟨_, by simpa using GapOf.block within .nil⟩

end ApiContract.Script
