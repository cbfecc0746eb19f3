import ApiContract.Name
import ApiContract.Proofs.Identifier
import ApiContract.Proofs.Schema.Path
import ApiContract.Text.Alphanumeric
import Mathlib.Data.List.TakeWhile

/-!
Paths of letters, digits and a few signs, with placeholders that are identifiers, and the pieces
that paths are cut into: put end to end, the pieces of any path spell its base and the path.
-/

set_option autoImplicit false

namespace ApiContract.Schema

def isPathChar (c : Char) : Bool :=
  Text.isAlphanumeric c || ['/', '-', '_', '.'].contains c

inductive PlainPath : List Char → Prop where
  | nil : PlainPath []
  | char (c : Char) (rest : List Char) :
      isPathChar c = true → PlainPath rest → PlainPath (c :: rest)
  | placeholder (name : String) (rest : List Char) :
      Name.isIdentifier name = true → PlainPath rest →
        PlainPath ('\x7b' :: (name.toList ++ '\x7d' :: rest))

theorem plain_path_chars (cs rest : List Char) (plain : cs.all isPathChar = true)
    (later : PlainPath rest) : PlainPath (cs ++ rest) := by
  induction cs with
  | nil => exact later
  | cons c others ih =>
      obtain ⟨own, more⟩ := Bool.and_eq_true_iff.mp plain
      exact .char c _ own (ih more)

theorem path_char_ne (c other : Char) (plain : isPathChar c = true)
    (foreign : isPathChar other = false) : c ≠ other := by
  rintro rfl
  exact Bool.false_ne_true (foreign.symm.trans plain)

theorem part_ne (name : String) (named : Name.isIdentifier name = true) (other : Char)
    (foreign : Name.isPart other = false) : other ∉ name.toList := by
  obtain ⟨c, rest, -, -, parts⟩ := Name.identifier_parts name named
  exact fun member => Bool.false_ne_true (foreign.symm.trans (parts other member))

-- A plain path has no character but these.
theorem plain_path_free (cs : List Char) (plain : PlainPath cs) (other : Char)
    (noPathChar : isPathChar other = false) (noPart : Name.isPart other = false)
    (noBrace : other ≠ '\x7b' ∧ other ≠ '\x7d') : other ∉ cs := by
  induction plain with
  | nil => simp
  | char c rest own _ ih =>
      simp [(path_char_ne c other own noPathChar).symm, ih]
  | placeholder name rest named _ ih =>
      simp [noBrace, part_ne name named other noPart, ih]

-- Two pieces of text never meet, and none is empty.
def Alternating : List Segment → Prop
  | [] => True
  | .hole _ :: rest => Alternating rest
  | [.text text] => text.toList ≠ []
  | .text text :: .hole _ :: rest => text.toList ≠ [] ∧ Alternating rest
  | .text _ :: .text _ :: _ => False

theorem text_segment_alternating (text : List Char) : Alternating (textSegment text) := by
  rw [textSegment]
  split
  · trivial
  · rename_i nonempty
    simpa [Alternating] using nonempty

theorem text_hole_alternating (text : List Char) (name : String) (rest : List Segment)
    (later : Alternating rest) : Alternating (textSegment text ++ .hole name :: rest) := by
  rw [textSegment]
  split
  · exact later
  · rename_i nonempty
    exact ⟨by simpa using nonempty, later⟩

theorem segments_alternating (cs : List Char) (text : List Char) (state : Option (List Char)) :
    Alternating (segmentsFrom text state cs) := by
  induction cs generalizing text state with
  | nil => cases state <;> exact text_segment_alternating _
  | cons c rest ih =>
      cases state with
      | none =>
          rw [segmentsFrom]
          split
          · exact ih text (some [])
          · exact ih (c :: text) none
      | some hole =>
          rw [segmentsFrom]
          split
          · exact text_hole_alternating text _ _ (ih [] none)
          · exact ih text (some (c :: hole))

-- How the pieces of a plain path are found: its placeholders are its holes.
theorem segments_placeholder (text : List Char) (name : String) (rest : List Char)
    (named : Name.isIdentifier name = true) :
    segmentsFrom text none ('\x7b' :: (name.toList ++ '\x7d' :: rest)) =
      textSegment text ++ .hole name :: segmentsFrom [] none rest := by
  rw [segmentsFrom, if_pos rfl,
    segments_close text [] _ _ (part_ne name named '\x7d' (by decide))]
  simp

theorem segments_char (text : List Char) (c : Char) (rest : List Char)
    (plain : isPathChar c = true) :
    segmentsFrom text none (c :: rest) = segmentsFrom (c :: text) none rest := by
  rw [segmentsFrom, if_neg (path_char_ne c '\x7b' plain (by decide))]

def Segment.chars : Segment → List Char
  | .text value => value.toList
  | .hole name => '\x7b' :: (name.toList ++ ['\x7d'])

-- What was read since an opening brace, with the brace.
def opened : Option (List Char) → List Char
  | none => []
  | some hole => '\x7b' :: hole.reverse

theorem text_segment_chars (backwards : List Char) :
    (textSegment backwards).flatMap Segment.chars = backwards.reverse := by
  cases backwards with
  | nil => rfl
  | cons c rest => simp [textSegment, Segment.chars]

-- By induction on what is left of the path: the text before it, an open brace with what was read
-- behind it, and the rest are spelled in this order.
theorem segments_chars (cs text : List Char) (state : Option (List Char)) :
    (segmentsFrom text state cs).flatMap Segment.chars = text.reverse ++ (opened state ++ cs) := by
  induction cs generalizing text state with
  | nil =>
      cases state with
      | none => simpa [segmentsFrom, opened] using text_segment_chars text
      | some hole =>
          rw [segmentsFrom, text_segment_chars]
          simp [opened]
  | cons c rest ih =>
      cases state with
      | none =>
          by_cases opens : c = '\x7b'
          · rw [segmentsFrom, if_pos opens, ih]
            simp [opened, opens]
          · rw [segmentsFrom, if_neg opens, ih]
            simp [opened]
      | some hole =>
          by_cases closes : c = '\x7d'
          · rw [segmentsFrom, if_pos closes, List.flatMap_append, text_segment_chars,
              List.flatMap_cons, ih]
            simp [opened, Segment.chars, closes]
          · rw [segmentsFrom, if_neg closes, ih]
            simp [opened]

-- A base is cut in front of the slashes that it ends with, all of them.
theorem trim_base_splits (base : String) :
    ∃ slashes, base.toList = trimBase base ++ slashes ∧ (∀ c ∈ slashes, c = '/') ∧
      (trimBase base).getLast? ≠ some '/' := by
  refine ⟨(base.toList.reverse.takeWhile (· == '/')).reverse, ?_, ?_, ?_⟩
  · rw [trimBase, ← List.reverse_append, List.takeWhile_append_dropWhile, List.reverse_reverse]
  · intro c member
    exact beq_iff_eq.mp (List.mem_takeWhile_imp (p := (· == '/')) (List.mem_reverse.mp member))
  · rw [trimBase, List.getLast?_reverse]
    intro slash
    have kept := List.head?_dropWhile_not (· == '/') base.toList.reverse
    rw [slash] at kept
    exact absurd kept (by decide)

theorem alternating_suffix (before pieces : List Segment)
    (alternating : Alternating (before ++ pieces)) : Alternating pieces := by
  induction before with
  | nil => exact alternating
  | cons piece rest ih =>
      apply ih
      cases piece with
      | hole name => exact alternating
      | text value =>
          rw [List.cons_append] at alternating
          match rest ++ pieces, alternating with
          | [], _ => trivial
          | .hole _ :: _, alternating => exact alternating.2

theorem alternating_text (value : String) (behind : List Segment)
    (alternating : Alternating (.text value :: behind)) :
    value ≠ "" ∧ ∀ other rest, behind ≠ .text other :: rest := by
  match behind, alternating with
  | [], nonempty => exact ⟨by simpa [Alternating] using nonempty, by simp⟩
  | .hole _ :: _, alternating => exact ⟨by simpa using alternating.1, by simp⟩

end ApiContract.Schema
