import ApiContract.Schema.Path

/-!
The two readings of a path: the names of its placeholders, and its pieces. They find the same names
exactly when each opening brace that is closed encloses a name without further opening braces.
-/

set_option autoImplicit false

namespace ApiContract.Schema

def holeName? : Segment → Option String
  | .text _ => none
  | .hole name => some name

def holeNames (pieces : List Segment) : List String :=
  pieces.filterMap holeName?

def WellBraced (cs : List Char) : Prop :=
  ∀ before inner after, cs = before ++ '\x7b' :: (inner ++ '\x7d' :: after) → '\x7d' ∉ inner →
    inner ≠ [] ∧ '\x7b' ∉ inner

theorem well_braced_suffix (lead cs : List Char) (braced : WellBraced (lead ++ cs)) :
    WellBraced cs := by
  intro before inner after split unclosed
  exact braced (lead ++ before) inner after (by simp [split]) unclosed

theorem hole_names_cons (name : String) (others : List Segment) :
    holeNames (.hole name :: others) = name :: holeNames others := rfl

theorem hole_names_text (text : List Char) (others : List Segment) :
    holeNames (textSegment text ++ others) = holeNames others := by
  rw [textSegment]
  split <;> rfl

theorem hole_names_text_only (text : List Char) : holeNames (textSegment text) = [] := by
  simpa [holeNames] using hole_names_text text []

-- A hole that is open takes everything up to the next closing brace.
theorem segments_close (text hole inner after : List Char) (unclosed : '\x7d' ∉ inner) :
    segmentsFrom text (some hole) (inner ++ '\x7d' :: after) =
      textSegment text ++ .hole (String.ofList (hole.reverse ++ inner)) ::
        segmentsFrom [] none after := by
  induction inner generalizing hole with
  | nil => simp [segmentsFrom]
  | cons c rest ih =>
      have ⟨other, later⟩ : '\x7d' ≠ c ∧ '\x7d' ∉ rest := by simpa using unclosed
      simp [segmentsFrom, Ne.symm other, ih (c :: hole) later]

theorem hole_names_unclosed (cs : List Char) (unclosed : '\x7d' ∉ cs) (text : List Char)
    (state : Option (List Char)) : holeNames (segmentsFrom text state cs) = [] := by
  induction cs generalizing text state with
  | nil => cases state <;> exact hole_names_text_only _
  | cons c rest ih =>
      have ⟨other, later⟩ : '\x7d' ≠ c ∧ '\x7d' ∉ rest := by simpa using unclosed
      cases state with
      | none =>
          by_cases opens : c = '\x7b' <;> simp [segmentsFrom, opens, ih later]
      | some hole => simp [segmentsFrom, Ne.symm other, ih later]

theorem placeholders_unclosed (cs : List Char) (unclosed : '\x7d' ∉ cs)
    (run : Option (List Char)) : placeholdersFrom run cs = [] := by
  induction cs generalizing run with
  | nil => rfl
  | cons c rest ih =>
      have ⟨other, later⟩ : '\x7d' ≠ c ∧ '\x7d' ∉ rest := by simpa using unclosed
      by_cases opens : c = '\x7b' <;> simp [placeholdersFrom, opens, Ne.symm other, ih later]

def PlainName (name : String) : Prop :=
  name.toList ≠ [] ∧ '\x7b' ∉ name.toList

theorem placeholders_plain (cs : List Char) (run : Option (List Char))
    (plain : ∀ read, run = some read → '\x7b' ∉ read) :
    ∀ name ∈ placeholdersFrom run cs, PlainName name := by
  induction cs generalizing run with
  | nil => simp [placeholdersFrom]
  | cons c rest ih =>
      by_cases opens : c = '\x7b'
      · simpa [placeholdersFrom, opens] using ih (some []) (by simp)
      · by_cases closes : c = '\x7d'
        · have later := ih none (by simp)
          match run, plain with
          | none, _ => simpa [placeholdersFrom, closes] using later
          | some [], _ => simpa [placeholdersFrom, closes] using later
          | some (d :: read), plain =>
              have free := plain (d :: read) rfl
              rw [placeholdersFrom, if_neg opens, if_pos closes, List.forall_mem_cons, PlainName,
                String.toList_ofList, List.mem_reverse]
              exact ⟨⟨by simp, free⟩, later⟩
        · simp only [placeholdersFrom, opens, closes, if_false]
          apply ih
          intro read taken
          obtain ⟨before, same, rfl⟩ := Option.map_eq_some_iff.mp taken
          simpa [Ne.symm opens] using plain before same

-- Wherever a brace is opened, some hole ends at the next closing brace; it begins at that brace or
-- at an earlier one, and then the brace is part of its name.
theorem hole_at_close (before inner after : List Char) (unclosed : '\x7d' ∉ inner)
    (text : List Char) (state : Option (List Char)) :
    ∃ name ∈ holeNames (segmentsFrom text state (before ++ '\x7b' :: (inner ++ '\x7d' :: after))),
      name.toList = inner ∨ '\x7b' ∈ name.toList := by
  induction before generalizing text state with
  | nil =>
      cases state with
      | none =>
          refine ⟨String.ofList inner, ?_, .inl (by simp)⟩
          simp [segmentsFrom, segments_close text [] inner after unclosed, hole_names_text,
            hole_names_cons]
      | some hole =>
          refine ⟨String.ofList (hole.reverse ++ '\x7b' :: inner), ?_, .inr (by simp)⟩
          simp [segmentsFrom, segments_close text ('\x7b' :: hole) inner after unclosed,
            hole_names_text, hole_names_cons]
  | cons c rest ih =>
      cases state with
      | none =>
          by_cases opens : c = '\x7b'
          · simpa [segmentsFrom, opens] using ih text (some [])
          · simpa [segmentsFrom, opens] using ih (c :: text) none
      | some hole =>
          by_cases closes : c = '\x7d'
          · obtain ⟨name, member, found⟩ := ih [] none
            refine ⟨name, ?_, found⟩
            rw [List.cons_append, segmentsFrom, if_pos closes, hole_names_text]
            exact List.mem_cons_of_mem _ member
          · simpa [segmentsFrom, closes] using ih text (some (c :: hole))

-- Both readings go through the same states as long as no brace is opened within a hole; where one
-- is, none can be closed any more.
theorem readings_agree (cs : List Char) :
    (∀ text, WellBraced cs → holeNames (segmentsFrom text none cs) = placeholdersFrom none cs) ∧
    (∀ text run, '\x7b' ∉ run → '\x7d' ∉ run → WellBraced ('\x7b' :: (run.reverse ++ cs)) →
      holeNames (segmentsFrom text (some run) cs) = placeholdersFrom (some run) cs) := by
  induction cs with
  | nil => exact ⟨fun text _ => hole_names_text_only text, fun _ _ _ _ _ => hole_names_text_only _⟩
  | cons c rest ih =>
      obtain ⟨outside, inside⟩ := ih
      constructor
      · intro text braced
        have later : WellBraced rest := well_braced_suffix [c] rest braced
        by_cases opens : c = '\x7b'
        · subst opens
          simpa [segmentsFrom, placeholdersFrom] using inside text [] (by simp) (by simp) braced
        · by_cases closes : c = '\x7d' <;>
            simp [segmentsFrom, placeholdersFrom, opens, closes, outside _ later]
      · intro text run noOpen noClose braced
        by_cases opens : c = '\x7b'
        · subst opens
          have unclosed : '\x7d' ∉ rest := by
            intro closed
            obtain ⟨inner, after, split, free⟩ := List.eq_append_cons_of_mem closed
            have nested := (braced [] (run.reverse ++ '\x7b' :: inner) after
              (by simp [split]) (by simp [noClose, free])).2
            simp at nested
          rw [hole_names_unclosed _ (by simpa using unclosed),
            placeholders_unclosed _ (by simpa using unclosed)]
        · by_cases closes : c = '\x7d'
          · subst closes
            have nonempty := (braced [] run.reverse rest (by simp) (by simpa using noClose)).1
            have later : WellBraced rest :=
              well_braced_suffix ('\x7b' :: (run.reverse ++ ['\x7d'])) rest (by simpa using braced)
            match run, nonempty with
            | [], nonempty => simp at nonempty
            | d :: read, _ =>
                rw [segmentsFrom, if_pos rfl, hole_names_text]
                simp [placeholdersFrom, ← outside [] later, hole_names_cons]
          · have pushed := inside text (c :: run) (by simp [Ne.symm opens, noOpen])
              (by simp [Ne.symm closes, noClose]) (by simpa using braced)
            simpa [segmentsFrom, placeholdersFrom, opens, closes] using pushed

theorem well_braced_of_plain_holes (base : Option String) (path : String)
    (plain : ∀ name ∈ holeNames (segments base path), PlainName name) :
    WellBraced path.toList := by
  intro before inner after split unclosed
  obtain ⟨name, member, found⟩ :=
    hole_at_close before inner after unclosed (trimBase (base.getD "")).reverse none
  rw [← split] at member
  have ⟨nonempty, unopened⟩ := plain name member
  rcases found with exact | nested
  · exact exact ▸ ⟨nonempty, unopened⟩
  · exact absurd nested unopened

theorem placeholders_are_plain (path : String) : ∀ name ∈ placeholders path, PlainName name :=
  placeholders_plain path.toList none (by simp)

theorem hole_names_eq_placeholders_iff (base : Option String) (path : String) :
    holeNames (segments base path) = placeholders path ↔ WellBraced path.toList := by
  constructor
  · intro same
    apply well_braced_of_plain_holes base path
    rw [same]
    exact placeholders_are_plain path
  · exact (readings_agree path.toList).1 _

end ApiContract.Schema
