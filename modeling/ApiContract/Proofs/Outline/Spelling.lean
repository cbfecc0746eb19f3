import ApiContract.Proofs.Outline.Lexemes
import Mathlib.Data.List.DropRight

/-!
The canonical spelling of a type tells its lexemes: they are read back from it, so two texts are
spelled alike when they differ in formatting only, and a canonical spelling is its own.
-/

set_option autoImplicit false

namespace ApiContract.Outline

theorem lexemes_blank (word gap : Bool) (c : Char) (rest : List Char)
    (blank : Text.isBlank c = true) : lexemesFrom word gap (c :: rest) = lexemesFrom word true rest := by
  rw [lexemesFrom, if_pos blank]

theorem lexemes_gap_free (gap : Bool) (cs : List Char) :
    lexemesFrom false gap cs = lexemesFrom false false cs := by
  cases cs with
  | nil => simp
  | cons c rest => simp [lexemesFrom]

theorem lexemes_trim_left (cs : List Char) :
    lexemesFrom false false (Text.trimLeft cs) = lexemesFrom false false cs := by
  induction cs with
  | nil => rfl
  | cons c rest ih =>
      cases blank : Text.isBlank c with
      | true =>
          rw [lexemes_blank false false c rest blank, lexemes_gap_free true rest, ← ih, Text.trimLeft,
            List.dropWhile_cons, if_pos blank, Text.trimLeft]
      | false => simp [Text.trimLeft, blank]

def Leadless (ls : List Lexeme) : Prop :=
  ls.dropWhile Lexeme.leads = ls

theorem leadless_cons (l : Lexeme) (rest : List Lexeme) :
    Leadless (l :: rest) ↔ l.leads = false := by
  cases leads : l.leads with
  | false => simp [Leadless, leads]
  | true =>
      simp only [Leadless, List.dropWhile_cons, leads, if_true, Bool.true_eq_false, iff_false]
      intro same
      have shorter := (List.dropWhile_suffix Lexeme.leads (l := rest)).length_le
      rw [same, List.length_cons] at shorter
      omega

theorem leadless_append (ls more : List Lexeme) (leadless : Leadless ls)
    (first : ls = [] → Leadless more) : Leadless (ls ++ more) := by
  cases ls with
  | nil => exact first rfl
  | cons l rest =>
      rw [List.cons_append, leadless_cons]
      exact (leadless_cons l rest).mp leadless

def spaceIf (between : Bool) : List Char :=
  if between then [' '] else []

-- What has been written, apart from a space at its end, is read as the lexemes so far.
structure Kept (written : List Char) (ls : List Lexeme) : Prop where
  reads : ∀ rest, lexemesFrom false false ((Text.trimLeft written).reverse ++ rest) =
    ls ++ lexemesFrom (startsWith isWordChar written) false rest
  spaced : ∃ space, written = spaceIf space ++ Text.trimLeft written
  leadless : Leadless ls
  empty : ls = [] → written = []

theorem kept_nothing : Kept [] [] :=
  ⟨fun _ => rfl, ⟨false, rfl⟩, rfl, fun _ => rfl⟩

theorem kept_empty (written : List Char) (ls : List Lexeme) (kept : Kept written ls)
    (none_ : Text.trimLeft written = []) : ls = [] := by
  have reads := kept.reads []
  rw [none_] at reads
  simpa using reads.symm

-- A text that is read as one lexeme, wherever it stands.
structure ReadsAs (text : List Char) (l : Lexeme) : Prop where
  reads : ∀ word gap rest, lexemesFrom word gap (text ++ rest) =
    blankIf (word && gap && startsWith isWordChar text) ++
      l :: lexemesFrom (startsWith isWordChar text.reverse) false rest
  solid : Solid text.reverse

theorem char_reads (c : Char) (solid : Text.isBlank c = false) (unquoted : isQuote c = false) :
    ReadsAs [c] (.char c) := by
  refine ⟨fun word gap rest => ?_, (solid_cons_iff c []).mpr solid⟩
  simp [lexemesFrom, solid, unquoted, startsWith]

theorem literal_reads (quote : Char) (isQuoted : isQuote quote = true) (text : List Char)
    (closed : Closed quote text) : ReadsAs (quote :: text) (.literal (quote :: text)) := by
  have word : startsWith isWordChar (quote :: text).reverse = true := by
    simpa using closed_word quote isQuoted text [quote] closed
  refine ⟨fun word_ gap rest => ?_, ?_⟩
  · rw [word]
    simp [lexemesFrom, quote_not_blank quote isQuoted, isQuoted, closed.cut, startsWith]
  · obtain ⟨inner, rfl⟩ := closed.ends
    rw [List.reverse_cons, List.reverse_append]
    exact (solid_cons_iff quote _).mpr (quote_not_blank quote isQuoted)

theorem space_turned (between : Bool) : (spaceIf between).reverse = spaceIf between := by
  cases between <;> rfl

theorem lexemes_space (word gap : Bool) (rest : List Char) :
    lexemesFrom word false (spaceIf gap ++ rest) = lexemesFrom word gap rest := by
  cases gap with
  | false => rfl
  | true => exact lexemes_blank word false ' ' rest (by decide)

theorem starts_cons (test : Char → Bool) (c : Char) (rest : List Char) :
    startsWith test (c :: rest) = test c :=
  rfl

theorem solid_nonempty (cs : List Char) (solid : Solid cs) : cs ≠ [] := by
  rintro rfl
  cases solid

theorem starts_front (test : Char → Bool) (first others : List Char) (nonempty : first ≠ []) :
    startsWith test (first ++ others) = startsWith test first := by
  cases first with
  | nil => exact absurd rfl nonempty
  | cons c rest => rfl

-- A text that is written behind what there is, with or without a space in front of it and another
-- one behind it.
theorem kept_behind (written : List Char) (ls : List Lexeme) (kept : Kept written ls)
    (text : List Char) (l : Lexeme) (reads : ReadsAs text l) (gap space : Bool)
    (behind : space = true → startsWith isWordChar text.reverse = false)
    (leads : ls = [] → l.leads = false) :
    Kept (spaceIf space ++ text.reverse ++ (spaceIf gap ++ Text.trimLeft written))
      (ls ++ (blankIf (startsWith isWordChar written && gap && startsWith isWordChar text) ++ [l])) := by
  have word : startsWith isWordChar (spaceIf space ++ text.reverse ++
      (spaceIf gap ++ Text.trimLeft written)) = startsWith isWordChar text.reverse := by
    rw [List.append_assoc]
    cases space with
    | false => exact starts_front isWordChar _ _ (solid_nonempty _ reads.solid)
    | true => exact (behind rfl).symm
  have whole : Text.trimLeft (spaceIf space ++ text.reverse ++
      (spaceIf gap ++ Text.trimLeft written)) =
      text.reverse ++ (spaceIf gap ++ Text.trimLeft written) := by
    have solid := solid_append _ (spaceIf gap ++ Text.trimLeft written) reads.solid
    cases space with
    | false => exact trim_left_solid _ solid
    | true => exact trim_left_solid _ solid
  refine ⟨fun rest => ?_, ⟨space, by rw [whole, List.append_assoc]⟩, ?_, by simp⟩
  · rw [whole, word, List.reverse_append, List.reverse_append, List.reverse_reverse, space_turned,
      List.append_assoc, List.append_assoc, kept.reads, lexemes_space, reads.reads]
    simp
  · refine leadless_append ls _ kept.leadless fun first => ?_
    rw [kept.empty first]
    exact (leadless_cons l []).mpr (leads first)

theorem put_blank (between : Bool) (written : List Char) :
    (blankIf between).foldl put written = spaceIf between ++ written := by
  cases between <;> rfl

-- A space that is written in front of a word is one more that counts.
theorem space_counts (written : List Char) (ls : List Lexeme) (kept : Kept written ls)
    (gap word : Bool) :
    ∃ space, spaceIf (startsWith isWordChar written && gap && word) ++ written =
        spaceIf space ++ Text.trimLeft written ∧
      (startsWith isWordChar written && space && word) =
        (startsWith isWordChar written && gap && word) := by
  obtain ⟨space, spaced⟩ := kept.spaced
  cases space with
  | false =>
      refine ⟨startsWith isWordChar written && gap && word, congrArg _ spaced, ?_⟩
      cases startsWith isWordChar written <;> cases gap <;> cases word <;> rfl
  | true =>
      have none_ : startsWith isWordChar written = false := by rw [spaced]; rfl
      refine ⟨true, ?_, by simp [none_]⟩
      rw [none_]
      exact spaced

theorem kept_leadless (written : List Char) (ls : List Lexeme) (kept : Kept written ls) :
    Kept written (ls.dropWhile Lexeme.leads) := by
  rw [kept.leadless]
  exact kept

theorem kept_adds (written : List Char) (ls : List Lexeme) (kept : Kept written ls) (gap : Bool)
    (c : Char) (after : List Char) (solid : Text.isBlank c = false) (unquoted : isQuote c = false)
    (adds : Adds written gap c after) :
    Kept after ((ls ++ (blankIf (startsWith isWordChar written && gap && isWordChar c) ++
      [Lexeme.char c])).dropWhile Lexeme.leads) := by
  have behind := kept_behind written ls kept [c] (.char c) (char_reads c solid unquoted)
  simp only [starts_cons, List.reverse_singleton] at behind
  cases adds with
  | leading sign first =>
      rw [kept_empty written ls kept first, sign_not_word c sign]
      simpa [blankIf, Lexeme.leads, sign] using kept_nothing
  | sign sign later =>
      have word := sign_not_word c sign
      have added := behind true true (fun _ => word) fun none_ =>
        absurd (by rw [kept.empty none_]; rfl) later
      rw [word, Bool.and_false] at added ⊢
      exact kept_leadless _ _ added
  | separator sign word =>
      have added := behind false true (fun _ => word) fun _ => sign
      rw [word, Bool.and_false] at added ⊢
      exact kept_leadless _ _ added
  | closer sign word =>
      have added := behind false false (fun none_ => by cases none_) fun _ => sign
      rw [word, Bool.and_false] at added ⊢
      exact kept_leadless _ _ added
  | next sign =>
      obtain ⟨space, same, counts⟩ := space_counts written ls kept gap (isWordChar c)
      have added := behind space false (fun none_ => by cases none_) fun _ => sign
      rw [counts] at added
      rw [put_blank, same]
      exact kept_leadless _ _ added

theorem kept_literal (written : List Char) (ls : List Lexeme) (kept : Kept written ls) (gap : Bool)
    (quote : Char) (isQuoted : isQuote quote = true) (text : List Char)
    (closed : Closed quote text) :
    Kept (text.reverse ++
        quote :: (blankIf (startsWith isWordChar written && gap && isWordChar quote)).foldl put written)
      (ls ++ (blankIf (startsWith isWordChar written && gap && isWordChar quote) ++
        [Lexeme.literal (quote :: text)])) := by
  obtain ⟨space, same, counts⟩ := space_counts written ls kept gap (isWordChar quote)
  have added := kept_behind written ls kept (quote :: text) (.literal (quote :: text))
    (literal_reads quote isQuoted text closed) space false (fun none_ => by cases none_)
    fun _ => rfl
  rw [starts_cons, counts, List.reverse_cons] at added
  rw [put_blank, same]
  simpa [spaceIf] using added

theorem solid_back (first others : List Char) (solid : Solid (first ++ others).reverse)
    (more : others ≠ []) : Solid others.reverse := by
  rw [List.reverse_append] at solid
  rwa [Solid, starts_front _ _ _ (by simpa using more)] at solid

-- A literal that is never closed takes the rest of the text.
theorem open_literal_reads (written : List Char) (ls : List Lexeme) (kept : Kept written ls)
    (gap : Bool) (quote : Char) (isQuoted : isQuote quote = true) (rest : List Char)
    (unclosed : cutLiteral quote rest = (rest, [])) (solid : Solid (quote :: rest).reverse) :
    lexemesFrom false false (Text.trimLeft (rest.reverse ++ quote ::
        (blankIf (startsWith isWordChar written && gap && isWordChar quote)).foldl put written)).reverse =
      (ls ++ (blankIf (startsWith isWordChar written && gap && isWordChar quote) ++
        [Lexeme.literal (quote :: rest)])).dropWhile Lexeme.leads := by
  obtain ⟨space, same, counts⟩ := space_counts written ls kept gap (isWordChar quote)
  have leadless := leadless_append ls (blankIf (startsWith isWordChar written && gap &&
    isWordChar quote) ++ [Lexeme.literal (quote :: rest)]) kept.leadless fun first => by
      rw [kept.empty first]
      rfl
  have whole : rest.reverse ++ quote :: (spaceIf space ++ Text.trimLeft written) =
      (quote :: rest).reverse ++ (spaceIf space ++ Text.trimLeft written) := by simp
  have read : lexemesFrom (startsWith isWordChar written) space (quote :: rest) =
      blankIf (startsWith isWordChar written && space && isWordChar quote) ++
        [Lexeme.literal (quote :: rest)] := by
    simp [lexemesFrom, quote_not_blank quote isQuoted, isQuoted, unclosed]
  rw [put_blank, same, whole, trim_left_solid _ (solid_append _ _ solid), leadless, List.reverse_append,
    List.reverse_append, List.reverse_reverse, space_turned, List.append_assoc, kept.reads,
    lexemes_space, read, counts]

theorem leads_dropped_once (ls more : List Lexeme) :
    (ls.dropWhile Lexeme.leads ++ more).dropWhile Lexeme.leads =
      (ls ++ more).dropWhile Lexeme.leads := by
  rw [List.dropWhile_append, List.dropWhile_append, List.dropWhile_idempotent]

theorem run_kept (word gap : Bool) (cs written : List Char) (ls : List Lexeme)
    (kept : Kept written ls) (behind : startsWith isWordChar written = word)
    (solid : cs ≠ [] → Solid cs.reverse) :
    lexemesFrom false false
        (Text.trimLeft (cs.foldl Scan.step ⟨written, .code gap⟩).written).reverse =
      (ls ++ lexemesFrom word gap cs).dropWhile Lexeme.leads := by
  fun_induction lexemesFrom word gap cs generalizing written ls with
  | case1 =>
      have reads := kept.reads []
      rw [List.append_nil] at reads
      rw [List.foldl_nil, reads, lexemes_nil, List.append_nil, kept.leadless]
  | case2 word gap c rest blank ih =>
      have same : Scan.step ⟨written, .code gap⟩ c = ⟨written, .code true⟩ := by
        simp [Scan.step, Scan.code, blank]
      rw [List.foldl_cons, same]
      exact ih written ls kept behind (solid_back [c] rest (solid (List.cons_ne_nil c rest)))
  | case3 word gap c rest unblank quote ih =>
      rw [List.foldl_cons, step_code, quote_opens written gap c quote, literal_scanned c quote,
        ← behind]
      rcases cut_literal_cases c quote rest with ⟨all, none_⟩ | closed
      · rw [all, none_, lexemes_nil, List.foldl_nil]
        exact open_literal_reads written ls kept gap c quote rest (Prod.ext all none_)
          (solid (List.cons_ne_nil c rest))
      · rw [ih _ _ (kept_literal written ls kept gap c quote _ closed)
          (closed_word c quote _ _ closed)]
        · simp
        · refine solid_back (c :: (cutLiteral c rest).1) _ ?_
          rw [List.cons_append, cut_literal_whole]
          exact solid (List.cons_ne_nil c rest)
  | case4 word gap c rest unblank unquoted ih =>
      obtain ⟨after, same, adds⟩ := code_adds written gap c (by simpa using unblank)
        (by simpa using unquoted)
      have added := kept_adds written ls kept gap c after (by simpa using unblank)
        (by simpa using unquoted) adds
      rw [List.foldl_cons, step_code, same, ih _ _ added (added_word written gap c after adds), behind,
        leads_dropped_once]
      · simp
      · exact solid_back [c] rest (solid (List.cons_ne_nil c rest))

theorem trim_left_starts (cs : List Char) (kept : Text.trimLeft cs ≠ []) :
    Solid (Text.trimLeft cs) := by
  induction cs with
  | nil => exact absurd rfl kept
  | cons c rest ih =>
      cases blank : Text.isBlank c with
      | true =>
          rw [Text.trimLeft, List.dropWhile_cons, if_pos blank] at kept ⊢
          exact ih kept
      | false => simpa [Text.trimLeft, blank] using (solid_cons_iff c rest).mpr blank

theorem trim_right_ends (cs : List Char) (kept : Text.trimRight cs ≠ []) :
    Solid (Text.trimRight cs).reverse := by
  induction cs with
  | nil => exact absurd rfl kept
  | cons c rest ih =>
      cases later : Text.trimRight rest with
      | nil =>
          cases blank : Text.isBlank c with
          | true => simp [Text.trimRight, later, blank] at kept
          | false => simpa [Text.trimRight, later, blank] using (solid_cons_iff c []).mpr blank
      | cons d others =>
          have solid := ih (later ▸ List.cons_ne_nil d others)
          rw [Text.trimRight, later, List.reverse_cons]
          exact solid_append _ _ (later ▸ solid)

theorem trim_of_solid_end (cs : List Char) (ends : cs ≠ [] → Solid cs.reverse) :
    Text.trim cs = Text.trimLeft cs := by
  rw [Text.trim]
  by_cases none_ : Text.trimLeft cs = []
  · rw [none_]
    rfl
  · refine trim_right_solid _ ?_
    have whole : cs.takeWhile Text.isBlank ++ Text.trimLeft cs = cs := List.takeWhile_append_dropWhile
    have nonempty : cs ≠ [] := by
      rintro rfl
      exact none_ rfl
    refine solid_back (cs.takeWhile Text.isBlank) _ ?_ none_
    rw [whole]
    exact ends nonempty

theorem lexemes_canonical (text : List Char) : lexemes (canonicalChars text) = lexemes text := by
  have ends : canonicalChars text ≠ [] → Solid (canonicalChars text).reverse := by
    intro nonempty
    rw [canonicalChars, List.reverse_reverse]
    exact trim_left_starts _ (by simpa [canonicalChars] using nonempty)
  rw [lexemes, trim_of_solid_end _ ends, lexemes_trim_left, canonicalChars,
    run_kept false false (Text.trim text) [] [] kept_nothing rfl (trim_right_ends _), List.nil_append,
    List.dropWhile_idempotent]
  rfl

theorem spelled_alike_iff_same_lexemes (first second : String) :
    canonicalType first = canonicalType second ↔ lexemes first.toList = lexemes second.toList := by
  rw [canonicalType, canonicalType, String.ofList_inj]
  constructor
  · intro same
    rw [← lexemes_canonical first.toList, same, lexemes_canonical]
  · intro same
    rw [canonical_spelled, canonical_spelled, same]

theorem canonical_spelling_is_its_own (text : String) :
    canonicalType (canonicalType text) = canonicalType text := by
  rw [canonicalType, canonicalType, String.toList_ofList, canonical_spelled, lexemes_canonical,
    ← canonical_spelled]

end ApiContract.Outline
