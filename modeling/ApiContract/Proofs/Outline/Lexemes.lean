import ApiContract.Proofs.Outline.CanonicalType

/-!
What of the text of a type is no formatting: its literals, its other characters, and the blanks that
keep two words apart. The canonical spelling is made of these alone.
-/

set_option autoImplicit false

namespace ApiContract.Outline

inductive Lexeme where
  | char (c : Char)
  -- A literal with its quotes; the closing one may be missing at the end of the text.
  | literal (text : List Char)
  | blank
deriving DecidableEq

-- Cuts off the rest of a literal, up to the next unescaped `quote` and with it.
def cutLiteral (quote : Char) : List Char → List Char × List Char
  | [] => ([], [])
  | '\\' :: c :: rest => ('\\' :: c :: (cutLiteral quote rest).1, (cutLiteral quote rest).2)
  | c :: rest =>
      if c == quote then ([c], rest)
      else (c :: (cutLiteral quote rest).1, (cutLiteral quote rest).2)

theorem cut_literal_length (quote : Char) (cs : List Char) :
    (cutLiteral quote cs).2.length ≤ cs.length := by
  fun_induction cutLiteral quote cs with
  | case1 => exact Nat.le_refl _
  | case2 c rest ih => simp only [List.length_cons]; omega
  | case3 c rest _ _ => simp
  | case4 c rest _ _ ih => simp only [List.length_cons]; omega

def blankIf (between : Bool) : List Lexeme :=
  if between then [.blank] else []

-- The lexemes of a text behind others, the last of which ends with a character of a word or not;
-- `gap` tells whether blanks have been passed over since.
def lexemesFrom (word gap : Bool) : List Char → List Lexeme
  | [] => []
  | c :: rest =>
      if Text.isBlank c then lexemesFrom word true rest
      else if isQuote c then
        blankIf (word && gap && isWordChar c) ++
          .literal (c :: (cutLiteral c rest).1) :: lexemesFrom true false (cutLiteral c rest).2
      else
        blankIf (word && gap && isWordChar c) ++ .char c :: lexemesFrom (isWordChar c) false rest
termination_by cs => cs.length
decreasing_by
  · simp
  · exact Nat.lt_succ_of_le (cut_literal_length c rest)
  · simp

@[simp]
theorem lexemes_nil (word gap : Bool) : lexemesFrom word gap [] = [] := by
  rw [lexemesFrom]

def isSign (c : Char) : Bool :=
  c == '|' || c == '&'

def Lexeme.leads : Lexeme → Bool
  | .char c => isSign c
  | _ => false

def lexemes (text : List Char) : List Lexeme :=
  (lexemesFrom false false (Text.trim text)).dropWhile Lexeme.leads

-- What is written behind `written`, of which the last character comes first.
def put (written : List Char) : Lexeme → List Char
  | .char c => (Scan.code written false c).written
  | .literal text => text.reverse ++ written
  | .blank => ' ' :: written

def spell (ls : List Lexeme) : List Char :=
  (Text.trimLeft (ls.foldl put [])).reverse

theorem quote_is_word (c : Char) (quote : isQuote c = true) : isWordChar c = true := by
  simp only [isQuote, Bool.or_eq_true, beq_iff_eq] at quote
  rcases quote with (rfl | rfl) | rfl <;> decide

theorem quote_not_blank (c : Char) (quote : isQuote c = true) : Text.isBlank c = false := by
  simp only [isQuote, Bool.or_eq_true, beq_iff_eq] at quote
  rcases quote with (rfl | rfl) | rfl <;> decide

theorem sign_not_word (c : Char) (sign : isSign c = true) : isWordChar c = false := by
  simp only [isSign, Bool.or_eq_true, beq_iff_eq] at sign
  rcases sign with rfl | rfl <;> decide

theorem quote_not_escape (c : Char) (quote : isQuote c = true) : c ≠ '\\' := by
  rintro rfl
  cases quote

theorem literal_scanned (quote : Char) (isQuoted : isQuote quote = true) (cs written : List Char) :
    (cs.foldl Scan.step ⟨written, .literal quote false⟩).written =
      ((cutLiteral quote cs).2.foldl Scan.step
        ⟨(cutLiteral quote cs).1.reverse ++ written, .code false⟩).written := by
  fun_induction cutLiteral quote cs generalizing written with
  | case1 => rfl
  | case2 c rest ih => simp [Scan.step, ih]
  | case3 c rest single closes =>
      rw [beq_iff_eq] at closes
      subst closes
      simp [Scan.step, quote_not_escape c isQuoted]
  | case4 c rest single opens ih =>
      by_cases escape : c = '\\'
      · subst escape
        cases rest with
        | nil => rfl
        | cons d others => exact absurd rfl (single d others rfl)
      · simp [Scan.step, escape, opens, ih]

-- What one character of code adds to what has been written.
inductive Adds (written : List Char) (gap : Bool) (c : Char) : List Char → Prop where
  | leading (sign : isSign c = true) (first : Text.trimLeft written = []) : Adds written gap c []
  | sign (sign : isSign c = true) (later : Text.trimLeft written ≠ []) :
      Adds written gap c (' ' :: c :: ' ' :: Text.trimLeft written)
  | separator (sign : isSign c = false) (word : isWordChar c = false) :
      Adds written gap c (' ' :: c :: Text.trimLeft written)
  | closer (sign : isSign c = false) (word : isWordChar c = false) :
      Adds written gap c (c :: Text.trimLeft written)
  | next (sign : isSign c = false) :
      Adds written gap c
        (c :: (blankIf (startsWith isWordChar written && gap && isWordChar c)).foldl put written)

theorem code_adds (written : List Char) (gap : Bool) (c : Char) (solid : Text.isBlank c = false)
    (unquoted : isQuote c = false) :
    ∃ after, Scan.code written gap c = ⟨after, .code false⟩ ∧ Adds written gap c after := by
  simp only [Scan.code, solid, unquoted, Bool.false_eq_true, if_false]
  split
  · rename_i sign
    cases kept : Text.trimLeft written with
    | nil => exact ⟨_, rfl, .leading sign kept⟩
    | cons d rest =>
        exact ⟨_, rfl, kept ▸ .sign sign (kept ▸ List.cons_ne_nil d rest)⟩
  · rename_i sign
    have noSign : isSign c = false := by simpa [isSign] using sign
    split
    · rename_i separator
      refine ⟨_, rfl, .separator noSign ?_⟩
      simp only [Bool.or_eq_true, beq_iff_eq] at separator
      rcases separator with (rfl | rfl) | rfl <;> decide
    · split
      · rename_i closer
        simp only [Bool.and_eq_true, Bool.not_eq_true'] at closer
        exact ⟨_, rfl, .closer noSign closer.1.1.1.2⟩
      · refine ⟨_, ?_, .next noSign⟩
        rw [Bool.and_comm (startsWith isWordChar written) gap]
        cases gap && startsWith isWordChar written && isWordChar c <;> rfl

theorem word_plain (c : Char) (word : isWordChar c = true) : c ∉ ['|', '&', ',', ':', ';'] := by
  intro mark
  simp only [List.mem_cons, List.not_mem_nil, or_false] at mark
  rcases mark with rfl | rfl | rfl | rfl | rfl <;> exact absurd word (by decide)

-- A blank that counts is written in front of its word; no other gap is seen in what is written.
theorem code_put (written : List Char) (gap : Bool) (c : Char) (solid : Text.isBlank c = false)
    (unquoted : isQuote c = false) :
    Scan.code written gap c =
      ⟨(blankIf (startsWith isWordChar written && gap && isWordChar c) ++ [Lexeme.char c]).foldl put
        written, .code false⟩ := by
  cases counts : startsWith isWordChar written && gap && isWordChar c with
  | true =>
      simp only [Bool.and_eq_true] at counts
      obtain ⟨⟨behind, rfl⟩, word⟩ := counts
      have plain := word_plain c word
      have next : Scan.code (' ' :: written) false c = ⟨c :: ' ' :: written, .code false⟩ :=
        code_kept (' ' :: written) false c solid unquoted plain (fun _ => .inl word)
          fun none_ => by cases none_
      simp only [List.mem_cons, List.not_mem_nil, or_false, not_or] at plain
      simp only [blankIf, if_true, List.foldl_append, List.foldl_cons, List.foldl_nil, put, next]
      simp [Scan.code, solid, unquoted, plain, behind, word]
  | false =>
      have same : Scan.code written gap c = Scan.code written false c := by
        rw [Bool.and_comm (startsWith isWordChar written) gap] at counts
        simp only [Scan.code, solid, unquoted, counts, Bool.false_and, Bool.false_eq_true, if_false]
      obtain ⟨after, added, -⟩ := code_adds written false c solid unquoted
      simp [blankIf, put, same, added]

theorem added_word (written : List Char) (gap : Bool) (c : Char) (after : List Char)
    (adds : Adds written gap c after) : startsWith isWordChar after = isWordChar c := by
  cases adds with
  | leading sign first => exact (sign_not_word c sign).symm
  | sign sign later => exact (sign_not_word c sign).symm
  | separator sign word => exact word.symm
  | closer sign word => rfl
  | next sign => rfl

theorem step_code (written : List Char) (gap : Bool) (c : Char) :
    Scan.step ⟨written, .code gap⟩ c = Scan.code written gap c :=
  rfl

theorem cut_literal_plain (quote c : Char) (rest : List Char) (plain : c ≠ '\\') :
    cutLiteral quote (c :: rest) =
      if c == quote then ([c], rest)
      else (c :: (cutLiteral quote rest).1, (cutLiteral quote rest).2) :=
  cutLiteral.eq_3 quote c rest fun _ _ same _ => plain same

-- A literal that is closed is cut off the same whatever follows it.
structure Closed (quote : Char) (text : List Char) : Prop where
  ends : ∃ inner, text = inner ++ [quote]
  cut : ∀ rest, cutLiteral quote (text ++ rest) = (text, rest)

theorem cut_literal_whole (quote : Char) (cs : List Char) :
    (cutLiteral quote cs).1 ++ (cutLiteral quote cs).2 = cs := by
  fun_induction cutLiteral quote cs with
  | case1 => rfl
  | case2 c rest ih => simp [ih]
  | case3 c rest _ _ => rfl
  | case4 c rest _ _ ih => simp [ih]

theorem cut_literal_cases (quote : Char) (isQuoted : isQuote quote = true) (cs : List Char) :
    ((cutLiteral quote cs).1 = cs ∧ (cutLiteral quote cs).2 = []) ∨
      Closed quote (cutLiteral quote cs).1 := by
  fun_induction cutLiteral quote cs with
  | case1 => exact .inl ⟨rfl, rfl⟩
  | case2 c rest ih =>
      rcases ih with ⟨all, none_⟩ | ⟨⟨inner, ends⟩, cut⟩
      · exact .inl ⟨by rw [all], none_⟩
      · exact .inr ⟨⟨'\\' :: c :: inner, by rw [ends]; rfl⟩, fun more => by simp [cutLiteral, cut]⟩
  | case3 c rest single closes =>
      rw [beq_iff_eq] at closes
      subst closes
      refine .inr ⟨⟨[], rfl⟩, fun more => ?_⟩
      rw [List.singleton_append, cut_literal_plain c c more (quote_not_escape c isQuoted)]
      simp
  | case4 c rest single opens ih =>
      rcases ih with ⟨all, none_⟩ | ⟨⟨inner, ends⟩, cut⟩
      · exact .inl ⟨by rw [all], none_⟩
      · refine .inr ⟨⟨c :: inner, by rw [ends]; rfl⟩, fun more => ?_⟩
        have plain : c ≠ '\\' := by
          rintro rfl
          cases rest with
          | nil => simp [cutLiteral] at ends
          | cons d others => exact single d others rfl rfl
        rw [List.cons_append, cut_literal_plain quote c _ plain, if_neg opens, cut]

theorem quote_opens (written : List Char) (gap : Bool) (c : Char) (quote : isQuote c = true) :
    Scan.code written gap c =
      ⟨c :: (blankIf (startsWith isWordChar written && gap && isWordChar c)).foldl put written,
        .literal c false⟩ := by
  simp only [Scan.code, quote_not_blank c quote, quote, quote_is_word c quote, Bool.and_true]
  rw [Bool.and_comm gap]
  cases startsWith isWordChar written && gap <;> rfl

theorem closed_word (quote : Char) (isQuoted : isQuote quote = true) (text written : List Char)
    (closed : Closed quote text) : startsWith isWordChar (text.reverse ++ written) = true := by
  obtain ⟨inner, rfl⟩ := closed.ends
  simpa [startsWith] using quote_is_word quote isQuoted

theorem scan_puts (word gap : Bool) (cs written : List Char)
    (behind : startsWith isWordChar written = word) :
    (cs.foldl Scan.step ⟨written, .code gap⟩).written =
      (lexemesFrom word gap cs).foldl put written := by
  fun_induction lexemesFrom word gap cs generalizing written with
  | case1 => rfl
  | case2 word gap c rest blank ih =>
      rw [List.foldl_cons, ← ih written behind]
      simp [Scan.step, Scan.code, blank]
  | case3 word gap c rest solid quote ih =>
      rw [List.foldl_cons, step_code, quote_opens written gap c quote, behind,
        literal_scanned c quote, List.foldl_append, List.foldl_cons, put, List.reverse_cons,
        List.append_assoc, List.singleton_append]
      rcases cut_literal_cases c quote rest with ⟨-, none_⟩ | closed
      · simp only [none_, lexemes_nil, List.foldl_nil]
      · exact ih _ (closed_word c quote _ _ closed)
  | case4 word gap c rest solid unquoted ih =>
      have added := code_put written gap c (by simpa using solid) (by simpa using unquoted)
      obtain ⟨after, same, adds⟩ := code_adds written gap c (by simpa using solid)
        (by simpa using unquoted)
      rw [List.foldl_cons, step_code, same, ih after (added_word written gap c after adds)]
      rw [same, behind, Scan.mk.injEq] at added
      rw [added.1, List.foldl_append, List.foldl_append]
      rfl

theorem put_leads (l : Lexeme) (leads : l.leads = true) : put [] l = [] := by
  cases l with
  | char c =>
      simp only [Lexeme.leads, isSign, Bool.or_eq_true, beq_iff_eq] at leads
      rcases leads with rfl | rfl <;> decide
  | literal text => cases leads
  | blank => cases leads

theorem put_leading (ls : List Lexeme) :
    (ls.dropWhile Lexeme.leads).foldl put [] = ls.foldl put [] := by
  induction ls with
  | nil => rfl
  | cons l rest ih =>
      cases leads : l.leads with
      | false => simp [leads]
      | true => rw [List.dropWhile_cons, if_pos leads, ih, List.foldl_cons, put_leads l leads]

-- The canonical spelling of a text is made of its lexemes alone.
theorem canonical_spelled (text : List Char) : canonicalChars text = spell (lexemes text) := by
  rw [spell, lexemes, put_leading, ← scan_puts false false (Text.trim text) [] rfl]
  rfl

end ApiContract.Outline
