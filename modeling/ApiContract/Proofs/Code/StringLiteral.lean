import ApiContract.Proofs.Code.Template

/-!
How ECMAScript reads a string literal in double quotes: a backslash begins an escape, an end of line
in front of the closing quote is an error. A text in quotes is read back as the text, and its quotes
are taken by backslashes but for the two around it.
-/

set_option autoImplicit false

namespace ApiContract.Grammar

open Code

-- A string from behind its opening quote.
def readString : List Char → Option (List Char)
  | [] => none
  | c :: rest =>
      if c = '"' then if rest = [] then some [] else none
      else if c = '\\' then
        (escape rest).bind fun meant => (readString (rest.drop meant.2)).map (meant.1 ++ ·)
      else if c = '\n' ∨ c = '\r' then none
      else (readString rest).map (c :: ·)
termination_by text => text.length
decreasing_by
  · exact Nat.lt_succ_of_le (List.drop_sublist _ rest).length_le
  · exact Nat.lt_succ_self _

-- What a literal as a whole stands for, with both its quotes.
def stringValue (literal : String) : Option String :=
  match literal.toList with
  | '"' :: rest => (readString rest).map String.ofList
  | _ => none

-- Whether a backslash at the end of a text takes the character behind it: one that is not itself
-- taken does.
def takesNext (before : List Char) : Bool :=
  before.foldl (fun taken c => c == '\\' && !taken) false

theorem read_string_close : readString ['"'] = some [] := by
  rw [readString, if_pos rfl, if_pos rfl]

theorem read_string_escaped (c : Char) (rest : List Char)
    (known : c = '"' ∨ c = '\\' ∨ c = 'n' ∨ c = 'r' ∨ c = 't') :
    readString ('\\' :: c :: rest) = (readString rest).map (single c ++ ·) := by
  rw [readString, if_neg (by decide), if_pos rfl]
  rcases known with rfl | rfl | rfl | rfl | rfl <;> rfl

theorem read_string_plain (c : Char) (rest : List Char) (noQuote : c ≠ '"') (noSlash : c ≠ '\\')
    (noFeed : c ≠ '\n') (noReturn : c ≠ '\r') :
    readString (c :: rest) = (readString rest).map (c :: ·) := by
  rw [readString, if_neg noQuote, if_neg noSlash, if_neg (not_or.mpr ⟨noFeed, noReturn⟩)]

-- The characters that are escaped, each with what stands for it.
theorem escape_char_cases (c : Char) :
    (∃ sign, escapeChar c = ['\\', sign] ∧ single sign = [c] ∧
        (sign = '"' ∨ sign = '\\' ∨ sign = 'n' ∨ sign = 'r' ∨ sign = 't')) ∨
      escapeChar c = [c] ∧ c ≠ '"' ∧ c ≠ '\\' ∧ c ≠ '\n' ∧ c ≠ '\r' := by
  by_cases quote : c = '"'
  · subst quote
    exact .inl ⟨'"', rfl, rfl, by simp⟩
  by_cases slash : c = '\\'
  · subst slash
    exact .inl ⟨'\\', rfl, rfl, by simp⟩
  by_cases feed : c = '\n'
  · subst feed
    exact .inl ⟨'n', rfl, rfl, by simp⟩
  by_cases return_ : c = '\r'
  · subst return_
    exact .inl ⟨'r', rfl, rfl, by simp⟩
  by_cases tab : c = '\t'
  · subst tab
    exact .inl ⟨'t', rfl, rfl, by simp⟩
  exact .inr ⟨by simp [escapeChar, quote, slash, feed, return_, tab], quote, slash, feed, return_⟩

-- By induction on the text: what is escaped is read as it was.
theorem read_string_text (text : List Char) :
    readString (text.flatMap escapeChar ++ ['"']) = some text := by
  induction text with
  | nil => exact read_string_close
  | cons c rest ih =>
      rw [List.flatMap_cons, List.append_assoc]
      rcases escape_char_cases c with ⟨sign, escaped, means, known⟩ | ⟨same, plain⟩
      · rw [escaped, List.cons_append, List.singleton_append, read_string_escaped sign _ known, ih,
          means]
        rfl
      · obtain ⟨noQuote, noSlash, noFeed, noReturn⟩ := plain
        rw [same, List.singleton_append, read_string_plain c _ noQuote noSlash noFeed noReturn, ih]
        rfl

theorem takes_next_append (first second : List Char) (free : takesNext first = false) :
    takesNext (first ++ second) = takesNext second := by
  rw [takesNext, List.foldl_append]
  exact congrArg (fun taken => second.foldl (fun taken c => c == '\\' && !taken) taken) free

theorem takes_next_escape (c : Char) : takesNext (escapeChar c) = false := by
  rcases escape_char_cases c with ⟨sign, escaped, -, -⟩ | ⟨same, -, noSlash, -⟩
  · simp [escaped, takesNext]
  · simp [same, takesNext, noSlash]

theorem takes_next_text (text : List Char) : takesNext (text.flatMap escapeChar) = false := by
  induction text with
  | nil => rfl
  | cons c rest ih => rw [List.flatMap_cons, takes_next_append _ _ (takes_next_escape c), ih]

-- The one place where the escape of a character has a quote.
theorem escape_char_quote (c : Char) (before after : List Char)
    (split : escapeChar c = before ++ '"' :: after) : takesNext before = true := by
  rcases escape_char_cases c with ⟨sign, escaped, -, -⟩ | ⟨same, noQuote, -⟩
  · rw [escaped] at split
    match before, split with
    | [], split => cases split
    | [_], split =>
        cases split
        rfl
    | _ :: _ :: _, split => simp at split
  · rw [same] at split
    match before, split with
    | [], split => exact absurd (List.cons.inj split).1 noQuote
    | _ :: _, split => simp at split

theorem quotes_taken (text before after : List Char)
    (split : text.flatMap escapeChar = before ++ '"' :: after) : takesNext before = true := by
  induction text generalizing before with
  | nil => simp at split
  | cons c rest ih =>
      rw [List.flatMap_cons, List.append_eq_append_iff] at split
      rcases split with ⟨inRest, rfl, later⟩ | ⟨inFirst, first, later⟩
      · rw [takes_next_append _ _ (takes_next_escape c)]
        exact ih inRest later
      · cases inFirst with
        | nil =>
            rw [List.append_nil] at first
            have taken := ih [] later.symm
            cases taken
        | cons d others =>
            rw [List.cons_append, List.cons.injEq] at later
            obtain ⟨rfl, -⟩ := later
            exact escape_char_quote c before others first

theorem escape_char_line (c : Char) : '\n' ∉ escapeChar c ∧ '\r' ∉ escapeChar c := by
  rcases escape_char_cases c with ⟨sign, escaped, -, known⟩ | ⟨same, -, -, noFeed, noReturn⟩
  · rw [escaped]
    rcases known with rfl | rfl | rfl | rfl | rfl <;> decide
  · simp [same, Ne.symm noFeed, Ne.symm noReturn]

theorem quoted_chars (text : String) :
    (quoted text).toList = '"' :: (text.toList.flatMap escapeChar ++ ['"']) := by
  rw [quoted, String.toList_ofList]

theorem quoted_value (text : String) : stringValue (quoted text) = some text := by
  rw [stringValue, quoted_chars]
  simp only [read_string_text, Option.map_some, String.ofList_toList]

theorem quoted_injective : Function.Injective quoted := by
  intro first second same
  rw [← Option.some.injEq, ← quoted_value first, same, quoted_value]

theorem quoted_no_identifier (text : String) : Name.isIdentifier (quoted text) = false := by
  by_contra identifier
  obtain ⟨c, rest, chars, starts, -⟩ :=
    Name.identifier_parts (quoted text) (Bool.not_eq_false _ ▸ identifier)
  rw [quoted_chars, List.cons.injEq] at chars
  rw [← chars.1] at starts
  exact absurd starts (by decide)

theorem key_text_injective : Function.Injective Expr.keyText := by
  intro first second same
  simp only [Expr.keyText] at same
  split at same <;> split at same
  · exact same
  · rename_i identifier _
    rw [same, quoted_no_identifier] at identifier
    cases identifier
  · rename_i _ identifier
    rw [← same, quoted_no_identifier] at identifier
    cases identifier
  · exact quoted_injective same

theorem quoted_reads_back (text : String) :
    (∃ inner, (quoted text).toList = '"' :: (inner ++ ['"']) ∧ takesNext inner = false ∧
        ∀ before after, inner = before ++ '"' :: after → takesNext before = true) ∧
      '\n' ∉ (quoted text).toList ∧ '\r' ∉ (quoted text).toList ∧
      stringValue (quoted text) = some text ∧
      ∀ other, other ≠ text → quoted other ≠ quoted text ∧
        (TypeExpr.literal other).render ≠ (TypeExpr.literal text).render ∧
        (Literal.text other).render ≠ (Literal.text text).render ∧
        Expr.keyText other ≠ Expr.keyText text := by
  have free (c : Char) (notQuote : c ≠ '"') (escaped : ∀ d, c ∉ escapeChar d) :
      c ∉ (quoted text).toList := by
    simp [quoted_chars, notQuote, escaped]
  refine ⟨⟨_, quoted_chars text, takes_next_text _, quotes_taken _⟩,
    free '\n' (by decide) fun d => (escape_char_line d).1,
    free '\r' (by decide) fun d => (escape_char_line d).2, quoted_value text, ?_⟩
  intro other different
  have apart : quoted other ≠ quoted text := quoted_injective.ne different
  exact ⟨apart, by simpa only [TypeExpr.render] using apart,
    by simpa only [Literal.render] using apart, key_text_injective.ne different⟩

example : quoted "say \"\\n\"\n" = "\"say \\\"\\\\n\\\"\\n\"" := by decide

end ApiContract.Grammar
