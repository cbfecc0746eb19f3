import ApiContract.Proofs.Code.TypeSyntax
import Mathlib.Tactic.SplitIfs

/-!
Which types more can follow. A text shows the signs of unions and functions that stand outside of its
brackets and quotes; an operand shows none, and the brackets of an array take the whole of a text just
where it is an operand.
-/

set_option autoImplicit false

namespace ApiContract.TypeSyntax

open Script (isBlank isLineEnd isWordChar)

-- Code is what stands in no quotes and no comment.
def InCode : List Within → Prop
  | [] => True
  | .bracket _ :: _ => True
  | _ => False

theorem after_frame (w : Within) (outer more : List Within) (c : Char) (next : Option Char) :
    after (w :: outer ++ more) c next = after (w :: outer) c next ++ more := by
  cases w with
  | second => rfl
  | quotes quote => simp only [after, List.cons_append]; split_ifs <;> rfl
  | lineComment => simp only [after, List.cons_append]; split_ifs <;> rfl
  | blockComment => simp only [after, List.cons_append]; split_ifs <;> rfl
  | bracket b =>
      simp only [after, afterCode, closes, List.cons_append, List.drop_one, List.tail_cons]
      split_ifs <;> simp

-- Whatever follows it, the character that closes the last of what is open does so.
theorem last_closes (w : Within) (outer : List Within) (c : Char)
    (ends : after (w :: outer) c none = []) (next : Option Char) :
    after (w :: outer) c next = [] := by
  cases w with
  | second => exact ends
  | quotes quote =>
      simp only [after] at ends ⊢
      split_ifs at ends with same
      rw [if_pos same, ends]
  | lineComment => exact ends
  | blockComment => simp [after] at ends
  | bracket b =>
      simp only [after, afterCode] at ends ⊢
      split_ifs at ends ⊢ <;> simp_all

theorem closed_passed (inner outer : List Within) (cs rest : List Char)
    (ends : closed inner cs = true) :
    signsFrom (inner ++ outer) (cs ++ rest) = signsFrom outer rest := by
  induction cs generalizing inner with
  | nil =>
      have none_ : inner = [] := by simpa [closed] using ends
      rw [none_]
      rfl
  | cons c cs ih =>
      cases inner with
      | nil => cases ends
      | cons w open_ =>
          rw [closed] at ends
          have same : after (w :: open_) c (cs ++ rest).head? = after (w :: open_) c cs.head? := by
            cases cs with
            | nil =>
                have last : after (w :: open_) c none = [] := by simpa [closed] using ends
                rw [last_closes w open_ c last, List.head?_nil, last]
            | cons d cs => rfl
          have step : after (w :: open_ ++ outer) c (cs ++ rest).head? =
              after (w :: open_) c cs.head? ++ outer := by
            rw [after_frame, same]
          calc signsFrom (w :: open_ ++ outer) (c :: cs ++ rest)
              _ = signsFrom (after (w :: open_ ++ outer) c (cs ++ rest).head?) (cs ++ rest) := rfl
              _ = signsFrom (after (w :: open_) c cs.head? ++ outer) (cs ++ rest) := by rw [step]
              _ = signsFrom outer rest := ih _ ends

-- The characters that can mean more than themselves in code.
def loud : List Char :=
  ['(', '[', '\x7b', '<', ')', ']', '\x7d', '>', '"', '\'', '\x60', '|', '=', '/']

theorem closing_loud (b : Bracket) : b.closing ∈ loud := by
  cases b <;> decide

theorem opened_loud (c : Char) (w : Within) (opens : opened? c = some w) : c ∈ loud := by
  unfold opened? at opens
  split at opens <;> first | decide | cases opens

theorem quiet_not_opened (c : Char) (quiet : c ∉ loud) : opened? c = none := by
  cases opens : opened? c with
  | none => rfl
  | some w => exact absurd (opened_loud c w opens) quiet

theorem quiet_not_closing (inside : List Within) (c : Char) (quiet : c ∉ loud) :
    closes inside c = false := by
  unfold closes
  split
  · rename_i b outer
    apply beq_false_of_ne
    rintro rfl
    exact quiet (closing_loud b)
  · rfl

theorem opened_plain (c : Char) (w : Within) (opens : opened? c = some w) :
    c ∉ ['=', '/', '|'] ∧ ∀ b : Bracket, c ≠ b.closing := by
  unfold opened? at opens
  split at opens
  case h_8 => cases opens
  all_goals exact ⟨by decide, fun b => by cases b <;> decide⟩

theorem loud_no_letter (c : Char) (isLoud : c ∈ loud) : isWordChar c = false := by
  have each : loud.all (fun c => !isWordChar c) = true := by decide
  simpa using List.all_eq_true.mp each c isLoud

theorem loud_no_blank (c : Char) (isLoud : c ∈ loud) : isBlank c = false := by
  have each : loud.all (fun c => !isBlank c) = true := by decide
  simpa using List.all_eq_true.mp each c isLoud

section Code

variable (inside : List Within) (code : InCode inside)

include code

theorem code_after (c : Char) (next : Option Char) :
    after inside c next = afterCode inside c next := by
  match inside, code with
  | [], _ => rfl
  | .bracket _ :: _, _ => rfl

theorem quiet_passed (c : Char) (rest : List Char) (quiet : c ∉ loud) :
    signsFrom inside (c :: rest) = signsFrom inside rest := by
  have notClosing := quiet_not_closing inside c quiet
  have notOpened := quiet_not_opened c quiet
  simp only [loud, List.mem_cons, List.not_mem_nil, or_false, not_or] at quiet
  have stays : after inside c rest.head? = inside := by
    rw [code_after inside code, afterCode]
    simp [notClosing, notOpened, quiet]
  have none_ : signAt inside c rest.head? = [] := by
    cases inside <;> simp [signAt, quiet]
  rw [signsFrom, stays, none_, List.nil_append]

theorem word_passed (cs rest : List Char) (letters : ∀ c ∈ cs, isWordChar c = true) :
    signsFrom inside (cs ++ rest) = signsFrom inside rest := by
  induction cs with
  | nil => rfl
  | cons c cs ih =>
      have quiet : c ∉ loud := fun member => by
        have letter := letters c List.mem_cons_self
        rw [loud_no_letter c member] at letter
        cases letter
      rw [List.cons_append, quiet_passed inside code c _ quiet]
      exact ih fun d member => letters d (List.mem_cons_of_mem c member)

theorem keyword_passed (word : String) (rest : List Char)
    (letters : word.toList.all isWordChar = true) :
    signsFrom inside (word.toList ++ rest) = signsFrom inside rest :=
  word_passed inside code word.toList rest (List.all_eq_true.mp letters)

theorem slash_enters (rest : List Char) :
    signsFrom inside ('/' :: '/' :: rest) = signsFrom (.lineComment :: inside) rest ∧
    signsFrom inside ('/' :: '*' :: rest) = signsFrom (.blockComment :: inside) rest := by
  match inside, code with
  | [], _ => exact ⟨rfl, rfl⟩
  | .bracket b :: _, _ => cases b <;> exact ⟨rfl, rfl⟩

theorem gap_passed (cs rest : List Char) (gap : Gap cs) :
    signsFrom inside (cs ++ rest) = signsFrom inside rest := by
  induction gap with
  | none => rfl
  | blank c cs isBlank gap ih =>
      have quiet : c ∉ loud := fun member => by
        rw [loud_no_blank c member] at isBlank
        cases isBlank
      rw [List.cons_append, quiet_passed inside code c _ quiet, ih]
  | lineComment text cs ends gap ih =>
      rw [List.cons_append, List.cons_append, List.append_assoc, (slash_enters inside code _).1, ← ih]
      exact closed_passed [.lineComment] inside text _ ends
  | blockComment text cs ends gap ih =>
      rw [List.cons_append, List.cons_append, List.append_assoc, (slash_enters inside code _).2, ← ih]
      exact closed_passed [.blockComment] inside text _ ends

theorem opened_entered (c : Char) (rest : List Char) (w : Within) (opens : opened? c = some w) :
    signsFrom inside (c :: rest) = signsFrom (w :: inside) rest := by
  obtain ⟨plain, notClosing⟩ := opened_plain c w opens
  simp only [List.mem_cons, List.not_mem_nil, or_false, not_or] at plain
  have stays : closes inside c = false := by
    unfold closes
    split
    · exact beq_false_of_ne (notClosing _)
    · rfl
  have enters : after inside c rest.head? = w :: inside := by
    rw [code_after inside code, afterCode]
    simp [stays, plain, opens]
  have none_ : signAt inside c rest.head? = [] := by
    cases inside <;> simp [signAt, plain]
  rw [signsFrom, enters, none_, List.nil_append]

theorem enclosed_passed (w : Within) (cs rest : List Char) (enclosed : Enclosed w cs) :
    signsFrom inside (cs ++ rest) = signsFrom inside rest := by
  obtain ⟨c, cs, opens, ends⟩ := enclosed
  rw [List.cons_append, opened_entered inside code c _ w opens]
  exact closed_passed [w] inside cs rest ends

theorem bracketed_passed (b : Bracket) (cs rest : List Char)
    (passed : ∀ rest, signsFrom (.bracket b :: inside) (cs ++ rest) =
      signsFrom (.bracket b :: inside) rest) :
    signsFrom inside (b.opening :: (cs ++ b.closing :: rest)) = signsFrom inside rest := by
  have opens : opened? b.opening = some (.bracket b) := by cases b <;> rfl
  have left : after (.bracket b :: inside) b.closing rest.head? = inside := by
    simp [after, afterCode, closes]
  rw [opened_entered inside code _ _ _ opens, passed, signsFrom, left]
  rfl

theorem arrow_passed (opened : inside ≠ []) (rest : List Char) :
    signsFrom inside ('=' :: '>' :: rest) = signsFrom inside rest := by
  match inside, code with
  | [], _ => exact absurd rfl opened
  | .bracket b :: outer, _ => cases b <;> rfl

theorem join_passed (opened : inside ≠ []) (j : Join) (rest : List Char) :
    signsFrom inside (j.sign :: rest) = signsFrom inside rest := by
  match inside, code with
  | [], _ => exact absurd rfl opened
  | .bracket b :: outer, _ => cases j <;> cases b <;> rfl

theorem reference_passed (cs rest : List Char) (reference : Reference cs) :
    signsFrom inside (cs ++ rest) = signsFrom inside rest := by
  induction reference generalizing rest with
  | word cs word => exact word_passed inside code cs rest word.letters
  | imported gap file isGap enclosed =>
      rw [List.append_assoc, List.append_assoc, keyword_passed inside code "import" _ (by decide),
        gap_passed inside code _ _ isGap, enclosed_passed inside code _ _ _ enclosed]
  | member cs gap gap' name inner isGap isGap' word ih =>
      simp only [List.append_assoc, List.cons_append]
      rw [ih, gap_passed inside code _ _ isGap, quiet_passed inside code '.' _ (by decide),
        gap_passed inside code _ _ isGap', word_passed inside code _ _ word.letters]
  | applied cs gap args inner line enclosed ih =>
      rw [List.append_assoc, List.append_assoc, ih, gap_passed inside code _ _ line.gap,
        enclosed_passed inside code _ _ _ enclosed]

theorem operand_passed (cs rest : List Char) (operand : Operand cs) :
    signsFrom inside (cs ++ rest) = signsFrom inside rest := by
  cases operand with
  | reference cs inner => exact reference_passed inside code cs rest inner
  | query gap cs isGap inner apart =>
      rw [List.append_assoc, List.append_assoc, keyword_passed inside code "typeof" _ (by decide),
        gap_passed inside code _ _ isGap, reference_passed inside code _ _ inner]
  | negative gap number isGap inner =>
      rw [List.cons_append, List.append_assoc, quiet_passed inside code '-' _ (by decide),
        gap_passed inside code _ _ isGap, reference_passed inside code _ _ inner]
  | literal quote cs enclosed => exact enclosed_passed inside code _ cs rest enclosed
  | object cs enclosed => exact enclosed_passed inside code _ cs rest enclosed
  | tuple cs enclosed => exact enclosed_passed inside code _ cs rest enclosed

theorem parameters_passed (cs rest : List Char) (parameters : Parameters cs) :
    signsFrom inside (cs ++ rest) = signsFrom inside rest := by
  induction parameters with
  | plain cs enclosed => exact enclosed_passed inside code _ cs rest enclosed
  | generic names gap cs enclosed isGap inner ih =>
      rw [List.append_assoc, List.append_assoc, enclosed_passed inside code _ _ _ enclosed,
        gap_passed inside code _ _ isGap, ih]

theorem head_passed (cs rest : List Char) (head : Head cs) :
    signsFrom inside (cs ++ rest) = signsFrom inside rest := by
  cases head with
  | called cs parameters => exact parameters_passed inside code cs rest parameters
  | constructed gap cs isGap parameters =>
      rw [List.append_assoc, List.append_assoc, keyword_passed inside code "new" _ (by decide),
        gap_passed inside code _ _ isGap, parameters_passed inside code _ _ parameters]
  | abstracted gap gap' cs isGap isGap' parameters apart =>
      simp only [List.append_assoc]
      rw [keyword_passed inside code "abstract" _ (by decide), gap_passed inside code _ _ isGap,
        keyword_passed inside code "new" _ (by decide), gap_passed inside code _ _ isGap',
        parameters_passed inside code _ _ parameters]

end Code

-- An operand shows no sign, and no type does within brackets.
theorem spelled_passed (p : Phrase) (cs : List Char) (t : Tree) (spells : Spells p cs t)
    (inside : List Within) (code : InCode inside) (sheltered : p = .operand ∨ inside ≠ [])
    (rest : List Char) : signsFrom inside (cs ++ rest) = signsFrom inside rest := by
  induction spells generalizing inside rest with
  | operand cs operand => exact operand_passed inside code cs rest operand
  | parenthesised gap cs gap' t isGap isGap' inner ih =>
      have within_ : InCode (.bracket .round :: inside) := trivial
      calc signsFrom inside ('(' :: (gap ++ (cs ++ (gap' ++ [')']))) ++ rest)
          _ = signsFrom inside ('(' :: ((gap ++ (cs ++ gap')) ++ ')' :: rest)) := by simp
          _ = signsFrom inside rest := bracketed_passed inside code .round _ rest fun rest => by
            rw [List.append_assoc, List.append_assoc, gap_passed _ within_ _ _ isGap,
              ih _ within_ (.inr (List.cons_ne_nil _ _)), gap_passed _ within_ _ _ isGap']
  | array cs gap gap' t line isGap inner ih =>
      calc signsFrom inside (cs ++ (gap ++ '[' :: (gap' ++ [']'])) ++ rest)
          _ = signsFrom inside (cs ++ (gap ++ '[' :: (gap' ++ ']' :: rest))) := by simp
          _ = signsFrom inside ('[' :: (gap' ++ ']' :: rest)) := by
            rw [ih _ code (.inl rfl), gap_passed _ code _ _ line.gap]
          _ = signsFrom inside rest := bracketed_passed inside code .square gap' rest fun rest =>
            gap_passed (.bracket .square :: inside) trivial gap' rest isGap
  | indexed cs gap gap' ds gap'' t index line isGap' isGap'' inner indexRead ih ih' =>
      have within_ : InCode (.bracket .square :: inside) := trivial
      calc signsFrom inside (cs ++ (gap ++ '[' :: (gap' ++ (ds ++ (gap'' ++ [']'])))) ++ rest)
          _ = signsFrom inside (cs ++ (gap ++ '[' :: ((gap' ++ (ds ++ gap'')) ++ ']' :: rest))) := by
            simp
          _ = signsFrom inside ('[' :: ((gap' ++ (ds ++ gap'')) ++ ']' :: rest)) := by
            rw [ih _ code (.inl rfl), gap_passed _ code _ _ line.gap]
          _ = signsFrom inside rest := bracketed_passed inside code .square _ rest fun rest => by
            rw [List.append_assoc, List.append_assoc, gap_passed _ within_ _ _ isGap',
              ih' _ within_ (.inr (List.cons_ne_nil _ _)), gap_passed _ within_ _ _ isGap'']
  | bare p q cs t tighter inner ih =>
      have opened : inside ≠ [] := sheltered.resolve_left fun same => by
        rw [same] at tighter
        cases tighter
      exact ih inside code (.inr opened) rest
  | operated operator gap cs t known isGap inner apart ih =>
      have letters : ∀ word ∈ typeOperators, word.toList.all isWordChar = true := by decide
      have opened := sheltered.resolve_left nofun
      simp only [List.append_assoc]
      rw [keyword_passed inside code operator _ (letters operator known),
        gap_passed inside code _ _ isGap, ih inside code (.inr opened)]
  | inferred gap name isGap word apart =>
      simp only [List.append_assoc]
      rw [keyword_passed inside code "infer" _ (by decide), gap_passed inside code _ _ isGap,
        word_passed inside code _ _ word.letters]
  | bounded gap name gap' gap'' cs t isGap word isGap' isGap'' inner apart apart' apart'' ih =>
      have opened := sheltered.resolve_left nofun
      simp only [List.append_assoc]
      rw [keyword_passed inside code "infer" _ (by decide), gap_passed inside code _ _ isGap,
        word_passed inside code _ _ word.letters, gap_passed inside code _ _ isGap',
        keyword_passed inside code "extends" _ (by decide), gap_passed inside code _ _ isGap'',
        ih inside code (.inr opened)]
  | join j cs gap gap' ds t u isGap isGap' left right ih ih' =>
      have opened := sheltered.resolve_left nofun
      simp only [List.append_assoc, List.cons_append]
      rw [ih inside code (.inr opened), gap_passed inside code _ _ isGap,
        join_passed inside code opened, gap_passed inside code _ _ isGap',
        ih' inside code (.inr opened)]
  | led j gap cs t isGap inner ih =>
      have opened := sheltered.resolve_left nofun
      simp only [List.append_assoc, List.cons_append]
      rw [join_passed inside code opened, gap_passed inside code _ _ isGap,
        ih inside code (.inr opened)]
  | function head gap gap' cs t isHead isGap isGap' inner ih =>
      have opened := sheltered.resolve_left nofun
      simp only [List.append_assoc, List.cons_append]
      rw [head_passed inside code _ _ isHead, gap_passed inside code _ _ isGap,
        arrow_passed inside code opened, gap_passed inside code _ _ isGap',
        ih inside code (.inr opened)]
  | conditional cs gap gap' ds gap₁ gap₂ es gap₃ gap₄ fs t u v w isGap isGap' isGap₁ isGap₂ isGap₃
      isGap₄ checked bound whenTrue whenFalse apart apart' ih ih' ih₁ ih₂ =>
      have opened := sheltered.resolve_left nofun
      simp only [List.append_assoc, List.cons_append]
      rw [ih inside code (.inr opened), gap_passed inside code _ _ isGap,
        keyword_passed inside code "extends" _ (by decide), gap_passed inside code _ _ isGap',
        ih' inside code (.inr opened), gap_passed inside code _ _ isGap₁,
        quiet_passed inside code '?' _ (by decide), gap_passed inside code _ _ isGap₂,
        ih₁ inside code (.inr opened), gap_passed inside code _ _ isGap₃,
        quiet_passed inside code ':' _ (by decide), gap_passed inside code _ _ isGap₄,
        ih₂ inside code (.inr opened)]
  | predicate name gap gap' cs t word line isGap' inner apart apart' ih =>
      have opened := sheltered.resolve_left nofun
      simp only [List.append_assoc]
      rw [word_passed inside code _ _ word.letters, gap_passed inside code _ _ line.gap,
        keyword_passed inside code "is" _ (by decide), gap_passed inside code _ _ isGap',
        ih inside code (.inr opened)]
  | told cs t inner ih => exact ih inside code (.inr (sheltered.resolve_left nofun)) rest
  | asserting gap cs t line inner apart ih =>
      have opened := sheltered.resolve_left nofun
      simp only [List.append_assoc]
      rw [keyword_passed inside code "asserts" _ (by decide), gap_passed inside code _ _ line.gap,
        ih inside code (.inr opened)]
  | asserted gap name line word apart =>
      simp only [List.append_assoc]
      rw [keyword_passed inside code "asserts" _ (by decide), gap_passed inside code _ _ line.gap,
        word_passed inside code _ _ word.letters]

theorem operand_signless (text : String) (t : Tree) (reads : ReadsOperand text t) :
    bareSigns text = [] := by
  obtain ⟨gap, cs, gap', whole, isGap, line, spells⟩ := reads
  calc signsFrom [] text.toList
      _ = signsFrom [] (cs ++ gap') := by rw [whole, gap_passed [] trivial _ _ isGap]
      _ = signsFrom [] gap' := spelled_passed .operand cs t spells [] trivial (.inl rfl) gap'
      _ = signsFrom [] [] := by simpa using gap_passed [] trivial gap' [] line.gap

theorem line_closed (cs : List Char) (ends : closed [.lineComment] cs = true) :
    ∃ front c, cs = front ++ [c] ∧ isLineEnd c = true := by
  induction cs with
  | nil => cases ends
  | cons c cs ih =>
      rw [closed, after] at ends
      split at ends
      · rename_i last
        cases cs with
        | nil => exact ⟨[], c, rfl, last⟩
        | cons d cs => cases ends
      · obtain ⟨front, d, rfl, last⟩ := ih ends
        exact ⟨c :: front, d, rfl, last⟩

theorem block_closed (cs : List Char) (ends : closed [.blockComment] cs = true) :
    ∃ front, cs = front ++ ['/'] := by
  induction cs with
  | nil => cases ends
  | cons c cs ih =>
      rw [closed, after] at ends
      split at ends
      · rename_i last
        match cs, last, ends with
        | [d], last, _ =>
            have slash : d = '/' := by
              simp only [List.head?_cons, Bool.and_eq_true, beq_iff_eq] at last
              exact Option.some.inj last.2
            exact ⟨[c], by rw [slash]; rfl⟩
      · obtain ⟨front, rfl⟩ := ih ends
        exact ⟨c :: front, rfl⟩

theorem line_end_blank (c : Char) (last : isLineEnd c = true) : isBlank c = true := by
  simp only [isLineEnd, Bool.or_eq_true, beq_iff_eq] at last
  rcases last with ((rfl | rfl) | rfl) | rfl <;> decide

-- A gap ends with a blank or with the mark that ends a comment.
theorem gap_last (cs : List Char) (gap : Gap cs) :
    cs = [] ∨ ∃ front c, cs = front ++ [c] ∧ (isBlank c = true ∨ c = '/') := by
  have behind (front text cs : List Char) (c : Char) (last : isBlank c = true ∨ c = '/')
      (ih : cs = [] ∨ ∃ front c, cs = front ++ [c] ∧ (isBlank c = true ∨ c = '/')) :
      front ++ [c] ++ cs = [] ∨
        ∃ front' c', front ++ [c] ++ cs = front' ++ [c'] ∧ (isBlank c' = true ∨ c' = '/') := by
    rcases ih with rfl | ⟨front', c', rfl, last'⟩
    · exact .inr ⟨front, c, by simp, last⟩
    · exact .inr ⟨front ++ [c] ++ front', c', by simp, last'⟩
  induction gap with
  | none => exact .inl rfl
  | blank c cs isBlank gap ih => exact behind [] [] cs c (.inl isBlank) ih
  | lineComment text cs ends gap ih =>
      obtain ⟨front, c, rfl, last⟩ := line_closed text ends
      exact behind ('/' :: '/' :: front) [] cs c (.inl (line_end_blank c last)) ih
  | blockComment text cs ends gap ih =>
      obtain ⟨front, rfl⟩ := block_closed text ends
      exact behind ('/' :: '*' :: front) [] cs '/' (.inr rfl) ih

theorem no_gap_last (text front gap : List Char) (c : Char) (bracket : c = '[' ∨ c = ']')
    (isGap : Gap gap) (whole : text ++ [c] = front ++ gap) : gap = [] := by
  rcases gap_last gap isGap with none_ | ⟨inner, d, rfl, last⟩
  · exact none_
  · have same : text ++ [c] = front ++ inner ++ [d] := by rw [whole, List.append_assoc]
    obtain ⟨-, rfl⟩ := List.append_singleton_inj.mp same
    rcases bracket with rfl | rfl <;> exact absurd last (by decide)

theorem word_operand (cs : List Char) (word : Word cs) : Spells .operand cs (.operand cs) :=
  .operand cs (.reference cs (.word cs word))

theorem operand_member (cs : List Char) (t : Tree) (spells : Spells .operand cs t) :
    Spells (.joined .both) cs t :=
  .bare (.joined .both) (.row .both) cs t rfl <|
    .bare (.row .both) .prefixed cs t rfl <|
    .bare .prefixed .operand cs t rfl spells

theorem row_type (cs : List Char) (t : Tree) (spells : Spells (.row .either) cs t) :
    Spells .type cs t :=
  .bare .type .check cs t rfl <|
    .bare .check (.joined .either) cs t rfl <|
    .bare (.joined .either) (.row .either) cs t rfl spells

theorem operand_type (cs : List Char) (t : Tree) (spells : Spells .operand cs t) :
    Spells .type cs t :=
  row_type cs t (.bare (.row .either) (.joined .both) cs t rfl (operand_member cs t spells))

-- The text of an array ends with its own brackets, if not with a parenthesis.
theorem array_spelled (p : Phrase) (cs : List Char) (t : Tree) (spells : Spells p cs (.array t)) :
    (∃ front, cs = front ++ [')']) ∨
    ∃ front gap gap', cs = front ++ (gap ++ '[' :: (gap' ++ [']'])) ∧ InLine gap ∧ Gap gap' ∧
      Spells .operand front t := by
  generalize whole : Tree.array t = u at spells
  induction spells with
  | parenthesised gap cs gap' u isGap isGap' inner ih =>
      exact .inl ⟨'(' :: (gap ++ (cs ++ gap')), by simp⟩
  | array cs gap gap' u line isGap inner ih =>
      cases whole
      exact .inr ⟨cs, gap, gap', rfl, line, isGap, inner⟩
  | bare p q cs u tighter inner ih => exact ih whole
  | told cs u inner ih => exact ih whole
  | _ => cases whole

-- Brackets behind a text make an array of the whole of it just where the text is an operand.
theorem reads_array_iff (text : String) (t : Tree) :
    Reads (text ++ "[]") (.array t) ↔ ReadsOperand text t := by
  have brackets : (text ++ "[]").toList = text.toList ++ ['[', ']'] := String.toList_append
  constructor
  · rintro ⟨lead, cs, trail, whole, isLead, isTrail, spells⟩
    have shown : text.toList ++ ['['] ++ [']'] = lead ++ cs ++ trail := by
      simpa [brackets] using whole
    rw [no_gap_last _ _ trail ']' (.inr rfl) isTrail shown, List.append_nil] at shown
    rcases array_spelled .type cs t spells with
      ⟨front, rfl⟩ | ⟨front, gap, gap', rfl, line, isGap, operand⟩
    · rw [← List.append_assoc] at shown
      exact absurd (List.append_singleton_inj.mp shown).2 (by decide)
    · have inner : text.toList ++ ['['] ++ [']'] =
          lead ++ (front ++ gap) ++ ['['] ++ gap' ++ [']'] := by
        simpa using shown
      have opens := (List.append_singleton_inj.mp inner).1
      rw [no_gap_last _ _ gap' '[' (.inl rfl) isGap opens, List.append_nil] at opens
      have own := (List.append_singleton_inj.mp opens).1
      exact ⟨lead, front, gap, own, isLead, line, operand⟩
  · rintro ⟨gap, cs, gap', whole, isGap, line, spells⟩
    refine ⟨gap, cs ++ (gap' ++ '[' :: ([] ++ [']'])), [], ?_, isGap, .none, ?_⟩
    · rw [brackets, whole]
      simp
    · exact operand_type _ _ (.array cs gap' [] t line .none spells)

end ApiContract.TypeSyntax
