import ApiContract.Code.Quoted
import ApiContract.Proofs.Identifier
import ApiContract.Proofs.Script.Tokens

/-!
Items that stand in a text, told by how they are spelled: what has to hold of a word, a mark, a
quoted text, a text of a template and of brackets, and of the character that comes behind them.
-/

set_option autoImplicit false

namespace ApiContract.Script

def spellsWord (text : List Char) : Bool :=
  text.head?.any (fun c => !c.isDigit) && text.all isWordChar

-- What a word may stand in front of.
@[simp] def isApart (next : List Char) : Bool :=
  !next.head?.any isWordChar

-- Marks of one character, where what comes behind them makes them no longer.
@[simp] def isSingle (text next : List Char) : Bool :=
  match text with
  | ['='] => !next.head?.any (· == '>')
  | ['.'] => !next.head?.any fun c => c == '.' || c.isDigit
  | ['?'] => !next.head?.any (· == '.')
  | [c] => [':', ';', ',', '|', '<', '>', '!'].contains c
  | _ => false

-- A text of a template that means itself.
structure Quiet (text : List Char) : Prop where
  no_backtick : '\x60' ∉ text
  no_backslash : '\\' ∉ text
  no_hole : ∀ before after, text ≠ before ++ '$' :: '\x7b' :: after

-- What may come behind a text of a template: its end, or a hole.
def endsChars (next : List Char) : Prop :=
  (∃ rest, next = '\x60' :: rest) ∨ ∃ rest, next = '$' :: '\x7b' :: rest

@[simp] def LeadFits (inTemplate : Bool) (lead : List Char) : Prop :=
  if inTemplate then lead = [] else IsGap lead

def Token.Fits (inTemplate : Bool) (t : Token) (next : List Char) : Prop :=
  match inTemplate, t.kind with
  | false, .word => spellsWord t.text = true ∧ isApart next = true
  | false, .mark => isSingle t.text next = true
  | false, .string => ∃ value : String, t.text = (Code.quoted value).toList
  | true, .chars => t.text ≠ [] ∧ Quiet t.text ∧ endsChars next
  | _, _ => False

mutual

def Item.Fits (inTemplate : Bool) : Item → List Char → Prop
  | .token t, next => LeadFits inTemplate t.lead ∧ t.Fits inTemplate next
  | .group opening items (some closing), next =>
      (opening.kind = .opening ∧ closing.kind = .closing ∧
          isPair inTemplate opening.text closing.text = true) ∧
        LeadFits inTemplate opening.lead ∧ LeadFits (opensTemplate opening) closing.lead ∧
        FitAll (opensTemplate opening) items (closing.chars ++ next)
  | .group _ _ none, _ => False

def FitAll (inTemplate : Bool) : List Item → List Char → Prop
  | [], _ => True
  | item :: rest, next => item.Fits inTemplate (charsOf rest ++ next) ∧ FitAll inTemplate rest next

end

theorem word_char_solid (c : Char) (word : isWordChar c = true) :
    isBlank c = false ∧ ∀ mark ∈ marks, (c == mark) = false := by
  simp only [isWordChar, Bool.and_eq_true, decide_eq_true_eq, Bool.not_eq_true'] at word
  obtain ⟨⟨-, solid⟩, noMark⟩ := word
  refine ⟨solid, fun mark member => beq_eq_false_iff_ne.mpr ?_⟩
  rintro rfl
  exact absurd (List.contains_iff_mem.mpr member) (Bool.not_eq_true _ ▸ noMark)

theorem take_word (rest next : List Char) (word : ∀ c ∈ rest, isWordChar c = true)
    (apart : isApart next = true) :
    (rest ++ next).takeWhile isWordChar = rest ∧ (rest ++ next).dropWhile isWordChar = next := by
  rw [List.takeWhile_append_of_pos word, List.dropWhile_append_of_pos word]
  cases next with
  | nil => simp
  | cons c others =>
      have ends : isWordChar c = false := by simpa [isApart] using apart
      simp [ends]

theorem spells_word_cons (text : List Char) (spelled : spellsWord text = true) :
    ∃ c rest, text = c :: rest ∧ c.isDigit = false ∧ isWordChar c = true ∧
      ∀ d ∈ rest, isWordChar d = true := by
  cases text with
  | nil => simp [spellsWord] at spelled
  | cons c rest =>
      have parts : (c.isDigit = false ∧ isWordChar c = true) ∧ ∀ d ∈ rest, isWordChar d = true := by
        simpa [spellsWord, and_assoc] using spelled
      exact ⟨c, rest, rfl, parts.1.1, parts.1.2, parts.2⟩

theorem identifier_spells (name : String) (named : Name.isIdentifier name = true) :
    spellsWord name.toList = true := by
  obtain ⟨c, rest, starts, start, parts⟩ := Name.identifier_parts name named
  have word (d : Char) (part : Name.isPart d = true) : isWordChar d = true :=
    Name.part_all (fun d => isWordChar d = true) (by decide) d part
  have noDigit : c.isDigit = false :=
    Name.ascii_all (fun d => Name.isStart d = true → d.isDigit = false) (by decide) c
      (Name.part_ascii c (parts c (by simp [starts]))) start
  rw [spellsWord, Bool.and_eq_true, List.all_eq_true]
  exact ⟨by simp [starts, noDigit], fun d member => word d (parts d member)⟩

theorem word_cut (text next : List Char) (spelled : spellsWord text = true)
    (apart : isApart next = true) :
    ∃ c rest, text = c :: rest ∧ isBlank c = false ∧ c ≠ '/' ∧
      ∀ value, cutCode value (text ++ next) = (.word, text, next) := by
  obtain ⟨c, rest, rfl, noDigit, first, word⟩ := spells_word_cons text spelled
  obtain ⟨solid, noMark⟩ := word_char_solid c first
  obtain ⟨taken, dropped⟩ := take_word rest next word apart
  refine ⟨c, rest, rfl, solid, beq_eq_false_iff_ne.mp (noMark '/' (by decide)), fun value => ?_⟩
  have plain (mark : Char) (member : marks.contains mark = true) : (c == mark) = false :=
    noMark mark (List.contains_iff_mem.mp member)
  simp [cutCode, plain, noDigit, first, taken, dropped, keep, marks]

theorem single_cases (text next : List Char) (single : isSingle text next = true) :
    ∃ c, text = [c] ∧ c ∈ [':', ';', ',', '|', '<', '>', '!', '=', '.', '?'] ∧
      markSize (c :: next) = 1 ∧ (c == '.' && next.head?.any Char.isDigit) = false := by
  unfold isSingle at single
  split at single
  · refine ⟨'=', rfl, by simp, ?_, rfl⟩
    cases next with
    | nil => rfl
    | cons d rest =>
        have other : '>' ≠ d := by simpa using Ne.symm (by simpa using single)
        simp [markSize, longMarks, other]
  · cases next with
    | nil => exact ⟨'.', rfl, by simp, rfl, rfl⟩
    | cons d rest =>
        obtain ⟨noPoint, noDigit⟩ : d ≠ '.' ∧ d.isDigit = false := by simpa using single
        exact ⟨'.', rfl, by simp, by simp [markSize, longMarks, noPoint.symm], by simp [noDigit]⟩
  · refine ⟨'?', rfl, by simp, ?_, rfl⟩
    cases next with
    | nil => rfl
    | cons d rest =>
        have noPoint : d ≠ '.' := by simpa using single
        simp [markSize, longMarks, noPoint]
  · simp only [List.contains_iff_mem, List.mem_cons, List.not_mem_nil, or_false] at single
    rcases single with rfl | rfl | rfl | rfl | rfl | rfl | rfl <;>
      exact ⟨_, rfl, by simp, by simp [markSize, longMarks], rfl⟩
  · cases single

theorem mark_cut (text next : List Char) (single : isSingle text next = true) :
    ∃ c rest, text = c :: rest ∧ isBlank c = false ∧ c ≠ '/' ∧
      ∀ value, cutCode value (text ++ next) = (.mark, text, next) := by
  obtain ⟨c, rfl, mark, size, noNumber⟩ := single_cases text next single
  have plain : ∀ c ∈ [':', ';', ',', '|', '<', '>', '!', '=', '.', '?'],
      (c == '\x60' || c == '(' || c == '[' || c == '\x7b') = false ∧
        (c == ')' || c == ']' || c == '\x7d') = false ∧ (c == '"' || c == '\'') = false ∧
        c.isDigit = false ∧ (isWordChar c || c == '#') = false ∧ (c == '/') = false ∧
        isBlank c = false := by
    intro c member
    simp only [List.mem_cons, List.not_mem_nil, or_false] at member
    rcases member with rfl | rfl | rfl | rfl | rfl | rfl | rfl | rfl | rfl | rfl <;> decide
  obtain ⟨noOpening, noClosing, noQuote, noDigit, noWord, noSlash, solid⟩ := plain c mark
  refine ⟨c, [], rfl, solid, beq_eq_false_iff_ne.mp noSlash, fun value => ?_⟩
  simp [cutCode, noOpening, noClosing, noQuote, noDigit, noNumber, noWord, noSlash, size]

theorem cut_string_on (quote c : Char) (rest : List Char) (noSlash : c ≠ '\\')
    (noQuote : (c == quote) = false) (noEnd : (c == '\n' || c == '\r') = false) :
    cutString quote (c :: rest) = keep c (cutString quote rest) := by
  rw [cutString]
  · simp [noQuote, noEnd]
  · rintro d others rfl
    exact absurd rfl noSlash

theorem cut_quoted (value next : List Char) :
    cutString '"' (value.flatMap Code.escapeChar ++ '"' :: next) =
      (value.flatMap Code.escapeChar ++ ['"'], next) := by
  induction value with
  | nil => simp [cutString]
  | cons c rest ih =>
      rw [List.flatMap_cons, List.append_assoc, List.append_assoc, Code.escapeChar]
      split_ifs with quote slash feed return_ tab
      · simp [cutString, ih, keep]
      · simp [cutString, ih, keep]
      · simp [cutString, ih, keep]
      · simp [cutString, ih, keep]
      · simp [cutString, ih, keep]
      · rw [List.singleton_append, cut_string_on '"' c _ slash (by simp [quote])
          (by simp [feed, return_]), ih]
        rfl

theorem string_cut (value : String) (next : List Char) :
    ∃ c rest, (Code.quoted value).toList = c :: rest ∧ isBlank c = false ∧ c ≠ '/' ∧
      ∀ before, cutCode before ((Code.quoted value).toList ++ next) =
        (.string, (Code.quoted value).toList, next) := by
  have spelled : (Code.quoted value).toList =
      '"' :: (value.toList.flatMap Code.escapeChar ++ ['"']) := String.toList_ofList
  refine ⟨'"', _, spelled, by decide, by decide, fun _ => ?_⟩
  have cut := cut_quoted value.toList next
  simp [spelled, cutCode, cut, keep]

theorem quiet_cons (c : Char) (rest : List Char) (quiet : Quiet (c :: rest)) :
    c ≠ '\x60' ∧ c ≠ '\\' ∧ (c = '$' → rest.head? ≠ some '\x7b') ∧ Quiet rest := by
  obtain ⟨noTick, noSlash, noHole⟩ := quiet
  obtain ⟨ownTick, laterTick⟩ := List.ne_and_not_mem_of_not_mem_cons noTick
  obtain ⟨ownSlash, laterSlash⟩ := List.ne_and_not_mem_of_not_mem_cons noSlash
  refine ⟨ownTick.symm, ownSlash.symm, ?_, laterTick, laterSlash, ?_⟩
  · rintro rfl opens
    obtain ⟨after, rfl⟩ := List.head?_eq_some_iff.mp opens
    exact noHole [] after rfl
  · rintro before after rfl
    exact noHole (c :: before) after rfl

theorem cut_chars_on (c : Char) (rest : List Char) (noTick : c ≠ '\x60') (noSlash : c ≠ '\\')
    (noHole : c = '$' → rest.head? ≠ some '\x7b') :
    cutChars (c :: rest) = keep c (cutChars rest) := by
  rw [cutChars]
  · simp [noTick, noSlash]
  · rintro others rfl rfl
    exact noHole rfl rfl

theorem cut_chars_end (next : List Char) (ends : endsChars next) : cutChars next = ([], next) := by
  rcases ends with ⟨rest, rfl⟩ | ⟨rest, rfl⟩
  · rw [cutChars] <;> simp
  · rw [cutChars]

-- Not even together with what comes behind a text does it open a hole.
theorem quiet_apart (c : Char) (rest next : List Char) (ends : endsChars next)
    (noHole : c = '$' → rest.head? ≠ some '\x7b') :
    c = '$' → (rest ++ next).head? ≠ some '\x7b' := by
  intro dollar
  cases rest with
  | nil => rcases ends with ⟨_, rfl⟩ | ⟨_, rfl⟩ <;> simp
  | cons d others => exact noHole dollar

theorem cut_quiet (text next : List Char) (quiet : Quiet text) (ends : endsChars next) :
    cutChars (text ++ next) = (text, next) := by
  induction text with
  | nil => exact cut_chars_end next ends
  | cons c rest ih =>
      obtain ⟨noTick, noSlash, noHole, later⟩ := quiet_cons c rest quiet
      rw [List.cons_append, cut_chars_on c _ noTick noSlash (quiet_apart c rest next ends noHole),
        ih later]
      rfl

theorem chars_cut (text next : List Char) (nonempty : text ≠ []) (quiet : Quiet text)
    (ends : endsChars next) : cutTemplate (text ++ next) = (.chars, text, next) := by
  have cut := cut_quiet text next quiet ends
  obtain ⟨c, rest, rfl⟩ := List.exists_cons_of_ne_nil nonempty
  obtain ⟨noTick, noSlash, noHole, -⟩ := quiet_cons c rest quiet
  have apart := quiet_apart c rest next ends noHole
  rw [← cut, List.cons_append, cutTemplate]
  · exact fun _ same => noTick (List.cons.inj same).1
  · intro others same
    obtain ⟨dollar, opens⟩ := List.cons.inj same
    exact apart dollar (by rw [opens]; rfl)
  · exact fun _ _ same => noSlash (List.cons.inj same).1
  · exact fun same => noSlash (List.cons.inj same).1

theorem token_stands (inTemplate : Bool) (t : Token) (next : List Char)
    (lead : LeadFits inTemplate t.lead) (fits : t.Fits inTemplate next) :
    (Item.token t).Stands inTemplate next := by
  obtain ⟨kind, text, before, left⟩ := t
  unfold Token.Fits at fits
  split at fits
  · rename_i isWord
    cases isWord
    obtain ⟨c, rest, starts, solid, noSlash, cut⟩ := word_cut text next fits.1 fits.2
    exact ⟨⟨lead, ⟨c, rest, starts, solid, noSlash⟩, cut⟩, by simp, by simp⟩
  · rename_i isMark
    cases isMark
    obtain ⟨c, rest, starts, solid, noSlash, cut⟩ := mark_cut text next fits
    exact ⟨⟨lead, ⟨c, rest, starts, solid, noSlash⟩, cut⟩, by simp, by simp⟩
  · rename_i isString
    cases isString
    obtain ⟨value, spelled⟩ := fits
    have whole := string_cut value next
    rw [← spelled] at whole
    obtain ⟨c, rest, starts, solid, noSlash, cut⟩ := whole
    exact ⟨⟨lead, ⟨c, rest, starts, solid, noSlash⟩, cut⟩, by simp, by simp⟩
  · rename_i areChars
    cases areChars
    obtain ⟨nonempty, quiet, ends⟩ := fits
    exact ⟨⟨lead, nonempty, chars_cut text next nonempty quiet ends⟩, by simp, by simp⟩
  · exact fits.elim

theorem opening_stands (inTemplate : Bool) (opening closing : Token) (next : List Char)
    (opens : opening.kind = .opening)
    (pair : isPair inTemplate opening.text closing.text = true)
    (lead : LeadFits inTemplate opening.lead) : opening.Stands inTemplate next := by
  obtain ⟨kind, text, before, left⟩ := opening
  cases opens
  rcases pair_cases _ _ _ pair with ⟨rfl, rfl, -⟩ | ⟨rfl, ⟨rfl, -⟩ | ⟨rfl, -⟩ | ⟨rfl, -⟩ | ⟨rfl, -⟩⟩
  · exact ⟨lead, by simp, rfl⟩
  · exact ⟨lead, ⟨_, _, rfl, by decide, by decide⟩, fun _ => rfl⟩
  · exact ⟨lead, ⟨_, _, rfl, by decide, by decide⟩, fun _ => rfl⟩
  · exact ⟨lead, ⟨_, _, rfl, by decide, by decide⟩, fun _ => rfl⟩
  · exact ⟨lead, ⟨_, _, rfl, by decide, by decide⟩, fun _ => rfl⟩

theorem closing_stands (inTemplate : Bool) (opening closing : Token) (next : List Char)
    (closes : closing.kind = .closing)
    (pair : isPair inTemplate opening.text closing.text = true)
    (lead : LeadFits (opensTemplate opening) closing.lead) :
    closing.Stands (opensTemplate opening) next := by
  obtain ⟨kind, text, before, left⟩ := closing
  obtain ⟨openingKind, openingText, openingLead, openingLeft⟩ := opening
  cases closes
  rcases pair_cases _ _ _ pair with ⟨rfl, rfl, rfl⟩ | ⟨rfl, ⟨rfl, rfl⟩ | ⟨rfl, rfl⟩ | ⟨rfl, rfl⟩ |
    ⟨rfl, rfl⟩⟩
  · exact ⟨lead, ⟨_, _, rfl, by decide, by decide⟩, fun _ => rfl⟩
  · exact ⟨lead, ⟨_, _, rfl, by decide, by decide⟩, fun _ => rfl⟩
  · exact ⟨lead, ⟨_, _, rfl, by decide, by decide⟩, fun _ => rfl⟩
  · exact ⟨lead, ⟨_, _, rfl, by decide, by decide⟩, fun _ => rfl⟩
  · exact ⟨lead, by simp, rfl⟩

mutual

theorem item_stands : ∀ (item : Item) (inTemplate : Bool) (next : List Char),
    item.Fits inTemplate next → item.Stands inTemplate next
  | .token t, inTemplate, next, ⟨lead, fits⟩ => token_stands inTemplate t next lead fits
  | .group opening items (some closing), inTemplate, next,
      ⟨⟨opens, closes, pair⟩, first, last, inner⟩ =>
      ⟨opens, closes, pair, opening_stands inTemplate opening closing _ opens pair first,
        items_stand items (opensTemplate opening) _ inner,
        closing_stands inTemplate opening closing next closes pair last⟩
  | .group _ _ none, _, _, impossible => impossible.elim

theorem items_stand : ∀ (items : List Item) (inTemplate : Bool) (next : List Char),
    FitAll inTemplate items next → StandAll inTemplate items next
  | [], _, _, _ => trivial
  | item :: rest, inTemplate, next, ⟨own, later⟩ =>
      ⟨item_stands item inTemplate _ own, items_stand rest inTemplate next later⟩

end

@[simp] theorem fit_all_nil (inTemplate : Bool) (next : List Char) : FitAll inTemplate [] next :=
  trivial

@[simp] theorem fit_all_cons (inTemplate : Bool) (item : Item) (rest : List Item)
    (next : List Char) : FitAll inTemplate (item :: rest) next ↔
      item.Fits inTemplate (charsOf rest ++ next) ∧ FitAll inTemplate rest next := Iff.rfl

@[simp] theorem fit_all_append (inTemplate : Bool) (first second : List Item) (next : List Char) :
    FitAll inTemplate (first ++ second) next ↔
      FitAll inTemplate first (charsOf second ++ next) ∧ FitAll inTemplate second next := by
  induction first with
  | nil => simp [FitAll]
  | cons item rest ih => simp [FitAll, ih, and_assoc]

section Written

variable (lead text closingLead closing : String) (items : List Item) (next : List Char)

@[simp] theorem word_fits : (wordItem lead text).Fits false next ↔
    IsGap lead.toList ∧ spellsWord text.toList = true ∧ isApart next = true := Iff.rfl

@[simp] theorem mark_fits : (markItem lead text).Fits false next ↔
    IsGap lead.toList ∧ isSingle text.toList next = true := Iff.rfl

@[simp] theorem string_fits : (stringItem lead (Code.quoted text)).Fits false next ↔
    IsGap lead.toList := by
  have own (whole : String) : (stringItem lead whole).Fits false next ↔
      IsGap lead.toList ∧ ∃ value : String, whole.toList = (Code.quoted value).toList := Iff.rfl
  exact (own (Code.quoted text)).trans (and_iff_left ⟨text, rfl⟩)

@[simp] theorem chars_fit : (charsItem text).Fits true next ↔
    text.toList ≠ [] ∧ Quiet text.toList ∧ endsChars next :=
  and_iff_right rfl

@[simp] theorem group_fits : (groupItem lead text items closingLead closing).Fits false next ↔
    isPair false text.toList closing.toList = true ∧ IsGap lead.toList ∧
      LeadFits (text.toList == ['\x60']) closingLead.toList ∧
      FitAll (text.toList == ['\x60']) items (closingLead.toList ++ closing.toList ++ next) :=
  ⟨fun fits => ⟨fits.1.2.2, fits.2⟩, fun fits => ⟨⟨rfl, rfl, fits.1⟩, fits.2⟩⟩

@[simp] theorem hole_fits : (groupItem "" "$\x7b" items "" "\x7d").Fits true next ↔
    FitAll false items ('\x7d' :: next) :=
  ⟨fun fits => fits.2.2.2, fun inner => ⟨⟨rfl, rfl, rfl⟩, rfl, gap_nil, inner⟩⟩

end Written

end ApiContract.Script
