import ApiContract.Proofs.Outline.CanonicalType
import ApiContract.Proofs.Script.Grammar

/-!
The items that the text of a type is made of, and that the reading of a type takes exactly these.
-/

set_option autoImplicit false

namespace ApiContract.Code

open Outline (IsIdentifier WellSpelled WellSpelledAll)
open Script

inductive Separator where
  | bar
  | comma

def Separator.item : Separator → Item
  | .bar => markItem " " "|"
  | .comma => markItem "" ","

def Separator.text : Separator → String
  | .bar => " | "
  | .comma => ", "

def TypeExpr.isUnion : TypeExpr → Bool
  | .union _ => true
  | _ => false

def bracketsItem : Item :=
  groupItem "" "[" [] "" "]"

mutual

def typeItems (lead : String) : TypeExpr → List Item
  | .named name => [wordItem lead name]
  | .arrayOf element =>
      (if element.isUnion then [groupItem lead "(" (typeItems "" element) "" ")"]
       else typeItems lead element) ++ [bracketsItem]
  | .union members => listItems .bar lead members
  | .generic name args =>
      wordItem lead name :: markItem "" "<" :: (listItems .comma "" args ++ [markItem "" ">"])
  | .literal value => [stringItem lead (quoted value)]

def listItems (sep : Separator) (lead : String) : List TypeExpr → List Item
  | [] => []
  | t :: rest => typeItems lead t ++ restItems sep rest

def restItems (sep : Separator) : List TypeExpr → List Item
  | [] => []
  | t :: rest => sep.item :: (typeItems " " t ++ restItems sep rest)

end

theorem array_render (element : TypeExpr) :
    (TypeExpr.arrayOf element).render =
      (if element.isUnion then "(" ++ element.render ++ ")" else element.render) ++ "[]" := by
  rw [← String.toList_inj]
  cases element <;> simp [TypeExpr.render, TypeExpr.isUnion]

@[simp] theorem separator_chars (sep : Separator) (rest : List Char) :
    sep.item.chars ++ ' ' :: rest = sep.text.toList ++ rest := by
  cases sep <;> simp [Separator.item, Separator.text]

variable (isName : String → Prop)

mutual

theorem type_items_chars : ∀ (t : TypeExpr) (lead : String), WellSpelled isName t →
    charsOf (typeItems lead t) = lead.toList ++ t.render.toList
  | .named name, lead, _ => by simp [typeItems, TypeExpr.render]
  | .arrayOf element, lead, spelled => by
      have inner := type_items_chars element
      rw [typeItems, array_render]
      cases element.isUnion <;> simp [inner _ spelled, bracketsItem]
  | .union members, lead, ⟨nonempty, spelled⟩ =>
      list_items_chars members .bar lead nonempty spelled
  | .generic name args, lead, ⟨_, spelled⟩ => by
      cases args with
      | nil => simp [typeItems, listItems, TypeExpr.render, TypeExpr.renderAll, Text.join]
      | cons first others =>
          have inner := list_items_chars (first :: others) .comma "" (by simp) spelled
          simp [typeItems, TypeExpr.render, inner, Separator.text]
  | .literal value, lead, _ => by simp [typeItems, TypeExpr.render]

theorem list_items_chars : ∀ (ts : List TypeExpr) (sep : Separator) (lead : String), ts ≠ [] →
    WellSpelledAll isName ts → charsOf (listItems sep lead ts) =
      lead.toList ++ (Text.join sep.text (TypeExpr.renderAll ts)).toList
  | [], _, _, nonempty, _ => absurd rfl nonempty
  | t :: rest, sep, lead, _, ⟨own, later⟩ => by
      rw [listItems, TypeExpr.renderAll, Text.join_chars, chars_of_append,
        type_items_chars t lead own, rest_items_chars rest sep later, List.append_assoc]

theorem rest_items_chars : ∀ (ts : List TypeExpr) (sep : Separator), WellSpelledAll isName ts →
    charsOf (restItems sep ts) =
      (TypeExpr.renderAll ts).flatMap fun text => sep.text.toList ++ text.toList
  | [], _, _ => rfl
  | t :: rest, sep, ⟨own, later⟩ => by
      simp [restItems, TypeExpr.renderAll, type_items_chars t " " own,
        rest_items_chars rest sep later]

end

theorem separator_stands (sep : Separator) (next : List Char) :
    sep.item.Fits false next ∧ ∀ rest, isApart (sep.item.chars ++ rest) = true := by
  cases sep with
  | bar => exact ⟨by simp +decide [Separator.item], fun rest => by simp +decide [Separator.item]⟩
  | comma => exact ⟨by simp +decide [Separator.item], fun rest => by simp +decide [Separator.item]⟩

theorem rest_items_apart (sep : Separator) (ts : List TypeExpr) (next : List Char)
    (apart : isApart next = true) : isApart (charsOf (restItems sep ts) ++ next) = true := by
  cases ts with
  | nil => exact apart
  | cons t rest =>
      rw [restItems, chars_of_cons, List.append_assoc]
      exact (separator_stands sep next).2 _

mutual

theorem type_items_fit : ∀ (t : TypeExpr) (lead : String) (next : List Char),
    IsGap lead.toList → WellSpelled IsIdentifier t → isApart next = true →
      FitAll false (typeItems lead t) next
  | .named name, lead, next, gap, named, apart => by
      simpa [typeItems, gap, identifier_spells name named] using apart
  | .arrayOf element, lead, next, gap, spelled, apart => by
      have brackets : bracketsItem.Fits false next := by simp +decide [bracketsItem]
      rw [typeItems, fit_all_append]
      refine ⟨?_, brackets, trivial⟩
      cases element.isUnion with
      | true =>
          have inner := type_items_fit element "" (')' :: (bracketsItem.chars ++ next)) gap_nil
            spelled rfl
          simp +decide [gap, inner]
      | false => exact type_items_fit element lead _ gap spelled rfl
  | .union members, lead, next, gap, ⟨_, spelled⟩, apart =>
      list_items_fit members .bar lead next gap spelled apart
  | .generic name args, lead, next, gap, ⟨named, spelled⟩, apart => by
      have inner := list_items_fit args .comma "" ('>' :: next) gap_nil spelled rfl
      simp +decide [typeItems, gap, identifier_spells name named, inner]
  | .literal value, lead, next, gap, _, _ => by simpa [typeItems] using gap

theorem list_items_fit : ∀ (ts : List TypeExpr) (sep : Separator) (lead : String)
    (next : List Char), IsGap lead.toList → WellSpelledAll IsIdentifier ts →
      isApart next = true → FitAll false (listItems sep lead ts) next
  | [], _, _, _, _, _, _ => trivial
  | t :: rest, sep, lead, next, gap, ⟨own, later⟩, apart => by
      rw [listItems, fit_all_append]
      exact ⟨type_items_fit t lead _ gap own (rest_items_apart sep rest next apart),
        rest_items_fit rest sep next later apart⟩

theorem rest_items_fit : ∀ (ts : List TypeExpr) (sep : Separator) (next : List Char),
    WellSpelledAll IsIdentifier ts → isApart next = true → FitAll false (restItems sep ts) next
  | [], _, _, _, _ => trivial
  | t :: rest, sep, next, ⟨own, later⟩, apart => by
      rw [restItems, fit_all_cons, fit_all_append]
      exact ⟨(separator_stands sep _).1,
        type_items_fit t " " _ (by simp +decide) own (rest_items_apart sep rest next apart),
        rest_items_fit rest sep next later apart⟩

end

-- A name that is no word of the language.
def IsPlainName (name : String) : Prop :=
  Name.isIdentifier name = true ∧ isKeyword name = false

instance (name : String) : Decidable (IsPlainName name) :=
  inferInstanceAs (Decidable (_ ∧ _))

-- A name that is a type by itself.
def IsTypeName (name : String) : Prop :=
  Name.isIdentifier name = true ∧
    (predefinedTypes.contains name = true ∨ name = "null" ∨ isKeyword name = false)

instance (name : String) : Decidable (IsTypeName name) :=
  inferInstanceAs (Decidable (_ ∧ _))

-- A text that stands between quotes as it is.
def IsPlainText (value : String) : Prop :=
  ∀ c ∈ value.toList, escapeChar c = [c]

instance (value : String) : Decidable (IsPlainText value) :=
  List.decidableBAll (fun c => escapeChar c = [c]) value.toList

mutual

-- A type as it is made here: names of types and plain texts, and no union right within another.
def PlainType : TypeExpr → Prop
  | .named name => IsTypeName name
  | .arrayOf element => PlainType element
  | .union members => members ≠ [] ∧ (∀ t ∈ members, t.isUnion = false) ∧ PlainTypes members
  | .generic name args => IsPlainName name ∧ args ≠ [] ∧ PlainTypes args
  | .literal value => IsPlainText value

def PlainTypes : List TypeExpr → Prop
  | [] => True
  | t :: rest => PlainType t ∧ PlainTypes rest

end

mutual

theorem plain_type_spelled : ∀ t : TypeExpr, PlainType t → WellSpelled IsIdentifier t
  | .named _, named => named.1
  | .arrayOf element, plain => plain_type_spelled element plain
  | .union members, ⟨nonempty, _, plain⟩ => ⟨nonempty, plain_types_spelled members plain⟩
  | .generic _ args, ⟨named, _, plain⟩ => ⟨named.1, plain_types_spelled args plain⟩
  | .literal _, _ => trivial

theorem plain_types_spelled : ∀ ts : List TypeExpr, PlainTypes ts → WellSpelledAll IsIdentifier ts
  | [], _ => trivial
  | t :: rest, ⟨own, later⟩ => ⟨plain_type_spelled t own, plain_types_spelled rest later⟩

end

theorem plain_type_chars (t : TypeExpr) (lead : String) (plain : PlainType t) :
    charsOf (typeItems lead t) = lead.toList ++ t.render.toList :=
  type_items_chars IsIdentifier t lead (plain_type_spelled t plain)

theorem plain_type_fits (t : TypeExpr) (lead : String) (next : List Char) (gap : IsGap lead.toList)
    (plain : PlainType t) (apart : isApart next = true) : FitAll false (typeItems lead t) next :=
  type_items_fit t lead next gap (plain_type_spelled t plain) apart

theorem type_items_lead (t : TypeExpr) (lead : String) (plain : PlainType t) :
    ∃ item rest, typeItems lead t = item :: rest ∧ item.first.lead = lead.toList := by
  match t, plain with
  | .named name, _ => exact ⟨_, _, rfl, rfl⟩
  | .arrayOf element, plain =>
      rw [typeItems]
      cases element.isUnion with
      | true => exact ⟨_, _, rfl, rfl⟩
      | false =>
          obtain ⟨item, rest, starts, same⟩ := type_items_lead element lead plain
          exact ⟨item, rest ++ [bracketsItem], by simp [starts], same⟩
  | .union (first :: others), ⟨_, _, own, _⟩ =>
      obtain ⟨item, rest, starts, same⟩ := type_items_lead first lead own
      exact ⟨item, rest ++ restItems .bar others, by simp [typeItems, listItems, starts], same⟩
  | .union [], ⟨nonempty, _⟩ => exact absurd rfl nonempty
  | .generic name args, _ => exact ⟨_, _, rfl, rfl⟩
  | .literal value, _ => exact ⟨_, _, rfl, rfl⟩

theorem type_items_spelled (t : TypeExpr) (lead : String) (plain : PlainType t) :
    spelled (typeItems lead t) = t.render.toList := by
  obtain ⟨item, rest, starts, same⟩ := type_items_lead t lead plain
  have chars := plain_type_chars t lead plain
  rw [starts, chars_of_cons] at chars
  rw [starts, spelled, chars, same, List.drop_left]

theorem plain_name_token (lead name : String) (behind : Nat) (plain : IsPlainName name) :
    ((written .word lead name).settle behind).isPlainName = true := by
  rw [settle_is_plain_name]
  simp [Token.isPlainName, written, String.ofList_toList, plain.1, plain.2]

theorem plain_string_token (lead value : String) (behind : Nat) (plain : IsPlainText value) :
    ((written .string lead (quoted value)).settle behind).isPlainString = true := by
  have noSlash : '\\' ∉ value.toList.flatMap escapeChar := by
    intro member
    obtain ⟨c, own, within⟩ := List.mem_flatMap.mp member
    rw [plain c own, List.mem_singleton] at within
    subst within
    exact absurd (plain _ own) (by decide)
  have spelled : (quoted value).toList = '"' :: (value.toList.flatMap escapeChar ++ ['"']) :=
    String.toList_ofList
  rw [settle_is_plain_string]
  simpa [Token.isPlainString, written, spelled] using noSlash

theorem type_name_word (t : Token) (name : String) (kind : t.kind = .word)
    (spelled : t.text = name.toList) (tight : t.isTight = true) (named : IsTypeName name) :
    ∃ n, typeName? t = some n := by
  have word (other : String) : t.isWord other = (name == other) := by
    simp [Token.isWord, kind, spelled, spells_eq]
  rw [typeName?, tight, Bool.not_true, if_neg Bool.false_ne_true]
  rcases named with ⟨identifier, listed | rfl | plain⟩
  · have found : predefinedTypes.any t.isWord = true :=
      List.any_eq_true.mpr ⟨name, List.contains_iff_mem.mp listed, by simp [word]⟩
    exact ⟨_, if_pos found⟩
  · have none_ : predefinedTypes.any t.isWord = false := by
      simp +decide [predefinedTypes, word]
    exact ⟨_, by rw [none_, if_neg Bool.false_ne_true, word, beq_self_eq_true, if_pos rfl]⟩
  · have last : t.isPlainName = true := by
      simp [Token.isPlainName, kind, spelled, String.ofList_toList, identifier, plain]
    rw [last, if_pos rfl]
    split_ifs <;> exact ⟨_, rfl⟩

theorem type_literal (t : Token) (kind : t.kind = .string) (tight : t.isTight = true)
    (plain : t.isPlainString = true) : ∃ n, typeName? t = some n := by
  have noWord (other : String) : t.isWord other = false := by simp [Token.isWord, kind]
  have none_ : predefinedTypes.any t.isWord = false := by simp [predefinedTypes, noWord]
  simp [typeName?, tight, none_, noWord, plain]

def TypeExpr.form (t : TypeExpr) : TypeForm :=
  if t.isUnion then .whole else .primary

theorem whole_type (t : TypeExpr) (items : List Item) (n : Node)
    (derived : TypeNodes t.form items [n]) : TypeNodes .whole items [n] := by
  rw [TypeExpr.form] at derived
  split at derived
  · exact derived
  · exact .single derived

-- What is derived for the element of an array, at whatever place it stands, is derived for the array.
theorem array_derived (element : TypeExpr) (lead : String) (behind : Nat) (tight : Tight lead)
    (own : ∀ lead behind, Tight lead →
      ∃ n, TypeNodes element.form (settleAll behind (typeItems lead element)) [n]) :
    ∃ n, TypeNodes .primary (settleAll behind (typeItems lead (.arrayOf element))) [n] := by
  rw [typeItems, settle_all_append]
  cases union : element.isUnion with
  | true =>
      obtain ⟨n, inner⟩ := own "" (1 + (0 + ((charsOf [bracketsItem]).length + behind))) tight_none
      exact ⟨_, .array (.parens (whole_type element _ n inner)
        (parens_settled lead "" tight tight_none _ _)) rfl rfl⟩
  | false =>
      obtain ⟨n, inner⟩ := own lead ((charsOf [bracketsItem]).length + behind) tight
      rw [TypeExpr.form, union] at inner
      exact ⟨_, .array inner rfl rfl⟩

-- The items of a type are derived, at whatever place they stand.
mutual

theorem type_derived : ∀ (t : TypeExpr) (lead : String) (behind : Nat), Tight lead →
    PlainType t → ∃ n, TypeNodes t.form (settleAll behind (typeItems lead t)) [n]
  | .named name, lead, behind, tight, named => by
      obtain ⟨n, found⟩ := type_name_word ((written .word lead name).settle (0 + behind)) name rfl rfl
        tight named
      exact ⟨n, .word found⟩
  | .arrayOf element, lead, behind, tight, plain =>
      array_derived element lead behind tight fun lead behind tight =>
        type_derived element lead behind tight plain
  | .union [], _, _, _, ⟨nonempty, _, _⟩ => absurd rfl nonempty
  | .union (first :: others), lead, behind, tight, ⟨_, flat, own, later⟩ => by
      obtain ⟨n, derived⟩ := type_derived first lead
        ((charsOf (restItems .bar others)).length + behind) tight own
      have rest := bars_derived others behind _ n (whole_type first _ n derived)
        (fun t member => flat t (List.mem_cons_of_mem first member)) later
      rw [typeItems, listItems, settle_all_append]
      exact rest
  | .generic name args, lead, behind, tight, ⟨named, nonempty, plain⟩ => by
      obtain ⟨nodes, inner⟩ := arguments_derived args "" (1 + behind) tight_none nonempty plain
      have last : settleAll behind (listItems .comma "" args ++ [markItem "" ">"]) =
          settleAll (1 + behind) (listItems .comma "" args) ++
            [.token ((written .mark "" ">").settle (0 + behind))] := settle_all_append _ _ _
      rw [typeItems, settle_all_cons, settle_all_cons, last]
      exact ⟨_, .generic tight (plain_name_token lead name _ named) rfl inner rfl⟩
  | .literal value, lead, behind, tight, plain => by
      obtain ⟨n, found⟩ := type_literal ((written .string lead (quoted value)).settle (0 + behind)) rfl
        tight (plain_string_token lead value _ plain)
      exact ⟨n, .word found⟩

-- More members behind a type that is whole.
theorem bars_derived : ∀ (ts : List TypeExpr) (behind : Nat) (front : List Item) (n : Node),
    TypeNodes .whole front [n] → (∀ t ∈ ts, t.isUnion = false) → PlainTypes ts →
      ∃ m, TypeNodes .whole (front ++ settleAll behind (restItems .bar ts)) [m]
  | [], _, front, n, derived, _, _ => ⟨n, by simpa [restItems] using derived⟩
  | t :: rest, behind, front, n, derived, flat, ⟨own, later⟩ => by
      obtain ⟨single, others⟩ := List.forall_mem_cons.mp flat
      obtain ⟨m, next⟩ := type_derived t " "
        ((charsOf (restItems .bar rest)).length + behind) tight_blank own
      rw [TypeExpr.form, single] at next
      rw [restItems, settle_all_cons, settle_all_append, ← List.cons_append, ← List.append_assoc]
      exact bars_derived rest behind _ _ (.union derived rfl next) others later

theorem arguments_derived : ∀ (ts : List TypeExpr) (lead : String) (behind : Nat), Tight lead →
    ts ≠ [] → PlainTypes ts →
      ∃ nodes, TypeNodes .arguments (settleAll behind (listItems .comma lead ts)) nodes
  | [], _, _, _, nonempty, _ => absurd rfl nonempty
  | [t], lead, behind, tight, _, ⟨own, _⟩ => by
      obtain ⟨n, derived⟩ := type_derived t lead behind tight own
      exact ⟨[n], by simpa [listItems, restItems] using .last (whole_type t _ n derived)⟩
  | t :: second :: rest, lead, behind, tight, _, ⟨own, later⟩ => by
      obtain ⟨n, derived⟩ := type_derived t lead
        ((charsOf (restItems .comma (second :: rest))).length + behind) tight own
      obtain ⟨nodes, others⟩ := arguments_derived (second :: rest) " " behind tight_blank (by simp)
        later
      rw [listItems, settle_all_append]
      exact ⟨_, .more (whole_type t _ n derived) rfl others⟩

end

end ApiContract.Code
