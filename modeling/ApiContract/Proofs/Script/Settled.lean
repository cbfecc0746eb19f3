import ApiContract.Script.Tree
import Mathlib.Data.List.Basic

/-!
Items that are written down without their places, and the places that they take in front of a text.
Only faults depend on places, so that whatever else is asked of an item is asked of what was
written down.
-/

set_option autoImplicit false

namespace ApiContract.Script

def written (kind : TokenKind) (lead text : String) : Token :=
  ⟨kind, text.toList, lead.toList, 0⟩

def tokenItem (kind : TokenKind) (lead text : String) : Item :=
  .token (written kind lead text)

abbrev wordItem (lead text : String) : Item := tokenItem .word lead text

abbrev markItem (lead text : String) : Item := tokenItem .mark lead text

abbrev stringItem (lead text : String) : Item := tokenItem .string lead text

abbrev charsItem (text : String) : Item := tokenItem .chars "" text

def groupItem (lead opening : String) (items : List Item) (closingLead closing : String) : Item :=
  .group (written .opening lead opening) items (some (written .closing closingLead closing))

def closingChars : Option Token → List Char
  | some t => t.chars
  | none => []

def Token.settle (behind : Nat) (t : Token) : Token :=
  { t with left := t.text.length + behind }

mutual

-- An item at its place in front of so many characters.
def Item.settle (behind : Nat) : Item → Item
  | .token t => .token (t.settle behind)
  | .group opening items closing =>
      .group
        (opening.settle ((charsOf items).length + (closingChars closing).length + behind))
        (settleAll ((closingChars closing).length + behind) items)
        (closing.map (Token.settle behind))

def settleAll (behind : Nat) : List Item → List Item
  | [] => []
  | item :: rest => item.settle ((charsOf rest).length + behind) :: settleAll behind rest

end

section SettledToken

variable (t : Token) (behind : Nat)

@[simp] theorem settle_chars : (t.settle behind).chars = t.chars := rfl

@[simp] theorem settle_text : (t.settle behind).text = t.text := rfl

@[simp] theorem settle_is_name : (t.settle behind).isName = t.isName := rfl

@[simp] theorem settle_is_plain_name : (t.settle behind).isPlainName = t.isPlainName := rfl

@[simp] theorem settle_is_plain_string : (t.settle behind).isPlainString = t.isPlainString := rfl

end SettledToken

@[simp] theorem written_text (kind : TokenKind) (lead text : String) :
    (written kind lead text).text = text.toList := rfl

-- A lead that keeps what stands behind it in the line.
def Tight (lead : String) : Prop :=
  (lead.toList.all fun c => isBlank c && !isLineEnd c) = true

theorem tight_none : Tight "" := rfl

theorem tight_blank : Tight " " := rfl

theorem tight_token (kind : TokenKind) (lead text : String) (behind : Nat) (tight : Tight lead) :
    ((written kind lead text).settle behind).isTight = true :=
  tight

theorem parens_settled (lead closingLead : String) (tight : Tight lead)
    (closes : Tight closingLead) (first last : Nat) :
    isParens ((written .opening lead "(").settle first)
      ((written .closing closingLead ")").settle last) = true :=
  Bool.and_eq_true_iff.mpr ⟨tight, closes⟩

theorem group_chars (opening : Token) (items : List Item) (closing : Option Token) :
    (Item.group opening items closing).chars =
      opening.chars ++ charsOf items ++ closingChars closing := by
  cases closing <;> rfl

@[simp] theorem chars_of_nil : charsOf [] = [] := rfl

@[simp] theorem chars_of_cons (item : Item) (rest : List Item) :
    charsOf (item :: rest) = item.chars ++ charsOf rest := rfl

@[simp] theorem closing_chars_settle (closing : Option Token) (behind : Nat) :
    closingChars (closing.map (Token.settle behind)) = closingChars closing := by
  cases closing <;> rfl

@[simp] theorem chars_of_append (first second : List Item) :
    charsOf (first ++ second) = charsOf first ++ charsOf second := by
  induction first with
  | nil => rfl
  | cons item rest ih => simp [ih]

@[simp] theorem settle_all_nil (behind : Nat) : settleAll behind [] = [] := rfl

@[simp] theorem settle_all_cons (behind : Nat) (item : Item) (rest : List Item) :
    settleAll behind (item :: rest) =
      item.settle ((charsOf rest).length + behind) :: settleAll behind rest := rfl

@[simp] theorem settle_all_append (behind : Nat) (first second : List Item) :
    settleAll behind (first ++ second) =
      settleAll ((charsOf second).length + behind) first ++ settleAll behind second := by
  induction first with
  | nil => rfl
  | cons item rest ih => simp [settleAll, ih, Nat.add_assoc]

mutual

@[simp] theorem chars_settle : ∀ (item : Item) (behind : Nat),
    (item.settle behind).chars = item.chars
  | .token _, _ => rfl
  | .group opening items closing, behind => by
      rw [Item.settle, group_chars, group_chars, chars_of_settle_all items, closing_chars_settle,
        settle_chars]

@[simp] theorem chars_of_settle_all : ∀ (items : List Item) (behind : Nat),
    charsOf (settleAll behind items) = charsOf items
  | [], _ => rfl
  | item :: rest, behind => by
      rw [settleAll, charsOf, charsOf, chars_settle item, chars_of_settle_all rest]

end

theorem spells_eq (text asked : String) : (text.toList == asked.toList) = (text == asked) := by
  rw [Bool.eq_iff_iff, beq_iff_eq, beq_iff_eq, String.toList_inj]

@[simp] theorem token_chars (kind : TokenKind) (lead text : String) :
    (tokenItem kind lead text).chars = lead.toList ++ text.toList := rfl

@[simp] theorem group_lead (lead opening : String) (items : List Item)
    (closingLead closing : String) :
    (groupItem lead opening items closingLead closing).first.lead = lead.toList := rfl

@[simp] theorem group_item_chars (lead opening : String) (items : List Item)
    (closingLead closing : String) :
    (groupItem lead opening items closingLead closing).chars =
      lead.toList ++ opening.toList ++ charsOf items ++
        (closingLead.toList ++ closing.toList) := rfl

@[simp] theorem lead_settle (item : Item) (behind : Nat) :
    (item.settle behind).first.lead = item.first.lead := by
  cases item <;> rfl

@[simp] theorem starts_tight_settle (items : List Item) (behind : Nat) :
    startsTight (settleAll behind items) = startsTight items := by
  cases items with
  | nil => rfl
  | cons item rest => cases item <;> rfl

@[simp] theorem spelled_settle_all (items : List Item) (behind : Nat) :
    spelled (settleAll behind items) = spelled items := by
  cases items with
  | nil => rfl
  | cons item rest => simp [settleAll, spelled]

theorem spelled_settle (item : Item) (behind : Nat) :
    spelled [item.settle behind] = spelled [item] := by
  simp [spelled, charsOf]

-- A group as the only item of a node.
theorem group_spelled (lead opening : String) (items : List Item) (closingLead closing : String)
    (place : Nat) :
    spelled [(groupItem lead opening items closingLead closing).settle place] =
      opening.toList ++ charsOf items ++ (closingLead.toList ++ closing.toList) := by
  rw [spelled_settle]
  simp [spelled]

theorem group_left (lead opening : String) (items : List Item) (closingLead closing : String)
    (place : Nat) :
    leftOf [(groupItem lead opening items closingLead closing).settle place] =
      (opening.toList ++ charsOf items ++ (closingLead.toList ++ closing.toList)).length + place := by
  change opening.toList.length +
    ((charsOf items).length + (closingLead.toList ++ closing.toList).length + place) = _
  simp only [List.length_append]
  omega

end ApiContract.Script
