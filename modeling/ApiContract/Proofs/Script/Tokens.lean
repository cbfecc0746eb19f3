import ApiContract.Proofs.Script.Gaps
import ApiContract.Proofs.Script.Settled

/-!
Items that stand in a text. Each of their tokens is cut off by itself in front of what follows it,
so that the whole text is cut into these tokens and grouped into these items.
-/

set_option autoImplicit false

namespace ApiContract.Script

structure CutInCode (t : Token) (next : List Char) : Prop where
  lead_is_gap : IsGap t.lead
  starts : ∃ c rest, t.text = c :: rest ∧ isBlank c = false ∧ c ≠ '/'
  cut : ∀ value, cutCode value (t.text ++ next) = (t.kind, t.text, next)

structure CutInTemplate (t : Token) (next : List Char) : Prop where
  no_lead : t.lead = []
  nonempty : t.text ≠ []
  cut : cutTemplate (t.text ++ next) = (t.kind, t.text, next)

def Token.Stands (inTemplate : Bool) (t : Token) (next : List Char) : Prop :=
  if inTemplate then CutInTemplate t next else CutInCode t next

def isPair (inTemplate : Bool) (opening closing : List Char) : Bool :=
  if inTemplate then opening == ['$', '\x7b'] && closing == ['\x7d']
  else
    [(['('], [')']), (['['], [']']), (['\x7b'], ['\x7d']), (['\x60'], ['\x60'])].contains
      (opening, closing)

def opensTemplate (t : Token) : Bool :=
  t.text == ['\x60']

mutual

-- Whether an item is read as it is in front of what follows it.
def Item.Stands (inTemplate : Bool) : Item → List Char → Prop
  | .token t, next => t.Stands inTemplate next ∧ t.kind ≠ .opening ∧ t.kind ≠ .closing
  | .group opening items (some closing), next =>
      opening.kind = .opening ∧ closing.kind = .closing ∧
        isPair inTemplate opening.text closing.text = true ∧
        opening.Stands inTemplate (charsOf items ++ (closing.chars ++ next)) ∧
        StandAll (opensTemplate opening) items (closing.chars ++ next) ∧
        closing.Stands (opensTemplate opening) next
  | .group _ _ none, _ => False

def StandAll (inTemplate : Bool) : List Item → List Char → Prop
  | [], _ => True
  | item :: rest, next => item.Stands inTemplate (charsOf rest ++ next) ∧ StandAll inTemplate rest next

end

mutual

def Item.tokens : Item → List Token
  | .token t => [t]
  | .group opening items closing => opening :: (tokensOf items ++ closing.toList)

def tokensOf : List Item → List Token
  | [] => []
  | item :: rest => item.tokens ++ tokensOf rest

end

def isInTemplate (frames : List Frame) : Bool :=
  frames.head? == some .template

-- One token is cut off, wherever the reading stands.
theorem token_cut (t : Token) (next : List Char) (frames : List Frame) (value : Bool) (fuel : Nat)
    (stands : t.Stands (isInTemplate frames) next) :
    tokensFrom (fuel + 1) ⟨frames, value⟩ (t.chars ++ next) =
      t.settle next.length :: tokensFrom fuel (Reading.after ⟨frames, value⟩ t.kind t.text) next := by
  rw [Token.chars, List.append_assoc]
  cases within : isInTemplate frames with
  | true =>
      rw [Token.Stands, within, if_pos rfl] at stands
      obtain ⟨noLead, nonempty, cut⟩ := stands
      rw [isInTemplate] at within
      simp [tokensFrom, within, noLead, cut, nonempty, Token.settle]
  | false =>
      rw [Token.Stands, within, if_neg Bool.false_ne_true] at stands
      obtain ⟨gap, ⟨c, rest, starts, solid, noSlash⟩, cut⟩ := stands
      have apart : cutGap .blanks (t.lead ++ (t.text ++ next)) = (t.lead, t.text ++ next) := by
        rw [gap_cut _ _ gap, starts, List.cons_append, cut_gap_none c _ solid noSlash]
        simp
      rw [isInTemplate] at within
      have nonempty : t.text ≠ [] := by simp [starts]
      simp [tokensFrom, within, apart, cut, nonempty, Token.settle]

theorem token_length (t : Token) (inTemplate : Bool) (next : List Char)
    (stands : t.Stands inTemplate next) : 1 ≤ t.text.length := by
  cases inTemplate with
  | true => exact List.length_pos_iff.mpr (CutInTemplate.nonempty stands)
  | false =>
      obtain ⟨c, rest, starts, -⟩ := CutInCode.starts stands
      simp [starts]

theorem pair_cases (inTemplate : Bool) (opening closing : List Char)
    (pair : isPair inTemplate opening closing = true) :
    (inTemplate = true ∧ opening = ['$', '\x7b'] ∧ closing = ['\x7d']) ∨
      inTemplate = false ∧ ((opening = ['('] ∧ closing = [')']) ∨
        (opening = ['['] ∧ closing = [']']) ∨ (opening = ['\x7b'] ∧ closing = ['\x7d']) ∨
        (opening = ['\x60'] ∧ closing = ['\x60'])) := by
  cases inTemplate <;> simpa [isPair] using pair

theorem pair_closes (inTemplate : Bool) (opening closing : Token)
    (pair : isPair inTemplate opening.text closing.text = true) :
    opening.closedBy closing = true := by
  rcases pair_cases _ _ _ pair with ⟨-, first, last⟩ | ⟨-, ⟨first, last⟩ | ⟨first, last⟩ |
    ⟨first, last⟩ | ⟨first, last⟩⟩ <;> simp [Token.closedBy, first, last]

-- Between a pair the reading is in a template exactly when the pair says so, and behind it the
-- reading is where it was before.
theorem pair_frames (frames : List Frame) (opening closing : Token)
    (opens : opening.kind = .opening) (closes : closing.kind = .closing)
    (pair : isPair (isInTemplate frames) opening.text closing.text = true) :
    ∃ within, isInTemplate within = opensTemplate opening ∧
      (∀ value, Reading.after ⟨frames, value⟩ opening.kind opening.text =
        ⟨within, endsValue opening.kind opening.text⟩) ∧
      ∀ value, Reading.after ⟨within, value⟩ closing.kind closing.text =
        ⟨frames, endsValue closing.kind closing.text⟩ := by
  have cases_ := pair_cases _ _ _ pair
  refine ⟨Reading.framesAfter ⟨frames, false⟩ opening.kind opening.text, ?_, fun _ => rfl,
    fun value => congrArg (Reading.mk · _) ?_⟩
  · rw [opens]
    rcases cases_ with ⟨-, first, -⟩ | ⟨code, ⟨first, -⟩ | ⟨first, -⟩ | ⟨first, -⟩ | ⟨first, -⟩⟩ <;>
      simp_all [Reading.framesAfter, isInTemplate, opensTemplate]
  · rw [opens, closes]
    rcases cases_ with ⟨-, first, last⟩ | ⟨code, ⟨first, last⟩ | ⟨first, last⟩ | ⟨first, last⟩ |
      ⟨first, last⟩⟩ <;>
      simp_all [Reading.framesAfter, isInTemplate]

-- A plain token leaves the frames as they are.
theorem plain_frames (frames : List Frame) (value : Bool) (t : Token) (opens : t.kind ≠ .opening)
    (closes : t.kind ≠ .closing) :
    Reading.after ⟨frames, value⟩ t.kind t.text = ⟨frames, endsValue t.kind t.text⟩ :=
  congrArg (Reading.mk · _) (Reading.framesAfter.eq_3 ⟨frames, value⟩ t.kind t.text opens closes)

mutual

theorem item_cut : ∀ (item : Item) (next : List Char) (frames : List Frame) (value : Bool),
    item.Stands (isInTemplate frames) next → ∃ value', ∀ fuel,
      tokensFrom (fuel + item.tokens.length) ⟨frames, value⟩ (item.chars ++ next) =
        (item.settle next.length).tokens ++ tokensFrom fuel ⟨frames, value'⟩ next
  | .token t, next, frames, value, ⟨stands, opens, closes⟩ => by
      refine ⟨endsValue t.kind t.text, fun fuel => ?_⟩
      rw [← plain_frames frames value t opens closes]
      exact token_cut t next frames value fuel stands
  | .group opening items (some closing), next, frames, value,
      ⟨opens, closes, pair, first, inner, last⟩ => by
      obtain ⟨within, place, entered, left⟩ := pair_frames frames opening closing opens closes pair
      rw [← place] at inner last
      obtain ⟨value', between⟩ := items_cut items (closing.chars ++ next) within _ inner
      refine ⟨endsValue closing.kind closing.text, fun fuel => ?_⟩
      have size : fuel + (Item.group opening items (some closing)).tokens.length =
          fuel + 1 + (tokensOf items).length + 1 := by
        simp only [Item.tokens, Option.toList, List.length_cons, List.length_append,
          List.length_nil]
        omega
      rw [size, group_chars, List.append_assoc, List.append_assoc, closingChars,
        token_cut opening _ frames value _ first, entered, between,
        token_cut closing next within value' fuel last, left]
      simp [Item.settle, Item.tokens, closingChars, Nat.add_assoc]
  | .group _ _ none, _, _, _, impossible => impossible.elim

theorem items_cut : ∀ (items : List Item) (next : List Char) (frames : List Frame) (value : Bool),
    StandAll (isInTemplate frames) items next → ∃ value', ∀ fuel,
      tokensFrom (fuel + (tokensOf items).length) ⟨frames, value⟩ (charsOf items ++ next) =
        tokensOf (settleAll next.length items) ++ tokensFrom fuel ⟨frames, value'⟩ next
  | [], _, _, value, _ => ⟨value, fun _ => rfl⟩
  | item :: rest, next, frames, value, ⟨own, later⟩ => by
      obtain ⟨between, first⟩ := item_cut item (charsOf rest ++ next) frames value own
      obtain ⟨after, second⟩ := items_cut rest next frames between later
      refine ⟨after, fun fuel => ?_⟩
      rw [charsOf, List.append_assoc, tokensOf, List.length_append,
        Nat.add_comm item.tokens.length, ← Nat.add_assoc, first, second, settleAll, tokensOf]
      simp

end

theorem step_opening (g : Grouping) (t : Token) (opens : t.kind = .opening) :
    g.step t = ⟨(t, g.items) :: g.open_, []⟩ := by
  simp only [Grouping.step, opens]

theorem step_closing (opening t : Token) (before items : List Item)
    (others : List (Token × List Item)) (closes : t.kind = .closing)
    (closed : opening.closedBy t = true) :
    Grouping.step ⟨(opening, before) :: others, items⟩ t =
      ⟨others, .group opening items.reverse (some t) :: before⟩ := by
  simp only [Grouping.step, closes, closeWith?, closed, if_true, Option.getD_some]

theorem step_plain (g : Grouping) (t : Token) (opens : t.kind ≠ .opening)
    (closes : t.kind ≠ .closing) : g.step t = ⟨g.open_, .token t :: g.items⟩ := by
  rw [Grouping.step]
  split <;> first | rfl | contradiction

mutual

theorem item_grouped : ∀ (item : Item) (inTemplate : Bool) (next : List Char) (behind : Nat)
    (g : Grouping), item.Stands inTemplate next →
      (item.settle behind).tokens.foldl Grouping.step g =
        ⟨g.open_, item.settle behind :: g.items⟩
  | .token t, _, _, behind, g, ⟨_, opens, closes⟩ => step_plain g (t.settle behind) opens closes
  | .group opening items (some closing), inTemplate, next, behind, g,
      ⟨opens, closes, pair, _, inner, _⟩ => by
      have closed (n m : Nat) : (opening.settle n).closedBy (closing.settle m) = true :=
        pair_closes inTemplate opening closing pair
      rw [Item.settle, Item.tokens, List.foldl_cons, step_opening g (opening.settle _) opens,
        List.foldl_append, items_grouped items (opensTemplate opening) _ _ _ inner]
      simp only [Option.map_some, Option.toList_some, List.foldl_cons, List.foldl_nil,
        step_closing _ _ _ _ _ (show (closing.settle behind).kind = .closing from closes)
          (closed _ _), List.append_nil, List.reverse_reverse]
  | .group _ _ none, _, _, _, _, impossible => impossible.elim

theorem items_grouped : ∀ (items : List Item) (inTemplate : Bool) (next : List Char) (behind : Nat)
    (g : Grouping), StandAll inTemplate items next →
      (tokensOf (settleAll behind items)).foldl Grouping.step g =
        ⟨g.open_, (settleAll behind items).reverse ++ g.items⟩
  | [], _, _, _, _, _ => rfl
  | item :: rest, inTemplate, next, behind, g, ⟨own, later⟩ => by
      rw [settleAll, tokensOf, List.foldl_append, item_grouped item inTemplate _ _ g own,
        items_grouped rest inTemplate next behind _ later]
      simp

end

-- There are at most as many tokens as characters.
mutual

theorem item_tokens_length : ∀ (item : Item) (inTemplate : Bool) (next : List Char),
    item.Stands inTemplate next → item.tokens.length ≤ item.chars.length
  | .token t, inTemplate, next, ⟨stands, _, _⟩ => by
      have size := token_length t inTemplate next stands
      simpa [Item.tokens, Item.chars, Token.chars] using Nat.le_add_left_of_le size
  | .group opening items (some closing), inTemplate, next, ⟨_, _, _, first, inner, last⟩ => by
      have one := token_length opening inTemplate _ first
      have two := items_tokens_length items _ _ inner
      have three := token_length closing _ _ last
      simp only [Item.tokens, group_chars, closingChars, Token.chars, Option.toList,
        List.length_cons, List.length_append, List.length_nil]
      omega
  | .group _ _ none, _, _, impossible => impossible.elim

theorem items_tokens_length : ∀ (items : List Item) (inTemplate : Bool) (next : List Char),
    StandAll inTemplate items next → (tokensOf items).length ≤ (charsOf items).length
  | [], _, _, _ => Nat.le_refl 0
  | item :: rest, inTemplate, next, ⟨own, later⟩ => by
      have one := item_tokens_length item inTemplate _ own
      have two := items_tokens_length rest inTemplate next later
      simp only [tokensOf, charsOf, List.length_append]
      omega

end

theorem items_length_le : ∀ items : List Item, items.length ≤ (tokensOf items).length
  | [] => Nat.le_refl 0
  | item :: rest => by
      have own : 1 ≤ item.tokens.length := by
        cases item with
        | token t => exact Nat.le_refl 1
        | group opening items closing => exact Nat.succ_le_succ (Nat.zero_le _)
      have later := items_length_le rest
      simp only [tokensOf, List.length_append, List.length_cons]
      omega

theorem tokens_no_hash (text : List Char) (noHash : text.head? ≠ some '#') :
    tokens text = tokensFrom (text.length + 1) ⟨[], false⟩ text := by
  rw [tokens]
  rintro rest rfl
  exact noHash rfl

theorem tokens_of_text (items : List Item) (tail : List Char) (stands : StandAll false items tail)
    (ends : cutGap .blanks tail = (tail, []))
    (noHash : (charsOf items ++ tail).head? ≠ some '#') :
    tokens (charsOf items ++ tail) = tokensOf (settleAll tail.length items) := by
  obtain ⟨value, cut⟩ := items_cut items tail [] false stands
  have size := items_tokens_length items false tail stands
  obtain ⟨spare, enough⟩ : ∃ spare, (charsOf items ++ tail).length + 1 =
      spare + (tokensOf items).length :=
    ⟨_, (Nat.sub_add_cancel (by simp only [List.length_append]; omega)).symm⟩
  have last : tokensFrom spare ⟨[], value⟩ tail = [] := by
    cases spare with
    | zero => rfl
    | succ fuel => simp [tokensFrom, ends]
  rw [tokens_no_hash _ noHash, enough, cut, last, List.append_nil]

-- A text that is spelled by items, with nothing but a gap behind it, is read as these items.
theorem items_of_text (items : List Item) (tail : List Char) (stands : StandAll false items tail)
    (ends : cutGap .blanks tail = (tail, []))
    (noHash : (charsOf items ++ tail).head? ≠ some '#') :
    itemsOf (tokens (charsOf items ++ tail)) = settleAll tail.length items := by
  rw [tokens_of_text items tail stands ends noHash, itemsOf,
    items_grouped items false tail _ _ stands]
  simp [closeAll]

end ApiContract.Script
