import ApiContract.Proofs.Script.Grammar
import ApiContract.Script.Expression
import Mathlib.Data.Option.Basic

/-!
Types of the grammar are read as they are derived, whatever may come behind them, with as much fuel as
their tokens ask for.
-/

set_option autoImplicit false

namespace ApiContract.Script

theorem up_to_append (first rest : List Item) : upTo rest (first ++ rest) = first := by
  simp [upTo]

def size (items : List Item) : Nat :=
  (tokensOf items).length

@[simp] theorem size_nil : size [] = 0 := rfl

@[simp] theorem size_token (t : Token) (rest : List Item) :
    size (.token t :: rest) = size rest + 1 := rfl

@[simp] theorem size_group (opening closing : Token) (items rest : List Item) :
    size (.group opening items (some closing) :: rest) = size items + size rest + 2 := by
  simp only [size, tokensOf, Item.tokens, Option.toList_some, List.length_append, List.length_cons,
    List.length_nil]
  omega

@[simp] theorem size_append (first second : List Item) :
    size (first ++ second) = size first + size second := by
  induction first with
  | nil => simp
  | cons item rest ih =>
      simp only [size, List.cons_append, tokensOf, List.length_append] at ih ⊢
      omega

theorem length_le_size (items : List Item) : items.length ≤ size items :=
  items_length_le items

theorem sign_read (mark : String) (t : Token) (rest : List Item) (sign : t.isSign mark = true) :
    sign? mark (.token t :: rest) = some (t, rest) := by
  simp [sign?, sign]

theorem key_read (word : String) (t : Token) (rest : List Item) (key : t.isKey word = true) :
    key? word (.token t :: rest) = some (t, rest) := by
  simp [key?, key]

theorem plain_name_read (t : Token) (rest : List Item) (tight : t.isTight = true)
    (plain : t.isPlainName = true) : plainName? (.token t :: rest) = some (t, rest) := by
  simp [plainName?, tight, plain]

-- Two marks that are not the same are different signs.
theorem sign_other (mark other : String) (t : Token) (rest : List Item) (sign : t.isSign mark = true)
    (different : mark ≠ other) : sign? other (.token t :: rest) = none := by
  have text : t.text = mark.toList := by
    simp only [Token.isSign, Token.isMark, Bool.and_eq_true, beq_iff_eq] at sign
    exact sign.1.2
  have none_ : t.isSign other = false := by
    simp [Token.isSign, Token.isMark, text, String.toList_inj, different]
  simp [sign?, none_]

theorem key_none_of_sign (mark word : String) (t : Token) (rest : List Item)
    (sign : t.isSign mark = true) : key? word (.token t :: rest) = none := by
  have kind : t.kind = .mark := by
    simp only [Token.isSign, Token.isMark, Bool.and_eq_true, beq_iff_eq] at sign
    exact sign.1.1
  simp [key?, Token.isKey, Token.isWord, kind]

theorem sign_none_of_key (word mark : String) (t : Token) (rest : List Item)
    (key : t.isKey word = true) : sign? mark (.token t :: rest) = none := by
  have kind : t.kind = .word := by
    simp only [Token.isKey, Token.isWord, Bool.and_eq_true, beq_iff_eq] at key
    exact key.1.1
  simp [sign?, Token.isSign, Token.isMark, kind]

-- What a phrase of the grammar may end in front of.
def Ends : List Item → Prop
  | [] => True
  | .token t :: _ => t.isSign ";" = true ∨ t.isSign "," = true ∨ t.isSign ">" = true
  | .group opening _ _ :: _ => opening.text = ['\x7b']

theorem ends_sign (mark : String) (rest : List Item) (ends : Ends rest)
    (other : mark ≠ ";" ∧ mark ≠ "," ∧ mark ≠ ">") : sign? mark rest = none := by
  match rest, ends with
  | [], _ => rfl
  | .group .. :: _, _ => rfl
  | .token t :: others, ends =>
      obtain ⟨one, two, three⟩ := other
      rcases ends with sign | sign | sign
      · exact sign_other _ _ t others sign one.symm
      · exact sign_other _ _ t others sign two.symm
      · exact sign_other _ _ t others sign three.symm

theorem ends_key (word : String) (rest : List Item) (ends : Ends rest) : key? word rest = none := by
  match rest, ends with
  | [], _ => rfl
  | .group .. :: _, _ => rfl
  | .token t :: others, ends =>
      rcases ends with sign | sign | sign <;> exact key_none_of_sign _ _ t others sign

-- What the brackets behind a type end in front of.
def NoBrackets (rest : List Item) : Prop :=
  ∀ start n, parseBrackets start n rest = (n, rest)

theorem no_brackets_token (t : Token) (rest : List Item) : NoBrackets (.token t :: rest) :=
  fun _ _ => rfl

theorem ends_no_brackets (rest : List Item) (ends : Ends rest) : NoBrackets rest := by
  intro start n
  match rest, ends with
  | [], _ => rfl
  | .token t :: others, _ => rfl
  | .group opening items closing :: others, ends =>
      have brace : opening.text = ['\x7b'] := ends
      have noBracket : opening.isTightly "[" = false := by simp [Token.isTightly, brace]
      cases items with
      | cons => rw [parseBrackets]; simp
      | nil =>
          cases closing with
          | none => rw [parseBrackets]; simp
          | some closing => simp [parseBrackets, noBracket]

theorem types_some {form : TypeForm} {items : List Item} {nodes : List Node}
    (derived : TypeNodes form items nodes) : 0 < size items := by
  induction derived with
  | word | array | parens | generic => simp
  | single _ ih | last _ ih => exact ih
  | union | more =>
      rw [size_append, size_token]
      omega

-- How the items of a type are read: a primary one in front of its brackets, a whole one in front of
-- the bars of its union, and arguments between commas.
def ReadsType : TypeForm → List Item → List Node → Prop
  | .primary, items, nodes => ∃ n, nodes = [n] ∧ ∀ rest fuel, sign? "<" rest = none →
      4 * size items ≤ fuel + 2 →
        parsePrimaryType? fuel (items ++ rest) = some (parseBrackets (items ++ rest) n rest)
  | .whole, items, nodes => ∃ n, nodes = [n] ∧ ∀ rest, NoBrackets rest → sign? "<" rest = none →
      ∀ enough result,
        (∀ fuel, enough ≤ fuel → parseUnion? fuel (items ++ rest) n rest = result) →
          ∀ fuel, enough + 4 * size items ≤ fuel → parseType? fuel (items ++ rest) = result
  | .arguments, items, nodes => ∀ closing rest fuel count, Token.isSign closing ">" = true →
      4 * size items < fuel → items.length ≤ count →
        parseSeparated? (parseType? fuel) count (items ++ .token closing :: rest) =
          some (nodes, .token closing :: rest)

theorem type_whole_read (items : List Item) (n : Node) (reads : ReadsType .whole items [n])
    (rest : List Item) (fuel : Nat) (brackets : NoBrackets rest) (noAngle : sign? "<" rest = none)
    (noBar : sign? "|" rest = none) (enough : 4 * size items < fuel) :
    parseType? fuel (items ++ rest) = some (n, rest) := by
  obtain ⟨m, same, read⟩ := reads
  cases same
  refine read rest brackets noAngle 1 _ (fun more some_ => ?_) fuel (by omega)
  obtain ⟨less, rfl⟩ := Nat.exists_eq_add_of_le' some_
  simp [parseUnion?, noBar]

theorem types_read {form : TypeForm} {items : List Item} {nodes : List Node}
    (derived : TypeNodes form items nodes) : ReadsType form items nodes := by
  induction derived with
  | @word t n found =>
      refine ⟨n, rfl, fun rest fuel noAngle enough => ?_⟩
      obtain ⟨less, rfl⟩ : ∃ less, fuel = less + 1 + 1 := ⟨fuel - 2, by simp at enough; omega⟩
      simp [parsePrimaryType?, parseOneType?, noAngle, found]
  | @array items n opening closing element opens closes ih =>
      obtain ⟨m, same, read⟩ := ih
      cases same
      refine ⟨_, rfl, fun rest fuel noAngle enough => ?_⟩
      have taken := up_to_append (items ++ [.group opening [] (some closing)]) rest
      simp only [List.append_assoc, List.cons_append, List.nil_append] at taken ⊢
      rw [read _ fuel rfl (by simp at enough; omega), parseBrackets]
      simp [opens, closes, taken]
  | @parens items n opening closing inner between ih =>
      refine ⟨_, rfl, fun rest fuel noAngle enough => ?_⟩
      obtain ⟨less, rfl⟩ : ∃ less, fuel = less + 1 + 1 := ⟨fuel - 2, by simp at enough; omega⟩
      have read := type_whole_read items n ih [] less (fun _ _ => rfl) rfl rfl
        (by simp at enough; omega)
      rw [List.append_nil] at read
      simp [parsePrimaryType?, parseOneType?, between, read, allOf]
  | @generic items nodes name opening closing tight plain opens arguments closes ih =>
      refine ⟨_, rfl, fun rest fuel noAngle enough => ?_⟩
      obtain ⟨less, rfl⟩ : ∃ less, fuel = less + 1 + 1 := ⟨fuel - 2, by simp at enough; omega⟩
      have read := ih closing rest less (items.length + (rest.length + 1)) closes
        (by simp at enough; omega) (by omega)
      have taken := up_to_append (.token opening :: (items ++ [.token closing])) rest
      simp only [List.append_assoc, List.cons_append, List.nil_append] at taken ⊢
      simp [parsePrimaryType?, parseOneType?, sign_read _ _ _ opens, sign_read _ _ _ closes, tight,
        plain, read, taken]
  | @single items n only ih =>
      obtain ⟨m, same, read⟩ := ih
      cases same
      refine ⟨n, rfl, fun rest brackets noAngle least result onward fuel enough => ?_⟩
      have some_ := types_some only
      obtain ⟨less, rfl⟩ : ∃ less, fuel = less + 1 := ⟨fuel - 1, by omega⟩
      rw [parseType?, read rest less noAngle (by omega), brackets]
      exact onward less (by omega)
  | @union items others n m bar front between last one two =>
      obtain ⟨_, same, read⟩ := one
      cases same
      obtain ⟨_, same, readLast⟩ := two
      cases same
      refine ⟨_, rfl, fun rest brackets noAngle least result onward fuel enough => ?_⟩
      have some_ := types_some last
      have taken := up_to_append (items ++ .token bar :: others) rest
      simp only [List.append_assoc, List.cons_append, size_append, size_token] at taken onward enough ⊢
      refine read (.token bar :: (others ++ rest)) (no_brackets_token _ _)
        (sign_other _ _ _ _ between (by decide)) (least + 4 * size others) result ?_ fuel (by omega)
      intro more bound
      obtain ⟨less, rfl⟩ : ∃ less, more = less + 1 := ⟨more - 1, by omega⟩
      rw [parseUnion?, sign_read _ _ _ between]
      simp only [readLast rest less noAngle (by omega), brackets _ _, Option.bind_eq_bind,
        Option.bind_some, taken]
      exact onward less (by omega)
  | @last items n own ih =>
      intro closing rest fuel count closes enough bound
      have some_ := types_some own
      have nonempty : items.length ≠ 0 := by
        intro none_
        rw [List.length_eq_zero_iff.mp none_] at some_
        simp at some_
      obtain ⟨less, rfl⟩ : ∃ less, count = less + 1 := ⟨count - 1, by omega⟩
      have read := type_whole_read items n ih (.token closing :: rest) fuel
        (no_brackets_token _ _) (sign_other _ _ _ _ closes (by decide))
        (sign_other _ _ _ _ closes (by decide)) enough
      simp [parseSeparated?, read, sign_other _ _ _ _ closes (show ">" ≠ "," by decide)]
  | @more items others n comma nodes own between later one two =>
      intro closing rest fuel count closes enough bound
      simp only [size_append, size_token, List.length_append, List.length_cons] at enough bound
      obtain ⟨less, rfl⟩ : ∃ less, count = less + 1 := ⟨count - 1, by omega⟩
      have read := type_whole_read items n one (.token comma :: (others ++ .token closing :: rest))
        fuel (no_brackets_token _ _) (sign_other _ _ _ _ between (by decide))
        (sign_other _ _ _ _ between (by decide)) (by omega)
      have readLater := two closing rest fuel less closes (by omega) (by omega)
      simp only [List.append_assoc, List.cons_append]
      simp [parseSeparated?, read, sign_read _ _ _ between, readLater]

-- A whole type is read in front of what may end it.
theorem type_read {items : List Item} {n : Node} (derived : TypeNodes .whole items [n])
    (rest : List Item) (fuel : Nat) (ends : Ends rest) (enough : 4 * size items < fuel) :
    parseType? fuel (items ++ rest) = some (n, rest) :=
  type_whole_read items n (types_read derived) rest fuel (ends_no_brackets rest ends)
    (ends_sign _ _ ends (by decide)) (ends_sign _ _ ends (by decide)) enough

end ApiContract.Script
