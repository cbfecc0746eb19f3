import ApiContract.Proofs.Script.ReadTypes

/-!
Expressions of the grammar are read as they are derived, with as much fuel as their tokens ask for.
-/

set_option autoImplicit false

namespace ApiContract.Script

-- What the properties and calls behind a value end in front of.
def NoLinks (rest : List Item) : Prop :=
  ∀ arguments start n, parseLinks arguments start n rest = (n, rest)

theorem no_links_token (t : Token) (rest : List Item) (noDot : t.isSign "." = false) :
    NoLinks (.token t :: rest) := by
  intro arguments start n
  cases rest with
  | nil => rw [parseLinks] <;> simp
  | cons next others =>
      cases next with
      | token name => simp [parseLinks, noDot]
      | group => rw [parseLinks] <;> simp

theorem no_links_sign (mark : String) (t : Token) (rest : List Item) (sign : t.isSign mark = true)
    (other : mark ≠ ".") : NoLinks (.token t :: rest) := by
  refine no_links_token t rest ?_
  have none_ := sign_other mark "." t rest sign other
  simpa [sign?] using none_

theorem no_links_key (word : String) (t : Token) (rest : List Item) (key : t.isKey word = true) :
    NoLinks (.token t :: rest) := by
  refine no_links_token t rest ?_
  have none_ := sign_none_of_key word "." t rest key
  simpa [sign?] using none_

theorem ends_no_links (rest : List Item) (ends : Ends rest) : NoLinks rest := by
  match rest, ends with
  | [], _ => exact fun _ _ _ => rfl
  | .token t :: others, ends =>
      rcases ends with sign | sign | sign <;> exact no_links_sign _ t others sign (by decide)
  | .group opening items closing :: others, ends =>
      intro arguments start n
      have brace : opening.text = ['\x7b'] := ends
      have noParen (closing : Token) : isParens opening closing = false := by
        simp [isParens, Token.isTightly, brace]
      cases closing with
      | none => rw [parseLinks] <;> simp
      | some closing => simp [parseLinks, noParen]

theorem starts_tight_append (items rest : List Item) (nonempty : items ≠ []) :
    startsTight (items ++ rest) = startsTight items := by
  obtain ⟨item, others, rfl⟩ := List.exists_cons_of_ne_nil nonempty
  rfl

theorem in_line_read (read : List Item → Option (Node × List Item)) (items rest : List Item)
    (nonempty : items ≠ []) (tight : startsTight items = true) :
    inLine read (items ++ rest) = read (items ++ rest) := by
  rw [inLine, starts_tight_append items rest nonempty, if_pos tight]

theorem no_word_of_name (t : Token) (word : String) (named : t.isName = true)
    (reserved : Name.isReservedWord word = true) : t.isWord word = false := by
  simp only [Token.isName, Bool.and_eq_true, Bool.not_eq_true'] at named
  rw [Token.isWord, Bool.and_eq_false_iff]
  right
  rw [beq_eq_false_iff_ne]
  intro same
  rw [same, String.ofList_toList, reserved] at named
  exact absurd named.2 (by simp)

theorem plain_is_name (t : Token) (plain : t.isPlainName = true) : t.isName = true := by
  simp only [Token.isPlainName, Token.isName, isKeyword, Bool.and_eq_true, Bool.not_eq_true',
    Bool.or_eq_false_iff] at plain ⊢
  exact ⟨plain.1, plain.2.1⟩

-- Nothing that stands in front of a value.
structure IsOperand (t : Token) : Prop where
  no_await : t.isWord "await" = false
  no_new : t.isWord "new" = false
  no_not : t.isMark "!" = false

theorem name_operand (t : Token) (named : t.isName = true) : IsOperand t where
  no_await := no_word_of_name t _ named (by decide)
  no_new := no_word_of_name t _ named (by decide)
  no_not := by
    have kind : t.kind = .word := by
      simp only [Token.isName, Bool.and_eq_true, beq_iff_eq] at named
      exact named.1.1
    simp [Token.isMark, kind]

theorem operand_starts (t : Token) (n : Node) (found : operand? t = some n) : IsOperand t := by
  rw [operand?] at found
  split_ifs at found with this_ quoted plain
  · simp only [Token.isWord, Bool.and_eq_true, beq_iff_eq] at this_
    constructor <;> simp +decide [Token.isWord, Token.isMark, this_]
  · simp only [Token.isPlainString, Bool.and_eq_true, beq_iff_eq] at quoted
    constructor <;> simp [Token.isWord, Token.isMark, quoted.1]
  · exact name_operand t (plain_is_name t plain)

theorem operand_name (t : Token) (n : Node) (named : t.isName = true)
    (found : operand? t = some n) : n = t.nameNode := by
  have noThis := no_word_of_name t "this" named (by decide)
  simp only [Token.isName, Bool.and_eq_true, beq_iff_eq] at named
  have noString : t.isPlainString = false := by simp [Token.isPlainString, named.1.1]
  have plain : t.isPlainName = true ∧ t.nameNode = n := by
    simpa [operand?, noThis, noString] using found
  exact plain.2.symm

theorem unary_of_operand (t : Token) (operand : IsOperand t) (rest : List Item) (fuel : Nat) :
    parseUnary? (fuel + 1) (.token t :: rest) = parseChain? fuel (.token t :: rest) := by
  simp [parseUnary?, operand.no_await, operand.no_new, operand.no_not]

theorem unary_of_group (opening : Token) (items rest : List Item) (closing : Option Token)
    (fuel : Nat) : parseUnary? (fuel + 1) (.group opening items closing :: rest) =
      parseChain? fuel (.group opening items closing :: rest) := by
  rw [parseUnary?]
  simp

theorem parens_text (opening closing : Token) (parens : isParens opening closing = true) :
    opening.text = "(".toList ∧ closing.isTightly ")" = true := by
  obtain ⟨opens, closes⟩ := Bool.and_eq_true_iff.mp parens
  exact ⟨beq_iff_eq.mp (Bool.and_eq_true_iff.mp opens).1, closes⟩

-- The entries between the brackets of arguments or of an object, each read with so much fuel.
def entryReader (pairs : Bool) (fuel : Nat) : List Item → Option (Node × List Item) :=
  if pairs then parsePair? fuel else inLine (parseExpression? fuel)

-- How the items of an expression are read: a primary one in front of its properties and calls,
-- anything else in front of what ends it.
def ReadsValue : ValueForm → List Item → List Node → Prop
  | .primary, items, nodes => ∃ n, nodes = [n] ∧
      (∀ rest fuel, parseUnary? (fuel + 1) (items ++ rest) = parseChain? fuel (items ++ rest)) ∧
      ∀ rest fuel, 8 * size items ≤ fuel + 7 → parseChain? (fuel + 1) (items ++ rest) =
        some (parseLinks (parseInside? (inLine (parseExpression? fuel))) (items ++ rest) n rest)
  | .unary, items, nodes => ∃ n, nodes = [n] ∧ ∀ rest fuel, NoLinks rest →
      8 * size items ≤ fuel + 5 → parseUnary? fuel (items ++ rest) = some (n, rest)
  | .whole, items, nodes => ∃ n, nodes = [n] ∧ ∀ rest fuel, Ends rest →
      8 * size items ≤ fuel + 4 → parseExpression? fuel (items ++ rest) = some (n, rest)
  | .pair, items, nodes => ∃ n, nodes = [n] ∧ ∀ rest fuel, Ends rest →
      8 * size items ≤ fuel + 4 → parsePair? fuel (items ++ rest) = some (n, rest)
  | .entries pairs, items, nodes => ∀ fuel count, 8 * size items ≤ fuel + 4 →
      items.length ≤ count → parseSeparated? (entryReader pairs fuel) count items = some (nodes, [])
  | .inside pairs, items, nodes => ∀ fuel, 8 * size items ≤ fuel + 4 →
      parseInside? (entryReader pairs fuel) items = some nodes
  | .pieces, items, nodes => ∀ fuel, 8 * size items + 4 ≤ fuel →
      parsePieces? fuel items = some nodes

def ValueForm.hasItems : ValueForm → Bool
  | .inside _ | .pieces => false
  | _ => true

theorem values_some {form : ValueForm} {items : List Item} {nodes : List Node}
    (derived : ValueNodes form items nodes) (some_ : form.hasItems = true) : items ≠ [] := by
  induction derived with
  | chain _ ih | single _ ih => exact ih rfl
  | @last pairs _ _ _ _ ih => exact ih (by cases pairs <;> rfl)
  | noEntries | someEntries | noPieces | chars | hole => cases some_
  | _ => simp

theorem value_some {form : ValueForm} {items : List Item} {nodes : List Node}
    (derived : ValueNodes form items nodes) (some_ : form.hasItems = true) : 0 < size items := by
  have length := length_le_size items
  have nonempty := List.length_pos_of_ne_nil (values_some derived some_)
  omega

section InLine

variable {items : List Item} {n : Node} (tight : startsTight items = true) (rest : List Item)
  (fuel : Nat)

include tight

theorem unary_in_line (derived : ValueNodes .unary items [n]) (reads : ReadsValue .unary items [n])
    (noLinks : NoLinks rest) (enough : 8 * size items ≤ fuel + 5) :
    inLine (parseUnary? fuel) (items ++ rest) = some (n, rest) := by
  obtain ⟨m, same, read⟩ := reads
  cases same
  rw [in_line_read _ items rest (values_some derived rfl) tight, read rest fuel noLinks enough]

theorem whole_in_line (derived : ValueNodes .whole items [n]) (reads : ReadsValue .whole items [n])
    (ends : Ends rest) (enough : 8 * size items ≤ fuel + 4) :
    inLine (parseExpression? fuel) (items ++ rest) = some (n, rest) := by
  obtain ⟨m, same, read⟩ := reads
  cases same
  rw [in_line_read _ items rest (values_some derived rfl) tight, read rest fuel ends enough]

theorem whole_alone (derived : ValueNodes .whole items [n]) (reads : ReadsValue .whole items [n])
    (enough : 8 * size items ≤ fuel + 4) :
    allOf (inLine (parseExpression? fuel) items) = some n := by
  have read := whole_in_line tight [] fuel derived reads trivial enough
  rw [List.append_nil] at read
  rw [read, allOf]

end InLine

-- One entry is read in front of what ends it.
theorem entry_read {pairs : Bool} {items : List Item} {n : Node}
    (derived : ValueNodes (.entry pairs) items [n]) (tight : startsTight items = true)
    (reads : ReadsValue (.entry pairs) items [n]) (rest : List Item) (fuel : Nat) (ends : Ends rest)
    (enough : 8 * size items ≤ fuel + 4) :
    entryReader pairs fuel (items ++ rest) = some (n, rest) := by
  cases pairs with
  | true =>
      obtain ⟨m, same, read⟩ := reads
      cases same
      exact read rest fuel ends enough
  | false => exact whole_in_line tight rest fuel derived reads ends enough

-- A group in parentheses is read whole, by itself.
theorem parens_read (opening closing : Token) (items : List Item) (n : Node)
    (opens : opening.text = "(".toList) (closes : closing.isTightly ")" = true)
    (starts : startsTight items = true) (derived : ValueNodes .whole items [n])
    (reads : ReadsValue .whole items [n]) (fuel : Nat) (enough : 8 * size items ≤ fuel + 4) :
    parseGroup? (fuel + 1) opening items closing =
      some (nodeOf "parenthesized_expression" [.group opening items (some closing)]
        (enclosed opening [n] closing)) := by
  simp +decide [parseGroup?, opens, closes, whole_alone starts fuel derived reads enough]

-- A group is a primary expression when it is read as one by itself.
theorem group_read {items : List Item} {n : Node} {opening closing : Token}
    (reads : ∀ fuel, 8 * size items + 4 ≤ fuel →
      parseGroup? (fuel + 1) opening items closing = some n) :
    ReadsValue .primary [.group opening items (some closing)] [n] := by
  refine ⟨n, rfl, fun rest fuel => unary_of_group _ _ _ _ _, fun rest fuel enough => ?_⟩
  simp only [size_group, size_nil] at enough
  obtain ⟨less, rfl⟩ : ∃ less, fuel = less + 1 := ⟨fuel - 1, by omega⟩
  simp [parseChain?, reads less (by omega)]

-- One more property or call behind a primary expression.
theorem linked_read {items more : List Item} {n linked : Node}
    (front : ReadsValue .primary items [n])
    (goes : ∀ rest fuel, 8 * size more ≤ fuel + 7 →
      parseLinks (parseInside? (inLine (parseExpression? fuel))) (items ++ more ++ rest) n
          (more ++ rest) =
        parseLinks (parseInside? (inLine (parseExpression? fuel))) (items ++ more ++ rest) linked
          rest) :
    ReadsValue .primary (items ++ more) [linked] := by
  obtain ⟨m, same, unary, read⟩ := front
  cases same
  refine ⟨_, rfl, fun rest fuel => ?_, fun rest fuel enough => ?_⟩
  · rw [List.append_assoc]
    exact unary _ fuel
  · rw [size_append] at enough
    rw [← goes rest fuel (by omega), List.append_assoc]
    exact read _ fuel (by omega)

theorem values_read {form : ValueForm} {items : List Item} {nodes : List Node}
    (derived : ValueNodes form items nodes) : ReadsValue form items nodes := by
  induction derived with
  | @operand t n found =>
      refine ⟨n, rfl, fun rest fuel => unary_of_operand t (operand_starts t n found) rest fuel,
        fun rest fuel enough => ?_⟩
      simp [parseChain?, found]
  | @template items nodes opening closing opens closes inner ih =>
      refine group_read fun fuel enough => ?_
      simp [parseGroup?, opens, ih fuel enough]
  | @parens items n opening closing opens closes starts inner ih =>
      exact group_read fun fuel enough =>
        parens_read opening closing items n opens closes starts inner ih fuel (by omega)
  | @object items nodes opening closing opens closes inner ih =>
      refine group_read fun fuel enough => ?_
      have read : parseInside? (parsePair? fuel) items = some nodes := ih fuel (by omega)
      simp +decide [parseGroup?, opens, closes, read]
  | @member items n dot name front between tight plain ih =>
      refine linked_read ih fun rest fuel _ => ?_
      rw [List.cons_append, List.singleton_append, parseLinks, up_to_append]
      simp [between, tight, plain]
  | @call items inner n nodes opening closing front between arguments one two =>
      refine linked_read one fun rest fuel enough => ?_
      simp only [size_group, size_nil] at enough
      have args : parseInside? (inLine (parseExpression? fuel)) inner = some nodes :=
        two fuel (by omega)
      rw [List.singleton_append, parseLinks, up_to_append]
      simp [between, args]
  | @chain items n all ih =>
      obtain ⟨m, same, unary, read⟩ := ih
      cases same
      refine ⟨n, rfl, fun rest fuel noLinks enough => ?_⟩
      have some_ := value_some all rfl
      obtain ⟨less, rfl⟩ : ∃ less, fuel = less + 1 + 1 := ⟨fuel - 2, by omega⟩
      rw [unary, read rest less (by omega), noLinks]
  | @await t items n starts tight value ih =>
      refine ⟨_, rfl, fun rest fuel noLinks enough => ?_⟩
      simp only [size_token] at enough
      obtain ⟨less, rfl⟩ : ∃ less, fuel = less + 1 := ⟨fuel - 1, by omega⟩
      have inner := unary_in_line tight rest less value ih noLinks (by omega)
      simp [parseUnary?, starts, inner, up_to_append]
  | @not t items n starts tight value ih =>
      refine ⟨_, rfl, fun rest fuel noLinks enough => ?_⟩
      simp only [size_token] at enough
      obtain ⟨less, rfl⟩ : ∃ less, fuel = less + 1 := ⟨fuel - 1, by omega⟩
      have inner := unary_in_line tight rest less value ih noLinks (by omega)
      have noAwait : t.isWord "await" = false := by
        simp only [Token.isMark, Bool.and_eq_true, beq_iff_eq] at starts
        simp [Token.isWord, starts.1]
      simp [parseUnary?, starts, noAwait, inner, up_to_append]
  | @new t name opening closing inner nodes starts tight plain between arguments ih =>
      refine ⟨_, rfl, fun rest fuel noLinks enough => ?_⟩
      simp only [size_token, size_group, size_nil] at enough
      obtain ⟨less, rfl⟩ : ∃ less, fuel = less + 1 := ⟨fuel - 1, by omega⟩
      have args : parseInside? (inLine (parseExpression? less)) inner = some nodes :=
        ih less (by omega)
      have taken := up_to_append [.token name, .group opening inner (some closing)] rest
      simp only [List.cons_append, List.nil_append] at taken
      simp only [Token.isWord, Bool.and_eq_true, beq_iff_eq] at starts
      have noOther : t.isWord "await" = false ∧ t.isMark "!" = false := by
        simp +decide [Token.isWord, Token.isMark, starts]
      simp [parseUnary?, Token.isWord, starts, noOther, plain_name_read, tight, plain, between, args,
        taken]
  | @single items n only ih =>
      obtain ⟨m, same, read⟩ := ih
      cases same
      refine ⟨n, rfl, fun rest fuel ends enough => ?_⟩
      have some_ := value_some only rfl
      obtain ⟨less, rfl⟩ : ∃ less, fuel = less + 1 := ⟨fuel - 1, by omega⟩
      simp [parseExpression?, read rest less (ends_no_links rest ends) (by omega),
        ends_key _ rest ends, ends_sign "=" rest ends (by decide)]
  | @bare t named =>
      refine ⟨_, rfl, fun rest fuel ends enough => ?_⟩
      simp only [size_token, size_nil] at enough
      obtain ⟨less, rfl⟩ : ∃ less, fuel = less + 1 + 1 + 1 := ⟨fuel - 3, by omega⟩
      have chain : parseChain? (less + 1) (.token t :: rest) = some (t.nameNode, rest) := by
        cases found : operand? t with
        | none => simp [parseChain?, found, named]
        | some n =>
            simp [parseChain?, found, operand_name t n named found, ends_no_links rest ends _ _ _]
      simp [parseExpression?, unary_of_operand t (name_operand t named), chain, ends_key _ rest ends,
        ends_sign "=" rest ends (by decide)]
  | @cast items others n type as value between typed ih =>
      obtain ⟨m, same, read⟩ := ih
      cases same
      refine ⟨_, rfl, fun rest fuel ends enough => ?_⟩
      simp only [size_append, size_token] at enough
      have some_ := value_some value rfl
      obtain ⟨less, rfl⟩ : ∃ less, fuel = less + 1 := ⟨fuel - 1, by omega⟩
      have taken := up_to_append (items ++ .token as :: others) rest
      simp only [List.append_assoc, List.cons_append] at taken ⊢
      simp [parseExpression?, read _ less (no_links_key _ as _ between) (by omega),
        key_read _ as _ between, type_read typed rest less ends (by omega), taken]
  | @assignment items others n value sign place property between tight given one two =>
      obtain ⟨m, same, read⟩ := one
      cases same
      refine ⟨_, rfl, fun rest fuel ends enough => ?_⟩
      simp only [size_append, size_token] at enough
      obtain ⟨less, rfl⟩ : ∃ less, fuel = less + 1 := ⟨fuel - 1, by omega⟩
      have taken := up_to_append (items ++ .token sign :: others) rest
      have inner := whole_in_line tight rest less given two ends (by omega)
      simp only [List.append_assoc, List.cons_append] at taken ⊢
      simp [parseExpression?, read _ less (no_links_sign _ sign _ between (by decide)) (by omega),
        key_none_of_sign _ _ sign _ between, sign_read _ sign _ between, property, inner, taken]
  | @pair name colon items key n keyed between tight value ih =>
      refine ⟨_, rfl, fun rest fuel ends enough => ?_⟩
      simp only [size_token] at enough
      obtain ⟨less, rfl⟩ : ∃ less, fuel = less + 1 := ⟨fuel - 1, by omega⟩
      have taken := up_to_append (.token colon :: items) rest
      have inner := whole_in_line tight rest less value ih ends (by omega)
      simp only [List.cons_append] at taken ⊢
      simp [parsePair?, keyed, sign_read _ colon _ between, inner, taken]
  | @last pairs items n tight own ih =>
      intro fuel count enough bound
      have nonempty := List.length_pos_of_ne_nil (values_some own (by cases pairs <;> rfl))
      obtain ⟨less, rfl⟩ : ∃ less, count = less + 1 := ⟨count - 1, by omega⟩
      have read := entry_read own tight ih [] fuel trivial enough
      rw [List.append_nil] at read
      simp [parseSeparated?, read, sign?]
  | @more pairs items others n comma nodes tight own between later one two =>
      intro fuel count enough bound
      simp only [size_append, size_token, List.length_append, List.length_cons] at enough bound
      obtain ⟨less, rfl⟩ : ∃ less, count = less + 1 := ⟨count - 1, by omega⟩
      have read := entry_read own tight one (.token comma :: others) fuel (.inr (.inl between))
        (by omega)
      simp [parseSeparated?, read, sign_read _ comma _ between, two fuel less (by omega) (by omega)]
  | noEntries => exact fun _ _ => rfl
  | @someEntries pairs items nodes all ih =>
      intro fuel enough
      have nonempty : items.isEmpty = false := by
        simpa using values_some all rfl
      simp [parseInside?, nonempty, ih fuel items.length enough (Nat.le_refl _), allOf]
  | noPieces =>
      intro fuel enough
      obtain ⟨less, rfl⟩ : ∃ less, fuel = less + 1 := ⟨fuel - 1, by omega⟩
      rfl
  | @chars t rest nodes means later ih =>
      intro fuel enough
      simp only [size_token] at enough
      obtain ⟨less, rfl⟩ : ∃ less, fuel = less + 1 := ⟨fuel - 1, by omega⟩
      simp [parsePieces?, means, ih less (by omega)]
  | @hole opening closing items rest n nodes opens closes starts inner later one two =>
      intro fuel enough
      simp only [size_group] at enough
      obtain ⟨less, rfl⟩ : ∃ less, fuel = less + 1 := ⟨fuel - 1, by omega⟩
      have own := whole_alone starts less inner one (by omega)
      simp [parsePieces?, opens, closes, own, two less (by omega)]

end ApiContract.Script
