import ApiContract.Proofs.Script.Grammar

/-!
What holds of every syntax tree of the grammar: there are no errors in it, and a type spells the items
that it is derived from.
-/

set_option autoImplicit false

namespace ApiContract.Script

namespace Node

variable (n : Node) (field : String)

@[simp] theorem as_field : (n.as field).field = some field := rfl

@[simp] theorem as_kind : (n.as field).kind = n.kind := rfl

@[simp] theorem as_named : (n.as field).named = n.named := rfl

@[simp] theorem as_text : (n.as field).text = n.text := rfl

@[simp] theorem as_children : (n.as field).children = n.children := rfl

theorem has_error_eq :
    n.hasError = (n.kind == "ERROR" || n.missing || anyError n.children) := by
  cases n
  rfl

@[simp] theorem as_has_error : (n.as field).hasError = n.hasError := by
  rw [has_error_eq, has_error_eq n]
  rfl

@[simp] theorem any_error_nil : anyError [] = false := rfl

@[simp] theorem any_error_cons (rest : List Node) :
    anyError (n :: rest) = (n.hasError || anyError rest) := rfl

@[simp] theorem any_error_append (first second : List Node) :
    anyError (first ++ second) = (anyError first || anyError second) := by
  induction first with
  | nil => rfl
  | cons m rest ih => simp [ih, Bool.or_assoc]

end Node

open Node

section Built

variable (t : Token) (kind : String) (items : List Item) (children : List Node)

@[simp] theorem node_of_kind : (nodeOf kind items children).kind = kind := rfl

@[simp] theorem node_of_named : (nodeOf kind items children).named = true := rfl

@[simp] theorem node_of_text : (nodeOf kind items children).text = spelled items := rfl

@[simp] theorem node_of_children : (nodeOf kind items children).children = children := rfl

@[simp] theorem node_of_has_error :
    (nodeOf kind items children).hasError = (kind == "ERROR" || anyError children) := by
  rw [has_error_eq]
  simp [nodeOf]

@[simp] theorem leaf_field : (t.leaf kind).field = none := rfl

@[simp] theorem leaf_kind : (t.leaf kind).kind = kind := rfl

@[simp] theorem leaf_named : (t.leaf kind).named = true := rfl

@[simp] theorem leaf_text : (t.leaf kind).text = t.text := rfl

@[simp] theorem leaf_children : (t.leaf kind).children = [] := rfl

@[simp] theorem leaf_has_error : (t.leaf kind).hasError = (kind == "ERROR") := by
  rw [has_error_eq]
  simp [Token.leaf]

@[simp] theorem string_text : t.stringNode.text = t.text := rfl

@[simp] theorem plain_field : t.plain.field = none := rfl

@[simp] theorem plain_named : t.plain.named = false := rfl

@[simp] theorem plain_kind : t.plain.kind = String.ofList t.text := rfl

@[simp] theorem spelled_token (rest : List Item) :
    spelled (.token t :: rest) = t.text ++ charsOf rest := by
  simp [spelled, Item.chars, Token.chars, Item.first]

@[simp] theorem comments_fine (behind : Nat) (comments : List (List Char × Nat)) :
    anyError (commentsAt behind comments) = false := by
  induction comments with
  | nil => rfl
  | cons comment rest ih =>
      rw [commentsAt] at ih
      rw [commentsAt, List.map_cons, any_error_cons, ih, has_error_eq]
      rfl

end Built

-- A token that stands for itself is no error, as no word or sign of the language is called one.
theorem plain_error (t : Token) (text : String) (same : t.text = text.toList) :
    t.plain.hasError = (text == "ERROR") := by
  rw [has_error_eq, plain_kind, same, String.ofList_toList]
  simp [Token.plain]

theorem sign_error {mark : String} (t : Token) (sign : t.isSign mark = true) :
    t.plain.hasError = (mark == "ERROR") := by
  simp only [Token.isSign, Token.isMark, Bool.and_eq_true, beq_iff_eq] at sign
  exact plain_error t mark sign.1.2

theorem word_error {word : String} (t : Token) (same : t.isWord word = true) :
    t.plain.hasError = (word == "ERROR") := by
  simp only [Token.isWord, Bool.and_eq_true, beq_iff_eq] at same
  exact plain_error t word same.2

theorem key_error {word : String} (t : Token) (key : t.isKey word = true) :
    t.plain.hasError = (word == "ERROR") :=
  word_error t (Bool.and_eq_true_iff.mp key).1

theorem tightly_error {bracket : String} (t : Token) (own : t.isTightly bracket = true) :
    t.plain.hasError = (bracket == "ERROR") := by
  simp only [Token.isTightly, Bool.and_eq_true, beq_iff_eq] at own
  exact plain_error t bracket own.1

theorem parens_fine {opening closing : Token} (parens : isParens opening closing = true) :
    opening.plain.hasError = false ∧ closing.plain.hasError = false := by
  obtain ⟨opens, closes⟩ := Bool.and_eq_true_iff.mp parens
  simp [tightly_error opening opens, tightly_error closing closes]

theorem braces_fine {opening closing : Token} (braces : isBraces opening closing = true) :
    opening.plain.hasError = false ∧ closing.plain.hasError = false := by
  simp only [isBraces, Bool.and_eq_true, beq_iff_eq] at braces
  simp [tightly_error opening braces.1.1, plain_error closing _ braces.1.2]

@[simp] theorem string_fine (t : Token) : t.stringNode.hasError = false := by
  rw [has_error_eq]
  cases empty : t.fragment.isEmpty <;>
    simp [Token.stringNode, empty, Token.quoteNode, has_error_eq]

@[simp] theorem name_fine (t : Token) : t.nameNode.hasError = false := by
  rw [Token.nameNode, leaf_has_error]
  split <;> rfl

@[simp] theorem enclosed_fine (opening closing : Token) (nodes : List Node) :
    anyError (enclosed opening nodes closing) =
      (opening.plain.hasError || (anyError nodes || closing.plain.hasError)) := by
  simp [enclosed]

theorem type_name_fine (t : Token) (n : Node) (found : typeName? t = some n) :
    n.hasError = false := by
  rw [typeName?] at found
  split_ifs at found with tight listed null_ quoted plain <;> cases found
  · obtain ⟨word, member, same⟩ := List.any_eq_true.mp listed
    have noError : ∀ word ∈ predefinedTypes, (word == "ERROR") = false := by decide
    simp [word_error t same, noError word member]
  · simp
  · simp
  · simp

theorem operand_fine (t : Token) (n : Node) (found : operand? t = some n) : n.hasError = false := by
  rw [operand?] at found
  split_ifs at found <;> cases found <;> simp

theorem key_node_fine (t : Token) (n : Node) (found : keyNode? t = some n) :
    n.hasError = false := by
  rw [keyNode?] at found
  split_ifs at found <;> cases found <;> simp

theorem types_fine {form : TypeForm} {items : List Item} {nodes : List Node}
    (derived : TypeNodes form items nodes) : anyError nodes = false := by
  induction derived with
  | word found => simp [type_name_fine _ _ found]
  | array element opens closes ih =>
      simp_all [tightly_error _ opens, tightly_error _ closes]
  | parens inner between ih => simp_all [parens_fine between]
  | generic tight plain opens arguments closes ih =>
      simp [sign_error _ opens, sign_error _ closes, ih]
  | single only ih => exact ih
  | union front between last one two => simp_all [sign_error _ between]
  | last own ih => exact ih
  | more own between later one two => simp_all [sign_error _ between]

theorem values_fine {form : ValueForm} {items : List Item} {nodes : List Node}
    (derived : ValueNodes form items nodes) : anyError nodes = false := by
  induction derived with
  | operand found => simp [operand_fine _ _ found]
  | template opens closes inner ih =>
      simp [plain_error _ _ opens, plain_error _ _ closes, ih]
  | parens opens closes starts inner ih =>
      simp_all [plain_error _ _ opens, tightly_error _ closes]
  | object opens closes inner ih =>
      simp [plain_error _ _ opens, tightly_error _ closes, ih]
  | member front between tight plain ih => simp_all [memberNode, sign_error _ between]
  | call front between arguments one two => simp_all [callNode, parens_fine between]
  | chain all ih | single only ih | last tight own ih | someEntries all ih => exact ih
  | await starts tight value ih => simp_all [word_error _ starts]
  | @not t items n starts tight value ih =>
      simp only [Token.isMark, Bool.and_eq_true, beq_iff_eq] at starts
      simp_all [plain_error t _ starts.2]
  | new starts tight plain between arguments ih =>
      simp [word_error _ starts, parens_fine between, ih]
  | bare named => simp
  | cast value between typed ih => simp_all [key_error _ between, types_fine typed]
  | assignment place property between tight given one two => simp_all [sign_error _ between]
  | pair keyed between tight value ih => simp_all [key_node_fine _ _ keyed, sign_error _ between]
  | more tight own between later one two => simp_all [sign_error _ between]
  | noEntries | noPieces => rfl
  | chars means later ih => simp [ih]
  | hole opens closes starts inner later one two =>
      simp_all [plain_error _ _ opens, tightly_error _ closes]

theorem statements_fine {form : StatementForm} {items : List Item} {nodes : List Node}
    (derived : StatementNodes form items nodes) : anyError nodes = false := by
  induction derived with
  | const starts tight plain between onward given ends =>
      have value := values_fine given
      simp_all [word_error _ starts, sign_error _ between, sign_error _ ends]
  | throw starts onward given ends | return_ starts onward given ends =>
      have value := values_fine given
      simp_all [word_error _ starts, sign_error _ ends]
  | branch starts parens onward asked braces inner ih =>
      have condition := values_fine asked
      simp_all [word_error _ starts, parens_fine parens, braces_fine braces]
  | expression starts given ends =>
      have value := values_fine given
      simp_all [sign_error _ ends]
  | none => rfl
  | next gap own later one two => simp [one, two]

theorem separated_fine (phrase : List Item → Node → Prop)
    (each : ∀ items n, phrase items n → n.hasError = false) {items : List Item} {nodes : List Node}
    (derived : Separated phrase items nodes) : anyError nodes = false := by
  induction derived with
  | last own => simp [each _ _ own]
  | more own between later ih => simp [each _ _ own, sign_error _ between, ih]

theorem listed_fine (phrase : List Item → Node → Prop)
    (each : ∀ items n, phrase items n → n.hasError = false) {items : List Item} {nodes : List Node}
    (derived : Listed phrase items nodes) : anyError nodes = false := by
  cases derived with
  | none => rfl
  | some all => exact separated_fine phrase each all

theorem rows_fine (row : List Item → List Node → Prop)
    (each : ∀ items nodes, row items nodes → anyError nodes = false) {items : List Item}
    {nodes : List Node} (derived : Rows row items nodes) : anyError nodes = false := by
  induction derived with
  | none => rfl
  | next gap own later ih => simp [each _ _ own, ih]

theorem annotation_fine (items : List Item) (n : Node) (derived : AnnotationNode items n) :
    n.hasError = false := by
  cases derived with
  | mk starts typed =>
      have type := types_fine typed
      simp_all [sign_error _ starts]

theorem parameter_fine (items : List Item) (n : Node) (derived : ParameterNode items n) :
    n.hasError = false := by
  cases derived with
  | mk tight named typed => simp [annotation_fine _ _ typed]

theorem parameters_fine (items : List Item) (n : Node) (derived : ParametersNode items n) :
    n.hasError = false := by
  cases derived with
  | mk between inner => simp [parens_fine between, listed_fine _ parameter_fine inner]

theorem property_fine (items : List Item) (nodes : List Node)
    (derived : PropertyNodes items nodes) : anyError nodes = false := by
  cases derived with
  | required plain typed ends => simp [annotation_fine _ _ typed, sign_error _ ends]
  | optional plain asks typed ends =>
      simp [annotation_fine _ _ typed, sign_error _ asks, sign_error _ ends]

theorem body_fine (items : List Item) (n : Node) (derived : BodyNode items n) :
    n.hasError = false := by
  cases derived with
  | mk braces inner => simp [braces_fine braces, statements_fine inner]

theorem member_fine (items : List Item) (nodes : List Node) (derived : MemberNodes items nodes) :
    anyError nodes = false := by
  cases derived with
  | field starts fixed tight plain typed ends =>
      simp [word_error _ starts, key_error _ fixed, annotation_fine _ _ typed, sign_error _ ends]
  | async starts tight plain takes typed does =>
      simp [word_error _ starts, parameters_fine _ _ takes, annotation_fine _ _ typed,
        body_fine _ _ does]
  | method plain takes does => simp [parameters_fine _ _ takes, body_fine _ _ does]

theorem declaration_fine (items : List Item) (n : Node) (derived : DeclarationNode items n) :
    n.hasError = false := by
  cases derived with
  | typeAlias starts tight plain between typed ends =>
      have type := types_fine typed
      simp_all [key_error _ starts, sign_error _ between, sign_error _ ends]
  | interface starts tight plain braces inner =>
      simp [key_error _ starts, braces_fine braces, rows_fine _ property_fine inner]
  | class_ starts tight plain braces inner =>
      simp [key_error _ starts, braces_fine braces, rows_fine _ member_fine inner]

theorem specifier_fine (items : List Item) (n : Node) (derived : SpecifierNode items n) :
    n.hasError = false := by
  cases derived with
  | mk tight plain => simp

theorem top_fine (items : List Item) (nodes : List Node) (derived : TopNodes items nodes) :
    anyError nodes = false := by
  cases derived with
  | export_ starts declares => simp [word_error _ starts, declaration_fine _ _ declares]
  | import_ starts types opens closes inner behind tight plain ends =>
      simp [word_error _ starts, key_error _ types, tightly_error _ opens, tightly_error _ closes,
        listed_fine _ specifier_fine inner, key_error _ behind, sign_error _ ends]

theorem operand_plain (t : Token) (plain : t.isPlainName = true) :
    operand? t = some t.nameNode := by
  have noString : t.isPlainString = false := by
    simp only [Token.isPlainName, Bool.and_eq_true, beq_iff_eq] at plain
    simp [Token.isPlainString, plain.1.1]
  have noThis : t.isWord "this" = false := by
    by_contra same
    simp only [Bool.not_eq_false, Token.isWord, Bool.and_eq_true, beq_iff_eq] at same
    rw [Token.isPlainName, same.2] at plain
    exact absurd plain (by rw [String.ofList_toList]; simp +decide)
  rw [operand?, noThis, noString, plain]
  rfl

theorem operand_string (t : Token) (plain : t.isPlainString = true) :
    operand? t = some t.stringNode := by
  have noThis : t.isWord "this" = false := by
    simp only [Token.isPlainString, Bool.and_eq_true, beq_iff_eq] at plain
    simp [Token.isWord, plain.1]
  rw [operand?, noThis, plain]
  rfl

theorem key_plain (t : Token) (tight : t.isTight = true) (plain : t.isPlainName = true) :
    keyNode? t = some (t.leaf "property_identifier") := by
  have noString : t.isPlainString = false := by
    simp only [Token.isPlainName, Bool.and_eq_true, beq_iff_eq] at plain
    simp [Token.isPlainString, plain.1.1]
  rw [keyNode?, tight, noString, plain]
  rfl

theorem key_string (t : Token) (tight : t.isTight = true) (plain : t.isPlainString = true) :
    keyNode? t = some t.stringNode := by
  rw [keyNode?, tight, plain]
  rfl

theorem one_entry {pairs : Bool} {items : List Item} {n : Node} (tight : startsTight items = true)
    (own : ValueNodes (.entry pairs) items [n]) : ValueNodes (.inside pairs) items [n] :=
  .someEntries (.last tight own)

-- Phrases with a single item, or with the three items of a property, in front.
section Front

variable {item : Item} {n : Node} {opening closing : Token} {inner : List Item}
  {nodes : List Node}

theorem item_member {dot name : Token} (front : ValueNodes .primary [item] [n])
    (between : dot.isSign "." = true) (tight : name.isTight = true)
    (plain : name.isPlainName = true) :
    ValueNodes .primary [item, .token dot, .token name]
      [memberNode [item, .token dot, .token name] n dot name] :=
  .member front between tight plain

theorem item_call (front : ValueNodes .primary [item] [n])
    (between : isParens opening closing = true)
    (arguments : ValueNodes (.inside false) inner nodes) :
    ValueNodes .primary [item, .group opening inner (some closing)]
      [callNode [item, .group opening inner (some closing)] n opening inner nodes closing] :=
  .call front between arguments

theorem member_call {dot name : Item} (front : ValueNodes .primary [item, dot, name] [n])
    (between : isParens opening closing = true)
    (arguments : ValueNodes (.inside false) inner nodes) :
    ValueNodes .primary [item, dot, name, .group opening inner (some closing)]
      [callNode [item, dot, name, .group opening inner (some closing)] n opening inner nodes
        closing] :=
  .call front between arguments

end Front

-- The syntax tree of a text of the grammar has no errors.
theorem parses_fine (source : String) (tree : Node) (derived : Parses source tree) :
    tree.hasError = false := by
  cases derived with
  | mk some_ spells fits blank rows =>
      rw [has_error_eq]
      simp [programNode, rows_fine _ top_fine rows]

theorem type_text {form : TypeForm} {items : List Item} {nodes : List Node}
    (derived : TypeNodes form items nodes) : ∀ n, nodes = [n] → n.text = spelled items := by
  intro n same
  induction derived with
  | @word t m found =>
      cases same
      rw [typeName?] at found
      split_ifs at found <;> cases found <;> simp
  | array | parens | generic | union =>
      cases same
      rfl
  | single _ ih | last _ ih => exact ih same
  | more => simp at same

-- A statement behind blanks, in front of others.
theorem statement_first {item : Item} {items rest : List Item} {nodes others : List Node}
    (blank : item.first.lead.all isBlank = true) (own : StatementNodes .one (item :: items) nodes)
    (later : StatementNodes .rows rest others) :
    StatementNodes .rows (item :: items ++ rest) (nodes ++ others) :=
  .next (blanks_no_comments _ blank) own later

theorem statement_last {item : Item} {items : List Item} {nodes : List Node}
    (blank : item.first.lead.all isBlank = true)
    (own : StatementNodes .one (item :: items) nodes) :
    StatementNodes .rows (item :: items) nodes := by
  have row := statement_first blank own .none
  rwa [List.append_nil, List.append_nil] at row

section Calls

variable (callee : String)

theorem find_call_eq (n : Node) : n.findCall? callee =
    if n.calls callee then some n else Node.findCallAmong? callee n.children := by
  cases n
  rfl

theorem find_call_nil : Node.findCallAmong? callee [] = none := rfl

theorem find_call_cons (n : Node) (rest : List Node) : Node.findCallAmong? callee (n :: rest) =
    ((if n.named then n.findCall? callee else none).orElse fun _ =>
      Node.findCallAmong? callee rest) := by
  rw [Node.findCallAmong?]
  cases (if n.named then n.findCall? callee else none) <;> rfl

theorem find_call_append (first second : List Node) : Node.findCallAmong? callee (first ++ second) =
    (Node.findCallAmong? callee first).orElse fun _ => Node.findCallAmong? callee second := by
  induction first with
  | nil => rfl
  | cons n rest ih =>
      rw [List.cons_append, find_call_cons, find_call_cons, ih]
      cases (if n.named then n.findCall? callee else none) <;> rfl

theorem call_calls (items inner : List Item) (e : Node) (opening closing : Token)
    (nodes : List Node) :
    (callNode items e opening inner nodes closing).calls callee = (e.text == callee.toList) := by
  simp [callNode, Node.calls, Node.child?]

-- The marks around a block call nothing.
theorem find_call_block (kind : String) (items : List Item) (opening closing : Token)
    (nodes : List Node) (field : String) (noCall : (kind == "call_expression") = false) :
    ((nodeOf kind items (enclosed opening nodes closing)).as field).findCall? callee =
      Node.findCallAmong? callee nodes := by
  rw [find_call_eq]
  simp only [Node.calls, as_kind, node_of_kind, noCall, Bool.false_and, Bool.false_eq_true, if_false,
    as_children, node_of_children, enclosed, find_call_cons, find_call_append, plain_named]
  cases Node.findCallAmong? callee nodes <;> rfl

end Calls

theorem rows_append (row : List Item → List Node → Prop) {first second : List Item}
    {nodes more : List Node} (one : Rows row first nodes) (two : Rows row second more) :
    Rows row (first ++ second) (nodes ++ more) := by
  induction one with
  | none => exact two
  | next gap own later ih =>
      rw [List.append_assoc, List.append_assoc, List.append_assoc]
      exact .next gap own ih

section Taken

variable {α : Type} (row : List Item → List Node → Prop) (take : List Node → List α)

-- Items that are rows wherever they stand, and what is taken from their nodes.
def Gives (items : List Item) (found : List α) : Prop :=
  ∀ behind, ∃ nodes, Rows row (settleAll behind items) nodes ∧ take nodes = found

variable (additive : ∀ first second, take (first ++ second) = take first ++ take second)

include additive

theorem gives_append (first second : List Item) (found more : List α)
    (one : Gives row take first found) (two : Gives row take second more) :
    Gives row take (first ++ second) (found ++ more) := by
  intro behind
  obtain ⟨nodes, rows, taken⟩ := one ((charsOf second).length + behind)
  obtain ⟨others, later, takenLater⟩ := two behind
  rw [settle_all_append]
  exact ⟨_, rows_append row rows later, by rw [additive, taken, takenLater]⟩

theorem gives_flat_map {β : Type} (list : List β) (items : β → List Item) (found : β → List α)
    (empty : take [] = []) (each : ∀ b ∈ list, Gives row take (items b) (found b)) :
    Gives row take (list.flatMap items) (list.flatMap found) := by
  induction list with
  | nil => exact fun _ => ⟨[], .none, empty⟩
  | cons b rest ih =>
      obtain ⟨own, later⟩ := List.forall_mem_cons.mp each
      exact gives_append row take additive _ _ _ _ own (ih later)

-- Nothing is taken from the comments in front of a row.
theorem gives_row (item : Item) (items : List Item) (found : List α) (gap : IsGap item.first.lead)
    (noComments : ∀ behind comments, take (commentsAt behind comments) = [])
    (own : ∀ behind, ∃ nodes, row (settleAll behind (item :: items)) nodes ∧ take nodes = found) :
    Gives row take (item :: items) found := by
  intro behind
  obtain ⟨nodes, derived, taken⟩ := own behind
  obtain ⟨comments, inner⟩ := gap
  rw [← lead_settle item ((charsOf items).length + behind)] at inner
  have rows := Rows.next inner derived .none
  rw [List.append_nil] at rows
  exact ⟨_, rows, by rw [additive, noComments, List.append_nil, taken, List.nil_append]⟩

end Taken

end ApiContract.Script
