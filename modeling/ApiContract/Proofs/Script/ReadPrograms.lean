import ApiContract.Proofs.Script.ReadValues
import ApiContract.Script.Reader

/-!
Programs of the grammar are read as they are derived, so that the parser of this project follows the
grammar on every text.
-/

set_option autoImplicit false

namespace ApiContract.Script

theorem word_other (t : Token) (word other : String) (same : t.isWord word = true)
    (different : word ≠ other) : t.isWord other = false := by
  simp only [Token.isWord, Bool.and_eq_true, beq_iff_eq] at same
  simp [Token.isWord, same.2, String.toList_inj, different]

theorem no_word_of_plain (t : Token) (word : String) (plain : t.isPlainName = true)
    (keyword : isKeyword word = true) : t.isWord word = false := by
  simp only [Token.isPlainName, Bool.and_eq_true, Bool.not_eq_true'] at plain
  rw [Token.isWord, Bool.and_eq_false_iff]
  right
  rw [beq_eq_false_iff_ne]
  intro same
  rw [same, String.ofList_toList, keyword] at plain
  exact absurd plain.2 (by simp)

theorem key_parts (t : Token) (word : String) (key : t.isKey word = true) :
    t.isWord word = true ∧ t.isTight = true :=
  Bool.and_eq_true_iff.mp key

-- One row is read, and then what comes behind it.
theorem row_read (read : List Item → Option (List Node × List Item)) (item : Item)
    (items rest : List Item) (nodes others : List Node) (comments : List (List Char × Nat))
    (gap : GapOf item.first.lead comments)
    (own : read (item :: items ++ rest) = some (nodes, rest)) (count : Nat)
    (later : parseRows? read count rest = some others) :
    parseRows? read (count + 1) (item :: items ++ rest) =
      some (commentsAt item.left comments ++ (nodes ++ others)) := by
  rw [List.cons_append] at own ⊢
  simp [parseRows?, own, later, commentNodes, comments_found gap]

theorem rows_read (row : List Item → List Node → Prop)
    (read : List Item → Option (List Node × List Item)) (bound : Nat)
    (each : ∀ items nodes rest, row items nodes → size items ≤ bound →
      read (items ++ rest) = some (nodes, rest))
    {items : List Item} {nodes : List Node} (rows : Rows row items nodes)
    (enough : size items ≤ bound) (count : Nat) (long : items.length ≤ count) :
    parseRows? read count items = some nodes := by
  induction rows generalizing count with
  | none => cases count <;> rfl
  | @next item items rest nodes others comments gap own later ih =>
      rw [size_append] at enough
      rw [List.length_append, List.length_cons] at long
      obtain ⟨less, rfl⟩ : ∃ less, count = less + 1 := ⟨count - 1, by omega⟩
      exact row_read read item items rest nodes others comments gap
        (each _ _ rest own (by omega)) less (ih (by omega) less (by omega))

theorem block_read (kind : String) (read : List Item → Option (List Node × List Item))
    (opening closing : Token) (items rest : List Item) (nodes : List Node)
    (braces : isBraces opening closing = true)
    (inner : parseRows? read items.length items = some nodes) :
    parseBlock? kind read (.group opening items (some closing) :: rest) =
      some (nodeOf kind [.group opening items (some closing)] (enclosed opening nodes closing),
        rest) := by
  simp [parseBlock?, braces, inner]

theorem listed_read (phrase : List Item → Node → Prop)
    (read : List Item → Option (Node × List Item)) (bound : Nat)
    (each : ∀ items n rest, phrase items n → Ends rest → size items ≤ bound →
      read (items ++ rest) = some (n, rest))
    (full : ∀ items n, phrase items n → items ≠ [])
    {items : List Item} {nodes : List Node} (listed : Listed phrase items nodes)
    (enough : size items ≤ bound) : parseInside? read items = some nodes := by
  have separated (items : List Item) (nodes : List Node) (all : Separated phrase items nodes)
      (enough : size items ≤ bound) (count : Nat) (long : items.length ≤ count) :
      items ≠ [] ∧ parseSeparated? read count items = some (nodes, []) := by
    induction all generalizing count with
    | @last items n own =>
        have nonempty := full items n own
        have length := List.length_pos_of_ne_nil nonempty
        obtain ⟨less, rfl⟩ : ∃ less, count = less + 1 := ⟨count - 1, by omega⟩
        have first := each items n [] own trivial enough
        rw [List.append_nil] at first
        exact ⟨nonempty, by simp [parseSeparated?, first, sign?]⟩
    | @more items others n comma nodes own between later ih =>
        simp only [size_append, size_token, List.length_append, List.length_cons] at enough long
        obtain ⟨less, rfl⟩ : ∃ less, count = less + 1 := ⟨count - 1, by omega⟩
        have first := each items n (.token comma :: others) own (.inr (.inl between)) (by omega)
        obtain ⟨-, onward⟩ := ih (by omega) less (by omega)
        exact ⟨by simp, by simp [parseSeparated?, first, sign_read _ comma _ between, onward]⟩
  cases listed with
  | none => rfl
  | some all =>
      obtain ⟨nonempty, read⟩ := separated items nodes all enough items.length (Nat.le_refl _)
      simp [parseInside?, nonempty, read, allOf]

theorem value_read {items : List Item} {n : Node} (derived : ValueNodes .whole items [n])
    (tight : startsTight items = true) (rest : List Item) (fuel : Nat) (ends : Ends rest)
    (enough : 8 * size items ≤ fuel + 4) :
    inLine (parseExpression? fuel) (items ++ rest) = some (n, rest) :=
  whole_in_line tight rest fuel derived (values_read derived) ends enough

theorem ends_semicolon (t : Token) (rest : List Item) (ends : t.isSign ";" = true) :
    Ends (.token t :: rest) :=
  .inl ends

-- How a statement is read in front of anything, and the rows of a block.
def ReadsStatement : StatementForm → List Item → List Node → Prop
  | .one, items, nodes => ∀ rest fuel, 8 * size items ≤ fuel →
      parseStatement? fuel (items ++ rest) = some (nodes, rest)
  | .rows, items, nodes => ∀ fuel count, 8 * size items ≤ fuel → items.length ≤ count →
      parseRows? (parseStatement? fuel) count items = some nodes

theorem statements_read {form : StatementForm} {items : List Item} {nodes : List Node}
    (derived : StatementNodes form items nodes) : ReadsStatement form items nodes := by
  induction derived with
  | @const start name sign semicolon items value starts tight plain between onward given ends =>
      intro rest fuel enough
      simp only [size_token, size_append, size_nil] at enough
      obtain ⟨less, rfl⟩ : ∃ less, fuel = less + 1 := ⟨fuel - 1, by omega⟩
      have read := value_read given onward (.token semicolon :: rest) less
        (ends_semicolon _ _ ends) (by omega)
      have declared := up_to_append (.token name :: .token sign :: items) (.token semicolon :: rest)
      have all := up_to_append (.token name :: .token sign :: (items ++ [.token semicolon])) rest
      simp only [List.append_assoc, List.cons_append, List.nil_append] at declared all ⊢
      simp [parseStatement?, starts, plain_name_read _ _ tight plain, sign_read _ _ _ between, read,
        sign_read _ _ _ ends, declared, all]
  | @throw start semicolon items value starts onward given ends =>
      intro rest fuel enough
      simp only [size_token, size_append, size_nil] at enough
      obtain ⟨less, rfl⟩ : ∃ less, fuel = less + 1 := ⟨fuel - 1, by omega⟩
      have read := value_read given onward (.token semicolon :: rest) less
        (ends_semicolon _ _ ends) (by omega)
      have all := up_to_append (items ++ [.token semicolon]) rest
      have noConst := word_other start _ "const" starts (by decide)
      simp only [List.append_assoc, List.cons_append, List.nil_append] at all ⊢
      simp [parseStatement?, starts, noConst, read, sign_read _ _ _ ends, all]
  | @return_ start semicolon items value starts onward given ends =>
      intro rest fuel enough
      simp only [size_token, size_append, size_nil] at enough
      obtain ⟨less, rfl⟩ : ∃ less, fuel = less + 1 := ⟨fuel - 1, by omega⟩
      have read := value_read given onward (.token semicolon :: rest) less
        (ends_semicolon _ _ ends) (by omega)
      have all := up_to_append (items ++ [.token semicolon]) rest
      have noConst := word_other start _ "const" starts (by decide)
      have noThrow := word_other start _ "throw" starts (by decide)
      simp only [List.append_assoc, List.cons_append, List.nil_append] at all ⊢
      simp [parseStatement?, starts, noConst, noThrow, read, sign_read _ _ _ ends, all]
  | @branch start first last opening closing condition items n nodes starts parens onward asked
      braces inner ih =>
      intro rest fuel enough
      simp only [size_token, size_group, size_nil] at enough
      obtain ⟨less, rfl⟩ : ∃ less, fuel = less + 1 + 1 := ⟨fuel - 2, by omega⟩
      obtain ⟨opens, closes⟩ := parens_text first last parens
      have read := parens_read first last condition n opens closes onward asked
        (values_read asked) less (by omega)
      have block := block_read "statement_block" (parseStatement? (less + 1)) opening closing items
        rest nodes braces (ih (less + 1) items.length (by omega) (Nat.le_refl _))
      have all := up_to_append
        [.group first condition (some last), .group opening items (some closing)] rest
      have noOther (word : String) (other : "if" ≠ word) := word_other start "if" word starts other
      simp only [List.cons_append, List.nil_append] at all ⊢
      simp [parseStatement?, starts, noOther, parseCondition?, parens, read, block, all]
  | @expression start semicolon items value starts given ends =>
      intro rest fuel enough
      simp only [size_token, size_append, size_nil] at enough
      obtain ⟨less, rfl⟩ : ∃ less, fuel = less + 1 := ⟨fuel - 1, by omega⟩
      obtain ⟨m, same, read⟩ := values_read given
      cases same
      have whole := read (.token semicolon :: rest) less (ends_semicolon _ _ ends)
        (by rw [size_token]; omega)
      have all := up_to_append (.token start :: (items ++ [.token semicolon])) rest
      have noWord (word : String) (other : "this" ≠ word) (keyword : isKeyword word = true) :
          start.isWord word = false :=
        starts.elim (fun this_ => word_other start _ _ this_ other)
          fun plain => no_word_of_plain start _ plain keyword
      have noConst := noWord "const" (by decide) (by decide)
      have noThrow := noWord "throw" (by decide) (by decide)
      have noReturn := noWord "return" (by decide) (by decide)
      have noIf := noWord "if" (by decide) (by decide)
      simp only [List.append_assoc, List.cons_append, List.nil_append] at whole all ⊢
      simp [parseStatement?, noConst, noThrow, noReturn, noIf, starts, whole, sign_read _ _ _ ends,
        all]
  | none =>
      intro fuel count _ _
      cases count <;> rfl
  | @next item items rest nodes others comments gap own later one two =>
      intro fuel count enough long
      rw [size_append] at enough
      rw [List.length_append, List.length_cons] at long
      obtain ⟨less, rfl⟩ : ∃ less, count = less + 1 := ⟨count - 1, by omega⟩
      exact row_read _ item items rest nodes others comments gap (one rest fuel (by omega)) less
        (two fuel less (by omega) (by omega))

section Parts

variable (fuel : Nat) (rest : List Item)

theorem annotation_read {items : List Item} {n : Node} (derived : AnnotationNode items n)
    (ends : Ends rest) (enough : 4 * size items < fuel) :
    parseAnnotation? fuel (items ++ rest) = some (n, rest) := by
  cases derived with
  | @mk colon items n starts typed =>
      rw [size_token] at enough
      have read := type_read typed rest fuel ends (by omega)
      have all := up_to_append (.token colon :: items) rest
      rw [List.cons_append] at all ⊢
      simp [parseAnnotation?, sign_read _ _ _ starts, read, all]

theorem parameter_read {items : List Item} {n : Node} (derived : ParameterNode items n)
    (ends : Ends rest) (enough : 4 * size items < fuel) :
    parseParameter? fuel (items ++ rest) = some (n, rest) := by
  cases derived with
  | @mk name items type tight named typed =>
      rw [size_token] at enough
      have read := annotation_read fuel rest typed ends (by omega)
      rw [List.cons_append]
      simp [parseParameter?, tight, named, read, up_to_append]

theorem parameters_read {items : List Item} {n : Node} (derived : ParametersNode items n)
    (enough : 8 * size items ≤ fuel) : parseParameters? fuel (items ++ rest) = some (n, rest) := by
  cases derived with
  | @mk opening closing items nodes between inner =>
      simp only [size_group, size_nil] at enough
      have read := listed_read ParameterNode (parseParameter? fuel) (size items)
        (fun items n rest own ends small => parameter_read fuel rest own ends (by omega))
        (fun items n own => by cases own; simp) inner (Nat.le_refl _)
      simp [parseParameters?, between, read]

theorem body_read {items : List Item} {n : Node} (derived : BodyNode items n)
    (enough : 8 * size items ≤ fuel) : parseBody? fuel (items ++ rest) = some (n, rest) := by
  cases derived with
  | @mk opening closing items nodes braces inner =>
      simp only [size_group, size_nil] at enough
      exact block_read _ _ opening closing items rest nodes braces
        (statements_read inner fuel items.length (by omega) (Nat.le_refl _))

theorem property_read {items : List Item} {nodes : List Node} (derived : PropertyNodes items nodes)
    (enough : 8 * size items ≤ fuel) :
    parseProperty? fuel (items ++ rest) = some (nodes, rest) := by
  cases derived with
  | @required name semicolon items type plain typed ends =>
      simp only [size_token, size_append, size_nil] at enough
      have read := annotation_read fuel (.token semicolon :: rest) typed
        (ends_semicolon _ _ ends) (by omega)
      have taken := up_to_append items (.token semicolon :: rest)
      have noSign : sign? "?" (items ++ .token semicolon :: rest) = none := by
        cases typed with
        | mk starts _ => exact sign_other _ _ _ _ starts (by decide)
      simp only [List.append_assoc, List.cons_append, List.nil_append]
      simp [parseProperty?, plain, noSign, read, sign_read _ _ _ ends, taken]
  | @optional name sign semicolon items type plain asks typed ends =>
      simp only [size_token, size_append, size_nil] at enough
      have read := annotation_read fuel (.token semicolon :: rest) typed
        (ends_semicolon _ _ ends) (by omega)
      have taken := up_to_append (.token sign :: items) (.token semicolon :: rest)
      simp only [List.append_assoc, List.cons_append, List.nil_append] at taken ⊢
      simp [parseProperty?, plain, sign_read _ _ _ asks, read, sign_read _ _ _ ends, taken]

theorem member_read {items : List Item} {nodes : List Node} (derived : MemberNodes items nodes)
    (enough : 8 * size items ≤ fuel) : parseMember? fuel (items ++ rest) = some (nodes, rest) := by
  cases derived with
  | @field start readonly name semicolon items type starts fixed tight plain typed ends =>
      simp only [size_token, size_append, size_nil] at enough
      have read := annotation_read fuel (.token semicolon :: rest) typed
        (ends_semicolon _ _ ends) (by omega)
      have taken := up_to_append (.token readonly :: .token name :: items)
        (.token semicolon :: rest)
      simp only [List.append_assoc, List.cons_append, List.nil_append] at taken ⊢
      simp [parseMember?, starts, key_read _ _ _ fixed, plain_name_read _ _ tight plain, read,
        sign_read _ _ _ ends, taken]
  | @async start name params items block list type body starts tight plain takes typed does =>
      simp only [size_token, size_append] at enough
      have block_ := body_read fuel rest does (by omega)
      have brace : Ends (block ++ rest) := by
        cases does with
        | mk braces _ =>
            simp only [isBraces, Token.isTightly, Bool.and_eq_true, beq_iff_eq] at braces
            exact braces.1.1.1
      have read := annotation_read fuel (block ++ rest) typed brace (by omega)
      have list_ := parameters_read fuel (items ++ (block ++ rest)) takes (by omega)
      have taken := up_to_append (.token name :: (params ++ (items ++ block))) rest
      have noField := word_other start _ "private" starts (by decide)
      simp only [List.append_assoc, List.cons_append] at taken ⊢
      simp [parseMember?, starts, noField, plain_name_read _ _ tight plain, list_, read, block_,
        taken]
  | @method name params block list body plain takes does =>
      simp only [size_token, size_append] at enough
      have block_ := body_read fuel rest does (by omega)
      have list_ := parameters_read fuel (block ++ rest) takes (by omega)
      have taken := up_to_append (params ++ block) rest
      have noField := no_word_of_plain name "private" plain (by decide)
      have noAsync := no_word_of_plain name "async" plain (by decide)
      simp only [List.append_assoc, List.cons_append] at taken ⊢
      simp [parseMember?, noField, noAsync, plain, list_, block_, taken]

theorem declaration_read {items : List Item} {n : Node} (derived : DeclarationNode items n)
    (enough : 8 * size items ≤ fuel) : parseDeclared? fuel (items ++ rest) = some (n, rest) := by
  cases derived with
  | @typeAlias start name sign semicolon items type starts tight plain between typed ends =>
      simp only [size_token, size_append, size_nil] at enough
      obtain ⟨word, own⟩ := key_parts start _ starts
      have read := type_read typed (.token semicolon :: rest) fuel (ends_semicolon _ _ ends)
        (by omega)
      have taken := up_to_append (.token name :: .token sign :: (items ++ [.token semicolon])) rest
      simp only [List.append_assoc, List.cons_append, List.nil_append] at taken ⊢
      simp [parseDeclared?, own, plain_name_read _ _ tight plain, word, sign_read _ _ _ between,
        read, sign_read _ _ _ ends, taken]
  | @interface start name opening closing items nodes starts tight plain braces inner =>
      simp only [size_token, size_group, size_nil] at enough
      obtain ⟨word, own⟩ := key_parts start _ starts
      have block := block_read "interface_body" (parseProperty? fuel) opening closing items rest
        nodes braces (rows_read PropertyNodes _ (size items)
          (fun items nodes rest row small => property_read fuel rest row (by omega)) inner
          (Nat.le_refl _) _ (Nat.le_refl _))
      have taken := up_to_append [.token name, .group opening items (some closing)] rest
      have noType := word_other start _ "type" word (by decide)
      simp only [List.cons_append, List.nil_append] at taken ⊢
      simp [parseDeclared?, own, plain_name_read _ _ tight plain, noType, word, block, taken]
  | @class_ start name opening closing items nodes starts tight plain braces inner =>
      simp only [size_token, size_group, size_nil] at enough
      obtain ⟨word, own⟩ := key_parts start _ starts
      have block := block_read "class_body" (parseMember? fuel) opening closing items rest
        nodes braces (rows_read MemberNodes _ (size items)
          (fun items nodes rest row small => member_read fuel rest row (by omega)) inner
          (Nat.le_refl _) _ (Nat.le_refl _))
      have taken := up_to_append [.token name, .group opening items (some closing)] rest
      have noType := word_other start _ "type" word (by decide)
      have noInterface := word_other start _ "interface" word (by decide)
      simp only [List.cons_append, List.nil_append] at taken ⊢
      simp [parseDeclared?, own, plain_name_read _ _ tight plain, noType, noInterface, word, block,
        taken]

theorem specifier_read {items : List Item} {n : Node} (derived : SpecifierNode items n) :
    parseSpecifier? (items ++ rest) = some (n, rest) := by
  cases derived with
  | mk tight plain => simp [parseSpecifier?, plain_name_read _ _ tight plain]

theorem top_read {items : List Item} {nodes : List Node} (derived : TopNodes items nodes)
    (enough : 8 * size items ≤ fuel) : parseTop? fuel (items ++ rest) = some (nodes, rest) := by
  cases derived with
  | @export_ start items declared starts declares =>
      rw [size_token] at enough
      have read := declaration_read fuel rest declares (by omega)
      rw [List.cons_append]
      simp [parseTop?, starts, read, up_to_append]
  | @import_ start type opening closing from_ source semicolon items nodes starts types opens closes
      inner behind tight plain ends =>
      have names := listed_read SpecifierNode parseSpecifier? (size items)
        (fun _ _ rest own _ _ => specifier_read rest own) (fun items n own => by cases own; simp)
        inner (Nat.le_refl _)
      have noExport := word_other start _ "export" starts (by decide)
      have taken := up_to_append [.token type, .group opening items (some closing), .token from_,
        .token source, .token semicolon] rest
      simp only [List.cons_append, List.nil_append] at taken ⊢
      simp [parseTop?, noExport, starts, key_read _ _ _ types, parseNames?, opens, closes, names,
        key_read _ _ _ behind, parseSource?, tight, plain, sign_read _ _ _ ends, taken]

end Parts

theorem program_read {items : List Item} {nodes : List Node} (rows : Rows TopNodes items nodes)
    (fuel : Nat) (enough : 8 * size items ≤ fuel) : parseProgram? fuel items = some nodes :=
  rows_read TopNodes _ (size items) (fun _ _ rest own small => top_read fuel rest own (by omega))
    rows (Nat.le_refl _) _ (Nat.le_refl _)

def Token.bare (t : Token) : Token :=
  { t with lead := [] }

theorem node_bare (kind : String) (t : Token) (items : List Item) (children : List Node) :
    nodeOf kind (.token t :: items) children = nodeOf kind (.token t.bare :: items) children := by
  simp [nodeOf, spelled, Item.chars, Token.chars, Item.first, Token.bare, leftOf, Item.left]

-- What stands in front of the first token of a row is no part of the row.
theorem top_bare (items : List Item) (nodes : List Node) (derived : TopNodes items nodes) :
    ∃ start rest, items = .token start :: rest ∧
      (start.text = "export".toList ∨ start.text = "import".toList) ∧
      TopNodes (.token start.bare :: rest) nodes := by
  have text (t : Token) (word : String) (same : t.isWord word = true) : t.text = word.toList := by
    simp only [Token.isWord, Bool.and_eq_true, beq_iff_eq] at same
    exact same.2
  cases derived with
  | export_ starts declares =>
      refine ⟨_, _, rfl, .inl (text _ _ starts), ?_⟩
      rw [node_bare]
      exact .export_ starts declares
  | import_ starts types opens closes inner behind tight plain ends =>
      refine ⟨_, _, rfl, .inr (text _ _ starts), ?_⟩
      rw [node_bare]
      exact .import_ starts types opens closes inner behind tight plain ends

theorem bare_chars (t : Token) (rest : List Item) :
    charsOf (.token t.bare :: rest) = t.text ++ charsOf rest := rfl

theorem bare_token_fits (t : Token) (next : List Char) (fits : (Item.token t).Fits false next) :
    (Item.token t.bare).Fits false next :=
  ⟨gap_nil, fits.2⟩

theorem top_word_starts (text rest : List Char)
    (word : text = "export".toList ∨ text = "import".toList) :
    ∃ c later, text ++ rest = c :: later ∧ isBlank c = false ∧ c ≠ '/' ∧ c ≠ '#' := by
  rcases word with rfl | rfl
  · exact ⟨'e', "xport".toList ++ rest, rfl, by decide, by decide, by decide⟩
  · exact ⟨'i', "mport".toList ++ rest, rfl, by decide, by decide, by decide⟩

theorem settled_token (item : Item) (behind : Nat) (t : Token)
    (same : item.settle behind = .token t) :
    ∃ own, item = .token own ∧ t = own.settle behind := by
  cases item with
  | token own => exact ⟨own, rfl, (Item.token.inj same).symm⟩
  | group => cases same

-- The items of a code without the gap in front of it are read as the rows that they are.
theorem code_read (items : List Item) (tail : List Char) (nodes : List Node)
    (fits : FitAll false items tail) (blank : tail.all isBlank = true)
    (noHash : (charsOf items ++ tail).head? ≠ some '#')
    (rows : Rows TopNodes (settleAll tail.length items) nodes) :
    programNodes (charsOf items ++ tail) = nodes := by
  have ends : cutGap .blanks tail = (tail, []) := by
    have cut := gap_cut tail [] (gap_blanks tail blank)
    rwa [show cutGap .blanks [] = ([], []) from rfl, List.append_nil] at cut
  have stands := items_stand items false tail fits
  have read := program_read rows (8 * size (settleAll tail.length items) + 8) (by omega)
  rw [programNodes, items_of_text items tail stands ends noHash,
    tokens_of_text items tail stands ends noHash]
  rw [size] at read
  simp [read]

theorem reader_follows (source : String) : FollowsGrammar source := by
  intro tree derived
  cases derived with
  | @mk items tail nodes some_ spells fits blank rows =>
      obtain ⟨first, more, rfl⟩ := List.exists_cons_of_ne_nil some_
      rw [settle_all_cons] at rows
      generalize place : (charsOf more).length + tail.length = behind at rows
      generalize starts : first.settle behind :: settleAll tail.length more = all at rows
      cases rows with
      | none => cases starts
      | @next item others rest own_ later_ comments gap own later =>
          obtain ⟨start, behindStart, same, text, bare⟩ := top_bare _ _ own
          obtain ⟨rfl, rfl⟩ := List.cons.inj same
          rw [List.cons_append] at starts
          obtain ⟨settled, sameRest⟩ := List.cons.inj starts
          obtain ⟨t, rfl, rfl⟩ := settled_token first behind start settled
          obtain ⟨c, others', front, solid, noSlash, noHash⟩ :=
            top_word_starts t.text (charsOf more ++ tail) text
          have code : charsOf (.token t.bare :: more) ++ tail = c :: others' := by
            rw [bare_chars, List.append_assoc, front]
          have cut : cutGap .blanks source.toList =
              (t.lead, charsOf (.token t.bare :: more) ++ tail) := by
            have whole : source.toList = t.lead ++ (charsOf (.token t.bare :: more) ++ tail) := by
              rw [spells, bare_chars, charsOf, Item.chars, Token.chars]
              simp only [List.append_assoc]
            rw [whole, gap_cut t.lead _ ⟨comments, gap⟩, code, cut_gap_none c _ solid noSlash,
              List.append_nil]
          have bareRows : Rows TopNodes (settleAll tail.length (.token t.bare :: more))
              (own_ ++ later_) := by
            rw [settle_all_cons, sameRest, place]
            exact @Rows.next _ (.token (Token.settle behind t).bare) _ _ _ _ _ .nil bare later
          have read := code_read (.token t.bare :: more) tail _
            ⟨bare_token_fits t _ fits.1, fits.2⟩ blank (by rw [code]; simpa using noHash) bareRows
          have length : (charsOf (.token t.bare :: more) ++ tail).length = t.text.length + behind := by
            rw [bare_chars, ← place]
            simp
          have found : commentsFrom .blanks [] t.lead = comments := comments_found gap
          change readSource source.toList = _
          rw [readSource, cut]
          simp only [read, length, commentNodes, found]
          rfl

end ApiContract.Script
