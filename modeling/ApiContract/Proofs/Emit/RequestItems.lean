import ApiContract.Proofs.Code.Lines
import ApiContract.Proofs.Emit.AddressItems

/-!
The body of a method of a client as items: the request that it sends, the check of the answer, and
the answer given back. The first call in it is the request.
-/

set_option autoImplicit false

namespace ApiContract.Emit

open Code (Expr IsLine IsPlainName Stmt TypeExpr movedIn plain_name_token plain_string_token
  typeItems)
open Schema (Operation Segment)
open Script
open Text (Unbroken)

def bodyOptionItems : List Item :=
  [markItem "" ",", wordItem " " "headers", markItem "" ":",
    groupItem " " "\x7b" [stringItem " " (Code.quoted "Content-Type"), markItem "" ":",
      stringItem " " (Code.quoted "application/json")] " " "\x7d",
    markItem "" ",", wordItem " " "body", markItem "" ":", wordItem " " "JSON", markItem "" ".",
    wordItem "" "stringify", parens [wordItem "" "body"]]

def optionItems (op : Operation) : List Item :=
  wordItem " " "method" :: markItem "" ":" :: stringItem " " (Code.quoted op.method.word) ::
    if op.request.isSome then bodyOptionItems else []

def optionsItem (op : Operation) : Item :=
  groupItem " " "\x7b" (optionItems op) " " "\x7d"

def sendItems (lead : String) (op : Operation) (pieces : List Segment) : List Item :=
  [wordItem lead "const", wordItem " " "response", markItem " " "=", wordItem " " "await",
    wordItem " " "fetch",
    parens [addressItem pieces, markItem "" ",", optionsItem op],
    markItem "" ";"]

def failureItem (op : Operation) : Item :=
  groupItem "" "\x60" [charsItem (op.name ++ " failed with status "),
    holeItem [wordItem "" "response", markItem "" ".", wordItem "" "status"]] "" "\x60"

def checkItems (lead inner : String) (op : Operation) : List Item :=
  [wordItem lead "if",
    groupItem " " "(" [markItem "" "!", wordItem "" "response", markItem "" ".", wordItem "" "ok"]
      "" ")",
    groupItem " " "\x7b" [wordItem inner "throw", wordItem " " "new", wordItem " " "Error",
      parens [failureItem op], markItem "" ";"] lead "\x7d"]

def returnItems (lead : String) (type : TypeExpr) : List Item :=
  wordItem lead "return" ::
    groupItem " " "(" [wordItem "" "await", wordItem " " "response", markItem "" ".",
      wordItem "" "json", parens []] "" ")" ::
    wordItem " " "as" :: (typeItems " " type ++ [markItem "" ";"])

def answerItems (lead : String) (op : Operation) : List Item :=
  if isVoid (responseType op) then [] else returnItems lead (responseType op)

def bodyItems (op : Operation) (pieces : List Segment) : List Item :=
  sendItems "\n    " op pieces ++ checkItems "\n    " "\n      " op ++ answerItems "\n    " op

theorem options_chars (op : Operation) :
    (requestOptions op).render.toList =
      '\x7b' :: (charsOf (optionItems op) ++ [' ', '\x7d']) := by
  cases body : op.request.isSome <;>
    simp +decide [requestOptions, body, optionItems, bodyOptionItems, parens, Expr.render,
      Expr.renderFields, Expr.renderArgs, Expr.wrapIf, Expr.strength, Expr.primary, Expr.arrowing,
      Expr.isIdent, Expr.keyText, text, Code.Literal.render, Text.join]

def sendStmt (base : Option String) (op : Operation) : Stmt :=
  .declare .const "response" none
    (some (.await (call "fetch" [address base op.path, requestOptions op])))

def checkStmt (op : Operation) : Stmt :=
  .branch (.unary .not (.member (.ident "response") "ok" false)) [.throw (failure op)] none

theorem send_chars (lead : String) (base : Option String) (op : Operation)
    (plain : PlainPieces (Schema.segments base op.path)) :
    charsOf (sendItems lead op (Schema.segments base op.path)) =
      lead.toList ++ (sendStmt base op).render.toList := by
  have url := address_chars base op.path plain
  have options := options_chars op
  have args : Expr.renderArgs [address base op.path, requestOptions op] =
      [(address base op.path).render, (requestOptions op).render] := rfl
  simp +decide [sendStmt, sendItems, optionsItem, parens, Stmt.render, Code.Binding.word,
    Code.typeSuffix, Code.initSuffix, call, Expr.render, args, Expr.wrapIf, Expr.strength,
    Text.join, url, options]

theorem failure_text_quiet (name : String) (named : Name.isIdentifier name = true) :
    Quiet (name ++ " failed with status ").toList := by
  have words : Quiet " failed with status ".toList :=
    quiet_without_dollar _ (by decide) (by decide) (by decide)
  rw [String.toList_append]
  exact quiet_append _ _ (identifier_quiet name named) words fun _ => by decide

theorem failure_chars (op : Operation) (named : Name.isIdentifier op.name = true) :
    (failure op).render.toList =
      "new Error(".toList ++ (failureItem op).chars ++ [')'] := by
  have text := template_text_quiet _ (failure_text_quiet op.name named)
  rw [failure, failureItem]
  generalize op.name ++ " failed with status " = words at text ⊢
  simp +decide [holeItem, Expr.render, Expr.renderArgs, Expr.renderParts, Expr.wrapIf,
    Expr.strength, Text.join, text]

def throwLine (op : Operation) : String :=
  "throw " ++ (failure op).render ++ ";"

def checkLines (op : Operation) : List String :=
  ["if (!response.ok) \x7b", "  " ++ throwLine op, "\x7d"]

theorem throw_line (op : Operation) (named : Name.isIdentifier op.name = true) :
    IsLine (throwLine op) := by
  have name := Code.identifier_unbroken op.name named
  have chars := failure_chars op named
  simp [IsLine, throwLine, chars, failureItem, holeItem, name]

theorem check_render (op : Operation) (named : Name.isIdentifier op.name = true) :
    (checkStmt op).render = Text.join "\n" (checkLines op) := by
  have body := Code.block_join [.throw (failure op)] [[throwLine op]] (by simp) rfl
    (by simpa using throw_line op named)
  rw [checkStmt, Stmt.render, body, Code.blockLines, Code.append_join, ← String.toList_inj]
  simp +decide [checkLines, movedIn, Code.margin, Expr.render, Expr.wrapIf, Code.UnaryOp.symbol]

theorem check_chars (op : Operation) (named : Name.isIdentifier op.name = true) :
    charsOf (checkItems "\n    " "\n      " op) =
      (checkLines op).flatMap fun line => "\n    ".toList ++ line.toList := by
  have chars := failure_chars op named
  simp [checkItems, checkLines, throwLine, chars, parens]

theorem return_chars (lead : String) (type : TypeExpr)
    (typed : Code.PlainType type) :
    charsOf (returnItems lead type) =
      lead.toList ++ (Stmt.return_ (some (.cast
        (.await (.call (.member (.ident "response") "json" false) [])) type))).render.toList := by
  have chars := Code.plain_type_chars type " " typed
  simp +decide [returnItems, chars, parens, Stmt.render, Expr.render, Expr.renderArgs, Expr.wrapIf,
    Text.join]

theorem answer_chars (lead : String) (op : Operation)
    (typed : Code.PlainType (responseType op)) :
    charsOf (answerItems lead op) =
      (answer op).flatMap fun s => lead.toList ++ s.render.toList := by
  have returned := return_chars lead (responseType op) typed
  rw [answerItems, answer]
  cases isVoid (responseType op) with
  | true => rfl
  | false => simpa using returned

def bodyLines (base : Option String) (op : Operation) : List String :=
  (sendStmt base op).render :: (checkLines op ++ (answer op).map Stmt.render)

theorem body_chars (base : Option String) (op : Operation)
    (named : Name.isIdentifier op.name = true)
    (plain : PlainPieces (Schema.segments base op.path))
    (typed : Code.PlainType (responseType op)) :
    charsOf (bodyItems op (Schema.segments base op.path)) =
      (bodyLines base op).flatMap fun line => "\n    ".toList ++ line.toList := by
  rw [bodyItems, chars_of_append, chars_of_append, send_chars _ base op plain,
    check_chars op named, answer_chars _ op typed, bodyLines, List.flatMap_cons,
    List.flatMap_append, List.flatMap_map, List.append_assoc]

theorem pieces_unbroken (pieces : List Segment) (plain : PlainPieces pieces) :
    Unbroken (pieces.flatMap pieceChars) := by
  have each : ∀ piece ∈ pieces, Unbroken (pieceChars piece) := by
    intro piece own
    cases piece with
    | text text => exact (plain.texts_plain text own).2
    | hole name =>
        have named := Code.identifier_unbroken name (plain.holes_named name own)
        simp [pieceChars, holeStart, holeEnd, named]
  constructor <;> intro member <;> obtain ⟨piece, own, within⟩ := List.mem_flatMap.mp member
  · exact (each piece own).1 within
  · exact (each piece own).2 within

theorem send_line (base : Option String) (op : Operation)
    (plain : PlainPieces (Schema.segments base op.path)) : IsLine (sendStmt base op).render := by
  have url := pieces_unbroken _ plain
  have options : Unbroken (charsOf (optionItems op)) := by
    cases body : op.request.isSome <;> cases method : op.method <;>
      simp [optionItems, body, method, bodyOptionItems, parens, Schema.HttpMethod.word, Code.quoted,
        Code.escapeChar]
  have chars := send_chars "" base op plain
  rw [String.toList_empty, List.nil_append] at chars
  rw [IsLine, ← chars]
  simp [sendItems, optionsItem, parens, addressItem, base_chars, baseText, pieces_chars, url, options]

theorem answer_line (op : Operation)
    (typed : Code.PlainType (responseType op)) :
    ∀ s ∈ answer op, IsLine s.render := by
  have type := Code.plain_type_unbroken _ typed
  rw [answer]
  cases isVoid (responseType op) with
  | true => simp
  | false =>
      simp +decide [IsLine, Stmt.render, Expr.render, Expr.renderArgs, Expr.wrapIf, Text.join, type]

theorem check_lines (op : Operation) (named : Name.isIdentifier op.name = true) :
    ∀ line ∈ checkLines op, IsLine line := by
  have failing := (throw_line op named).2
  simp [checkLines, IsLine, failing]

theorem body_lines (base : Option String) (op : Operation)
    (named : Name.isIdentifier op.name = true)
    (plain : PlainPieces (Schema.segments base op.path))
    (typed : Code.PlainType (responseType op)) :
    ∀ line ∈ bodyLines base op, IsLine line := by
  rw [bodyLines, List.forall_mem_cons, List.forall_mem_append, List.forall_mem_map]
  exact ⟨send_line base op plain, check_lines op named, answer_line op typed⟩

theorem body_join (m : Schema.Module) (op : Operation)
    (named : Name.isIdentifier op.name = true)
    (plain : PlainPieces (Schema.segments m.basePath op.path))
    (typed : Code.PlainType (responseType op)) :
    Stmt.block (methodBody m op) =
      Text.join "\n" ("\x7b" :: (movedIn 1 (bodyLines m.basePath op) ++ ["\x7d"])) := by
  have whole := body_lines m.basePath op named plain typed
  rw [bodyLines, List.forall_mem_cons, List.forall_mem_append, List.forall_mem_map] at whole
  obtain ⟨send, check, answered⟩ := whole
  have body := Code.block_join (methodBody m op)
    ([(sendStmt m.basePath op).render] :: checkLines op :: (answer op).map fun s => [s.render])
    (by simp [methodBody])
    (by
      rw [methodBody, List.cons_append, List.cons_append, List.map_cons, List.map_cons,
        List.nil_append, List.map_cons, List.map_cons, ← check_render op named, List.map_map]
      rfl)
    (List.forall_mem_cons.mpr ⟨⟨by simp, by simpa using send⟩,
      List.forall_mem_cons.mpr ⟨⟨by simp [checkLines], check⟩, by simpa using answered⟩⟩)
  have flat : ((answer op).map fun s => [s.render]).flatten = (answer op).map Stmt.render := by
    rw [← List.flatMap_def, ← List.map_eq_flatMap]
  rw [body, Code.blockLines, bodyLines, List.flatten_cons, List.flatten_cons, flat]
  rfl

theorem send_fits (lead : String) (op : Operation) (pieces : List Segment) (next : List Char)
    (gap : IsGap lead.toList) (alternating : Schema.Alternating pieces)
    (plain : PlainPieces pieces) : FitAll false (sendItems lead op pieces) next := by
  have url (after : List Char) := address_fits pieces after alternating plain
  cases body : op.request.isSome <;>
    simp +decide [sendItems, optionsItem, parens, gap, url, optionItems, body, bodyOptionItems]

theorem check_fits (lead inner : String) (op : Operation) (next : List Char)
    (gap : IsGap lead.toList) (innerGap : IsGap inner.toList)
    (named : Name.isIdentifier op.name = true) : FitAll false (checkItems lead inner op) next := by
  have quiet := failure_text_quiet op.name named
  have nonempty : op.name ++ " failed with status " ≠ "" := by simp
  have ends (rest : List Char) : endsChars ('$' :: '\x7b' :: rest) := .inr ⟨rest, rfl⟩
  have failing (after : List Char) : (failureItem op).Fits false after := by
    rw [failureItem]
    generalize op.name ++ " failed with status " = words at quiet nonempty
    simp +decide [holeItem, quiet, nonempty, ends]
  simp +decide [checkItems, parens, gap, innerGap, failing]

theorem answer_fits (lead : String) (op : Operation) (next : List Char) (gap : IsGap lead.toList)
    (typed : Code.PlainType (responseType op)) :
    FitAll false (answerItems lead op) next := by
  have chars := Code.plain_type_chars _ " " typed
  have type := Code.plain_type_fits _ " " (';' :: next) (by simp +decide) typed rfl
  rw [answerItems]
  cases isVoid (responseType op) with
  | true => trivial
  | false => simp +decide [returnItems, parens, gap, type, chars]

theorem body_fits (op : Operation) (pieces : List Segment) (next : List Char)
    (named : Name.isIdentifier op.name = true) (alternating : Schema.Alternating pieces)
    (plain : PlainPieces pieces)
    (typed : Code.PlainType (responseType op)) :
    FitAll false (bodyItems op pieces) next := by
  rw [bodyItems, fit_all_append, fit_all_append]
  exact ⟨⟨send_fits _ op pieces _ (by simp +decide) alternating plain,
    check_fits _ _ op _ (by simp +decide) (by simp +decide) named⟩,
    answer_fits _ op next (by simp +decide) typed⟩

theorem verb_unquoted (method : Schema.HttpMethod) :
    Outline.unquoted (Code.quoted method.word).toList = method.word.toList := by
  cases method <;>
    simp [Schema.HttpMethod.word, Code.quoted, Code.escapeChar, Outline.unquoted, Outline.stripped]

theorem verb_plain (method : Schema.HttpMethod) : Code.IsPlainText method.word := by
  cases method <;> decide

-- A text in quotes as a value.
theorem string_value (lead value : String) (place : Nat) (plain : Code.IsPlainText value) :
    ValueNodes .whole [.token ((written .string lead (Code.quoted value)).settle place)]
      [((written .string lead (Code.quoted value)).settle place).stringNode] :=
  .single (.chain (.operand (operand_string _ (plain_string_token lead value place plain))))

theorem name_key (lead name : String) (place : Nat) (tight : Tight lead) (plain : IsPlainName name) :
    keyNode? ((written .word lead name).settle place) =
      some (((written .word lead name).settle place).leaf "property_identifier") :=
  key_plain _ tight (plain_name_token lead name place plain)

-- The options that a request with a body has behind its method.
theorem body_options_derived (behind : Nat) : ∃ nodes,
    ValueNodes (.entries true) (settleAll behind bodyOptionItems.tail) nodes := by
  have type : Code.IsPlainText "Content-Type" := by decide
  have json : Code.IsPlainText "application/json" := by decide
  exact ⟨_, @ValueNodes.more _ [_, _, _] _ _ _ _ rfl
    (.pair (name_key " " "headers" _ tight_blank (by decide)) rfl rfl
      (.single (.chain (.object rfl rfl (one_entry rfl
        (.pair (key_string _ rfl (plain_string_token " " "Content-Type" _ type)) rfl rfl
          (string_value " " "application/json" _ json))))))) rfl
    (.last rfl (.pair (name_key " " "body" _ tight_blank (by decide)) rfl rfl
      (.single (.chain (member_call
        (item_member (name_operand " " "JSON" _ (by decide)) rfl rfl
          (plain_name_token "" "stringify" _ (by decide)))
        (parens_tight _ _)
        (one_entry rfl (.single (.chain (name_operand "" "body" _ (by decide))))))))))⟩

def verbItems (method : Schema.HttpMethod) : List Item :=
  [wordItem " " "method", markItem "" ":", stringItem " " (Code.quoted method.word)]

-- An option of a request that names the method.
structure NamesMethod (method : Schema.HttpMethod) (pair value : Node) : Prop where
  named : pair.named = true
  names : Outline.namesField "method" pair = true
  given : pair.child? "value" = some value
  is_string : value.kind = "string"
  text : value.text = (Code.quoted method.word).toList

theorem verb_derived (method : Schema.HttpMethod) (behind : Nat) : ∃ pair value,
    ValueNodes .pair (settleAll behind (verbItems method)) [pair] ∧
      NamesMethod method pair value := by
  refine ⟨_, ((written .string " " (Code.quoted method.word)).settle (0 + behind)).stringNode.as
    "value", .pair (name_key " " "method" _ tight_blank (by decide)) rfl rfl
    (string_value " " method.word _ (verb_plain method)), ⟨rfl, ?_, ?_, rfl, by simp⟩⟩
  · simp +decide [Outline.namesField, Node.child?]
  · simp [Node.child?]

-- The options of a request are derived as an object, from which the method is taken.
theorem options_derived (op : Operation) (place : Nat) :
    ∃ n, ValueNodes .whole [(optionsItem op).settle place] [n] ∧ n.named = true ∧
      Outline.methodOf? n = some op.method.word.toList := by
  have entries : ∃ pair value others,
      ValueNodes (.inside true) (settleAll (2 + place) (optionItems op)) (pair :: others) ∧
        NamesMethod op.method pair value := by
    have split : optionItems op =
        verbItems op.method ++ if op.request.isSome then bodyOptionItems else [] := rfl
    rw [split, settle_all_append]
    cases op.request.isSome with
    | false =>
        obtain ⟨pair, value, derived, told⟩ := verb_derived op.method
          ((charsOf []).length + (2 + place))
        exact ⟨pair, value, [], one_entry rfl derived, told⟩
    | true =>
        obtain ⟨pair, value, derived, told⟩ := verb_derived op.method
          ((charsOf bodyOptionItems).length + (2 + place))
        obtain ⟨nodes, more⟩ := body_options_derived (2 + place)
        exact ⟨pair, value, _, .someEntries (.more rfl derived rfl more), told⟩
  obtain ⟨pair, value, others, derived, told⟩ := entries
  refine ⟨_, .single (.chain (.object rfl rfl derived)), rfl, ?_⟩
  simp [Outline.methodOf?, Node.namedChildren, enclosed, told.named, told.names, told.given,
    told.is_string, told.text, verb_unquoted]

-- The first statement of a method sends the request.
theorem send_derived (op : Operation) (pieces : List Segment) (plain : PlainPieces pieces)
    (bound : ∀ name, .hole name ∈ pieces → Code.IsBoundName name) (behind : Nat) :
    ∃ n, StatementNodes .one (settleAll behind (sendItems "\n    " op pieces)) [n] ∧
      n.named = true ∧ ∃ call, n.findCall? "fetch" = some call ∧
        (call.child? "arguments").bind Outline.requestOf? =
          some (op.method.word.toList ++ ' ' :: (baseText.toList ++ pieces.flatMap pieceChars)) := by
  choose options isObject optionsNamed method using options_derived op
  choose url isTemplate urlNamed address using address_derived pieces plain bound
  refine ⟨_, .const rfl rfl (plain_name_token " " "response" _ (by decide)) rfl rfl
    (.single (.await rfl rfl (.chain (item_call
      (name_operand " " "fetch" _ (by decide)) (parens_tight _ _)
      (.someEntries (@ValueNodes.more _ [_] _ _ _ _ rfl (.single (.chain (isTemplate _))) rfl
        (.last rfl (isObject _)))))))) rfl, rfl, ?_⟩
  refine ⟨_, by simp +decide [find_call_eq, find_call_cons, find_call_nil, call_calls]; rfl, ?_⟩
  simp [callNode, Node.child?, Outline.requestOf?, Node.namedChildren, enclosed, urlNamed,
    optionsNamed, method, address]

-- A property of the answer.
theorem answer_property (lead key : String) (plain : IsPlainName key) (first second third : Nat) :
    ∃ n, ValueNodes .primary
      [.token ((written .word lead "response").settle first),
        .token ((written .mark "" ".").settle second),
        .token ((written .word "" key).settle third)] [n] :=
  ⟨_, item_member (name_operand lead "response" first (by decide)) rfl rfl
    (plain_name_token "" key third plain)⟩

-- The text of a failure names the operation and the status of the answer.
theorem failure_derived (op : Operation) (place : Nat) :
    ∃ n, ValueNodes .whole [(failureItem op).settle place] [n] := by
  choose status derived using answer_property "" "status" (by decide)
  exact ⟨_, .single (.chain (.template rfl rfl (.chars rfl (.hole rfl rfl rfl
    (.single (.chain (derived _ _ _))) .noPieces))))⟩

theorem check_derived (op : Operation) (behind : Nat) :
    ∃ n, StatementNodes .one (settleAll behind (checkItems "\n    " "\n      " op)) [n] := by
  choose ok asked using answer_property "" "ok" (by decide)
  choose failure told using failure_derived op
  exact ⟨_, .branch rfl (parens_settled " " "" tight_blank tight_none _ _) rfl
    (.single (.not rfl rfl (.chain (asked _ _ _)))) rfl
    (statement_last rfl (.throw rfl rfl (.single (.new rfl rfl
      (plain_name_token " " "Error" _ (by decide)) (parens_tight _ _)
      (one_entry rfl (told _)))) rfl))⟩

theorem return_derived (type : TypeExpr) (typed : Code.PlainType type) (behind : Nat) :
    ∃ n, StatementNodes .one (settleAll behind (returnItems "\n    " type)) [n] := by
  choose json asked using answer_property " " "json" (by decide)
  obtain ⟨n, derived⟩ := Code.type_derived type " "
    ((charsOf [markItem "" ";"]).length + behind) tight_blank typed
  rw [returnItems, settle_all_cons, settle_all_cons, settle_all_cons, settle_all_append,
    ← List.cons_append, ← List.cons_append]
  exact ⟨_, .return_ rfl rfl (@ValueNodes.cast [_] _ _ _ _ (.chain (.parens rfl rfl rfl
    (.single (.await rfl rfl (.chain (member_call (asked _ _ _) (parens_tight _ _)
      .noEntries)))))) rfl (Code.whole_type type _ n derived)) rfl⟩

theorem answers_derived (op : Operation) (typed : Code.PlainType (responseType op))
    (behind : Nat) :
    ∃ nodes, StatementNodes .rows (settleAll behind (answerItems "\n    " op)) nodes := by
  rw [answerItems]
  cases isVoid (responseType op) with
  | true => exact ⟨[], .none⟩
  | false =>
      obtain ⟨n, derived⟩ := return_derived (responseType op) typed behind
      exact ⟨_, statement_last rfl derived⟩

-- The body of a method makes the request of its operation.
theorem body_requests (base : Option String) (op : Operation)
    (plainBase : Schema.PlainPath (base.getD "").toList)
    (plainPath : Schema.PlainPath op.path.toList)
    (bound : ∀ name, .hole name ∈ Schema.segments base op.path → Code.IsBoundName name)
    (typed : Code.PlainType (responseType op)) :
    Code.Requests (bodyItems op (Schema.segments base op.path)) (some (endpointOf base op)) := by
  obtain ⟨plain, spells⟩ := plain_segments base op.path plainBase plainPath
  intro behind
  obtain ⟨answers, given⟩ := answers_derived op typed behind
  obtain ⟨check, asked⟩ := check_derived op ((charsOf (answerItems "\n    " op)).length + behind)
  obtain ⟨send, sent, named, call, found, request⟩ := send_derived op _ plain bound
    ((charsOf (checkItems "\n    " "\n      " op ++ answerItems "\n    " op)).length + behind)
  rw [bodyItems, List.append_assoc, settle_all_append, settle_all_append]
  refine ⟨_, statement_first rfl sent (statement_first rfl asked given),
    fun items opening closing field => ?_⟩
  have first : Node.findCallAmong? "fetch" ([send] ++ ([check] ++ answers)) = some call := by
    rw [List.singleton_append, find_call_cons, named, if_pos rfl, found]
    rfl
  rw [Outline.endpoint?, find_call_block _ _ _ _ _ _ _ rfl, first, Option.bind_some, request,
    spells, Option.map_some, Option.some.injEq, ← String.toList_inj, endpointOf]
  simp [baseText]

end ApiContract.Emit
