import ApiContract.Proofs.Code.ClassItems
import ApiContract.Proofs.Code.FileItems
import ApiContract.Proofs.Emit.MapAll
import ApiContract.Proofs.Emit.PlainModules
import ApiContract.Proofs.Emit.RequestItems

/-!
The class of a client as items, which declare the operations of the module as its methods.
-/

set_option autoImplicit false

namespace ApiContract.Emit

open Code (ClassMember Decl IsBoundName IsLine IsPlainName Param PlainParam PlainType TypeExpr
  movedIn plainParam plain_name_token)
open Schema (Accepted Module Operation)
open Script

theorem placed_params (m : Module) (op : Operation) (names : List String) (placed : List Param)
    (made : mapAll (placeholderParam TypeMap.standard m op) names = .ok placed)
    (named : ∀ name ∈ names, IsBoundName name) :
    ∃ pairs : List (String × TypeExpr), placed = pairs.map (fun p => plainParam p.1 p.2) ∧
      (∀ p ∈ pairs, PlainParam p) ∧ pairs.map Code.paramOutline =
        names.map fun name => ⟨name, some (standardText (op.paramType name)), false⟩ := by
  induction names generalizing placed with
  | nil =>
      cases made
      exact ⟨[], rfl, by simp, rfl⟩
  | cons name rest ih =>
      obtain ⟨own, later⟩ := List.forall_mem_cons.mp named
      obtain ⟨first, others, one, more, rfl⟩ := (map_all_cons_ok _ _ _ _).mp made
      obtain ⟨pairs, rfl, plain, outlines⟩ := ih others more later
      rw [placeholderParam] at one
      split at one
      · rename_i type resolved
        cases one
        obtain ⟨text, typeName, same, spelled⟩ := standard_resolved _ type resolved
        refine ⟨(name, type) :: pairs, rfl, List.forall_mem_cons.mpr ⟨⟨own, ?_⟩, plain⟩, ?_⟩
        · rw [same]
          exact spelled
        · rw [List.map_cons, outlines, List.map_cons, text]
          rfl
      · cases one

-- The lines of a method, with its comment in front.
def methodLines (doc name : String) (params : List (String × TypeExpr)) (returns : TypeExpr)
    (body : List String) : List String :=
  doc :: ("async " ++ name ++ Code.paramList (params.map fun p => plainParam p.1 p.2) ++ ": " ++
    returns.render ++ " \x7b") :: (movedIn 1 body ++ ["\x7d"])

theorem method_lines (doc name : String) (params : List (String × TypeExpr)) (returns : TypeExpr)
    (body : List String) (docLine : IsLine doc) (named : IsPlainName name)
    (plainParams : ∀ p ∈ params, PlainParam p) (typed : PlainType returns)
    (bodyLines : ∀ line ∈ body, IsLine line) :
    ∀ line ∈ methodLines doc name params returns body, IsLine line := by
  have first := Code.identifier_unbroken name named.1
  have list := Code.param_list_unbroken params plainParams
  have type := Code.plain_type_unbroken returns typed
  have moved : ∀ line ∈ movedIn 1 body, IsLine line := by
    simpa [movedIn, Code.margin, IsLine] using fun line member => (bodyLines line member).2
  refine List.forall_mem_cons.mpr ⟨docLine, List.forall_mem_cons.mpr ⟨?_,
    List.forall_mem_append.mpr ⟨moved, ?_⟩⟩⟩
  · simp [IsLine, first, list, type]
  · simp [IsLine]

theorem method_doc_line (op : Operation) (operation : PlainOperation op) :
    ∃ doc, Code.docText (some (methodDoc op)) = doc ++ "\n" ∧ IsLine doc ∧ IsGap doc.toList := by
  have text : methodDoc op = op.method.word ++ " " ++ op.path := by
    rw [methodDoc, operation.no_description]
    rfl
  have path (other : Char) := Schema.plain_path_free _ operation.path_plain other
  rw [text]
  refine Code.doc_line _ ?_ ?_ (op.method.word.toList.head?.getD ' ') ?_ ?_
  · have unbroken := plain_path_unbroken _ operation.path_plain
    cases op.method <;> simpa [Schema.HttpMethod.word] using unbroken
  · have free := path '*' (by decide) (by decide) (by decide)
    cases op.method <;> simpa [Schema.HttpMethod.word] using free
  · cases op.method <;> simp [Schema.HttpMethod.word]
  · cases op.method <;> decide

theorem holes_are_placeholders (base : Option String) (op : Operation)
    (plain : PlainPieces (Schema.segments base op.path)) (name : String)
    (hole : .hole name ∈ Schema.segments base op.path) : name ∈ op.placeholders := by
  have names : ∀ other ∈ Schema.holeNames (Schema.segments base op.path),
      Schema.PlainName other := by
    intro other member
    obtain ⟨piece, own, isHole⟩ := List.mem_filterMap.mp member
    cases piece with
    | text => cases isHole
    | hole =>
        cases isHole
        have named := plain.holes_named other own
        obtain ⟨c, rest, spelled, -⟩ := Name.identifier_parts other named
        exact ⟨by simp [spelled], Schema.part_ne other named '\x7b' (by decide)⟩
  have same := (Schema.hole_names_eq_placeholders_iff base op.path).mpr
    (Schema.well_braced_of_plain_holes base op.path names)
  rw [Operation.placeholders, ← same]
  exact List.mem_filterMap.mpr ⟨_, hole, rfl⟩

-- A member of a class behind an empty line: its lines, its items, and the methods that it gives.
structure WrittenMember where
  lines : List String
  items : List Item
  methods : List Outline.Method
  full : lines ≠ [] ∧ ∀ line ∈ lines, IsLine line
  chars : charsOf items = '\n' :: Code.bodyChars lines
  fits : ∀ next, FitAll false items next
  gives : Code.GivesMethods items methods

def WrittenMember.text (w : WrittenMember) : String :=
  Text.join "\n" w.lines

variable (m : Module) (accepted : Accepted m) (plain : PlainModule m)

include accepted plain

-- The parameters of a method: its placeholders, then the body if one is sent.
theorem method_params (op : Operation) (member : op ∈ m.operations) (params : List Param)
    (succeeds : methodParams TypeMap.standard m op = .ok params) :
    ∃ pairs : List (String × TypeExpr), params = pairs.map (fun p => plainParam p.1 p.2) ∧
      (∀ p ∈ pairs, PlainParam p) ∧ pairs.map Code.paramOutline = paramOutlines op := by
  have sound := ((Schema.accepted_iff m).mp accepted).operations_sound op member
  have body : PlainType (.named op.requestType) :=
    plain_type_name _ (request_type m plain op member)
  obtain ⟨placed, made, rfl⟩ := (map_ok_iff _ _ _).mp succeeds
  obtain ⟨pairs, rfl, own, outlines⟩ := placed_params m op _ placed made fun name placeholder =>
    ⟨(sound.placeholders_sound name placeholder).named,
      (sound.placeholders_sound name placeholder).not_reserved⟩
  rw [bodyParams, paramOutlines, ← outlines]
  cases op.request.isSome with
  | false => exact ⟨pairs, by simp, own, by simp⟩
  | true =>
      have named : IsBoundName "body" := by decide
      have last : PlainParam ("body", .named op.requestType) := ⟨named, body⟩
      exact ⟨pairs ++ [("body", .named op.requestType)], by simp [param, plainParam],
        List.forall_mem_append.mpr ⟨own, by simpa using last⟩,
        by simp [Code.paramOutline, TypeExpr.render]⟩

-- A method of the class: its lines, its items, and the operation that they give.
theorem method_written (op : Operation) (member : op ∈ m.operations) (made : ClassMember)
    (succeeds : method TypeMap.standard m op = .ok made) :
    ∃ w : WrittenMember, made.render = w.text ∧ w.methods = [methodOutline m op] := by
  obtain ⟨params, placed, rfl⟩ := (map_ok_iff _ _ _).mp succeeds
  obtain ⟨pairs, rfl, plainPairs, outlines⟩ := method_params m accepted plain op member params placed
  obtain ⟨typed, text⟩ := response_type m accepted plain op member
  have operation := plain.operations_plain op member
  have named := member_plain op.name operation.named
  have sound := ((Schema.accepted_iff m).mp accepted).operations_sound op member
  have notConstructor : op.name ≠ "constructor" := fun same =>
    sound.not_member (by rw [same]; decide)
  obtain ⟨pieces, -⟩ := plain_segments m.basePath op.path plain.base_plain operation.path_plain
  have alternating := Schema.segments_alternating op.path.toList
    (Schema.trimBase (m.basePath.getD "")).reverse none
  have bound (name : String) (hole : .hole name ∈ Schema.segments m.basePath op.path) :
      IsBoundName name := by
    have own := sound.placeholders_sound name (holes_are_placeholders m.basePath op pieces name hole)
    exact ⟨own.named, own.not_reserved⟩
  have promised : PlainType (responseType op).promise :=
    ⟨(by decide), by simp, typed, trivial⟩
  obtain ⟨doc, docText, docLine, docGap⟩ := method_doc_line op operation
  have gap : IsGap ("\n\n  " ++ doc ++ "\n  ").toList := by
    have blank (text : String) (all : text.toList.all isBlank = true) : IsGap text.toList :=
      gap_blanks _ all
    rw [String.toList_append, String.toList_append]
    exact gap_append _ _ (gap_append _ _ (blank _ (by decide)) docGap) (blank _ (by decide))
  have block := body_join m op named.1 pieces typed
  refine ⟨{
    lines := methodLines doc op.name pairs (responseType op).promise (bodyLines m.basePath op)
    items := Code.methodItems ("\n\n  " ++ doc ++ "\n  ") op.name pairs (responseType op).promise
      (bodyItems op (Schema.segments m.basePath op.path)) "\n  "
    methods := [methodOutline m op]
    full := ⟨by simp [methodLines], method_lines doc op.name pairs _ _ docLine named plainPairs
      promised (body_lines m.basePath op named.1 pieces typed)⟩
    chars := ?_
    fits := fun next => Code.method_items_fit _ _ _ _ _ _ next gap (by simp +decide) named.1
      plainPairs promised fun after => body_fits op _ after named.1 alternating pieces typed
    gives := ?_ }, ?_, rfl⟩
  · have body := body_chars m.basePath op named.1 pieces typed
    rw [Code.method_items_chars _ _ _ _ _ _ plainPairs promised, body]
    simp [methodLines, Code.bodyChars, movedIn, Code.margin, List.flatMap_map]
  · have gives := Code.method_gives ("\n\n  " ++ doc ++ "\n  ") op.name pairs
      (responseType op).promise (bodyItems op (Schema.segments m.basePath op.path)) "\n  "
      (some (endpointOf m.basePath op)) gap named notConstructor plainPairs promised (by decide)
      (body_requests m.basePath op plain.base_plain operation.path_plain bound typed)
    have promise : (responseType op).promise.render = "Promise<" ++ responseText op ++ ">" := by
      rw [← text]
      rfl
    rwa [outlines, promise] at gives
  · rw [ClassMember.render, block, docText, ← String.toList_inj]
    simp [WrittenMember.text, methodLines, Text.join_chars, Code.Visibility.lead, Code.asyncLead,
      Code.typeSuffix]

theorem methods_written (operations : List Operation) (own : ∀ op ∈ operations, op ∈ m.operations)
    (methods : List ClassMember)
    (made : mapAll (method TypeMap.standard m) operations = .ok methods) :
    ∃ ws : List WrittenMember, methods.map ClassMember.render = ws.map WrittenMember.text ∧
      ws.flatMap WrittenMember.methods = operations.map (methodOutline m) := by
  induction operations generalizing methods with
  | nil =>
      cases made
      exact ⟨[], rfl, rfl⟩
  | cons op rest ih =>
      obtain ⟨member, later⟩ := List.forall_mem_cons.mp own
      obtain ⟨first, others, one, more, rfl⟩ := (map_all_cons_ok _ _ _ _).mp made
      obtain ⟨w, render, outline⟩ := method_written m accepted plain op member first one
      obtain ⟨ws, renders, outlines⟩ := ih later others more
      exact ⟨w :: ws, by simp [render, renders], by simp [outline, outlines]⟩

omit accepted plain

def constructorBody : List Item :=
  [wordItem "\n    " "this", markItem "" ".", wordItem "" "baseUrl", markItem " " "=",
    wordItem " " "baseUrl", markItem "" ";"]

def baseParams : List (String × TypeExpr) :=
  [("baseUrl", .named "string")]

theorem base_params_plain : ∀ p ∈ baseParams, PlainParam p := by
  have named : IsBoundName "baseUrl" := by decide
  have own : PlainParam ("baseUrl", .named "string") :=
    ⟨named, standard_names "string" (by simp [standardNames])⟩
  simpa [baseParams] using own

def baseConstructor : ClassMember :=
  .constructor_ [param "baseUrl" (.named "string")] [.expression (.raw "this.baseUrl = baseUrl")]

-- The constructor keeps the base and requests nothing.
theorem constructor_requests : Code.Requests constructorBody none := by
  intro behind
  have plain : IsPlainName "baseUrl" := by decide
  refine ⟨_, statement_last rfl (.expression (.inl rfl)
    (@ValueNodes.assignment [_, _, _] _ _ _ _ (.chain (item_member (.operand rfl) rfl rfl
      (plain_name_token "" "baseUrl" _ plain))) rfl rfl rfl
      (.single (.chain (name_operand " " "baseUrl" _ plain)))) rfl), ?_⟩
  intro items opening closing field
  rw [Outline.endpoint?, find_call_block _ _ _ _ _ _ _ rfl]
  simp [find_call_eq, find_call_cons, find_call_nil, Node.calls, memberNode, Token.nameNode]

theorem constructor_written :
    ∃ w : WrittenMember, baseConstructor.render = w.text ∧ w.methods = [] := by
  refine ⟨{
    lines := ["constructor(baseUrl: string) \x7b", "  this.baseUrl = baseUrl;", "\x7d"]
    items := Code.constructorItems "\n\n  " baseParams constructorBody "\n  "
    methods := []
    full := ⟨by simp, by simp [IsLine]⟩
    chars := ?_
    fits := fun next => Code.constructor_items_fit _ _ _ _ next (by simp +decide) (by simp +decide)
      base_params_plain fun after => by simp +decide [constructorBody]
    gives := Code.constructor_gives _ _ _ _ none (by simp +decide) base_params_plain (by decide)
      constructor_requests }, ?_, rfl⟩
  · rw [Code.constructor_items_chars _ _ _ _ base_params_plain]
    simp [baseParams, plainParam, Code.paramList, Code.Expr.renderParams, Text.join,
      TypeExpr.render, constructorBody, Code.bodyChars]
  · have block := Code.block_join [.expression (.raw "this.baseUrl = baseUrl")]
      [["this.baseUrl = baseUrl;"]] (by simp) rfl (by simp [IsLine])
    rw [baseConstructor, ClassMember.render, block, ← String.toList_inj]
    simp [WrittenMember.text, Code.blockLines, movedIn, Code.margin, param, Code.paramList,
      Code.Expr.renderParams, Text.join, TypeExpr.render]

def baseField : ClassMember :=
  .field "baseUrl" (some (.named "string")) .private_ true none

-- The items of the members of a client, with the methods that they give.
def clientMembers (ws : List WrittenMember) : List (List Item × List Outline.Method) :=
  (Code.fieldItems "\n  " "baseUrl" "string", []) :: ws.map fun w => (w.items, w.methods)

theorem client_items (ws : List WrittenMember) :
    (clientMembers ws).flatMap Prod.fst =
      Code.fieldItems "\n  " "baseUrl" "string" ++ ws.flatMap WrittenMember.items := by
  simp [clientMembers, List.flatMap_map]

theorem base_field_line : IsLine baseField.render := by
  simp [IsLine, baseField, ClassMember.render, Code.Visibility.lead, Code.typeSuffix,
    Code.initSuffix, TypeExpr.render]

theorem client_members_chars (ws : List WrittenMember) :
    charsOf ((clientMembers ws).flatMap Prod.fst) =
      Code.bodyChars [baseField.render] ++
        (ws.map WrittenMember.lines).flatMap fun ls => '\n' :: Code.bodyChars ls := by
  have others : charsOf (ws.flatMap WrittenMember.items) =
      (ws.map WrittenMember.lines).flatMap fun ls => '\n' :: Code.bodyChars ls := by
    induction ws with
    | nil => rfl
    | cons w rest ih => rw [List.flatMap_cons, chars_of_append, w.chars, ih]; rfl
  rw [client_items, chars_of_append, Code.field_items_chars, others]
  simp [Code.bodyChars, baseField]

theorem client_members_fit (ws : List WrittenMember) (next : List Char) :
    FitAll false ((clientMembers ws).flatMap Prod.fst) next := by
  have others : FitAll false (ws.flatMap WrittenMember.items) next := by
    induction ws with
    | nil => trivial
    | cons w rest ih => exact (fit_all_append _ _ _ _).mpr ⟨w.fits _, ih⟩
  rw [client_items, fit_all_append]
  have named : Name.isIdentifier "baseUrl" = true ∧ Name.isIdentifier "string" = true := by
    decide
  exact ⟨Code.field_items_fit _ _ _ _ (by simp +decide) named.1 named.2, others⟩

theorem client_members_give (ws : List WrittenMember) :
    ∀ member ∈ clientMembers ws, Code.GivesMethods member.1 member.2 := by
  refine List.forall_mem_cons.mpr ⟨Code.field_gives _ _ _ (by simp +decide)
    (by decide) (standard_names "string" (by simp [standardNames])), ?_⟩
  simpa using fun w _ => w.gives

theorem class_name_type (named : Name.isHyphenName m.name = true) :
    Name.NamesType (className m.name) :=
  Name.type_append _ "Client" (Name.hyphen_pascal_type m.name named)
    (List.all_eq_true.mp (by decide))

theorem class_doc_line (named : Name.isHyphenName m.name = true) : ∃ doc,
    Code.docText (some ("HTTP client for the " ++ m.name ++ " module")) = doc ++ "\n" ∧
      IsLine doc ∧ IsGap doc.toList := by
  obtain ⟨c, rest, -, -, parts⟩ := Name.hyphen_parts m.name named
  have free (other : Char) (noPart : Name.isPart other = false) (noHyphen : other ≠ '-') :
      other ∉ m.name.toList := fun member =>
    (parts other member).elim (fun part => Bool.false_ne_true (noPart.symm.trans part)) noHyphen
  refine Code.doc_line _ ?_ ?_ 'H' (by simp) (by decide)
  · have feed := free '\n' (by decide) (by decide)
    have return_ := free '\r' (by decide) (by decide)
    have name : Text.Unbroken m.name.toList := ⟨feed, return_⟩
    simpa using name
  · simpa using free '*' (by decide) (by decide)

theorem client_text (ws : List WrittenMember) (others : List ClassMember)
    (renders : others.map ClassMember.render = ws.map WrittenMember.text) (lead name : String) :
    charsOf (Code.classItems lead name ((clientMembers ws).flatMap Prod.fst)) =
      (lead ++ (Decl.class_ name true none (baseField :: others) none).render).toList := by
  have texts : (baseField :: others).map ClassMember.render =
      ([baseField.render] :: ws.map WrittenMember.lines).map (Text.join "\n") := by
    rw [List.map_cons, renders, List.map_cons, List.map_map]
    rfl
  refine Code.class_items_chars lead name _ _ _ texts ?_ _ ?_ (client_members_chars ws)
  · refine List.forall_mem_cons.mpr ⟨⟨by simp, by simpa using base_field_line⟩, ?_⟩
    simpa using fun w _ => w.full
  · simp [client_items, Code.fieldItems]

include accepted plain

-- The class of a client declares its operations.
theorem client_class_stands (decl : Decl)
    (succeeds : clientClass TypeMap.standard m = .ok decl) :
    Code.StandsFor decl [clientOutline m] := by
  obtain ⟨methods, made, rfl⟩ := (map_ok_iff _ _ _).mp succeeds
  obtain ⟨ws, renders, outlines⟩ := methods_written m accepted plain m.operations (fun _ => id)
    methods made
  obtain ⟨w, render, nothing⟩ := constructor_written
  obtain ⟨doc, docText, docLine, docGap⟩ := class_doc_line m plain.named
  have named := type_plain _ (class_name_type m plain.named)
  have allRender : (baseConstructor :: methods).map ClassMember.render =
      (w :: ws).map WrittenMember.text := by
    rw [List.map_cons, List.map_cons, render, renders]
  have allMethods : (clientMembers (w :: ws)).flatMap Prod.snd =
      m.operations.map (methodOutline m) := by
    rw [← outlines]
    simp [clientMembers, nothing, List.flatMap_map]
  have written := Code.class_doc (className m.name) (baseField :: baseConstructor :: methods)
    (some ("HTTP client for the " ++ m.name ++ " module"))
  rw [docText] at written
  refine Code.stands_behind_doc _ doc _ _ docGap written fun lead gap =>
    ⟨Code.classItems lead (className m.name) ((clientMembers (w :: ws)).flatMap Prod.fst),
      by simp [Code.classItems], ?_, fun next => Code.class_items_fit _ _ _ next gap named.1
        (client_members_fit (w :: ws)), ?_⟩
  · simpa using client_text (w :: ws) (baseConstructor :: methods) allRender lead (className m.name)
  · have declares := Code.class_declares lead (className m.name) _ _ gap named
      (Code.members_give _ (client_members_give (w :: ws)))
    rwa [allMethods] at declares

end ApiContract.Emit
