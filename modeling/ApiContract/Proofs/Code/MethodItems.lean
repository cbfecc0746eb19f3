import ApiContract.Proofs.Code.MemberItems

/-!
The items of parameters and of the members of a class, the nodes that they are derived as, and what
is taken from these.
-/

set_option autoImplicit false

namespace ApiContract.Code

open Outline (IsIdentifier)
open Script

-- A parameter as it is made here: its name and its type.
def plainParam (name : String) (t : TypeExpr) : Param :=
  .mk name (some t) false none

-- A name that may be bound.
def IsBoundName (name : String) : Prop :=
  Name.isIdentifier name = true ∧ Name.isReservedWord name = false

instance (name : String) : Decidable (IsBoundName name) :=
  inferInstanceAs (Decidable (_ ∧ _))

structure PlainParam (p : String × TypeExpr) : Prop where
  named : IsBoundName p.1
  type_plain : PlainType p.2

def moreParamItems (params : List (String × TypeExpr)) : List Item :=
  params.flatMap fun p => markItem "" "," :: namedItems " " p.1 false p.2

def paramItems : List (String × TypeExpr) → List Item
  | [] => []
  | p :: rest => namedItems "" p.1 false p.2 ++ moreParamItems rest

def paramOutline (p : String × TypeExpr) : Outline.Param :=
  ⟨p.1, some p.2.render, false⟩

theorem more_param_items_chars (params : List (String × TypeExpr))
    (plain : ∀ p ∈ params, PlainParam p) :
    charsOf (moreParamItems params) =
      (Expr.renderParams (params.map fun p => plainParam p.1 p.2)).flatMap fun text =>
        ", ".toList ++ text.toList := by
  induction params with
  | nil => rfl
  | cons p rest ih =>
      obtain ⟨own, later⟩ := List.forall_mem_cons.mp plain
      have first := named_items_chars " " p.1 false p.2 own.type_plain
      have others := ih later
      rw [moreParamItems] at others
      simp [moreParamItems, first, others, plainParam, Expr.renderParams]

theorem param_items_chars (params : List (String × TypeExpr))
    (plain : ∀ p ∈ params, PlainParam p) :
    '(' :: (charsOf (paramItems params) ++ [')']) =
      (paramList (params.map fun p => plainParam p.1 p.2)).toList := by
  cases params with
  | nil => rfl
  | cons p rest =>
      obtain ⟨own, later⟩ := List.forall_mem_cons.mp plain
      have first := named_items_chars "" p.1 false p.2 own.type_plain
      have others := more_param_items_chars rest later
      simp [paramItems, paramList, plainParam, Expr.renderParams, Text.join_chars, first, others]

theorem more_param_items_fit (params : List (String × TypeExpr)) (next : List Char)
    (plain : ∀ p ∈ params, PlainParam p) :
    FitAll false (moreParamItems params) (')' :: next) ∧
      isApart (charsOf (moreParamItems params) ++ ')' :: next) = true := by
  induction params with
  | nil => exact ⟨trivial, rfl⟩
  | cons p rest ih =>
      obtain ⟨own, later⟩ := List.forall_mem_cons.mp plain
      obtain ⟨others, apart⟩ := ih later
      have first := named_items_fit " " p.1 false p.2 _ (by simp +decide) own.named.1
        own.type_plain apart
      rw [moreParamItems] at others first
      exact ⟨by simpa [moreParamItems, first] using others, by simp +decide [moreParamItems]⟩

theorem param_items_fit (params : List (String × TypeExpr)) (next : List Char)
    (plain : ∀ p ∈ params, PlainParam p) : FitAll false (paramItems params) (')' :: next) := by
  cases params with
  | nil => trivial
  | cons p rest =>
      obtain ⟨own, later⟩ := List.forall_mem_cons.mp plain
      obtain ⟨others, apart⟩ := more_param_items_fit rest next later
      have first := named_items_fit "" p.1 false p.2 _ gap_nil own.named.1 own.type_plain apart
      exact (fit_all_append _ _ _ _).mpr ⟨first, others⟩

theorem bound_name_token (lead name : String) (behind : Nat) (bound : IsBoundName name) :
    ((written .word lead name).settle behind).isName = true := by
  rw [settle_is_name]
  simp [Token.isName, written, String.ofList_toList, bound.1, bound.2]

def paramsTaken (nodes : List Node) : List Outline.Param :=
  (nodes.filter Node.named).filterMap Outline.Param.ofNode?

theorem param_derived (lead : String) (p : String × TypeExpr) (tight : Tight lead)
    (plain : PlainParam p) (behind : Nat) :
    ∃ n, ParameterNode (settleAll behind (namedItems lead p.1 false p.2)) n ∧ n.named = true ∧
      Outline.Param.ofNode? n = some (paramOutline p) := by
  obtain ⟨n, derived, kind, text⟩ := ascription_derived p.2 plain.type_plain behind
  refine ⟨_, .mk tight (bound_name_token lead p.1 _ plain.named) derived, rfl, ?_⟩
  simp +decide [Outline.Param.ofNode?, Outline.fieldText?, Outline.nodeText, Node.child?, text,
    paramOutline, Token.nameNode]

theorem params_derived (lead : String) (p : String × TypeExpr) (rest : List (String × TypeExpr))
    (tight : Tight lead) (plain : ∀ q ∈ p :: rest, PlainParam q) (behind : Nat) :
    ∃ nodes, Separated ParameterNode
        (settleAll behind (namedItems lead p.1 false p.2 ++ moreParamItems rest)) nodes ∧
      paramsTaken nodes = (p :: rest).map paramOutline := by
  induction rest generalizing lead p with
  | nil =>
      obtain ⟨n, derived, named, taken⟩ := param_derived lead p tight (plain p (by simp)) behind
      exact ⟨[n], by simpa [moreParamItems] using .last derived,
        by simp [paramsTaken, named, taken]⟩
  | cons q others ih =>
      obtain ⟨own, later⟩ := List.forall_mem_cons.mp plain
      obtain ⟨n, derived, named, taken⟩ := param_derived lead p tight own
        ((charsOf (moreParamItems (q :: others))).length + behind)
      obtain ⟨nodes, more, takenMore⟩ := ih " " q tight_blank later
      rw [settle_all_append]
      refine ⟨_, .more derived rfl more, ?_⟩
      rw [List.map_cons, ← takenMore]
      simp [paramsTaken, named, taken]

def paramsGroup (params : List (String × TypeExpr)) : Item :=
  groupItem "" "(" (paramItems params) "" ")"

theorem params_group_derived (params : List (String × TypeExpr))
    (plain : ∀ p ∈ params, PlainParam p) (place : Nat) :
    ∃ n, ParametersNode [(paramsGroup params).settle place] n ∧
      paramsTaken n.children = params.map paramOutline := by
  have listed : ∃ nodes,
      Listed ParameterNode (settleAll (1 + place) (paramItems params)) nodes ∧
        paramsTaken nodes = params.map paramOutline := by
    cases params with
    | nil => exact ⟨[], .none, rfl⟩
    | cons p rest =>
        obtain ⟨nodes, derived, taken⟩ := params_derived "" p rest tight_none plain (1 + place)
        exact ⟨nodes, .some derived, taken⟩
  obtain ⟨nodes, derived, taken⟩ := listed
  refine ⟨_, .mk (parens_settled "" "" tight_none tight_none _ _) derived, ?_⟩
  simpa [paramsTaken, enclosed] using taken

def bodyGroup (body : List Item) (closingLead : String) : Item :=
  groupItem " " "\x7b" body closingLead "\x7d"

-- The items of a body are rows wherever they stand, and make this request.
def Requests (body : List Item) (endpoint : Option String) : Prop :=
  ∀ behind, ∃ nodes, StatementNodes .rows (settleAll behind body) nodes ∧
    ∀ items opening closing field,
      Outline.endpoint? ((nodeOf "statement_block" items (enclosed opening nodes closing)).as field) =
        endpoint

theorem body_derived (body : List Item) (closingLead : String) (endpoint : Option String)
    (closes : closingLead.toList.all isBlank = true) (requests : Requests body endpoint)
    (place : Nat) :
    ∃ n, BodyNode [(bodyGroup body closingLead).settle place] n ∧
      ∀ field, Outline.endpoint? (n.as field) = endpoint := by
  obtain ⟨nodes, derived, found⟩ := requests
    ((closingChars (some (written .closing closingLead "\x7d"))).length + place)
  have braces (first last : Nat) : isBraces ((written .opening " " "\x7b").settle first)
      ((written .closing closingLead "\x7d").settle last) = true := closes
  exact ⟨_, .mk (braces _ _) derived, fun field => found _ _ _ field⟩

def methodItems (lead name : String) (params : List (String × TypeExpr)) (returns : TypeExpr)
    (body : List Item) (closingLead : String) : List Item :=
  wordItem lead "async" :: wordItem " " name :: paramsGroup params ::
    (ascriptionItems returns ++ [bodyGroup body closingLead])

def methodsOf (nodes : List Node) : List Outline.Method :=
  ((picked "method_definition" nodes).filterMap Outline.Method.ofNode?).filter fun m =>
    m.name != "constructor"

theorem methods_of_append (first second : List Node) :
    methodsOf (first ++ second) = methodsOf first ++ methodsOf second := by
  simp [methodsOf]

theorem method_derived (lead name : String) (params : List (String × TypeExpr)) (returns : TypeExpr)
    (body : List Item) (closingLead : String) (endpoint : Option String) (named : IsPlainName name)
    (notConstructor : name ≠ "constructor") (plain : ∀ p ∈ params, PlainParam p)
    (typed : PlainType returns) (closes : closingLead.toList.all isBlank = true)
    (requests : Requests body endpoint) (behind : Nat) :
    ∃ nodes, MemberNodes (settleAll behind (methodItems lead name params returns body closingLead))
        nodes ∧
      methodsOf nodes = [⟨name, params.map paramOutline, some returns.render, endpoint⟩] := by
  rw [methodItems, settle_all_cons, settle_all_cons, settle_all_cons, settle_all_append]
  obtain ⟨list, takes, taken⟩ := params_group_derived params plain
    ((charsOf (ascriptionItems returns ++ [bodyGroup body closingLead])).length + behind)
  obtain ⟨type, derived, kind, text⟩ := ascription_derived returns typed
    ((charsOf [bodyGroup body closingLead]).length + behind)
  obtain ⟨block, does, found⟩ := body_derived body closingLead endpoint closes requests (0 + behind)
  refine ⟨_, .async rfl (tight_token .word " " name _ tight_blank)
    (plain_name_token " " name _ named) takes derived does, ?_⟩
  have params_ : (list.as "parameters").namedChildren.filterMap Outline.Param.ofNode? =
      params.map paramOutline := taken
  simp +decide [methodsOf, picked, Outline.Method.ofNode?, Outline.fieldText?, Outline.nodeText,
    Node.child?, Outline.paramsOf, params_, text, found, notConstructor]

end ApiContract.Code
