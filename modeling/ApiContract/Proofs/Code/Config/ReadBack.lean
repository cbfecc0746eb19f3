import ApiContract.Proofs.Code.Config.Exprs

/-!
Fragments of every family that are written as configs are read back as they were.
-/

set_option autoImplicit false

namespace ApiContract.Code

open Config

def literalsOfOptional (value : Option Expr) : List Literal :=
  value.elim [] Expr.literals

mutual

def Stmt.literals : Stmt → List Literal
  | .expression value | .throw value => value.literals
  | .return_ value | .declare _ _ _ value => literalsOfOptional value
  | .branch test whenTrue none => test.literals ++ literalsOfBody whenTrue
  | .branch test whenTrue (some whenFalse) =>
      test.literals ++ literalsOfBody whenTrue ++ literalsOfBody whenFalse
  | .forOf _ _ iterable body => iterable.literals ++ literalsOfBody body
  | .comment _ => []

def literalsOfBody : List Stmt → List Literal
  | [] => []
  | s :: rest => s.literals ++ literalsOfBody rest

end

def ClassMember.literals : ClassMember → List Literal
  | .field _ _ _ _ init => literalsOfOptional init
  | .constructor_ params body => literalsOfParams params ++ literalsOfBody body
  | .method _ _ _ params _ body _ => literalsOfParams params ++ literalsOfBody body

def Decl.literals : Decl → List Literal
  | .import_ _ _ _ | .interface _ _ _ _ _ | .typeAlias _ _ _ _ => []
  | .const _ _ _ init _ => init.literals
  | .function _ _ _ params _ body _ => literalsOfParams params ++ literalsOfBody body
  | .class_ _ _ _ members _ => members.flatMap ClassMember.literals

def Fragment.literals : Fragment → List Literal
  | .expr e => e.literals
  | .stmt s => s.literals
  | .decl d => d.literals
  | .member m => m.literals
  | .type _ => []

theorem optional_expr_written (name : String) (value : Option Expr)
    (fits : AllFit (literalsOfOptional value)) :
    Written [⟨name, .optional .expr, .nothing⟩] [optionalPiece .expr value]
      (optionalExpr name value) :=
  written_last_optional name .expr Expr.toJson .expr value fun a same => by
    subst same
    exact optional_tells .expr rfl _ _ (expr_not_null a) (expr_tells a fits)

mutual

theorem stmt_tells : ∀ s : Stmt, AllFit s.literals → Tells .stmt s.toJson (.stmt s)
  | .expression value, fits =>
      kind_record_tells .expression (written_told (expr_tells value fits) written_nil) _ rfl
        .statement "expression" (by decide) .stmt rfl
  | .throw value, fits =>
      kind_record_tells .throw (written_told (expr_tells value fits) written_nil) _ rfl
        .statement "throw" (by decide) .stmt rfl
  | .return_ value, fits =>
      kind_record_tells .return_ (optional_expr_written "value" value fits) _
        (by unfold Form.build; simp) .statement "return" (by decide) .stmt rfl
  | .declare binding name type init, fits =>
      kind_record_tells .declare
        (written_told (binding_tells binding)
          (written_told (text_tells name)
            (type_written type (optional_expr_written "init" init fits))))
        _ (by unfold Form.build; simp) .statement "declare" (by decide) .stmt rfl
  | .branch test whenTrue none, fits => by
      obtain ⟨own, later⟩ := (all_fit_append _ _).mp fits
      exact kind_record_tells .branch
        (written_told (expr_tells test own)
          (written_told (list_tells .stmt (body_tells whenTrue later))
            (written_left_out rfl written_nil)))
        _ (by unfold Form.build; simp [Piece.optional]) .statement "if" (by decide) .stmt rfl
  | .branch test whenTrue (some whenFalse), fits => by
      obtain ⟨first, last⟩ := (all_fit_append _ _).mp fits
      obtain ⟨own, middle⟩ := (all_fit_append _ _).mp first
      have otherwise := list_tells .stmt (body_tells whenFalse last)
      exact kind_record_tells .branch
        (written_told (expr_tells test own)
          (written_told (list_tells .stmt (body_tells whenTrue middle))
            (written_told (optional_tells (.list .stmt) rfl _ _ Json.noConfusion otherwise)
              written_nil)))
        _ (by unfold Form.build; simp [Piece.optional, Piece.stmts?]) .statement "if" (by decide)
        .stmt rfl
  | .forOf binding name iterable body, fits => by
      obtain ⟨own, later⟩ := (all_fit_append _ _).mp fits
      exact kind_record_tells .forOf
        (written_told (binding_tells binding)
          (written_told (text_tells name)
            (written_told (expr_tells iterable own)
              (written_told (list_tells .stmt (body_tells body later)) written_nil))))
        _ (by unfold Form.build; simp) .statement "for_of" (by decide) .stmt rfl
  | .comment text, _ =>
      kind_record_tells .comment (written_told (text_tells text) written_nil) _ rfl .statement
        "comment" (by decide) .stmt rfl

theorem body_tells : ∀ body : List Stmt, AllFit (literalsOfBody body) →
    List.Forall₂ (Tells .stmt) (Stmt.allToJson body) (body.map .stmt)
  | [], _ => .nil
  | s :: rest, fits => by
      obtain ⟨own, later⟩ := (all_fit_append _ _).mp fits
      exact .cons (stmt_tells s own) (body_tells rest later)

end

theorem doc_written (doc : Option String) :
    Written [⟨"doc", .optional .text, .nothing⟩] [optionalPiece .text doc] (optionalDoc doc) :=
  written_last_optional "doc" .text .text .text doc fun text _ => optional_text_tells text

-- What a function and a method have in common.
theorem callable_written (isAsync : Bool) (params : List Param) (returns : Option TypeExpr)
    (body : List Stmt) (doc : Option String) (ofParams : AllFit (literalsOfParams params))
    (ofBody : AllFit (literalsOfBody body)) :
    Written
      [⟨"is_async", .flag, .no⟩, ⟨"params", .list .param, .empty⟩,
        ⟨"returns", .optional .type, .nothing⟩, ⟨"body", .list .stmt, .empty⟩,
        ⟨"doc", .optional .text, .nothing⟩]
      [.flag isAsync, .list (params.map .param), optionalPiece .type returns,
        .list (body.map .stmt), optionalPiece .text doc]
      (Json.flag "is_async" isAsync ++ [paramsField params] ++ optionalReturns returns ++
        [bodyField body] ++ optionalDoc doc) := by
  have paramsTold := list_tells .param (params_tell params ofParams)
  have bodyTold := list_tells .stmt (body_tells body ofBody)
  refine written_as (by simp [paramsField, bodyField, optionalReturns])
    (written_flag "is_async" isAsync
      (written_told paramsTold (written_optional "returns" .type TypeExpr.toJson .type returns ?_
        (written_told bodyTold (doc_written doc)))))
  exact fun t _ => optional_type_tells t

theorem property_tells (p : Property) : Tells .property p.toJson (.property p) :=
  plain_record_tells .property
    (written_as (by simp) (written_told (text_tells p.name) (written_told (type_tells p.type)
      (written_flag "optional" p.optional
        (written_flag "readonly" p.readonly (doc_written p.doc))))))
    _ (by unfold Form.build; simp) .property rfl

theorem member_tells (m : ClassMember) (fits : AllFit m.literals) :
    Tells .member m.toJson (.member m) := by
  cases m with
  | field name type visibility isReadonly init =>
      exact kind_record_tells .field
        (written_as (by simp [visibilityField]) (written_told (text_tells name) (type_written type
          (written_told (visibility_tells visibility)
            (written_flag "readonly" isReadonly (optional_expr_written "init" init fits))))))
        _ (by unfold Form.build; simp) .classMember "field" (by decide) .member rfl
  | constructor_ params body =>
      obtain ⟨own, later⟩ := (all_fit_append _ _).mp fits
      exact kind_record_tells .constructor_
        (written_told (list_tells .param (params_tell params own))
          (written_told (list_tells .stmt (body_tells body later)) written_nil))
        _ (by unfold Form.build; simp) .classMember "constructor" (by decide) .member rfl
  | method name visibility isAsync params returns body doc =>
      obtain ⟨own, later⟩ := (all_fit_append _ _).mp fits
      exact kind_record_tells .method
        (written_as (by simp [visibilityField])
          (written_told (text_tells name) (written_told (visibility_tells visibility)
            (callable_written isAsync params returns body doc own later))))
        _ (by unfold Form.build; simp) .classMember "method" (by decide) .member rfl

theorem parents_written {fields : List Field} {pieces : List Piece} {values : List (String × Json)}
    (parents : List String) (rest : Written fields pieces values) :
    Written (⟨"extends", .list .text, .empty⟩ :: fields) (.list (parents.map .text) :: pieces)
      ((if parents.isEmpty then [] else [("extends", Json.texts parents)]) ++ values) := by
  cases parents with
  | nil => exact written_left_out rfl rest
  | cons parent others => exact written_told (texts_tell (parent :: others)) rest

theorem decl_tells (d : Decl) (fits : AllFit d.literals) : Tells .decl d.toJson (.decl d) := by
  cases d with
  | import_ names path typeOnly =>
      exact kind_record_tells .import_
        (written_told (texts_tell names)
          (written_told (text_tells path) (written_last_flag "type_only" typeOnly)))
        _ (by unfold Form.build; simp) .declaration "import" (by decide) .decl rfl
  | interface name isExported parents properties doc =>
      have told := list_tells .property
        (mapped_tell .property Property.toJson .property properties fun p _ => property_tells p)
      exact kind_record_tells .interface
        (written_as (by simp) (written_told (text_tells name) (written_told (flag_tells isExported)
          (parents_written parents (written_told told (doc_written doc))))))
        _ (by unfold Form.build; simp) .declaration "interface" (by decide) .decl rfl
  | typeAlias name isExported type doc =>
      exact kind_record_tells .typeAlias
        (written_told (text_tells name) (written_told (flag_tells isExported)
          (written_told (type_tells type) (doc_written doc))))
        _ (by unfold Form.build; simp) .declaration "type_alias" (by decide) .decl rfl
  | const name isExported type init doc =>
      exact kind_record_tells .const
        (written_as (by simp) (written_told (text_tells name) (written_told (flag_tells isExported)
          (type_written type (written_told (expr_tells init fits) (doc_written doc))))))
        _ (by unfold Form.build; simp) .declaration "const" (by decide) .decl rfl
  | function name isExported isAsync params returns body doc =>
      obtain ⟨own, later⟩ := (all_fit_append _ _).mp fits
      exact kind_record_tells .function
        (written_as (by simp) (written_told (text_tells name) (written_told (flag_tells isExported)
          (callable_written isAsync params returns body doc own later))))
        _ (by unfold Form.build; simp) .declaration "function" (by decide) .decl rfl
  | class_ name isExported parent members doc =>
      have told := list_tells .member
        (mapped_tell .member ClassMember.toJson .member members fun m member =>
          member_tells m fun value own => fits value (List.mem_flatMap.mpr ⟨m, member, own⟩))
      have extends_ (text : String) (_ : parent = some text) := optional_text_tells text
      exact kind_record_tells .class_
        (written_as (by simp) (written_told (text_tells name) (written_told (flag_tells isExported)
          (written_optional "extends" .text .text .text parent extends_
            (written_told told (doc_written doc))))))
        _ (by unfold Form.build; simp) .declaration "class" (by decide) .decl rfl

theorem claimed_kind (family : Family) (kind : String) (listed : kind ∈ family.kinds.map Prod.fst)
    (fields : List (String × Json)) : claimedFamily (kindJson kind fields) = .ok family := by
  obtain ⟨⟨kind, form⟩, member, rfl⟩ := List.mem_map.mp listed
  have own : Json.field? "kind" (("kind", .text kind) :: fields) = some (.text kind) := by
    rw [Json.field?, if_pos rfl]
  simp only [kindJson, claimedFamily, own, family_of_kind family kind form member]

theorem fragment_claims (p : Fragment) (notNamed : ∀ name, p ≠ .type (.named name)) :
    claimedFamily p.toJson = .ok p.family := by
  cases p with
  | expr e =>
      cases e with
      | raw code => rfl
      | _ => exact claimed_kind .expression _ (by decide) _
  | stmt s => cases s <;> exact claimed_kind .statement _ (by decide) _
  | decl d => cases d <;> exact claimed_kind .declaration _ (by decide) _
  | member m => cases m <;> exact claimed_kind .classMember _ (by decide) _
  | type t =>
      cases t with
      | named name => exact absurd rfl (notNamed name)
      | _ => exact claimed_kind .type _ (by decide) _

theorem fragment_read (p : Fragment) (fits : AllFit p.literals) :
    checkKinds "$" p.toJson = .ok () ∧ Fragment.read p.family p.toJson = .ok p := by
  cases p with
  | expr e =>
      have tells := expr_tells e fits
      exact ⟨tells.checks "$",
        by simp only [Fragment.family, Fragment.toJson, Fragment.read, tells.reads]⟩
  | stmt s =>
      have tells := stmt_tells s fits
      exact ⟨tells.checks "$",
        by simp only [Fragment.family, Fragment.toJson, Fragment.read, tells.reads]⟩
  | decl d =>
      have tells := decl_tells d fits
      exact ⟨tells.checks "$",
        by simp only [Fragment.family, Fragment.toJson, Fragment.read, tells.reads]⟩
  | member m =>
      have tells := member_tells m fits
      exact ⟨tells.checks "$",
        by simp only [Fragment.family, Fragment.toJson, Fragment.read, tells.reads]⟩
  | type t =>
      have tells := type_tells t
      have reads : TypeExpr.ofJson t.toJson = .ok t := by simp only [TypeExpr.ofJson, tells.reads]
      exact ⟨tells.checks "$",
        by simp only [Fragment.family, Fragment.toJson, Fragment.read, reads, Except.map]⟩

-- A type that is no more than a name is written as a text, and a text is read as an expression.
theorem fragment_reads_back (p : Fragment) (fits : ∀ value ∈ p.literals, value.fits = true)
    (notNamed : ∀ name, p ≠ .type (.named name)) : Fragment.ofJson p.toJson = .ok p := by
  obtain ⟨checks, reads⟩ := fragment_read p fits
  simp only [Fragment.ofJson, checks, fragment_claims p notNamed, reads, Except.mapError]

example (name : String) :
    Fragment.ofJson (Fragment.type (.named name)).toJson = .ok (.expr (.raw name)) := rfl

def handler : Fragment :=
  .decl (.function "loadUsers" true true
    [.mk "limit" (some (.named "number")) false (some (.literal (.int 9223372036854775807))),
     .mk "retry" none true none]
    (some (.generic "Promise" [.arrayOf (.union [.named "User", .literal "none"])]))
    [.declare .const "path" none
      (some (.template [.text "/users?limit=", .hole (.call (.ident "String") [.ident "limit"])])),
     .branch (.binary (.raw "this.cache") .and (.unary .not (.ident "retry")))
      [.return_ (some (.await (.member (.raw "this.cache") "users" true)))]
      (some [.throw (.construct (.ident "Error") [.literal (.text "no cache")])]),
     .return_ (some (.arrow [] (.object [("ok", .literal (.bool true)), ("next", .literal .null)])
      true))]
    (some "Loads what is kept."))

theorem handler_reads_back : Fragment.ofJson handler.toJson = .ok handler :=
  fragment_reads_back handler (by decide) nofun

end ApiContract.Code
