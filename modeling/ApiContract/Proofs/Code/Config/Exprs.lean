import ApiContract.Proofs.Code.Config.Record

/-!
Types and expressions that are written as configs are read as they were. Of the literals in them,
floating point numbers are left out, as are integers beyond 64 bits.
-/

set_option autoImplicit false

namespace ApiContract.Code

open Config

-- Whether a literal is one that a config can tell as it is.
def Literal.fits : Literal → Bool
  | .float _ => false
  | .int value => decide (-(Number.twoTo 63 : Int) ≤ value ∧ value < Number.twoTo 63)
  | _ => true

mutual

def Expr.literals : Expr → List Literal
  | .raw _ | .ident _ => []
  | .literal value => [value]
  | .call callee args | .construct callee args => callee.literals ++ literalsOfAll args
  | .member target _ _ => target.literals
  | .index target key => target.literals ++ key.literals
  | .binary left _ right => left.literals ++ right.literals
  | .unary _ operand | .await operand | .cast operand _ => operand.literals
  | .object fields => literalsOfFields fields
  | .array items => literalsOfAll items
  | .template parts => literalsOfParts parts
  | .arrow params body _ => literalsOfParams params ++ body.literals
  | .conditional test whenTrue whenFalse =>
      test.literals ++ whenTrue.literals ++ whenFalse.literals

def literalsOfAll : List Expr → List Literal
  | [] => []
  | e :: rest => e.literals ++ literalsOfAll rest

def literalsOfFields : List (String × Expr) → List Literal
  | [] => []
  | (_, value) :: rest => value.literals ++ literalsOfFields rest

def literalsOfParts : List TemplatePart → List Literal
  | [] => []
  | .text _ :: rest => literalsOfParts rest
  | .hole value :: rest => value.literals ++ literalsOfParts rest

def literalsOfParams : List Param → List Literal
  | [] => []
  | .mk _ _ _ none :: rest => literalsOfParams rest
  | .mk _ _ _ (some value) :: rest => value.literals ++ literalsOfParams rest

end

def AllFit (literals : List Literal) : Prop :=
  ∀ value ∈ literals, value.fits = true

@[simp] theorem all_fit_append (first second : List Literal) :
    AllFit (first ++ second) ↔ AllFit first ∧ AllFit second :=
  List.forall_mem_append

namespace Config

theorem all_picked {α : Type} (pick : Piece → Option α) (wrap : α → Piece)
    (picks : ∀ a, pick (wrap a) = some a) (items : List α) :
    Piece.all pick (items.map wrap) = some items := by
  induction items with
  | nil => rfl
  | cons a rest ih => simp only [List.map_cons, Piece.all, picks, ih, Option.map_some]

theorem optional_picked {α : Type} (pick : Piece → Option α) (wrap : α → Piece)
    (picks : ∀ a, pick (wrap a) = some a) (absent : pick .nothing = none) (value : Option α) :
    Piece.optional pick (optionalPiece wrap value) = some value := by
  cases value with
  | none => rfl
  | some a =>
      have picked := picks a
      simp only [optionalPiece, Option.map_some, Option.getD_some]
      rw [Piece.optional.eq_2]
      · rw [picked, Option.map_some]
      · intro nothing
        rw [nothing, absent] at picked
        cases picked

section Picked

@[simp] theorem texts_picked (items : List String) :
    Piece.all Piece.text? (items.map .text) = some items :=
  all_picked Piece.text? .text (fun _ => rfl) items

@[simp] theorem types_picked (items : List TypeExpr) :
    Piece.all Piece.type? (items.map .type) = some items :=
  all_picked Piece.type? .type (fun _ => rfl) items

@[simp] theorem exprs_picked (items : List Expr) :
    Piece.all Piece.expr? (items.map .expr) = some items :=
  all_picked Piece.expr? .expr (fun _ => rfl) items

@[simp] theorem stmts_picked (items : List Stmt) :
    Piece.all Piece.stmt? (items.map .stmt) = some items :=
  all_picked Piece.stmt? .stmt (fun _ => rfl) items

@[simp] theorem members_picked (items : List ClassMember) :
    Piece.all Piece.member? (items.map .member) = some items :=
  all_picked Piece.member? .member (fun _ => rfl) items

@[simp] theorem object_fields_picked (items : List (String × Expr)) :
    Piece.all Piece.objectField? (items.map fun f => .objectField f.1 f.2) = some items :=
  all_picked Piece.objectField? (fun f => .objectField f.1 f.2) (fun _ => rfl) items

@[simp] theorem parts_picked (items : List TemplatePart) :
    Piece.all Piece.part? (items.map .part) = some items :=
  all_picked Piece.part? .part (fun _ => rfl) items

@[simp] theorem params_picked (items : List Param) :
    Piece.all Piece.param? (items.map .param) = some items :=
  all_picked Piece.param? .param (fun _ => rfl) items

@[simp] theorem properties_picked (items : List Property) :
    Piece.all Piece.property? (items.map .property) = some items :=
  all_picked Piece.property? .property (fun _ => rfl) items

@[simp] theorem optional_text_picked (value : Option String) :
    Piece.optional Piece.text? (optionalPiece .text value) = some value :=
  optional_picked Piece.text? .text (fun _ => rfl) rfl value

@[simp] theorem optional_type_picked (value : Option TypeExpr) :
    Piece.optional Piece.type? (optionalPiece .type value) = some value :=
  optional_picked Piece.type? .type (fun _ => rfl) rfl value

@[simp] theorem optional_expr_picked (value : Option Expr) :
    Piece.optional Piece.expr? (optionalPiece .expr value) = some value :=
  optional_picked Piece.expr? .expr (fun _ => rfl) rfl value

def stmtList (body : List Stmt) : Piece := .list (body.map .stmt)

@[simp] theorem optional_stmts_picked (value : Option (List Stmt)) :
    Piece.optional Piece.stmts? (optionalPiece stmtList value) = some value :=
  optional_picked Piece.stmts? stmtList (fun body => stmts_picked body) rfl value

end Picked

theorem text_tells (text : String) : Tells .text (.text text) (.text text) :=
  ⟨rfl, fun _ => rfl⟩

theorem flag_tells (value : Bool) : Tells .flag (.bool value) (.flag value) :=
  ⟨rfl, fun _ => rfl⟩

theorem mapped_tell {α : Type} (item : Shape) (json : α → Json) (wrap : α → Piece) (items : List α)
    (each : ∀ a ∈ items, Tells item (json a) (wrap a)) :
    List.Forall₂ (Tells item) (items.map json) (items.map wrap) := by
  rw [List.forall₂_map_left_iff, List.forall₂_map_right_iff]
  exact List.forall₂_same.mpr each

theorem texts_tell (values : List String) :
    Tells (.list .text) (Json.texts values) (.list (values.map .text)) :=
  list_tells .text (mapped_tell .text .text .text values fun text _ => text_tells text)

theorem optional_text_tells (text : String) : Tells (.optional .text) (.text text) (.text text) :=
  optional_tells .text rfl _ _ nofun (text_tells text)

end Config

mutual

-- The build of a form is unfolded as a whole here and below: `simp` would prove all of its equations.
theorem type_tells : ∀ t : TypeExpr, Tells .type t.toJson (.type t)
  | .named name => ⟨rfl, fun _ => rfl⟩
  | .arrayOf element =>
      kind_record_tells .arrayOf (written_told (type_tells element) written_nil) _ rfl .type
        "array_of" (by decide) .type rfl
  | .union members =>
      kind_record_tells .union
        (written_told (list_tells .type (types_tell members)) written_nil) _
        (by unfold Form.build; simp) .type "union" (by decide) .type rfl
  | .generic name args =>
      kind_record_tells .generic
        (written_told (text_tells name)
          (written_told (list_tells .type (types_tell args)) written_nil)) _
        (by unfold Form.build; simp) .type "generic" (by decide) .type rfl
  | .literal value =>
      kind_record_tells .literalType (written_told (text_tells value) written_nil) _ rfl .type
        "literal_type" (by decide) .type rfl

theorem types_tell : ∀ ts : List TypeExpr,
    List.Forall₂ (Tells .type) (TypeExpr.allToJson ts) (ts.map .type)
  | [] => .nil
  | t :: rest => .cons (type_tells t) (types_tell rest)

end

theorem type_not_null (t : TypeExpr) : t.toJson ≠ .null := by
  cases t <;> exact nofun

theorem expr_not_null (e : Expr) : e.toJson ≠ .null := by
  cases e <;> exact nofun

theorem optional_type_tells (t : TypeExpr) : Tells (.optional .type) t.toJson (.type t) :=
  optional_tells .type rfl _ _ (type_not_null t) (type_tells t)

theorem type_written {fields : List Field} {pieces : List Piece} {values : List (String × Json)}
    (type : Option TypeExpr) (rest : Written fields pieces values) :
    Written (⟨"type", .optional .type, .nothing⟩ :: fields)
      (optionalPiece .type type :: pieces) (optionalType type ++ values) :=
  written_optional "type" .type TypeExpr.toJson .type type (fun t _ => optional_type_tells t) rest

theorem literal_tells (value : Literal) (fits : value.fits = true) :
    Tells .literal value.toJson (.literal value) := by
  cases value with
  | float value => cases fits
  | int value =>
      have bound : value < Number.twoTo 63 := (of_decide_eq_true fits).2
      refine ⟨?_, fun _ => rfl⟩
      simp [Literal.toJson, Config.read, readScalar, Shape.isOptional, Shape.settle, Shape.present,
        bound]
  | null => exact ⟨rfl, fun _ => rfl⟩
  | bool value => exact ⟨rfl, fun _ => rfl⟩
  | text value => exact ⟨rfl, fun _ => rfl⟩

theorem binary_op_tells (op : BinaryOp) : Tells .binaryOp (.text op.symbol) (.binaryOp op) :=
  ⟨by cases op <;> rfl, fun _ => rfl⟩

theorem unary_op_tells (op : UnaryOp) : Tells .unaryOp (.text op.word) (.unaryOp op) :=
  ⟨by cases op <;> rfl, fun _ => rfl⟩

theorem binding_tells (binding : Binding) :
    Tells .binding (.text binding.word) (.binding binding) :=
  ⟨by cases binding <;> rfl, fun _ => rfl⟩

theorem visibility_tells (visibility : Visibility) :
    Tells .visibility (.text (Visibility.word visibility)) (.visibility visibility) :=
  ⟨by cases visibility <;> rfl, fun _ => rfl⟩

theorem text_part_tells (text : String) :
    Tells .part (.object [("text", .text text)]) (.part (.text text)) :=
  ⟨rfl, fun _ => rfl⟩

theorem hole_part_tells (value : Expr) (tells : Tells .expr value.toJson (.expr value)) :
    Tells .part (.object [("expr", value.toJson)]) (.part (.hole value)) where
  reads := by
    have reads := tells.reads
    simp [Config.read, readSingle, Shape.present, Shape.keyed?, Shape.settle, reads]
  checks path := by
    simp [checkKinds, Json.field?, checkFields, tells.checks]

theorem param_tells (name : String) (type : Option TypeExpr) (isOptional : Bool)
    (default : Option Expr) (values : List (String × Json))
    (written : Written [⟨"default", .optional .expr, .nothing⟩] [optionalPiece .expr default]
      values) :
    Tells .param (.object ([("name", .text name)] ++ optionalType type ++
      Json.flag "optional" isOptional ++ values)) (.param (.mk name type isOptional default)) :=
  plain_record_tells .param
    (written_as (by simp) (written_told (text_tells name)
      (type_written type (written_flag "optional" isOptional written))))
    _ (by unfold Form.build; simp) .param rfl

mutual

theorem expr_tells : ∀ e : Expr, AllFit e.literals → Tells .expr e.toJson (.expr e)
  | .raw code, _ => ⟨rfl, fun _ => rfl⟩
  | .ident name, _ =>
      kind_record_tells .ident (written_told (text_tells name) written_nil) _ rfl .expression
        "ident" (by decide) .expr rfl
  | .literal value, fits => by
      have own := fits value (List.mem_singleton_self value)
      exact kind_record_tells .literal (written_told (literal_tells value own) written_nil) _ rfl
        .expression "literal" (by decide) .expr rfl
  | .call callee args, fits => by
      obtain ⟨own, later⟩ := (all_fit_append _ _).mp fits
      exact kind_record_tells .call
        (written_told (expr_tells callee own)
          (written_told (list_tells .expr (exprs_tell args later)) written_nil))
        _ (by unfold Form.build; simp) .expression "call" (by decide) .expr rfl
  | .construct callee args, fits => by
      obtain ⟨own, later⟩ := (all_fit_append _ _).mp fits
      exact kind_record_tells .construct
        (written_told (expr_tells callee own)
          (written_told (list_tells .expr (exprs_tell args later)) written_nil))
        _ (by unfold Form.build; simp) .expression "new" (by decide) .expr rfl
  | .member target name isOptional, fits =>
      kind_record_tells .member
        (written_told (expr_tells target fits)
          (written_told (text_tells name) (written_last_flag "optional" isOptional)))
        _ rfl .expression "member" (by decide) .expr rfl
  | .index target key, fits => by
      obtain ⟨own, later⟩ := (all_fit_append _ _).mp fits
      exact kind_record_tells .index
        (written_told (expr_tells target own) (written_told (expr_tells key later) written_nil))
        _ rfl .expression "index" (by decide) .expr rfl
  | .binary left op right, fits => by
      obtain ⟨own, later⟩ := (all_fit_append _ _).mp fits
      exact kind_record_tells .binary
        (written_told (expr_tells left own)
          (written_told (binary_op_tells op) (written_told (expr_tells right later) written_nil)))
        _ rfl .expression "binary" (by decide) .expr rfl
  | .unary op operand, fits =>
      kind_record_tells .unary
        (written_told (unary_op_tells op) (written_told (expr_tells operand fits) written_nil))
        _ rfl .expression "unary" (by decide) .expr rfl
  | .await operand, fits =>
      kind_record_tells .await (written_told (expr_tells operand fits) written_nil) _ rfl
        .expression "await" (by decide) .expr rfl
  | .object fields, fits =>
      kind_record_tells .object
        (written_told (list_tells .objectField (object_fields_tell fields fits)) written_nil)
        _ (by unfold Form.build; simp) .expression "object" (by decide) .expr rfl
  | .array items, fits =>
      kind_record_tells .array
        (written_told (list_tells .expr (exprs_tell items fits)) written_nil)
        _ (by unfold Form.build; simp) .expression "array" (by decide) .expr rfl
  | .template parts, fits =>
      kind_record_tells .template
        (written_told (list_tells .part (parts_tell parts fits)) written_nil)
        _ (by unfold Form.build; simp) .expression "template" (by decide) .expr rfl
  | .arrow params body isAsync, fits => by
      obtain ⟨own, later⟩ := (all_fit_append _ _).mp fits
      exact kind_record_tells .arrow
        (written_told (list_tells .param (params_tell params own))
          (written_told (expr_tells body later) (written_last_flag "is_async" isAsync)))
        _ (by unfold Form.build; simp) .expression "arrow" (by decide) .expr rfl
  | .cast operand type, fits =>
      kind_record_tells .cast
        (written_told (expr_tells operand fits) (written_told (type_tells type) written_nil))
        _ rfl .expression "cast" (by decide) .expr rfl
  | .conditional test whenTrue whenFalse, fits => by
      obtain ⟨first, last⟩ := (all_fit_append _ _).mp fits
      obtain ⟨own, middle⟩ := (all_fit_append _ _).mp first
      exact kind_record_tells .conditional
        (written_told (expr_tells test own)
          (written_told (expr_tells whenTrue middle)
            (written_told (expr_tells whenFalse last) written_nil)))
        _ rfl .expression "conditional" (by decide) .expr rfl

theorem exprs_tell : ∀ es : List Expr, AllFit (literalsOfAll es) →
    List.Forall₂ (Tells .expr) (Expr.allToJson es) (es.map .expr)
  | [], _ => .nil
  | e :: rest, fits => by
      obtain ⟨own, later⟩ := (all_fit_append _ _).mp fits
      exact .cons (expr_tells e own) (exprs_tell rest later)

theorem object_fields_tell : ∀ fields : List (String × Expr), AllFit (literalsOfFields fields) →
    List.Forall₂ (Tells .objectField) (Expr.fieldsToJson fields)
      (fields.map fun f => .objectField f.1 f.2)
  | [], _ => .nil
  | (key, value) :: rest, fits => by
      obtain ⟨own, later⟩ := (all_fit_append _ _).mp fits
      exact .cons
        (plain_record_tells .objectField
          (written_told (text_tells key) (written_told (expr_tells value own) written_nil))
          _ rfl .objectField rfl)
        (object_fields_tell rest later)

theorem parts_tell : ∀ parts : List TemplatePart, AllFit (literalsOfParts parts) →
    List.Forall₂ (Tells .part) (Expr.partsToJson parts) (parts.map .part)
  | [], _ => .nil
  | .text text :: rest, fits => .cons (text_part_tells text) (parts_tell rest fits)
  | .hole value :: rest, fits => by
      obtain ⟨own, later⟩ := (all_fit_append _ _).mp fits
      exact .cons (hole_part_tells value (expr_tells value own)) (parts_tell rest later)

theorem params_tell : ∀ params : List Param, AllFit (literalsOfParams params) →
    List.Forall₂ (Tells .param) (Expr.paramsToJson params) (params.map .param)
  | [], _ => .nil
  | .mk name type isOptional none :: rest, fits =>
      .cons (param_tells name type isOptional none _ (written_left_out rfl written_nil))
        (params_tell rest fits)
  | .mk name type isOptional (some value) :: rest, fits => by
      obtain ⟨own, later⟩ := (all_fit_append _ _).mp fits
      have told := optional_tells .expr rfl _ _ (expr_not_null value) (expr_tells value own)
      exact .cons (param_tells name type isOptional (some value) _ (written_told told written_nil))
        (params_tell rest later)

end

end ApiContract.Code
