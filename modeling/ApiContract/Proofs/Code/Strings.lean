import ApiContract.Code.Stmt
import ApiContract.Proofs.Code.Lines
import ApiContract.Proofs.Code.TemplateParts
import ApiContract.Proofs.Number.Characters

/-!
The strings that code is built from: names, raw code, the texts of literals, templates and comments.
A carriage return comes into the text of code from these strings only.
-/

set_option autoImplicit false

namespace ApiContract.Code

mutual

def TypeExpr.strings : TypeExpr → List String
  | .named name => [name]
  | .arrayOf element => element.strings
  | .union members => TypeExpr.stringsOfAll members
  | .generic name args => name :: TypeExpr.stringsOfAll args
  | .literal value => [value]

def TypeExpr.stringsOfAll : List TypeExpr → List String
  | [] => []
  | t :: rest => t.strings ++ TypeExpr.stringsOfAll rest

end

def Literal.strings : Literal → List String
  | .text value => [value]
  | _ => []

def typeStrings : Option TypeExpr → List String
  | some t => t.strings
  | none => []

namespace Expr

mutual

def strings : Expr → List String
  | .raw code => [code]
  | .ident name => [name]
  | .literal value => value.strings
  | .call callee args => strings callee ++ argStrings args
  | .construct callee args => strings callee ++ argStrings args
  | .member target property _ => property :: strings target
  | .index target key => strings target ++ strings key
  | .binary left _ right => strings left ++ strings right
  | .unary _ operand => strings operand
  | .await operand => strings operand
  | .object fields => fieldStrings fields
  | .array items => argStrings items
  | .template parts => partStrings parts
  | .arrow params body _ => paramStrings params ++ strings body
  | .cast operand type => strings operand ++ type.strings
  | .conditional test whenTrue whenFalse => strings test ++ strings whenTrue ++ strings whenFalse

def argStrings : List Expr → List String
  | [] => []
  | e :: rest => strings e ++ argStrings rest

def fieldStrings : List (String × Expr) → List String
  | [] => []
  | (key, value) :: rest => key :: (strings value ++ fieldStrings rest)

def partStrings : List TemplatePart → List String
  | [] => []
  | .text text :: rest => text :: partStrings rest
  | .hole value :: rest => strings value ++ partStrings rest

def paramStrings : List Param → List String
  | [] => []
  | .mk name type _ default :: rest =>
      name :: (typeStrings type ++
        (match default with
         | some value => strings value
         | none => []) ++ paramStrings rest)

end

end Expr

def valueStrings : Option Expr → List String
  | some value => value.strings
  | none => []

namespace Stmt

mutual

def strings : Stmt → List String
  | .expression value => value.strings
  | .throw value => value.strings
  | .return_ value => valueStrings value
  | .declare _ name type init => name :: (typeStrings type ++ valueStrings init)
  | .branch test whenTrue whenFalse =>
      test.strings ++ bodyStrings whenTrue ++
        (match whenFalse with
         | some body => bodyStrings body
         | none => [])
  | .forOf _ name iterable body => name :: (iterable.strings ++ bodyStrings body)
  | .comment text => [text]

def bodyStrings : List Stmt → List String
  | [] => []
  | s :: rest => strings s ++ bodyStrings rest

end

end Stmt

def NoReturn (text : String) : Prop :=
  '\r' ∉ text.toList

def NoReturns (texts : List String) : Prop :=
  ∀ text ∈ texts, NoReturn text

instance (text : String) : Decidable (NoReturn text) :=
  inferInstanceAs (Decidable ('\r' ∉ text.toList))

@[simp] theorem no_return_append (first second : String) :
    NoReturn (first ++ second) ↔ NoReturn first ∧ NoReturn second := by
  simp [NoReturn]

@[simp] theorem no_returns_nil : NoReturns [] := by
  simp [NoReturns]

@[simp] theorem no_returns_cons (text : String) (rest : List String) :
    NoReturns (text :: rest) ↔ NoReturn text ∧ NoReturns rest := by
  simp [NoReturns]

@[simp] theorem no_returns_append (first second : List String) :
    NoReturns (first ++ second) ↔ NoReturns first ∧ NoReturns second := by
  simp [NoReturns, or_imp, forall_and]

theorem join_no_return (sep : String) (texts : List String) (apart : NoReturn sep)
    (each : NoReturns texts) : NoReturn (Text.join sep texts) := by
  induction texts with
  | nil => exact nofun
  | cons text rest ih =>
      obtain ⟨own, later⟩ := (no_returns_cons text rest).mp each
      by_cases last : rest = []
      · simpa [last, Text.join] using own
      · rw [Text.join_cons sep text rest last]
        simpa using ⟨⟨own, apart⟩, ih later⟩

theorem quoted_no_return (text : String) : NoReturn (quoted text) :=
  (quoted_unbroken text).2

theorem spelled_no_return (text : String) (spelled : Number.Spelled text) : NoReturn text := by
  intro member
  cases spelled '\r' member

@[simp] theorem wrap_no_return (needed : Bool) (text : String) :
    NoReturn (Expr.wrapIf needed text) ↔ NoReturn text := by
  have parens : NoReturn "(" ∧ NoReturn ")" := by decide
  cases needed <;> simp [Expr.wrapIf, parens]

theorem symbol_no_return (op : BinaryOp) : NoReturn op.symbol := by
  cases op <;> decide

theorem template_text_no_return (text : List Char) (own : '\r' ∉ text) :
    '\r' ∉ templateText text := by
  fun_induction templateText text with
  | case1 => exact List.not_mem_nil
  | case2 rest ih => simpa using ih (by simp_all)
  | case3 c rest _ special ih =>
      rcases special with rfl | rfl <;> simpa using ih (by simp_all)
  | case4 c rest _ plain ih =>
      obtain ⟨first, later⟩ := List.ne_and_not_mem_of_not_mem_cons own
      simpa using ⟨first, ih later⟩

mutual

theorem type_no_return : ∀ t : TypeExpr, NoReturns t.strings → NoReturn t.render
  | .named name, own => own name (List.mem_singleton_self name)
  | .arrayOf element, own => by
      have inner := type_no_return element own
      have brackets : NoReturn "[]" := by decide
      have parens : NoReturn "(" ∧ NoReturn ")" := by decide
      rw [array_render]
      cases element.isUnion <;> simp [inner, brackets, parens]
  | .union members, own => join_no_return _ _ (by decide) (types_no_return members own)
  | .generic name args, own => by
      obtain ⟨named, later⟩ := (no_returns_cons name _).mp own
      have inner := join_no_return ", " _ (by decide) (types_no_return args later)
      have marks : NoReturn "<" ∧ NoReturn ">" := by decide
      simp [TypeExpr.render, named, inner, marks]
  | .literal value, _ => quoted_no_return value

theorem types_no_return : ∀ ts : List TypeExpr, NoReturns (TypeExpr.stringsOfAll ts) →
    NoReturns (TypeExpr.renderAll ts)
  | [], _ => no_returns_nil
  | t :: rest, own => by
      obtain ⟨first, later⟩ := (no_returns_append _ _).mp own
      exact (no_returns_cons _ _).mpr ⟨type_no_return t first, types_no_return rest later⟩

end

theorem type_suffix_no_return (type : Option TypeExpr) (own : NoReturns (typeStrings type)) :
    NoReturn (typeSuffix type) := by
  cases type with
  | none => decide
  | some t =>
      have colon : NoReturn ": " := by decide
      simpa [typeSuffix, colon] using type_no_return t own

theorem literal_no_return (value : Literal) : NoReturn value.render := by
  cases value with
  | text value => exact quoted_no_return value
  | _ => exact spelled_no_return _ (Number.literal_spelled _ nofun)

theorem key_no_return (key : String) (own : NoReturn key) : NoReturn (Expr.keyText key) := by
  rw [Expr.keyText]
  split
  · exact own
  · exact quoted_no_return key

mutual

theorem expr_no_return : ∀ e : Expr, NoReturns e.strings → NoReturn e.render
  | .raw code, own => own code (List.mem_singleton_self code)
  | .ident name, own => own name (List.mem_singleton_self name)
  | .literal value, _ => literal_no_return value
  | .call callee args, own => by
      obtain ⟨first, later⟩ := (no_returns_append _ _).mp own
      have callee := expr_no_return callee first
      have args := join_no_return ", " _ (by decide) (args_no_return args later)
      have marks : NoReturn "(" ∧ NoReturn ")" := by decide
      simp [Expr.render, callee, args, marks]
  | .construct callee args, own => by
      obtain ⟨first, later⟩ := (no_returns_append _ _).mp own
      have callee := expr_no_return callee first
      have args := join_no_return ", " _ (by decide) (args_no_return args later)
      have marks : NoReturn "new " ∧ NoReturn "(" ∧ NoReturn ")" := by decide
      simp [Expr.render, callee, args, marks]
  | .member target property optional, own => by
      obtain ⟨named, later⟩ := (no_returns_cons property _).mp own
      have target := expr_no_return target later
      have dot : NoReturn (if optional then "?." else ".") := by cases optional <;> decide
      simp [Expr.render, named, target, dot]
  | .index target key, own => by
      obtain ⟨first, later⟩ := (no_returns_append _ _).mp own
      have target := expr_no_return target first
      have marks : NoReturn "[" ∧ NoReturn "]" := by decide
      simp [Expr.render, target, expr_no_return key later, marks]
  | .binary left op right, own => by
      obtain ⟨first, later⟩ := (no_returns_append _ _).mp own
      have left := expr_no_return left first
      have right := expr_no_return right later
      have blank : NoReturn " " := by decide
      simp [Expr.render, left, right, symbol_no_return op, blank]
  | .unary op operand, own => by
      have operand := expr_no_return operand own
      have sign : NoReturn op.symbol := by cases op <;> decide
      simp [Expr.render, operand, sign]
  | .await operand, own => by
      have operand := expr_no_return operand own
      have word : NoReturn "await " := by decide
      simp [Expr.render, operand, word]
  | .object [], _ => by decide
  | .object (field :: rest), own => by
      have fields := join_no_return ", " _ (by decide) (fields_no_return (field :: rest) own)
      have marks : NoReturn "\x7b " ∧ NoReturn " \x7d" := by decide
      simp [Expr.render, fields, marks]
  | .array items, own => by
      have items := join_no_return ", " _ (by decide) (args_no_return items own)
      have marks : NoReturn "[" ∧ NoReturn "]" := by decide
      simp [Expr.render, items, marks]
  | .template parts, own => by
      have tick : NoReturn "\x60" := by decide
      simp [Expr.render, parts_no_return parts own, tick]
  | .arrow params body isAsync, own => by
      obtain ⟨first, later⟩ := (no_returns_append _ _).mp own
      have params := join_no_return ", " _ (by decide) (params_no_return params first)
      have body := expr_no_return body later
      have lead : NoReturn (if isAsync then "async (" else "(") := by cases isAsync <;> decide
      have arrow : NoReturn ") => " := by decide
      simp only [Expr.render, no_return_append, wrap_no_return, params, body, lead, arrow, and_self]
  | .cast operand type, own => by
      obtain ⟨first, later⟩ := (no_returns_append _ _).mp own
      have operand := expr_no_return operand first
      have word : NoReturn " as " := by decide
      simp [Expr.render, operand, type_no_return type later, word]
  | .conditional test whenTrue whenFalse, own => by
      obtain ⟨⟨first, second⟩, third⟩ : (NoReturns test.strings ∧ NoReturns whenTrue.strings) ∧
          NoReturns whenFalse.strings := by
        simpa [Expr.strings, and_assoc] using own
      have test := expr_no_return test first
      have whenTrue := expr_no_return whenTrue second
      have whenFalse := expr_no_return whenFalse third
      have marks : NoReturn " ? " ∧ NoReturn " : " := by decide
      simp [Expr.render, test, whenTrue, whenFalse, marks]

theorem args_no_return : ∀ es : List Expr, NoReturns (Expr.argStrings es) →
    NoReturns (Expr.renderArgs es)
  | [], _ => no_returns_nil
  | e :: rest, own => by
      obtain ⟨first, later⟩ := (no_returns_append _ _).mp own
      exact (no_returns_cons _ _).mpr
        ⟨(wrap_no_return _ _).mpr (expr_no_return e first), args_no_return rest later⟩

theorem fields_no_return : ∀ fields : List (String × Expr), NoReturns (Expr.fieldStrings fields) →
    NoReturns (Expr.renderFields fields)
  | [], _ => no_returns_nil
  | (key, value) :: rest, own => by
      obtain ⟨named, more⟩ := (no_returns_cons key _).mp own
      obtain ⟨first, later⟩ := (no_returns_append _ _).mp more
      have value := expr_no_return value first
      have colon : NoReturn ": " := by decide
      refine (no_returns_cons _ _).mpr ⟨?_, fields_no_return rest later⟩
      split
      · exact named
      · simp [key_no_return key named, value, colon]

theorem parts_no_return : ∀ parts : List TemplatePart, NoReturns (Expr.partStrings parts) →
    NoReturn (Expr.renderParts parts)
  | [], _ => by decide
  | .text text :: rest, own => by
      obtain ⟨first, later⟩ := (no_returns_cons text _).mp own
      have escaped : NoReturn (String.ofList (templateText text.toList)) := by
        simpa [NoReturn] using template_text_no_return text.toList first
      simp [Expr.renderParts, escaped, parts_no_return rest later]
  | .hole value :: rest, own => by
      obtain ⟨first, later⟩ := (no_returns_append _ _).mp own
      have marks : NoReturn "$\x7b" ∧ NoReturn "\x7d" := by decide
      simp [Expr.renderParts, expr_no_return value first, parts_no_return rest later, marks]

theorem params_no_return : ∀ params : List Param, NoReturns (Expr.paramStrings params) →
    NoReturns (Expr.renderParams params)
  | [], _ => no_returns_nil
  | .mk name type optional none :: rest, own => by
      obtain ⟨named, more⟩ := (no_returns_cons name _).mp own
      obtain ⟨typed, later⟩ : NoReturns (typeStrings type) ∧ NoReturns (Expr.paramStrings rest) := by
        simpa using more
      have mark : NoReturn (if optional then "?" else "") := by cases optional <;> decide
      refine (no_returns_cons _ _).mpr ⟨?_, params_no_return rest later⟩
      simp only [no_return_append]
      exact ⟨⟨⟨named, mark⟩, type_suffix_no_return type typed⟩, by decide⟩
  | .mk name type optional (some value) :: rest, own => by
      obtain ⟨named, more⟩ := (no_returns_cons name _).mp own
      obtain ⟨both, later⟩ := (no_returns_append _ _).mp more
      obtain ⟨typed, valued⟩ := (no_returns_append _ _).mp both
      have mark : NoReturn (if optional then "?" else "") := by cases optional <;> decide
      have equals : NoReturn " = " := by decide
      refine (no_returns_cons _ _).mpr ⟨?_, params_no_return rest later⟩
      simp only [no_return_append]
      exact ⟨⟨⟨named, mark⟩, type_suffix_no_return type typed⟩, equals, expr_no_return value valued⟩

end

end ApiContract.Code
