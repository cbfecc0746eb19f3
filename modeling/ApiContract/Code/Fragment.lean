import ApiContract.Code.Config.Reader
import ApiContract.Code.Config.Writer

/-!
Code fragments of every family, read from configs. A config is checked as a whole before it is
read: a kind that no fragment has is refused wherever it stands.
-/

set_option autoImplicit false

namespace ApiContract.Code

open Config (Family)

inductive Fragment where
  | expr (value : Expr)
  | stmt (value : Stmt)
  | decl (value : Decl)
  | member (value : ClassMember)
  | type (value : TypeExpr)

inductive ConfigError where
  | unknownKind (kind : String) (path : String)
  | kindNotText (path : String) (value : Json)
  | kindMissing
  | notAConfig (value : Json)
  | fault (fault : Record.Fault)

mutual

-- Refuses the first kind, in document order, that is not a text or that no fragment has.
def checkKinds (path : String) : Json → Except ConfigError Unit
  | .object fields =>
      match Json.field? "kind" fields with
      | none => checkFields path fields
      | some (.text kind) =>
          if (Config.familyOf kind).isSome then checkFields path fields
          else .error (.unknownKind kind path)
      | some other => .error (.kindNotText path other)
  | .array items => checkItems path 0 items
  | _ => .ok ()

def checkFields (path : String) : List (String × Json) → Except ConfigError Unit
  | [] => .ok ()
  | (name, value) :: rest =>
      match checkKinds (path ++ "." ++ name) value with
      | .error e => .error e
      | .ok _ => checkFields path rest

def checkItems (path : String) (index : Nat) : List Json → Except ConfigError Unit
  | [] => .ok ()
  | value :: rest =>
      match checkKinds (path ++ "[" ++ toString index ++ "]") value with
      | .error e => .error e
      | .ok _ => checkItems path (index + 1) rest

end

-- The family that a config says it belongs to; a text is an expression.
def claimedFamily : Json → Except ConfigError Family
  | .text _ => .ok .expression
  | .object fields =>
      match Json.field? "kind" fields with
      | some (.text kind) =>
          match Config.familyOf kind with
          | some family => .ok family
          | none => .error (.unknownKind kind "$")
      | _ => .error .kindMissing
  | other => .error (.notAConfig other)

def TypeExpr.ofJson (value : Json) : Except Record.Fault TypeExpr :=
  match Config.read .type value with
  | .ok (.type t) => .ok t
  | .ok _ => .error (.noForm "TypeRef")
  | .error fault => .error fault

namespace Fragment

def read (family : Family) (value : Json) : Except Record.Fault Fragment :=
  match family with
  | .expression =>
      match Config.read .expr value with
      | .ok (.expr e) => .ok (.expr e)
      | .ok _ => .error (.noForm "Expr")
      | .error fault => .error fault
  | .statement =>
      match Config.read .stmt value with
      | .ok (.stmt s) => .ok (.stmt s)
      | .ok _ => .error (.noForm "Stmt")
      | .error fault => .error fault
  | .declaration =>
      match Config.read .decl value with
      | .ok (.decl d) => .ok (.decl d)
      | .ok _ => .error (.noForm "Decl")
      | .error fault => .error fault
  | .classMember =>
      match Config.read .member value with
      | .ok (.member m) => .ok (.member m)
      | .ok _ => .error (.noForm "ClassMember")
      | .error fault => .error fault
  | .type => (TypeExpr.ofJson value).map .type

def ofJson (value : Json) : Except ConfigError Fragment :=
  match checkKinds "$" value with
  | .error e => .error e
  | .ok _ =>
      match claimedFamily value with
      | .error e => .error e
      | .ok family => (read family value).mapError .fault

def family : Fragment → Family
  | .expr _ => .expression
  | .stmt _ => .statement
  | .decl _ => .declaration
  | .member _ => .classMember
  | .type _ => .type

def render : Fragment → String
  | .expr e => e.render
  | .stmt s => s.render
  | .decl d => d.render
  | .member m => m.render
  | .type t => t.render

def toJson : Fragment → Json
  | .expr e => e.toJson
  | .stmt s => s.toJson
  | .decl d => d.toJson
  | .member m => m.toJson
  | .type t => t.toJson

end Fragment

def ConfigError.message : ConfigError → String
  | .unknownKind kind path => "Unknown primitive kind '" ++ kind ++ "' at " ++ path
  | .kindNotText path value =>
      "Invalid primitive config: 'kind' at " ++ path ++ " must be a string, got " ++ value.compact
  | .kindMissing => "Invalid primitive config: top-level config needs a 'kind' tag"
  | .notAConfig value =>
      "Invalid primitive config: expected a tagged object or an expression string, got " ++
        value.compact
  | .fault cause => "Invalid primitive config: " ++ cause.message .json

end ApiContract.Code
