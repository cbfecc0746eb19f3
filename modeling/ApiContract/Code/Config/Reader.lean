import ApiContract.Code.Config.Piece
import ApiContract.Json.Printer
import ApiContract.Number.Power

/-!
Reading code fragments from JSON values. A record is an object with the fields of its form, or an
array of their values in order; a fragment of a family says its kind, by the field `kind` or as the
first item.
-/

set_option autoImplicit false

namespace ApiContract.Code.Config

open Number (twoTo)

open Record (Found Fault)

def found : Json → Found
  | .null => .nothing
  | .bool value => .bool value
  | .int value => .int value
  | .float value => .float value
  | .text value => .text value
  | .array _ => .sequence
  | .object _ => .map

def Shape.present : Shape → Shape
  | .optional value => value
  | other => other

def Shape.isOptional : Shape → Bool
  | .optional _ => true
  | _ => false

inductive Keyed where
  | byKind (family : Family)
  | plain (form : Form)

def Shape.keyed? : Shape → Option Keyed
  | .expr => some (.byKind .expression)
  | .stmt => some (.byKind .statement)
  | .decl => some (.byKind .declaration)
  | .member => some (.byKind .classMember)
  | .type => some (.byKind .type)
  | .objectField => some (.plain .objectField)
  | .param => some (.plain .param)
  | .property => some (.plain .property)
  | _ => none

def Shape.expected : Shape → String
  | .text => "a string"
  | .flag => "a boolean"
  | .list _ => "a sequence"
  | .stmt => "internally tagged enum Stmt"
  | .decl => "internally tagged enum Decl"
  | .member => "internally tagged enum ClassMember"
  | .objectField => "struct ObjectProp"
  | .param => "struct Param"
  | .property => "struct Property"
  | _ => "string or map"

def isUnit : Json → Bool
  | .null => true
  | .object [] => true
  | _ => false

def wordNamed (words : List (String × Piece)) (word : String) : Except Fault Piece :=
  match words.find? fun entry => entry.1 == word with
  | some entry => .ok entry.2
  | none => .error (.unknownWord word (words.map (·.1)))

-- Expressions and types take any text as it is, and say no more than that nothing fits.
def Shape.settle (shape : Shape) (value : Json) (result : Except Fault Piece) : Except Fault Piece :=
  match shape, value with
  | .expr, .text code => .ok (.expr (.raw code))
  | .type, .text name => .ok (.type (.named name))
  | .expr, _ => result.mapError fun _ => .noForm "Expr"
  | .type, _ => result.mapError fun _ => .noForm "TypeRef"
  | _, _ => result

def readScalar (shape : Shape) (value : Json) : Except Fault Piece :=
  match shape, value with
  | .text, .text s => .ok (.text s)
  | .flag, .bool b => .ok (.flag b)
  | .literal, .null => .ok (.literal .null)
  | .literal, .bool b => .ok (.literal (.bool b))
  | .literal, .int n =>
      .ok (.literal (if n < twoTo 63 then .int n else .float (Float.ofInt n)))
  | .literal, .float x => .ok (.literal (.float x))
  | .literal, .text s => .ok (.literal (.text s))
  | _, .text s =>
      match shape.words? with
      | some words => wordNamed words s
      | none => .error (.wrongType (.text s) shape.expected)
  | _, other => .error (.wrongType (found other) shape.expected)

def formAt (family : Family) (kind : Json) : Except Fault Form :=
  match kind with
  | .text word =>
      match family.kinds.find? fun entry => entry.1 == word with
      | some entry => .ok entry.2
      | none => .error (.unknownWord word (family.kinds.map (·.1)))
  | .int n =>
      if n < 0 then .error (.wrongType (.int n) "variant identifier")
      else
        match family.kinds[n.toNat]? with
        | some entry => .ok entry.2
        | none =>
            .error (.wrongValue (.int n)
              ("variant index 0 <= i < " ++ toString family.kinds.length))
  | other => .error (.wrongType (found other) "variant identifier")

-- Fields in the order of the form; those left out take their defaults.
def arrange (given : List (String × Piece)) : List Field → Except Fault (List Piece)
  | [] => .ok []
  | field :: rest =>
      match given.find? fun entry => entry.1 == field.name with
      | some entry => (arrange given rest).map (entry.2 :: ·)
      | none =>
          match field.absent.piece? with
          | some piece => (arrange given rest).map (piece :: ·)
          | none => .error (.missingField field.name)

def Form.finish (form : Form) (pieces : Except Fault (List Piece)) : Except Fault Piece :=
  match pieces with
  | .error fault => .error fault
  | .ok pieces =>
      match form.build pieces with
      | some piece => .ok piece
      | none => .error (.noForm form.title)

def fillRow (form : Form) (count : Nat) : List Field → Except Fault (List Piece)
  | [] => .ok []
  | field :: rest =>
      match field.absent.piece? with
      | some piece => (fillRow form (count + 1) rest).map (piece :: ·)
      | none =>
          .error (.wrongLength count
            (form.title ++ " with " ++ Record.elements form.fields.length))

def fieldNamed? (form : Form) (name : String) : Option Field :=
  form.fields.find? fun field => field.name == name

mutual

def read (shape : Shape) : Json → Except Fault Piece
  | .array items =>
      shape.present.settle (.array items)
        (match shape.present with
         | .list item => (readItems item items).map .list
         | present =>
             match present.keyed? with
             | some (.byKind family) => readKindRow family items
             | some (.plain form) => form.finish (readRow form 0 form.fields items)
             | none => .error (.wrongType .sequence present.expected))
  | .object fields =>
      shape.present.settle (.object fields)
        (match shape.present.keyed? with
         | some (.byKind family) =>
             match (Json.field? "kind" fields).map (formAt family) with
             | none => .error (.missingField "kind")
             | some (.error fault) => .error fault
             | some (.ok form) =>
                 form.finish ((readFields form true fields).bind fun given =>
                   arrange given form.fields)
         | some (.plain form) =>
             form.finish ((readFields form false fields).bind fun given =>
               arrange given form.fields)
         | none => readSingle shape.present fields)
  | value =>
      if shape.isOptional && (match value with
          | .null => true
          | _ => false) then .ok .nothing
      else shape.present.settle value (readScalar shape.present value)

def readItems (item : Shape) : List Json → Except Fault (List Piece)
  | [] => .ok []
  | value :: rest =>
      match read item value with
      | .error fault => .error fault
      | .ok piece => (readItems item rest).map (piece :: ·)

def readKindRow (family : Family) : List Json → Except Fault Piece
  | [] => .error (.missingField "kind")
  | kind :: rest =>
      match formAt family kind with
      | .error fault => .error fault
      | .ok form => form.finish (readRow form 0 form.fields rest)

def readRow (form : Form) (count : Nat) (fields : List Field) :
    List Json → Except Fault (List Piece)
  | [] => fillRow form count fields
  | value :: rest =>
      match fields with
      | [] => .error (.wrongLength (count + 1 + rest.length) (Record.elements count ++ " in sequence"))
      | field :: more =>
          match read field.shape value with
          | .error fault => .error fault
          | .ok piece => (readRow form (count + 1) more rest).map (piece :: ·)

-- The known fields of an object in the order of the object; others are passed over.
def readFields (form : Form) (hasKind : Bool) :
    List (String × Json) → Except Fault (List (String × Piece))
  | [] => .ok []
  | (name, value) :: rest =>
      if hasKind && name == "kind" then readFields form hasKind rest
      else
        match fieldNamed? form name with
        | none => readFields form hasKind rest
        | some field =>
            match read field.shape value with
            | .error fault => .error fault
            | .ok piece => (readFields form hasKind rest).map ((name, piece) :: ·)

def readSingle (shape : Shape) : List (String × Json) → Except Fault Piece
  | [] =>
      match shape with
      | .part | .binaryOp | .unaryOp | .binding | .visibility =>
          .error (.wrongValue .map "map with a single key")
      | _ => .error (.wrongType .map shape.expected)
  | (name, value) :: rest =>
      match shape, rest with
      | .part, [] =>
          if name == "text" then
            match read .text value with
            | .ok (.text text) => .ok (.part (.text text))
            | .ok _ => .error (.noForm "TemplatePart")
            | .error fault => .error fault
          else if name == "expr" then
            match read .expr value with
            | .ok (.expr e) => .ok (.part (.hole e))
            | .ok _ => .error (.noForm "TemplatePart")
            | .error fault => .error fault
          else .error (.unknownWord name ["text", "expr"])
      | .part, _ => .error (.wrongValue .map "map with a single key")
      | other, rest =>
          match other.words?, rest with
          | some words, [] =>
              match wordNamed words name with
              | .error fault => .error fault
              | .ok piece =>
                  if isUnit value then .ok piece else .error (.wrongType (found value) "unit")
          | some _, _ => .error (.wrongValue .map "map with a single key")
          | none, _ => .error (.wrongType .map shape.expected)

end

end ApiContract.Code.Config
