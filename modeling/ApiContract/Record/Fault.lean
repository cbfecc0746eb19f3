import ApiContract.Number.Shortest
import ApiContract.Text.Escaped
import ApiContract.Text.Lines

/-!
What can be wrong with a record: a value of another type, a field too few or too many, a word that
is none of the allowed ones.
-/

set_option autoImplicit false

namespace ApiContract.Record

inductive Found where
  | bool (value : Bool)
  | int (value : Int)
  -- A whole number of more than 64 bits.
  | wideInt (value : Int)
  | float (value : Float)
  | text (value : String)
  | nothing
  | sequence
  | map
  | tagged
  | bareWord

inductive Dialect where
  | json
  | yaml

def floatText (dialect : Dialect) (x : Float) : String :=
  match dialect with
  | .json => Number.Spelling.json.float x
  | .yaml =>
      if x.isNaN then "NaN.0"
      else if x.isInf then (if x < 0.0 then "-inf.0" else "inf.0")
      else
        let text := Number.Spelling.plain.float x
        if text.contains '.' then text else text ++ ".0"

def ticked (text : String) : String :=
  "\x60" ++ text ++ "\x60"

def Found.message (dialect : Dialect) : Found → String
  | .bool value => "boolean " ++ ticked (if value then "true" else "false")
  | .int value => "integer " ++ ticked (toString value)
  | .wideInt value =>
      "integer " ++ ticked (toString value) ++ (if value < 0 then " as i128" else " as u128")
  | .float value => "floating point " ++ ticked (floatText dialect value)
  | .text value => "string " ++ Text.escaped value
  | .nothing =>
      match dialect with
      | .json => "null"
      | .yaml => "unit value"
  | .sequence => "sequence"
  | .map => "map"
  | .tagged => "enum"
  | .bareWord => "unit variant"

inductive Fault where
  | wrongType (found : Found) (expected : String)
  | wrongValue (found : Found) (expected : String)
  | wrongLength (length : Nat) (expected : String)
  | missingField (name : String)
  | duplicateField (name : String)
  | unknownField (name : String) (expected : List String)
  | unknownWord (word : String) (expected : List String)
  | noForm (type : String)
  | numberOutOfRange

def oneOf : List String → String
  | [only] => ticked only
  | [first, second] => ticked first ++ " or " ++ ticked second
  | many => "one of " ++ Text.join ", " (many.map ticked)

def Fault.message (dialect : Dialect) : Fault → String
  | .wrongType found expected =>
      "invalid type: " ++ found.message dialect ++ ", expected " ++ expected
  | .wrongValue found expected =>
      "invalid value: " ++ found.message dialect ++ ", expected " ++ expected
  | .wrongLength length expected =>
      "invalid length " ++ toString length ++ ", expected " ++ expected
  | .missingField name => "missing field " ++ ticked name
  | .duplicateField name => "duplicate field " ++ ticked name
  | .unknownField name expected =>
      "unknown field " ++ ticked name ++ ", expected " ++ oneOf expected
  | .unknownWord word expected =>
      "unknown variant " ++ ticked word ++ ", expected " ++ oneOf expected
  | .noForm type => "data did not match any variant of untagged enum " ++ type
  | .numberOutOfRange => "JSON number out of range"

def require {α : Type} (name : String) : Option α → Except Fault α
  | some value => .ok value
  | none => .error (.missingField name)

def elements (count : Nat) : String :=
  if count = 1 then "1 element" else toString count ++ " elements"

end ApiContract.Record
