import ApiContract.Json.Basic
import ApiContract.Number.Power
import ApiContract.Record.Fault
import ApiContract.Yaml.Token.Basic

/-!
What scalars stand for. A plain scalar is a value of the first kind that its text fits: nothing, a
truth value, a whole number, a decimal number, a text. A tag can ask for one kind.
-/

set_option autoImplicit false

namespace ApiContract.Yaml

open Number (twoTo)

inductive Scalar where
  | nothing
  | bool (value : Bool)
  | int (value : Int)
  | float (value : Float)
  | text (value : String)

namespace Scalar

def isNothing (text : String) : Bool :=
  text == "null" || text == "Null" || text == "NULL" || text == "~"

def bool? (text : String) : Option Bool :=
  if text = "true" ∨ text = "True" ∨ text = "TRUE" then some true
  else if text = "false" ∨ text = "False" ∨ text = "FALSE" then some false
  else none

def digit? (c : Char) : Option Nat :=
  if '0' ≤ c ∧ c ≤ '9' then some (c.toNat - 48)
  else if 'a' ≤ c ∧ c ≤ 'f' then some (c.toNat - 87)
  else if 'A' ≤ c ∧ c ≤ 'F' then some (c.toNat - 55)
  else none

def numberFrom (base : Nat) : Nat → List Char → Option Nat
  | value, [] => some value
  | value, c :: rest =>
      match digit? c with
      | some d => if d < base then numberFrom base (base * value + d) rest else none
      | none => none

def number? (base : Nat) (digits : List Char) : Option Nat :=
  if digits.isEmpty then none else numberFrom base 0 digits

-- Digits in a base that is told by the two characters in front; decimal ones have none, and do not
-- begin with a needless zero.
def magnitude? : List Char → Option Nat
  | '0' :: 'x' :: rest => number? 16 rest
  | '0' :: 'o' :: rest => number? 8 rest
  | '0' :: 'b' :: rest => number? 2 rest
  | '0' :: c :: rest => if (c :: rest).all Char.isDigit then none else number? 10 ('0' :: c :: rest)
  | digits => number? 10 digits

def int? (cs : List Char) : Option Int :=
  match cs with
  | '+' :: rest => (magnitude? rest).map Int.ofNat
  | '-' :: rest => (magnitude? rest).map fun n => -Int.ofNat n
  | _ => (magnitude? cs).map Int.ofNat

def fits (value : Int) : Bool :=
  decide (-twoTo 127 ≤ value) && decide (value < twoTo 128)

def isNarrow (value : Int) : Bool :=
  decide (-twoTo 63 ≤ value) && decide (value < twoTo 64)

def exponent? : List Char → Option Int
  | [] => some 0
  | c :: rest =>
      if c = 'e' ∨ c = 'E' then
        match rest with
        | '+' :: digits => (number? 10 digits).map Int.ofNat
        | '-' :: digits => (number? 10 digits).map fun n => -Int.ofNat n
        | digits => (number? 10 digits).map Int.ofNat
      else none

def scaled (significand : Nat) (exponent : Int) : Float :=
  let digits := (toString significand).length
  if significand = 0 then 0.0
  else if 400 < exponent + digits then 1.0 / 0.0
  else if exponent + digits < -400 then 0.0
  else if exponent < 0 then Float.ofScientific significand true exponent.natAbs
  else Float.ofScientific significand false exponent.natAbs

def decimal? (cs : List Char) : Option Float :=
  let whole := cs.takeWhile Char.isDigit
  let after := cs.dropWhile Char.isDigit
  let fraction := match after with
    | '.' :: rest => rest.takeWhile Char.isDigit
    | _ => []
  let tail := match after with
    | '.' :: rest => rest.dropWhile Char.isDigit
    | _ => after
  match number? 10 (whole ++ fraction), exponent? tail with
  | some significand, some exponent => some (scaled significand (exponent - fraction.length))
  | _, _ => none

def finite? (x : Option Float) : Option Float :=
  x.bind fun value => if value.isFinite then some value else none

def hasNeedlessZero (cs : List Char) : Bool :=
  let digits := match cs with
    | '+' :: rest => rest
    | '-' :: rest => rest
    | _ => cs
  match digits with
  | '0' :: c :: rest => (c :: rest).all Char.isDigit
  | _ => false

def float? (cs : List Char) : Option Float :=
  let infinite := [".inf".toList, ".Inf".toList, ".INF".toList]
  let undefined := [".nan".toList, ".NaN".toList, ".NAN".toList]
  if undefined.contains cs then some (0.0 / 0.0)
  else
    match cs with
    | '+' :: rest => if infinite.contains rest then some (1.0 / 0.0) else finite? (decimal? rest)
    | '-' :: rest =>
        if infinite.contains rest then some (-1.0 / 0.0)
        else finite? ((decimal? rest).map fun x => -x)
    | _ => if infinite.contains cs then some (1.0 / 0.0) else finite? (decimal? cs)

def plain (text : String) : Scalar :=
  let cs := text.toList
  if text.isEmpty || isNothing text then .nothing
  else
    match bool? text with
    | some value => .bool value
    | none =>
        match (int? cs).bind fun value => if fits value then some value else none with
        | some value => .int value
        | none =>
            if hasNeedlessZero cs then .text text
            else
              match float? cs with
              | some value => .float value
              | none => .text text

def standardTag (name : String) : String :=
  "tag:yaml.org,2002:" ++ name

-- What a scalar stands for, whatever its tag; a text that its tag does not allow is refused.
def read (tag : Option String) (style : ScalarStyle) (text : String) :
    Except Record.Fault Scalar :=
  let refused (expected : String) : Except Record.Fault Scalar :=
    .error (.wrongValue (.text text) expected)
  match tag with
  | none => .ok (if style = .plain then plain text else .text text)
  | some name =>
      if name = standardTag "bool" then
        match bool? text with
        | some value => .ok (.bool value)
        | none => refused "a boolean"
      else if name = standardTag "int" then
        match (int? text.toList).bind fun value => if fits value then some value else none with
        | some value => .ok (.int value)
        | none => refused "an integer"
      else if name = standardTag "float" then
        match float? text.toList with
        | some value => .ok (.float value)
        | none => refused "a float"
      else if name = standardTag "null" then
        if isNothing text then .ok .nothing else refused "null"
      else if name.startsWith "!" ∧ style = .plain then .ok (plain text)
      else .ok (.text text)

def found : Scalar → Record.Found
  | .nothing => .nothing
  | .bool value => .bool value
  | .int value => if isNarrow value then .int value else .wideInt value
  | .float value => .float value
  | .text value => .text value

-- The value in JSON; numbers that are not finite count as nothing.
def toJson : Scalar → Except Record.Fault Json
  | .nothing => .ok .null
  | .bool value => .ok (.bool value)
  | .int value => if isNarrow value then .ok (.int value) else .error .numberOutOfRange
  | .float value => .ok (if value.isFinite then .float value else .null)
  | .text value => .ok (.text value)

end Scalar

end ApiContract.Yaml
