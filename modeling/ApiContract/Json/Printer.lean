import ApiContract.Json.Basic
import ApiContract.Number.Shortest
import ApiContract.Text.Lines

/-!
The written forms of JSON values: compact, and indented by two spaces a level.
-/

set_option autoImplicit false

namespace ApiContract.Json

def hexDigit (n : Nat) : Char :=
  if n < 10 then Char.ofNat (48 + n) else Char.ofNat (87 + n)

def escapeChar (c : Char) : List Char :=
  if c = '"' then ['\\', '"']
  else if c = '\\' then ['\\', '\\']
  else if c = '\n' then ['\\', 'n']
  else if c = '\r' then ['\\', 'r']
  else if c = '\t' then ['\\', 't']
  else if c = Char.ofNat 8 then ['\\', 'b']
  else if c = Char.ofNat 12 then ['\\', 'f']
  else if c.toNat < 32 then
    ['\\', 'u', '0', '0', hexDigit (c.toNat / 16), hexDigit (c.toNat % 16)]
  else [c]

def quote (text : String) : String :=
  String.ofList ('"' :: (text.toList.flatMap escapeChar ++ ['"']))

def floatText (x : Float) : String :=
  if x.isFinite then Number.Spelling.json.float x else "null"

mutual

def compact : Json → String
  | .null => "null"
  | .bool value => if value then "true" else "false"
  | .int value => toString value
  | .float value => floatText value
  | .text value => quote value
  | .array items => "[" ++ Text.join "," (compactItems items) ++ "]"
  | .object fields => "\x7b" ++ Text.join "," (compactFields fields) ++ "\x7d"

def compactItems : List Json → List String
  | [] => []
  | item :: rest => compact item :: compactItems rest

def compactFields : List (String × Json) → List String
  | [] => []
  | (name, value) :: rest => (quote name ++ ":" ++ compact value) :: compactFields rest

end

def margin (depth : Nat) : String :=
  "\n" ++ String.ofList (List.replicate (2 * depth) ' ')

mutual

def prettyAt (depth : Nat) : Json → String
  | .array [] => "[]"
  | .array (item :: rest) =>
      "[" ++ Text.join "," (prettyItems (depth + 1) (item :: rest)) ++ margin depth ++ "]"
  | .object [] => "\x7b\x7d"
  | .object (field :: rest) =>
      "\x7b" ++ Text.join "," (prettyFields (depth + 1) (field :: rest)) ++ margin depth ++ "\x7d"
  | .null => "null"
  | .bool value => if value then "true" else "false"
  | .int value => toString value
  | .float value => floatText value
  | .text value => quote value

def prettyItems (depth : Nat) : List Json → List String
  | [] => []
  | item :: rest => (margin depth ++ prettyAt depth item) :: prettyItems depth rest

def prettyFields (depth : Nat) : List (String × Json) → List String
  | [] => []
  | (name, value) :: rest =>
      (margin depth ++ quote name ++ ": " ++ prettyAt depth value) :: prettyFields depth rest

end

def pretty (value : Json) : String :=
  prettyAt 0 value

end ApiContract.Json
