import ApiContract.Json.Basic
import ApiContract.Number.Power

/-!
Reading JSON text. A failure names its cause and the place, counted in bytes, where reading stopped.
-/

set_option autoImplicit false

namespace ApiContract.Json

open Number (twoTo)

inductive Cause where
  | endInList
  | endInObject
  | endInText
  | endInValue
  | expectedColon
  | expectedListCommaOrEnd
  | expectedObjectCommaOrEnd
  | expectedWord
  | expectedValue
  | badEscape
  | badNumber
  | numberTooLarge
  | controlCharacter
  | keyNotText
  | loneSurrogate
  | brokenSurrogatePair
  | trailingComma
  | trailingCharacters
  | tooDeep

def Cause.message : Cause → String
  | .endInList => "EOF while parsing a list"
  | .endInObject => "EOF while parsing an object"
  | .endInText => "EOF while parsing a string"
  | .endInValue => "EOF while parsing a value"
  | .expectedColon => "expected \x60:\x60"
  | .expectedListCommaOrEnd => "expected \x60,\x60 or \x60]\x60"
  | .expectedObjectCommaOrEnd => "expected \x60,\x60 or \x60\x7d\x60"
  | .expectedWord => "expected ident"
  | .expectedValue => "expected value"
  | .badEscape => "invalid escape"
  | .badNumber => "invalid number"
  | .numberTooLarge => "number out of range"
  | .controlCharacter => "control character (\\u0000-\\u001F) found while parsing a string"
  | .keyNotText => "key must be a string"
  | .loneSurrogate => "lone leading surrogate in hex escape"
  | .brokenSurrogatePair => "unexpected end of hex escape"
  | .trailingComma => "trailing comma"
  | .trailingCharacters => "trailing characters"
  | .tooDeep => "recursion limit exceeded"

structure Fault where
  cause : Cause
  unread : Nat

def bytesOf : List Char → Nat
  | [] => 0
  | c :: rest => c.utf8Size + bytesOf rest

def stop {α : Type} (cause : Cause) (rest : List Char) : Except Fault α :=
  .error ⟨cause, bytesOf rest⟩

def stopAtNext {α : Type} (cause : Cause) (rest : List Char) : Except Fault α :=
  .error ⟨cause, bytesOf rest - 1⟩

def skipSpace : List Char → List Char :=
  List.dropWhile fun c => c == ' ' || c == '\n' || c == '\t' || c == '\r'

def readWord : List Char → List Char → Except Fault (List Char)
  | [], rest => .ok rest
  | _ :: _, [] => stop .endInValue []
  | expected :: more, c :: rest =>
      if c = expected then readWord more rest else stopAtNext .expectedWord (c :: rest)

def hexValue? (c : Char) : Option Nat :=
  if '0' ≤ c ∧ c ≤ '9' then some (c.toNat - 48)
  else if 'a' ≤ c ∧ c ≤ 'f' then some (c.toNat - 87)
  else if 'A' ≤ c ∧ c ≤ 'F' then some (c.toNat - 55)
  else none

def readHex (cs : List Char) : Except Fault (Nat × List Char) :=
  let rec take (count value : Nat) (good : Bool) (rest : List Char) : Except Fault (Nat × List Char) :=
    match count, rest with
    | 0, rest => if good then .ok (value, rest) else stop .badEscape rest
    | _ + 1, [] => stop .endInText []
    | count + 1, c :: rest =>
        if c.utf8Size ≤ count + 1 then
          match hexValue? c with
          | some digit => take count (16 * value + digit) good rest
          | none => take (count + 1 - c.utf8Size) value false rest
        else .error ⟨.badEscape, bytesOf rest + (c.utf8Size - (count + 1))⟩
  termination_by count
  decreasing_by
    · omega
    · have := Char.utf8Size_pos c
      omega
  if bytesOf (cs.take 4) < 4 then stop .endInText [] else take 4 0 true cs

def readEscape : List Char → Except Fault (Char × List Char)
  | [] => stop .endInText []
  | c :: rest =>
      if c = '"' ∨ c = '\\' ∨ c = '/' then .ok (c, rest)
      else if c = 'b' then .ok (Char.ofNat 8, rest)
      else if c = 'f' then .ok (Char.ofNat 12, rest)
      else if c = 'n' then .ok ('\n', rest)
      else if c = 'r' then .ok ('\r', rest)
      else if c = 't' then .ok ('\t', rest)
      else if c = 'u' then
        match readHex rest with
        | .error fault => .error fault
        | .ok (high, rest) =>
            if 0xDC00 ≤ high ∧ high ≤ 0xDFFF then stop .loneSurrogate rest
            else if high < 0xD800 ∨ 0xDBFF < high then .ok (Char.ofNat high, rest)
            else
              match rest with
              | [] => stop .endInText []
              | '\\' :: [] => stop .endInText []
              | '\\' :: 'u' :: rest =>
                  match readHex rest with
                  | .error fault => .error fault
                  | .ok (low, rest) =>
                      if low < 0xDC00 ∨ 0xDFFF < low then stop .loneSurrogate rest
                      else .ok (Char.ofNat ((high - 0xD800) * 0x400 + (low - 0xDC00) + 0x10000), rest)
              | '\\' :: c :: rest => stopAtNext .brokenSurrogatePair (c :: rest)
              | rest => stopAtNext .brokenSurrogatePair rest
      else stopAtNext .badEscape (c :: rest)

-- The rest of a quoted text, after its opening quote; `fuel` bounds the characters.
def readText : Nat → List Char → List Char → Except Fault (String × List Char)
  | 0, _, rest => stop .endInText rest
  | _ + 1, _, [] => stop .endInText []
  | fuel + 1, done, c :: rest =>
      if c = '"' then .ok (String.ofList done.reverse, rest)
      else if c = '\\' then
        match readEscape rest with
        | .error fault => .error fault
        | .ok (escaped, rest) => readText fuel (escaped :: done) rest
      else if c.toNat < 32 then stop .controlCharacter rest
      else readText fuel (c :: done) rest

def isDigit (c : Char) : Bool :=
  '0' ≤ c && c ≤ '9'

def digitValue (c : Char) : Nat :=
  c.toNat - 48

def wordLimit : Nat := twoTo 64

def powerOfTen (exponent : Nat) : Float :=
  Float.ofScientific 1 false exponent

def divideDown : Nat → Float → Nat → Float
  | 0, x, _ => x
  | fuel + 1, x, exponent =>
      if exponent ≤ 308 then x / powerOfTen exponent
      else if x == 0.0 then x
      else divideDown fuel (x / powerOfTen 308) (exponent - 308)

-- The number `significand * 10 ^ exponent`, in binary64 steps: the significand is rounded first,
-- then multiplied or divided.
def scaled (positive : Bool) (significand : Nat) (exponent : Int) (rest : List Char) :
    Except Fault Float :=
  let sign (x : Float) : Float := if positive then x else -x
  let x := significand.toUInt64.toFloat
  if 0 ≤ exponent then
    if exponent ≤ 308 then
      let y := x * powerOfTen exponent.toNat
      if y.isInf then stop .numberTooLarge rest else .ok (sign y)
    else if significand = 0 then .ok (sign x)
    else stop .numberTooLarge rest
  else .ok (sign (divideDown 8 x (-exponent).toNat))

-- The digits of an exponent, clamped to 32 signed bits; none when it does not fit.
def readExponentDigits : Nat → List Char → Option Nat × List Char
  | value, [] => (some value, [])
  | value, c :: rest =>
      if isDigit c then
        let grown := 10 * value + digitValue c
        if twoTo 31 ≤ grown then (none, rest) else readExponentDigits grown rest
      else (some value, c :: rest)

def readExponent (positive : Bool) (significand : Nat) (start : Int) (cs : List Char) :
    Except Fault (Float × List Char) :=
  let (up, cs) :=
    match cs with
    | '+' :: rest => (true, rest)
    | '-' :: rest => (false, rest)
    | rest => (true, rest)
  match cs with
  | [] => stop .endInValue []
  | c :: rest =>
      if !isDigit c then stopAtNext .badNumber (c :: rest)
      else
        match readExponentDigits (digitValue c) rest with
        | (none, rest) =>
            if significand != 0 && up then stop .numberTooLarge rest
            else .ok (if positive then 0.0 else -0.0, rest.dropWhile isDigit)
        | (some exponent, rest) =>
            match scaled positive significand (if up then start + exponent else start - exponent) rest with
            | .error fault => .error fault
            | .ok x => .ok (x, rest)

-- Digits after the point; those that no longer fit in 64 bits are dropped.
def readFractionDigits : Nat → Nat → List Char → Nat × Nat × List Char
  | significand, count, [] => (significand, count, [])
  | significand, count, c :: rest =>
      if isDigit c then
        let grown := 10 * significand + digitValue c
        if wordLimit ≤ grown then (significand, count, rest.dropWhile isDigit)
        else readFractionDigits grown (count + 1) rest
      else (significand, count, c :: rest)

def readFraction (positive : Bool) (significand : Nat) (start : Int) (cs : List Char) :
    Except Fault (Float × List Char) :=
  match cs with
  | [] => stop .endInValue []
  | c :: _ =>
      if !isDigit c then stopAtNext .badNumber cs
      else
        let (significand, count, rest) := readFractionDigits significand 0 cs
        match rest with
        | 'e' :: rest => readExponent positive significand (start - count) rest
        | 'E' :: rest => readExponent positive significand (start - count) rest
        | rest =>
            match scaled positive significand (start - count) rest with
            | .error fault => .error fault
            | .ok x => .ok (x, rest)

-- Whole digits; when they no longer fit in 64 bits the rest of them only count.
def readWholeDigits : Nat → List Char → Nat × Nat × List Char
  | significand, [] => (significand, 0, [])
  | significand, c :: rest =>
      if isDigit c then
        let grown := 10 * significand + digitValue c
        if wordLimit ≤ grown then
          let dropped := (c :: rest).takeWhile isDigit
          (significand, dropped.length, (c :: rest).dropWhile isDigit)
        else readWholeDigits grown rest
      else (significand, 0, c :: rest)

-- A number, after its sign. Whole numbers of 64 bits stay whole; minus zero and larger ones do not.
def readNumber (positive : Bool) (cs : List Char) : Except Fault (Json × List Char) :=
  let real (result : Except Fault (Float × List Char)) : Except Fault (Json × List Char) :=
    result.map fun parts => (.float parts.1, parts.2)
  match cs with
  | [] => stop .endInValue []
  | c :: tail =>
      if !isDigit c then stopAtNext .badNumber (c :: tail)
      else if c = '0' ∧ (tail.head?.map isDigit).getD false then stopAtNext .badNumber tail
      else
        let (significand, dropped, rest) := readWholeDigits (digitValue c) tail
        match rest with
        | '.' :: rest => real (readFraction positive significand dropped rest)
        | 'e' :: rest => real (readExponent positive significand dropped rest)
        | 'E' :: rest => real (readExponent positive significand dropped rest)
        | rest =>
            if dropped != 0 then
              real ((scaled positive significand dropped rest).map fun x => (x, rest))
            else if positive then .ok (.int significand, rest)
            else if significand = 0 ∨ twoTo 63 < significand then
              .ok (.float (-significand.toUInt64.toFloat), rest)
            else .ok (.int (-significand), rest)

mutual

def readValue : Nat → Nat → List Char → Except Fault (Json × List Char)
  | 0, _, cs => stop .tooDeep cs
  | fuel + 1, depth, cs =>
      match skipSpace cs with
      | [] => stop .endInValue []
      | 'n' :: rest => (readWord ['u', 'l', 'l'] rest).map fun rest => (.null, rest)
      | 't' :: rest => (readWord ['r', 'u', 'e'] rest).map fun rest => (.bool true, rest)
      | 'f' :: rest => (readWord ['a', 'l', 's', 'e'] rest).map fun rest => (.bool false, rest)
      | '-' :: rest => readNumber false rest
      | '"' :: rest =>
          (readText (rest.length + 1) [] rest).map fun parts => (.text parts.1, parts.2)
      | '[' :: rest =>
          if depth ≤ 1 then stopAtNext .tooDeep ('[' :: rest)
          else readItems fuel (depth - 1) true [] rest
      | '\x7b' :: rest =>
          if depth ≤ 1 then stopAtNext .tooDeep ('\x7b' :: rest)
          else readFields fuel (depth - 1) true [] rest
      | c :: rest =>
          if isDigit c then readNumber true (c :: rest) else stopAtNext .expectedValue (c :: rest)

def readItems : Nat → Nat → Bool → List Json → List Char → Except Fault (Json × List Char)
  | 0, _, _, _, cs => stop .tooDeep cs
  | fuel + 1, depth, first, done, cs =>
      let item (cs : List Char) : Except Fault (Json × List Char) :=
        match readValue fuel depth cs with
        | .error fault => .error fault
        | .ok (value, rest) => readItems fuel depth false (value :: done) rest
      match skipSpace cs with
      | [] => stop .endInList []
      | ']' :: rest => .ok (.array done.reverse, rest)
      | c :: rest =>
          if first then item (c :: rest)
          else if c = ',' then
            match skipSpace rest with
            | [] => stop .endInValue []
            | ']' :: rest => stopAtNext .trailingComma (']' :: rest)
            | rest => item rest
          else stopAtNext .expectedListCommaOrEnd (c :: rest)

def readFields : Nat → Nat → Bool → List (String × Json) → List Char →
    Except Fault (Json × List Char)
  | 0, _, _, _, cs => stop .tooDeep cs
  | fuel + 1, depth, first, done, cs =>
      let field (cs : List Char) : Except Fault (Json × List Char) :=
        match readText (cs.length + 1) [] cs with
        | .error fault => .error fault
        | .ok (name, rest) =>
            match skipSpace rest with
            | [] => stop .endInObject []
            | ':' :: rest =>
                match readValue fuel depth rest with
                | .error fault => .error fault
                | .ok (value, rest) => readFields fuel depth false (put name value done) rest
            | rest => stopAtNext .expectedColon rest
      match skipSpace cs with
      | [] => stop .endInObject []
      | '\x7d' :: rest => .ok (.object done, rest)
      | c :: rest =>
          if first then
            if c = '"' then field rest else stopAtNext .keyNotText (c :: rest)
          else if c = ',' then
            match skipSpace rest with
            | [] => stop .endInValue []
            | '"' :: rest => field rest
            | '\x7d' :: rest => stopAtNext .trailingComma ('\x7d' :: rest)
            | rest => stopAtNext .keyNotText rest
          else stopAtNext .expectedObjectCommaOrEnd (c :: rest)

end

def place (bytes : List UInt8) (count : Nat) : Nat × Nat :=
  (bytes.take count).foldl
    (fun at_ byte => if byte = 10 then (at_.1 + 1, 0) else (at_.1, at_.2 + 1)) (1, 0)

structure SyntaxFault where
  cause : Cause
  line : Nat
  column : Nat

def SyntaxFault.message (fault : SyntaxFault) : String :=
  fault.cause.message ++ " at line " ++ toString fault.line ++ " column " ++ toString fault.column

def depthLimit : Nat := 128

def parse (text : String) : Except SyntaxFault Json :=
  let cs := text.toList
  let result : Except Fault Json :=
    match readValue (2 * cs.length + 2) depthLimit cs with
    | .error fault => .error fault
    | .ok (value, rest) =>
        match skipSpace rest with
        | [] => .ok value
        | rest => stopAtNext .trailingCharacters rest
  result.mapError fun fault =>
    let bytes := text.toUTF8.toList
    let at_ := place bytes (bytes.length - fault.unread)
    ⟨fault.cause, at_.1, at_.2⟩

end ApiContract.Json
