import ApiContract.Script.Token.Basic

/-!
Cutting a text of code into tokens. Marks are read one character at a time, apart from the few that
mean something else together. Whether a slash divides or opens a pattern, and whether a brace closes
a hole of a template, follows from the tokens in front.
-/

set_option autoImplicit false

namespace ApiContract.Script

def keep (c : Char) (pieces : List Char × List Char) : List Char × List Char :=
  (c :: pieces.1, pieces.2)

inductive Gap where
  | blanks
  | lineComment
  | blockComment
deriving DecidableEq

-- Cuts off the blanks and comments at the front. A comment that is never closed takes all.
def cutGap : Gap → List Char → List Char × List Char
  | _, [] => ([], [])
  | .blanks, '/' :: '/' :: rest => keep '/' (keep '/' (cutGap .lineComment rest))
  | .blanks, '/' :: '*' :: rest => keep '/' (keep '*' (cutGap .blockComment rest))
  | .blanks, c :: rest => if isBlank c then keep c (cutGap .blanks rest) else ([], c :: rest)
  | .lineComment, c :: rest =>
      if isLineEnd c then keep c (cutGap .blanks rest) else keep c (cutGap .lineComment rest)
  | .blockComment, '*' :: '/' :: rest => keep '*' (keep '/' (cutGap .blanks rest))
  | .blockComment, c :: rest => keep c (cutGap .blockComment rest)

-- Cuts off what follows the opening quote, with the closing one; a line end closes too, and is
-- left.
def cutString (quote : Char) : List Char → List Char × List Char
  | [] => ([], [])
  | '\\' :: c :: rest => keep '\\' (keep c (cutString quote rest))
  | c :: rest =>
      if c == quote then ([c], rest)
      else if c == '\n' || c == '\r' then ([], c :: rest)
      else keep c (cutString quote rest)

-- Cuts off what follows the first digit of a number. A decimal number may have one point, and a
-- sign after the letter of its exponent.
def cutNumber (decimal : Bool) : Bool → Char → List Char → List Char × List Char
  | _, _, [] => ([], [])
  | point, before, c :: rest =>
      if isWordChar c then keep c (cutNumber decimal point c rest)
      else if decimal && point && c == '.' then keep c (cutNumber decimal false c rest)
      else if decimal && (c == '+' || c == '-') && (before == 'e' || before == 'E') then
        keep c (cutNumber decimal point c rest)
      else ([], c :: rest)

-- Cuts off what follows the opening slash of a pattern, with the closing one; a slash within
-- brackets does not close.
def cutPattern? : Bool → List Char → Option (List Char × List Char)
  | _, [] => none
  | bracketed, '\\' :: c :: rest =>
      if isLineEnd c then none
      else (cutPattern? bracketed rest).map fun pieces => keep '\\' (keep c pieces)
  | bracketed, c :: rest =>
      if isLineEnd c then none
      else if c == '/' && !bracketed then some ([c], rest)
      else (cutPattern? (c == '[' || (bracketed && c != ']')) rest).map (keep c)

def cutChars : List Char → List Char × List Char
  | [] => ([], [])
  | '$' :: '\x7b' :: rest => ([], '$' :: '\x7b' :: rest)
  | c :: rest => if c == '\x60' || c == '\\' then ([], c :: rest) else keep c (cutChars rest)

inductive Frame where
  | brace
  | template
  | hole
deriving DecidableEq

structure Reading where
  frames : List Frame
  value : Bool

def wordsBeforeValue : List String :=
  ["return", "typeof", "instanceof", "in", "of", "new", "delete", "void", "throw", "case", "do",
    "else", "yield", "await", "extends", "default"]

def longMarks : List (List Char) :=
  [['.', '.', '.'], ['=', '>'], ['+', '+'], ['-', '-']]

def markSize (cs : List Char) : Nat :=
  match longMarks.find? fun mark => mark.isPrefixOf cs with
  | some mark => mark.length
  | none =>
      match cs with
      | '?' :: '.' :: c :: _ => if c.isDigit then 1 else 2
      | '?' :: '.' :: _ => 2
      | _ => 1

def cutCode (value : Bool) : List Char → TokenKind × List Char × List Char
  | [] => (.mark, [], [])
  | c :: rest =>
      if c == '\x60' || c == '(' || c == '[' || c == '\x7b' then (.opening, [c], rest)
      else if c == ')' || c == ']' || c == '\x7d' then (.closing, [c], rest)
      else if c == '"' || c == '\'' then (.string, keep c (cutString c rest))
      else if c.isDigit || (c == '.' && rest.head?.any Char.isDigit) then
        let radix := c == '0' && rest.head?.any fun d => "xXoObB".toList.contains d
        (.number, keep c (cutNumber (!radix) (c != '.') c rest))
      else if isWordChar c || c == '#' then
        (.word, keep c (rest.takeWhile isWordChar, rest.dropWhile isWordChar))
      else
        let size := markSize (c :: rest)
        let mark := (TokenKind.mark, (c :: rest).take size, (c :: rest).drop size)
        if c == '/' && !value then
          match cutPattern? false rest with
          | some (body, after) =>
              (.pattern, c :: body ++ after.takeWhile isWordChar, after.dropWhile isWordChar)
          | none => mark
        else mark

def cutTemplate : List Char → TokenKind × List Char × List Char
  | '\x60' :: rest => (.closing, ['\x60'], rest)
  | '$' :: '\x7b' :: rest => (.opening, ['$', '\x7b'], rest)
  | '\\' :: c :: rest => (.escape, ['\\', c], rest)
  | '\\' :: [] => (.escape, ['\\'], [])
  | cs => (.chars, cutChars cs)

def Reading.framesAfter (r : Reading) (kind : TokenKind) (text : List Char) : List Frame :=
  match kind with
  | .opening =>
      if text == ['\x60'] then .template :: r.frames
      else if text == ['\x7b'] then .brace :: r.frames
      else if text == ['$', '\x7b'] then .hole :: r.frames
      else r.frames
  | .closing =>
      if text == ['\x60'] || text == ['\x7d'] then r.frames.drop 1 else r.frames
  | _ => r.frames

-- Whether a token can end a value. A brace is taken for the end of a block.
def endsValue (kind : TokenKind) (text : List Char) : Bool :=
  match kind with
  | .word => !(wordsBeforeValue.any fun word => word.toList == text)
  | .number | .string | .pattern => true
  | .closing => text != ['\x7d']
  | .mark => text == ['+', '+'] || text == ['-', '-']
  | _ => false

def Reading.after (r : Reading) (kind : TokenKind) (text : List Char) : Reading :=
  ⟨r.framesAfter kind text, endsValue kind text⟩

def tokensFrom : Nat → Reading → List Char → List Token
  | 0, _, _ => []
  | fuel + 1, r, cs =>
      let inTemplate := r.frames.head? == some .template
      let (lead, rest) := if inTemplate then ([], cs) else cutGap .blanks cs
      if rest.isEmpty then []
      else
        let (kind, text, after) := if inTemplate then cutTemplate rest else cutCode r.value rest
        ⟨kind, text, lead, rest.length⟩ :: tokensFrom fuel (r.after kind text) after

-- The tokens of a text. A first line that names the program to run is skipped.
def tokens (text : List Char) : List Token :=
  let rest :=
    match text with
    | '#' :: '!' :: rest => rest.dropWhile fun c => !isLineEnd c
    | _ => text
  tokensFrom (rest.length + 1) ⟨[], false⟩ rest

end ApiContract.Script
