import ApiContract.Yaml.Fault

/-!
Reading a text character by character: what is left of it, and where that is.
-/

set_option autoImplicit false

namespace ApiContract.Yaml

def isBlank (c : Char) : Bool :=
  c == ' ' || c == '\t'

def isBreak (c : Char) : Bool :=
  c == '\n' || c == '\r' || c == '\u0085' || c == '\u2028' || c == '\u2029'

def isWordChar (c : Char) : Bool :=
  c.isAlphanum || c == '_' || c == '-'

def hexValue? (c : Char) : Option Nat :=
  if '0' ≤ c ∧ c ≤ '9' then some (c.toNat - 48)
  else if 'a' ≤ c ∧ c ≤ 'f' then some (c.toNat - 87)
  else if 'A' ≤ c ∧ c ≤ 'F' then some (c.toNat - 55)
  else none

def startsBlank : List Char → Bool
  | [] => true
  | c :: _ => isBlank c || isBreak c

structure Cursor where
  rest : List Char
  mark : Mark

namespace Cursor

def start (text : String) : Cursor :=
  ⟨text.toList, {}⟩

def atEnd (c : Cursor) : Bool :=
  c.rest.isEmpty

def sees (c : Cursor) (expected : Char) : Bool :=
  c.rest.head? == some expected

-- Whether the next character is in a class; there is none at the end.
def seesAny (c : Cursor) (p : Char → Bool) : Bool :=
  c.rest.head?.any p

def blankAt (c : Cursor) (n : Nat) : Bool :=
  startsBlank (c.rest.drop n)

def skip (c : Cursor) : Cursor :=
  match c.rest with
  | [] => c
  | d :: rest => ⟨rest, c.mark.after d⟩

def skipMany : Nat → Cursor → Cursor
  | 0, c => c
  | n + 1, c => skipMany n c.skip

def spanFrom (p : Char → Bool) : Mark → List Char → List Char × Cursor
  | m, [] => ([], ⟨[], m⟩)
  | m, d :: rest =>
      if p d then
        let more := spanFrom p (m.after d) rest
        (d :: more.1, more.2)
      else ([], ⟨d :: rest, m⟩)

def span (c : Cursor) (p : Char → Bool) : List Char × Cursor :=
  spanFrom p c.mark c.rest

def skipWhile (c : Cursor) (p : Char → Bool) : Cursor :=
  (c.span p).2

def lineBreak? (c : Cursor) : Option (Char × Cursor) :=
  match c.rest with
  | '\r' :: '\n' :: rest => some ('\n', ⟨rest, c.mark.nextLine 2⟩)
  | d :: rest =>
      if d = '\u2028' ∨ d = '\u2029' then some (d, ⟨rest, c.mark.nextLine d.utf8Size⟩)
      else if isBreak d then some ('\n', ⟨rest, c.mark.nextLine d.utf8Size⟩)
      else none
  | [] => none

def skipLine (c : Cursor) : Cursor :=
  match c.lineBreak? with
  | some (_, after) => after
  | none => c

def skipComment (c : Cursor) : Cursor :=
  if c.sees '#' then c.skipWhile fun d => !isBreak d else c

def atDocumentMark (c : Cursor) : Bool :=
  c.mark.column == 0 && c.blankAt 3 &&
    (c.rest.take 3 == ['-', '-', '-'] || c.rest.take 3 == ['.', '.', '.'])

def fault (c : Cursor) (problem : Problem) (activity : Activity) (begun : Mark) : Fault :=
  ⟨problem, c.mark, some ⟨activity, begun⟩⟩

end Cursor

-- Whether a character may occur in a document at all.
def isAllowed (c : Char) : Bool :=
  let n := c.toNat
  n == 0x9 || n == 0xA || n == 0xD || (0x20 ≤ n && n ≤ 0x7E) || n == 0x85 ||
    (0xA0 ≤ n && n ≤ 0xD7FF) || (0xE000 ≤ n && n ≤ 0xFFFD) || 0x10000 ≤ n

def controlFault? (offset : Nat) : List Char → Option Fault
  | [] => none
  | c :: rest =>
      if isAllowed c then controlFault? (offset + c.utf8Size) rest
      else some ⟨.controlCharacter, { offset := offset }, none⟩

end ApiContract.Yaml
