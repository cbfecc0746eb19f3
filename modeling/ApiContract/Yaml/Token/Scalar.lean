import ApiContract.Yaml.Cursor
import ApiContract.Yaml.Token.Basic

/-!
The texts of scalars: plain, in quotes, and in blocks of indented lines. Line breaks inside plain
and quoted scalars are folded.
-/

set_option autoImplicit false

namespace ApiContract.Yaml

structure Gap where
  blanks : List Char := []
  breaks : List Char := []

def folded : List Char → List Char
  | '\n' :: [] => [' ']
  | '\n' :: more => more
  | other => other

def Gap.text (g : Gap) : List Char :=
  if g.breaks.isEmpty then g.blanks else folded g.breaks

-- Reads the white space that comes next; `seen` is what was read of it. A tab in front of column
-- `indent` of a later line is refused.
def readGap (indent : Nat) (begun : Mark) : Nat → Gap → Cursor → Except Fault (Gap × Cursor)
  | 0, seen, c => .ok (seen, c)
  | fuel + 1, seen, c =>
      match c.rest with
      | [] => .ok (seen, c)
      | d :: _ =>
          if isBlank d then
            if seen.breaks.isEmpty then
              readGap indent begun fuel { seen with blanks := seen.blanks ++ [d] } c.skip
            else if c.mark.column < indent ∧ d = '\t' then
              .error (c.fault .tabBreaksIndentation .plainScalar begun)
            else readGap indent begun fuel seen c.skip
          else
            match c.lineBreak? with
            | some (b, after) =>
                readGap indent begun fuel { seen with breaks := seen.breaks ++ [b] } after
            | none => .ok (seen, c)

def plainEnds (flow : Bool) (rest : List Char) : Bool :=
  match rest with
  | [] => true
  | c :: after =>
      startsBlank rest || (c == ':' && startsBlank after) ||
        (flow && (c == ',' || c == '[' || c == ']' || c == '\x7b' || c == '\x7d'))

def plainColonRefused (flow : Bool) (rest : List Char) : Bool :=
  match rest with
  | ':' :: d :: _ =>
      flow && (d == ',' || d == '?' || d == '[' || d == ']' || d == '\x7b' || d == '\x7d')
  | _ => false

def plainWord (flow : Bool) (begun : Mark) :
    Mark → List Char → Except Fault (List Char × Cursor)
  | m, [] => .ok ([], ⟨[], m⟩)
  | m, c :: rest =>
      if plainColonRefused flow (c :: rest) then
        .error ((Cursor.mk (c :: rest) m).fault .colonUnexpected .plainScalar begun)
      else if plainEnds flow (c :: rest) then .ok ([], ⟨c :: rest, m⟩)
      else (plainWord flow begun (m.after c) rest).map fun more => (c :: more.1, more.2)

structure ScalarText where
  text : List Char
  stop : Mark
  after : Cursor
  newLine : Bool := false

def plainFrom (flow : Bool) (indent : Nat) (begun : Mark) :
    Nat → List Char → Mark → Gap → Cursor → Except Fault ScalarText
  | 0, text, stop, _, c => .ok ⟨text, stop, c, false⟩
  | fuel + 1, text, stop, gap, c =>
      let newLine := !gap.breaks.isEmpty
      if c.atDocumentMark || c.sees '#' then .ok ⟨text, stop, c, newLine⟩
      else
        match plainWord flow begun c.mark c.rest with
        | .error fault => .error fault
        | .ok ([], _) => .ok ⟨text, stop, c, newLine⟩
        | .ok (word, afterWord) =>
            let text := text ++ gap.text ++ word
            match readGap indent begun (afterWord.rest.length + 1) {} afterWord with
            | .error fault => .error fault
            | .ok (next, c) =>
                if next.blanks.isEmpty && next.breaks.isEmpty then
                  .ok ⟨text, afterWord.mark, c, false⟩
                else if !flow && c.mark.column < indent then
                  .ok ⟨text, afterWord.mark, c, !next.breaks.isEmpty⟩
                else plainFrom flow indent begun fuel text afterWord.mark next c

def readPlain (flow : Bool) (indent : Nat) (c : Cursor) : Except Fault ScalarText :=
  plainFrom flow indent c.mark (c.rest.length + 1) [] c.mark {} c

def escapedChar? : Char → Option Char
  | '0' => some (Char.ofNat 0)
  | 'a' => some (Char.ofNat 7)
  | 'b' => some (Char.ofNat 8)
  | 't' => some '\t'
  | '\t' => some '\t'
  | 'n' => some '\n'
  | 'v' => some (Char.ofNat 11)
  | 'f' => some (Char.ofNat 12)
  | 'r' => some '\r'
  | 'e' => some (Char.ofNat 27)
  | ' ' => some ' '
  | '"' => some '"'
  | '/' => some '/'
  | '\\' => some '\\'
  | 'N' => some '\u0085'
  | '_' => some '\u00a0'
  | 'L' => some '\u2028'
  | 'P' => some '\u2029'
  | _ => none

def escapeDigits? : Char → Option Nat
  | 'x' => some 2
  | 'u' => some 4
  | 'U' => some 8
  | _ => none

def hexNumber? : Nat → Nat → List Char → Option Nat
  | 0, value, _ => some value
  | _ + 1, _, [] => none
  | n + 1, value, c :: rest =>
      match hexValue? c with
      | some digit => hexNumber? n (16 * value + digit) rest
      | none => none

def readEscape (begun : Mark) (c : Cursor) : Except Fault (Char × Cursor) :=
  let unknown := Except.error (c.fault .escapeUnknown .escape begun)
  match c.rest with
  | '\\' :: letter :: _ =>
      match escapedChar? letter with
      | some d => .ok (d, c.skipMany 2)
      | none =>
          match escapeDigits? letter with
          | none => unknown
          | some digits =>
              let after := c.skipMany 2
              match hexNumber? digits 0 after.rest with
              | none => .error (after.fault .hexDigitMissing .escape begun)
              | some n =>
                  if n.isValidChar then .ok (Char.ofNat n, after.skipMany digits)
                  else .error (after.fault .escapeNoCharacter .escape begun)
  | _ => unknown

structure QuotedWord where
  text : List Char
  after : Cursor
  continued : Bool

def QuotedWord.push (c : Char) (w : QuotedWord) : QuotedWord :=
  { w with text := c :: w.text }

-- The next word of a scalar in single quotes. A quote written twice is part of it.
def singleWord (m : Mark) : List Char → QuotedWord
  | '\'' :: '\'' :: rest => (singleWord ((m.after '\'').after '\'') rest).push '\''
  | '\'' :: rest => ⟨[], ⟨'\'' :: rest, m⟩, false⟩
  | c :: rest =>
      if startsBlank (c :: rest) then ⟨[], ⟨c :: rest, m⟩, false⟩
      else (singleWord (m.after c) rest).push c
  | [] => ⟨[], ⟨[], m⟩, false⟩

def doubleWord (begun : Mark) : Nat → Cursor → Except Fault QuotedWord
  | 0, c => .ok ⟨[], c, false⟩
  | fuel + 1, c =>
      match c.rest with
      | [] => .ok ⟨[], c, false⟩
      | d :: _ =>
          if startsBlank c.rest || d == '"' then .ok ⟨[], c, false⟩
          else if d = '\\' then
            if c.skip.seesAny isBreak then .ok ⟨[], c.skip.skipLine, true⟩
            else
              match readEscape begun c with
              | .error fault => .error fault
              | .ok (e, after) => (doubleWord begun fuel after).map (QuotedWord.push e)
          else (doubleWord begun fuel c.skip).map (QuotedWord.push d)

def gapText (continued : Bool) (g : Gap) : List Char :=
  if continued then g.breaks else g.text

def quotedFrom (quote : Char) (begun : Mark) :
    Nat → List Char → Cursor → Except Fault ScalarText
  | 0, _, c => .error (c.fault .endOfStream .quotedScalar begun)
  | fuel + 1, text, c =>
      if c.atDocumentMark then .error (c.fault .documentMark .quotedScalar begun)
      else if c.atEnd then .error (c.fault .endOfStream .quotedScalar begun)
      else
        let word :=
          if quote = '"' then doubleWord begun (c.rest.length + 1) c
          else .ok (singleWord c.mark c.rest)
        match word with
        | .error fault => .error fault
        | .ok word =>
            let text := text ++ word.text
            if word.after.sees quote then .ok ⟨text, word.after.skip.mark, word.after.skip, false⟩
            else
              match readGap 0 begun (word.after.rest.length + 1) {} word.after with
              | .error fault => .error fault
              | .ok (gap, c) => quotedFrom quote begun fuel (text ++ gapText word.continued gap) c

def readQuoted (quote : Char) (c : Cursor) : Except Fault ScalarText :=
  quotedFrom quote c.mark (c.rest.length + 1) [] c.skip

inductive Chomping where
  | strip
  | clip
  | keep
deriving DecidableEq

structure BlockHeader where
  chomping : Chomping := .clip
  increment : Option Nat := none

def readChomping (c : Cursor) : Option Chomping :=
  if c.sees '+' then some .keep else if c.sees '-' then some .strip else none

def readIncrement (begun : Mark) (c : Cursor) : Except Fault (Option Nat × Cursor) :=
  match c.rest with
  | d :: _ =>
      if d = '0' then .error (c.fault .indentationZero .blockScalar begun)
      else if d.isDigit then .ok (some (d.toNat - 48), c.skip)
      else .ok (none, c)
  | [] => .ok (none, c)

def readBlockHeader (begun : Mark) (c : Cursor) : Except Fault (BlockHeader × Cursor) :=
  match readChomping c with
  | some chomping =>
      (readIncrement begun c.skip).map fun r => (⟨chomping, r.1⟩, r.2)
  | none =>
      match readIncrement begun c with
      | .error fault => .error fault
      | .ok (none, c) => .ok ({}, c)
      | .ok (some n, c) =>
          match readChomping c with
          | some chomping => .ok (⟨chomping, some n⟩, c.skip)
          | none => .ok (⟨.clip, some n⟩, c)

def skipIndent (indent : Option Nat) : Nat → Cursor → Cursor
  | 0, c => c
  | fuel + 1, c =>
      if c.sees ' ' && (match indent with
          | some n => decide (c.mark.column < n)
          | none => true) then skipIndent indent fuel c.skip
      else c

structure BlockBreaks where
  breaks : List Char
  deepest : Nat
  stop : Mark
  after : Cursor

def readBreaks (indent : Option Nat) (begun : Mark) :
    Nat → List Char → Nat → Mark → Cursor → Except Fault BlockBreaks
  | 0, breaks, deepest, stop, c => .ok ⟨breaks, deepest, stop, c⟩
  | fuel + 1, breaks, deepest, stop, c =>
      let c := skipIndent indent (c.rest.length + 1) c
      let deepest := max deepest c.mark.column
      let early := match indent with
        | some n => decide (c.mark.column < n)
        | none => true
      if early && c.sees '\t' then .error (c.fault .tabForIndentation .blockScalar begun)
      else
        match c.lineBreak? with
        | some (b, after) => readBreaks indent begun fuel (breaks ++ [b]) deepest after.mark after
        | none => .ok ⟨breaks, deepest, stop, c⟩

def blockBreaks (indent : Option Nat) (begun : Mark) (c : Cursor) : Except Fault BlockBreaks :=
  readBreaks indent begun (c.rest.length + 1) [] 0 c.mark c

structure BlockLines where
  text : List Char := []
  lastBreak : List Char := []
  breaks : List Char := []
  blankStart : Bool := false

def BlockLines.joint (isFolded : Bool) (s : BlockLines) (blank : Bool) : List Char :=
  if isFolded && s.lastBreak == ['\n'] && !s.blankStart && !blank then
    (if s.breaks.isEmpty then [' '] else s.breaks)
  else s.lastBreak ++ s.breaks

def readBlockLines (isFolded : Bool) (indent : Nat) (begun : Mark) :
    Nat → BlockLines → Mark → Cursor → Except Fault (BlockLines × Mark × Cursor)
  | 0, s, stop, c => .ok (s, stop, c)
  | fuel + 1, s, stop, c =>
      if c.mark.column = indent ∧ c.atEnd = false then
        let blank := c.seesAny isBlank
        let line := c.span fun d => !isBreak d
        let next : List Char × Cursor :=
          match line.2.lineBreak? with
          | some (b, after) => ([b], after)
          | none => ([], line.2)
        match blockBreaks (some indent) begun next.2 with
        | .error fault => .error fault
        | .ok found =>
            let text := s.text ++ s.joint isFolded blank ++ line.1
            readBlockLines isFolded indent begun fuel ⟨text, next.1, found.breaks, blank⟩
              found.stop found.after
      else .ok (s, stop, c)

def BlockLines.chomped (s : BlockLines) : Chomping → List Char
  | .strip => s.text
  | .clip => s.text ++ s.lastBreak
  | .keep => s.text ++ s.lastBreak ++ s.breaks

def readBlock (isFolded : Bool) (outer : Option Nat) (c : Cursor) : Except Fault ScalarText :=
  match readBlockHeader c.mark c.skip with
  | .error fault => .error fault
  | .ok (header, afterHeader) =>
      let lineEnd := (afterHeader.skipWhile isBlank).skipComment
      if lineEnd.blankAt 0 then
        let body := lineEnd.skipLine
        let said := header.increment.map fun n => outer.getD 0 + n
        match blockBreaks said c.mark body with
        | .error fault => .error fault
        | .ok found =>
            let least := match outer with
              | some n => n + 1
              | none => 1
            let indent := said.getD (max found.deepest least)
            match readBlockLines isFolded indent c.mark (found.after.rest.length + 1)
                { breaks := found.breaks } found.stop found.after with
            | .error fault => .error fault
            | .ok (s, stop, after) => .ok ⟨s.chomped header.chomping, stop, after, false⟩
      else .error (lineEnd.fault .lineEndMissing .blockScalar c.mark)

end ApiContract.Yaml
