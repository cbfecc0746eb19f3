import ApiContract.Yaml.Token.Scalar
import ApiContract.Yaml.Token.Tag

/-!
The tokens of a text. Indentation opens and closes block collections, and a colon can turn what
was read before it on the line into a key.
-/

set_option autoImplicit false

namespace ApiContract.Yaml

-- A place where a key may have begun: one before the token that is `number` tokens after the first.
-- It has to be a key when nothing else may stand there.
structure PossibleKey where
  required : Bool
  number : Nat
  mark : Mark
deriving DecidableEq

structure Progress where
  cursor : Cursor
  tokens : Array Token
  indents : List Nat
  keys : List (Option PossibleKey)
  keyAllowed : Bool

namespace Progress

def inFlow (p : Progress) : Bool :=
  1 < p.keys.length

def mark (p : Progress) : Mark :=
  p.cursor.mark

def mention (kind : TokenKind) (p : Progress) : Progress :=
  { p with tokens := p.tokens.push ⟨kind, p.mark, p.mark⟩ }

def take (kind : TokenKind) (after : Cursor) (p : Progress) : Progress :=
  { p with tokens := p.tokens.push ⟨kind, p.mark, after.mark⟩, cursor := after }

def insert (kind : TokenKind) (number : Nat) (mark : Mark) (p : Progress) : Progress :=
  { p with tokens := p.tokens.insertIdxIfInBounds number ⟨kind, mark, mark⟩ }

def isStale (here : Mark) (key : PossibleKey) : Bool :=
  key.mark.line < here.line || key.mark.offset + 1024 < here.offset

def keyFault (here : Mark) (key : PossibleKey) : Fault :=
  ⟨.colonMissing, here, some ⟨.simpleKey, key.mark⟩⟩

def dropStaleKeys (here : Mark) :
    List (Option PossibleKey) → Except Fault (List (Option PossibleKey))
  | [] => .ok []
  | none :: rest => (dropStaleKeys here rest).map (none :: ·)
  | some key :: rest =>
      match dropStaleKeys here rest with
      | .error fault => .error fault
      | .ok others =>
          if isStale here key then
            if key.required then .error (keyFault here key) else .ok (none :: others)
          else .ok (some key :: others)

def dropStale (p : Progress) : Except Fault Progress :=
  (dropStaleKeys p.mark p.keys).map fun keys => { p with keys := keys }

def dropKey (p : Progress) : Except Fault Progress :=
  match p.keys with
  | some key :: rest =>
      if key.required then .error (keyFault p.mark key)
      else .ok { p with keys := none :: rest }
  | _ => .ok p

def saveKey (p : Progress) : Except Fault Progress :=
  if p.keyAllowed then
    p.dropKey.map fun p =>
      let required := !p.inFlow && p.indents.head? == some p.mark.column
      { p with keys := some ⟨required, p.tokens.size, p.mark⟩ :: p.keys.drop 1 }
  else .ok p

def closeBlocks (column : Option Nat) (p : Progress) : List Nat → Progress
  | [] => { p with indents := [] }
  | indent :: rest =>
      if (match column with
          | some n => decide (n < indent)
          | none => true) then closeBlocks column (p.mention .blockEnd) rest
      else { p with indents := indent :: rest }

def unroll (column : Option Nat) (p : Progress) : Progress :=
  if p.inFlow then p else closeBlocks column p p.indents

def opensBlock (p : Progress) (column : Nat) : Bool :=
  !p.inFlow && (match p.indents with
    | indent :: _ => decide (indent < column)
    | [] => true)

def openBlock (kind : TokenKind) (p : Progress) : Progress :=
  if p.opensBlock p.mark.column then
    { p.mention kind with indents := p.mark.column :: p.indents }
  else p

-- Skips white space, comments and line ends up to the next token. Tabs do not count as white space
-- where a key of a block could begin.
def skipBetween : Nat → Progress → Progress
  | 0, p => p
  | fuel + 1, p =>
      let c := if p.mark.column == 0 && p.cursor.sees '\ufeff' then p.cursor.skip else p.cursor
      let tabs := p.inFlow || !p.keyAllowed
      let c := (c.skipWhile fun d => d == ' ' || (tabs && d == '\t')).skipComment
      if c.seesAny isBreak then
        skipBetween fuel { p with cursor := c.skipLine, keyAllowed := p.keyAllowed || !p.inFlow }
      else { p with cursor := c }

def fetchEnd (p : Progress) : Except Fault Progress :=
  let m := p.mark
  let p :=
    if m.column = 0 then p else { p with cursor := ⟨p.cursor.rest, { m with line := m.line + 1, column := 0 }⟩ }
  (p.unroll none).dropKey.map fun p => { p.mention .streamEnd with keyAllowed := false }

def fetchDirective (p : Progress) : Except Fault Progress :=
  match (p.unroll none).dropKey with
  | .error fault => .error fault
  | .ok p =>
      (readDirective p.cursor).map fun r =>
        { p with tokens := p.tokens.push r.1, cursor := r.2, keyAllowed := false }

def fetchDocumentMark (kind : TokenKind) (p : Progress) : Except Fault Progress :=
  (p.unroll none).dropKey.map fun p =>
    { p.take kind (p.cursor.skipMany 3) with keyAllowed := false }

def fetchFlowStart (kind : TokenKind) (p : Progress) : Except Fault Progress :=
  p.saveKey.map fun p =>
    { p.take kind p.cursor.skip with keys := none :: p.keys, keyAllowed := true }

def closeFlow : List (Option PossibleKey) → List (Option PossibleKey)
  | _ :: next :: rest => next :: rest
  | keys => keys

def fetchFlowEnd (kind : TokenKind) (p : Progress) : Except Fault Progress :=
  p.dropKey.map fun p =>
    { p.take kind p.cursor.skip with keys := closeFlow p.keys, keyAllowed := false }

def fetchFlowEntry (p : Progress) : Except Fault Progress :=
  p.dropKey.map fun p => { p.take .flowEntry p.cursor.skip with keyAllowed := true }

def notHere (p : Progress) (problem : Problem) : Fault :=
  ⟨problem, p.mark, none⟩

def fetchBlockEntry (p : Progress) : Except Fault Progress :=
  if !p.inFlow && !p.keyAllowed then .error (p.notHere .entryNotAllowed)
  else
    (p.openBlock .blockSequenceStart).dropKey.map fun p =>
      { p.take .blockEntry p.cursor.skip with keyAllowed := true }

def fetchKey (p : Progress) : Except Fault Progress :=
  if !p.inFlow && !p.keyAllowed then .error (p.notHere .keyNotAllowed)
  else
    (p.openBlock .blockMappingStart).dropKey.map fun p =>
      { p.take .key p.cursor.skip with keyAllowed := !p.inFlow }

def becomeKey (key : PossibleKey) (p : Progress) : Progress :=
  let p := p.insert .key key.number key.mark
  if p.opensBlock key.mark.column then
    { p.insert .blockMappingStart key.number key.mark with
      indents := key.mark.column :: p.indents }
  else p

def fetchValue (p : Progress) : Except Fault Progress :=
  match p.keys with
  | some key :: rest =>
      let p := p.becomeKey key
      .ok { p.take .value p.cursor.skip with keys := none :: rest, keyAllowed := false }
  | _ =>
      if !p.inFlow && !p.keyAllowed then .error (p.notHere .valueNotAllowed)
      else
        let p := p.openBlock .blockMappingStart
        .ok { p.take .value p.cursor.skip with keyAllowed := !p.inFlow }

def fetchAnchor (activity : Activity) (kind : String → TokenKind) (p : Progress) :
    Except Fault Progress :=
  match p.saveKey with
  | .error fault => .error fault
  | .ok p =>
      (readAnchor activity p.cursor).map fun r =>
        { p.take (kind r.1) r.2 with keyAllowed := false }

def fetchTag (p : Progress) : Except Fault Progress :=
  match p.saveKey with
  | .error fault => .error fault
  | .ok p =>
      (readTag p.inFlow p.cursor).map fun r =>
        { p.take (.tag r.1.1 r.1.2) r.2 with keyAllowed := false }

def takeScalar (style : ScalarStyle) (s : ScalarText) (p : Progress) : Progress :=
  { p with
    tokens := p.tokens.push ⟨.scalar (String.ofList s.text) style, p.mark, s.stop⟩
    cursor := s.after
    keyAllowed := s.newLine }

def fetchBlockScalar (style : ScalarStyle) (p : Progress) : Except Fault Progress :=
  match p.dropKey with
  | .error fault => .error fault
  | .ok p =>
      (readBlock (decide (style = .folded)) p.indents.head? p.cursor).map fun s =>
        p.takeScalar style { s with newLine := true }

def fetchQuoted (quote : Char) (p : Progress) : Except Fault Progress :=
  match p.saveKey with
  | .error fault => .error fault
  | .ok p => (readQuoted quote p.cursor).map fun s => p.takeScalar .quoted s

def fetchPlain (p : Progress) : Except Fault Progress :=
  match p.saveKey with
  | .error fault => .error fault
  | .ok p =>
      let indent := match p.indents with
        | n :: _ => n + 1
        | [] => 0
      (readPlain p.inFlow indent p.cursor).map fun s => p.takeScalar .plain s

def beginsPlain (p : Progress) : Bool :=
  match p.cursor.rest with
  | [] => false
  | c :: rest =>
      !(isBlank c || isBreak c || "-?:,[]\x7b\x7d#&*!|>'\"%@\x60".toList.contains c) ||
        (c == '-' && !(rest.head?.any isBlank)) ||
        (!p.inFlow && (c == '?' || c == ':') && !startsBlank rest)

def fetchToken (p : Progress) : Except Fault Progress :=
  let c := p.cursor
  let indicator := p.inFlow || c.blankAt 1
  match c.rest with
  | [] => p.fetchEnd
  | d :: _ =>
      if d = '%' ∧ c.mark.column = 0 then p.fetchDirective
      else if c.atDocumentMark then
        p.fetchDocumentMark (if d = '-' then .documentStart else .documentEnd)
      else if d = '[' then p.fetchFlowStart .flowSequenceStart
      else if d = '\x7b' then p.fetchFlowStart .flowMappingStart
      else if d = ']' then p.fetchFlowEnd .flowSequenceEnd
      else if d = '\x7d' then p.fetchFlowEnd .flowMappingEnd
      else if d = ',' then p.fetchFlowEntry
      else if d = '-' ∧ c.blankAt 1 then p.fetchBlockEntry
      else if d = '?' ∧ indicator then p.fetchKey
      else if d = ':' ∧ indicator then p.fetchValue
      else if d = '*' then p.fetchAnchor .reference .reference
      else if d = '&' then p.fetchAnchor .anchor .anchor
      else if d = '!' then p.fetchTag
      else if d = '|' ∧ p.inFlow = false then p.fetchBlockScalar .literal
      else if d = '>' ∧ p.inFlow = false then p.fetchBlockScalar .folded
      else if d = '\'' ∨ d = '"' then p.fetchQuoted d
      else if p.beginsPlain then p.fetchPlain
      else .error (c.fault .noTokenStart .nextToken c.mark)

def fetch (p : Progress) : Except Fault Progress :=
  match (p.skipBetween (p.cursor.rest.length + 1)).dropStale with
  | .error fault => .error fault
  | .ok p =>
      match (p.unroll (some p.mark.column)).fetchToken with
      | .error fault => .error fault
      | .ok p => p.dropStale

def certain (p : Progress) : Nat :=
  p.keys.foldl (fun n key => match key with
    | some k => min n k.number
    | none => n) p.tokens.size

def isDone (p : Progress) : Bool :=
  match p.tokens.back? with
  | some token => decide (token.kind = .streamEnd)
  | none => false

def run : Nat → Progress → Tokens
  | 0, p => ⟨p.tokens.toList, none⟩
  | fuel + 1, p =>
      if p.isDone then ⟨p.tokens.toList, none⟩
      else
        match p.fetch with
        | .error fault => ⟨p.tokens.toList.take p.certain, some fault⟩
        | .ok next => run fuel next

def start (text : String) : Progress :=
  let c := Cursor.start text
  ⟨c, #[⟨.streamStart, c.mark, c.mark⟩], [], [none], true⟩

end Progress

-- The tokens of a text. A character that may not occur refuses the whole text.
def Tokens.ofText (text : String) : Tokens :=
  match controlFault? 0 text.toList with
  | some fault => ⟨[], some fault⟩
  | none => Progress.run (text.length + 2) (Progress.start text)

end ApiContract.Yaml
