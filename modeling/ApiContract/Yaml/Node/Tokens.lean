import ApiContract.Yaml.Node.Basic
import ApiContract.Yaml.Token.Text

/-!
Documents of tokens. Where tokens do not fit together or come to an end, the tree is cut there.
-/

set_option autoImplicit false

namespace ApiContract.Yaml

structure Reading where
  tokens : List Token
  last : Option Fault
  anchors : List (String × Nat) := []
  handles : List (String × String) := []
  stop : Option Stop := none

namespace Reading

def stopAt (r : Reading) (stop : Stop) : Reading :=
  { r with stop := some stop }

def fail (r : Reading) (problem : Problem) (mark : Mark) (context : Option Context) : Reading :=
  r.stopAt (.fault ⟨problem, mark, context⟩)

def exhausted (r : Reading) : Reading :=
  r.stopAt (.fault (r.last.getD ⟨.endOfStream, {}, none⟩))

def drop (r : Reading) (rest : List Token) : Reading :=
  { r with tokens := rest }

-- Numbers an anchor by how many names there were before; a name that is used again takes the new
-- number.
def nameAnchor (r : Reading) : Option String → Option Nat × Reading
  | none => (none, r)
  | some name =>
      let number := r.anchors.length
      let known := r.anchors.any fun entry => entry.1 == name
      let anchors :=
        if known then
          r.anchors.map fun entry => if entry.1 = name then (name, number) else entry
        else r.anchors ++ [(name, number)]
      (some number, { r with anchors := anchors })

def anchor? (r : Reading) (name : String) : Option Nat :=
  (r.anchors.find? fun entry => entry.1 == name).map Prod.snd

-- What a tag stands for; none if its handle stands for nothing.
def tag? (r : Reading) (handle : String) (suffix : String) : Option String :=
  if handle.isEmpty then some suffix
  else (r.handles.find? fun entry => entry.1 == handle).map fun entry => entry.2 ++ suffix

end Reading

structure Properties where
  start : Mark
  anchor : Option String := none
  tag : Option (Mark × String × String) := none

def takeProperties : List Token → Option Properties × List Token
  | ⟨.anchor name, start, _⟩ :: ⟨.tag handle suffix, mark, _⟩ :: rest =>
      (some ⟨start, some name, some (mark, handle, suffix)⟩, rest)
  | ⟨.anchor name, start, _⟩ :: rest => (some ⟨start, some name, none⟩, rest)
  | ⟨.tag handle suffix, start, _⟩ :: ⟨.anchor name, _, _⟩ :: rest =>
      (some ⟨start, some name, some (start, handle, suffix)⟩, rest)
  | ⟨.tag handle suffix, start, _⟩ :: rest =>
      (some ⟨start, none, some (start, handle, suffix)⟩, rest)
  | tokens => (none, tokens)

def emptyAt (mark : Mark) : Node :=
  .scalar ⟨mark, none, none⟩ "" .plain

def scalarTag (tag : Option String) : Option String :=
  if tag = some "!" then none else tag

def endsItem : TokenKind → Bool
  | .blockEntry | .blockEnd => true
  | _ => false

def endsBare : TokenKind → Bool
  | .blockEntry | .key | .value | .blockEnd => true
  | _ => false

def endsBlockPart : TokenKind → Bool
  | .key | .value | .blockEnd => true
  | _ => false

def endsPairKey : TokenKind → Bool
  | .value | .flowEntry | .flowSequenceEnd => true
  | _ => false

def endsPairValue : TokenKind → Bool
  | .flowEntry | .flowSequenceEnd => true
  | _ => false

def endsFlowKey : TokenKind → Bool
  | .value | .flowEntry | .flowMappingEnd => true
  | _ => false

def endsFlowValue : TokenKind → Bool
  | .flowEntry | .flowMappingEnd => true
  | _ => false

mutual

def readNode (block bare : Bool) : Nat → Reading → Node × Reading
  | 0, r => (.cut, r.exhausted)
  | fuel + 1, r =>
      match r.tokens with
      | [] => (.cut, r.exhausted)
      | ⟨.reference name, mark, _⟩ :: rest =>
          match r.anchor? name with
          | some number => (.reference mark number, r.drop rest)
          | none => (.cut, r.stopAt (.unknownAnchor mark))
      | first :: _ =>
          let taken := takeProperties r.tokens
          let r := r.drop taken.2
          let start := (taken.1.map Properties.start).getD first.start
          match r.tokens with
          | [] => (.cut, r.exhausted)
          | token :: rest =>
              match taken.1.bind Properties.tag with
              | some (mark, handle, suffix) =>
                  match r.tag? handle suffix with
                  | some tag =>
                      readContent block bare start (taken.1.bind Properties.anchor) (some tag)
                        token fuel (r.drop rest)
                  | none =>
                      (.cut, r.fail .tagHandleUndefined mark (some ⟨.node, start⟩))
              | none =>
                  readContent block bare start (taken.1.bind Properties.anchor) none token
                    fuel (r.drop rest)

def readContent (block bare : Bool) (start : Mark) (anchor : Option String)
    (tag : Option String) (token : Token) : Nat → Reading → Node × Reading
  | 0, r => (.cut, r.exhausted)
  | fuel + 1, r =>
      let (number, named) := r.nameAnchor anchor
      let header : Header := ⟨start, tag, number⟩
      let sequence (items : List Node × Reading) : Node × Reading :=
        (.sequence header items.1, items.2)
      let mapping (entries : List (Node × Node) × Reading) : Node × Reading :=
        (.mapping header entries.1, entries.2)
      match token.kind with
      | .scalar text style => (.scalar ⟨start, scalarTag tag, number⟩ text style, named)
      | .flowSequenceStart => sequence (readFlowItems token.start true fuel named)
      | .flowMappingStart => mapping (readFlowEntries token.start true fuel named)
      | kind =>
          let again := named.drop (token :: r.tokens)
          if bare && kind == .blockEntry then sequence (readBareItems fuel again)
          else if block && kind == .blockSequenceStart then
            sequence (readBlockItems token.start fuel named)
          else if block && kind == .blockMappingStart then
            mapping (readBlockEntries token.start fuel named)
          else if anchor.isSome || tag.isSome then (.scalar header "" .plain, again)
          else
            (.cut, r.fail .contentMissing token.start
              (some ⟨if block then .blockNode else .flowNode, start⟩))

def readBlockItems (begun : Mark) : Nat → Reading → List Node × Reading
  | 0, r => ([.cut], r.exhausted)
  | fuel + 1, r =>
      match r.tokens with
      | ⟨.blockEntry, _, stop⟩ :: rest =>
          match rest with
          | [] => ([.cut], (r.drop rest).exhausted)
          | next :: _ =>
              let item : Node × Reading :=
                if endsItem next.kind then (emptyAt stop, r.drop rest)
                else readNode true false fuel (r.drop rest)
              if item.2.stop.isSome then ([item.1], item.2)
              else
                let others := readBlockItems begun fuel item.2
                (item.1 :: others.1, others.2)
      | ⟨.blockEnd, _, _⟩ :: rest => ([], r.drop rest)
      | token :: _ =>
          ([.cut], r.fail .entryMissing token.start (some ⟨.blockSequence, begun⟩))
      | [] => ([.cut], r.exhausted)

def readBareItems : Nat → Reading → List Node × Reading
  | 0, r => ([.cut], r.exhausted)
  | fuel + 1, r =>
      match r.tokens with
      | ⟨.blockEntry, _, stop⟩ :: rest =>
          match rest with
          | [] => ([.cut], (r.drop rest).exhausted)
          | next :: _ =>
              let item : Node × Reading :=
                if endsBare next.kind then (emptyAt stop, r.drop rest)
                else readNode true false fuel (r.drop rest)
              if item.2.stop.isSome then ([item.1], item.2)
              else
                let others := readBareItems fuel item.2
                (item.1 :: others.1, others.2)
      | _ :: _ => ([], r)
      | [] => ([.cut], r.exhausted)

def readBlockEntries (begun : Mark) : Nat → Reading → List (Node × Node) × Reading
  | 0, r => ([(.cut, .cut)], r.exhausted)
  | fuel + 1, r =>
      match r.tokens with
      | ⟨.key, _, stop⟩ :: rest =>
          let key := readBlockPart stop fuel (r.drop rest)
          if key.2.stop.isSome then ([(key.1, .cut)], key.2)
          else
            let value : Node × Reading :=
              match key.2.tokens with
              | ⟨.value, _, stop⟩ :: rest => readBlockPart stop fuel (key.2.drop rest)
              | token :: _ => (emptyAt token.start, key.2)
              | [] => (.cut, key.2.exhausted)
            if value.2.stop.isSome then ([(key.1, value.1)], value.2)
            else
              let others := readBlockEntries begun fuel value.2
              ((key.1, value.1) :: others.1, others.2)
      | ⟨.blockEnd, _, _⟩ :: rest => ([], r.drop rest)
      | token :: _ =>
          ([(.cut, .cut)], r.fail .keyMissing token.start (some ⟨.blockMapping, begun⟩))
      | [] => ([(.cut, .cut)], r.exhausted)

def readBlockPart (stop : Mark) : Nat → Reading → Node × Reading
  | 0, r => (.cut, r.exhausted)
  | fuel + 1, r =>
      match r.tokens with
      | token :: _ =>
          if endsBlockPart token.kind then (emptyAt stop, r) else readNode true true fuel r
      | [] => (.cut, r.exhausted)

def readFlowItems (begun : Mark) (first : Bool) : Nat → Reading → List Node × Reading
  | 0, r => ([.cut], r.exhausted)
  | fuel + 1, r =>
      match r.tokens with
      | [] => ([.cut], r.exhausted)
      | ⟨.flowSequenceEnd, _, _⟩ :: rest => ([], r.drop rest)
      | ⟨.flowEntry, _, _⟩ :: rest =>
          if first then readFlowItem begun fuel r
          else
            match rest with
            | [] => ([.cut], (r.drop rest).exhausted)
            | ⟨.flowSequenceEnd, _, _⟩ :: rest => ([], r.drop rest)
            | _ :: _ => readFlowItem begun fuel (r.drop rest)
      | token :: _ =>
          if first then readFlowItem begun fuel r
          else ([.cut], r.fail .sequenceEndMissing token.start (some ⟨.flowSequence, begun⟩))

def readFlowItem (begun : Mark) : Nat → Reading → List Node × Reading
  | 0, r => ([.cut], r.exhausted)
  | fuel + 1, r =>
      let item : Node × Reading :=
        match r.tokens with
        | ⟨.key, start, _⟩ :: rest =>
            let pair := readPair fuel (r.drop rest)
            (.mapping ⟨start, none, none⟩ [pair.1], pair.2)
        | _ => readNode false false fuel r
      if item.2.stop.isSome then ([item.1], item.2)
      else
        let others := readFlowItems begun false fuel item.2
        (item.1 :: others.1, others.2)

def readPair : Nat → Reading → (Node × Node) × Reading
  | 0, r => ((.cut, .cut), r.exhausted)
  | fuel + 1, r =>
      let key : Node × Reading :=
        match r.tokens with
        | [] => (.cut, r.exhausted)
        | token :: rest =>
            if endsPairKey token.kind then (emptyAt token.stop, r.drop rest)
            else readNode false false fuel r
      if key.2.stop.isSome then ((key.1, .cut), key.2)
      else
        let value := readPairValue fuel key.2
        ((key.1, value.1), value.2)

def readPairValue : Nat → Reading → Node × Reading
  | 0, r => (.cut, r.exhausted)
  | fuel + 1, r =>
      match r.tokens with
      | ⟨.value, _, _⟩ :: rest =>
          match rest with
          | [] => (.cut, (r.drop rest).exhausted)
          | next :: _ =>
              if endsPairValue next.kind then (emptyAt next.start, r.drop rest)
              else readNode false false fuel (r.drop rest)
      | token :: _ => (emptyAt token.start, r)
      | [] => (.cut, r.exhausted)

def readFlowEntries (begun : Mark) (first : Bool) :
    Nat → Reading → List (Node × Node) × Reading
  | 0, r => ([(.cut, .cut)], r.exhausted)
  | fuel + 1, r =>
      match r.tokens with
      | [] => ([(.cut, .cut)], r.exhausted)
      | ⟨.flowMappingEnd, _, _⟩ :: rest => ([], r.drop rest)
      | ⟨.flowEntry, _, _⟩ :: rest =>
          if first then readFlowEntry begun fuel r
          else
            match rest with
            | [] => ([(.cut, .cut)], (r.drop rest).exhausted)
            | ⟨.flowMappingEnd, _, _⟩ :: rest => ([], r.drop rest)
            | _ :: _ => readFlowEntry begun fuel (r.drop rest)
      | token :: _ =>
          if first then readFlowEntry begun fuel r
          else
            ([(.cut, .cut)], r.fail .mappingEndMissing token.start (some ⟨.flowMapping, begun⟩))

def readFlowEntry (begun : Mark) : Nat → Reading → List (Node × Node) × Reading
  | 0, r => ([(.cut, .cut)], r.exhausted)
  | fuel + 1, r =>
      let entry : (Node × Node) × Reading :=
        match r.tokens with
        | ⟨.key, _, _⟩ :: rest => readFlowPair fuel (r.drop rest)
        | _ =>
            let key := readNode false false fuel r
            if key.2.stop.isSome then ((key.1, .cut), key.2)
            else
              match key.2.tokens with
              | token :: _ => ((key.1, emptyAt token.start), key.2)
              | [] => ((key.1, .cut), key.2.exhausted)
      if entry.2.stop.isSome then ([entry.1], entry.2)
      else
        let others := readFlowEntries begun false fuel entry.2
        (entry.1 :: others.1, others.2)

def readFlowPair : Nat → Reading → (Node × Node) × Reading
  | 0, r => ((.cut, .cut), r.exhausted)
  | fuel + 1, r =>
      let key : Node × Reading :=
        match r.tokens with
        | [] => (.cut, r.exhausted)
        | token :: _ =>
            if endsFlowKey token.kind then (emptyAt token.start, r)
            else readNode false false fuel r
      if key.2.stop.isSome then ((key.1, .cut), key.2)
      else
        let value := readFlowValue fuel key.2
        ((key.1, value.1), value.2)

def readFlowValue : Nat → Reading → Node × Reading
  | 0, r => (.cut, r.exhausted)
  | fuel + 1, r =>
      match r.tokens with
      | ⟨.value, _, _⟩ :: rest =>
          match rest with
          | [] => (.cut, (r.drop rest).exhausted)
          | next :: _ =>
              if endsFlowValue next.kind then (emptyAt next.start, r.drop rest)
              else readNode false false fuel (r.drop rest)
      | token :: _ => (emptyAt token.start, r)
      | [] => (.cut, r.exhausted)

end

def standardHandles : List (String × String) :=
  [("!", "!"), ("!!", "tag:yaml.org,2002:")]

def readDirectives (versionSeen : Bool) (handles : List (String × String)) :
    List Token → Except Fault (List (String × String) × List Token)
  | ⟨.version major minor, mark, _⟩ :: rest =>
      if versionSeen then .error ⟨.versionTwice, mark, none⟩
      else if major = 1 ∧ (minor = 1 ∨ minor = 2) then readDirectives true handles rest
      else .error ⟨.versionIncompatible, mark, none⟩
  | ⟨.tagDirective handle lead, mark, _⟩ :: rest =>
      if handles.any fun entry => entry.1 == handle then .error ⟨.tagHandleTwice, mark, none⟩
      else readDirectives versionSeen (handles ++ [(handle, lead)]) rest
  | rest => .ok (handles ++ standardHandles, rest)

def isDirective : TokenKind → Bool
  | .version _ _ => true
  | .tagDirective _ _ => true
  | _ => false

def endsDocument : TokenKind → Bool
  | .documentStart | .documentEnd | .streamEnd => true
  | kind => isDirective kind

namespace Reading

def hasMore (r : Reading) : Bool :=
  let rest := r.tokens.dropWhile fun token => token.kind == .documentEnd
  match rest with
  | [⟨.streamEnd, _, _⟩] => false
  | _ => true

def finish (root : Node) (r : Reading) : Document :=
  if r.stop.isSome then ⟨some root, r.stop, false⟩
  else if r.tokens.isEmpty then ⟨some root, r.exhausted.stop, false⟩
  else ⟨some root, none, r.hasMore⟩

def explicitDocument (fuel : Nat) (r : Reading) : Document :=
  match r.tokens with
  | [] => ⟨some .cut, r.exhausted.stop, false⟩
  | token :: _ =>
      if endsDocument token.kind then finish (emptyAt token.start) r
      else
        let root := readNode true false fuel r
        finish root.1 root.2

def document (fuel : Nat) (r : Reading) : Document :=
  match r.tokens with
  | ⟨.streamStart, _, _⟩ :: rest =>
      match rest with
      | [] => ⟨some .cut, r.exhausted.stop, false⟩
      | token :: _ =>
          if token.kind = .streamEnd then ⟨none, none, false⟩
          else if token.kind = .documentStart ∨ isDirective token.kind then
            match readDirectives false [] rest with
            | .error fault => ⟨some .cut, some (.fault fault), false⟩
            | .ok (handles, ⟨.documentStart, _, _⟩ :: rest) =>
                explicitDocument fuel { r.drop rest with handles := handles }
            | .ok (_, other :: _) =>
                ⟨some .cut, some (.fault ⟨.documentStartMissing, other.start, none⟩), false⟩
            | .ok (_, []) => ⟨some .cut, r.exhausted.stop, false⟩
          else
            let root := readNode true false fuel { r.drop rest with handles := standardHandles }
            finish root.1 root.2
  | _ => ⟨some .cut, r.exhausted.stop, false⟩

end Reading

def Document.ofText (text : String) : Document :=
  let tokens := Tokens.ofText text
  Reading.document (6 * tokens.list.length + 6) { tokens := tokens.list, last := tokens.fault }

end ApiContract.Yaml
