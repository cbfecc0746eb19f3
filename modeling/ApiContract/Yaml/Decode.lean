import ApiContract.Number.Power
import ApiContract.Yaml.Error
import ApiContract.Yaml.Node.Tokens
import ApiContract.Yaml.Scalar

/-!
Reading values of documents: texts, flags, lists, records with known fields, and JSON values. An
error tells the innermost value it is known for.
-/

set_option autoImplicit false

namespace ApiContract.Yaml

open Number (twoTo)

structure Source where
  root : Node
  stop : Option Stop
  limit : Nat

abbrev Decode (α : Type) := ReaderT Source (StateT Nat (Except Error)) α

abbrev Reader (α : Type) := Path → Node → Decode α

def refuse {α : Type} (error : Error) : Decode α :=
  fun _ _ => .error error

def refuseHere {α : Type} (fault : Record.Fault) : Decode α :=
  refuse (.value fault none)

def Error.at (place : Place) : Error → Error
  | .value fault none => .value fault (some place)
  | other => other

def located {α : Type} (mark : Mark) (path : Path) (decode : Decode α) : Decode α :=
  fun source followed => (decode source followed).mapError (Error.at ⟨mark, path⟩)

def lift {α : Type} : Except Record.Fault α → Decode α
  | .ok value => pure value
  | .error fault => refuseHere fault

def Source.cutError (source : Source) : Error :=
  match source.stop with
  | some (.fault fault) => .illFormed fault
  | some (.unknownAnchor mark) => .unknownAnchor mark
  | none => .ended

def refuseCut {α : Type} : Decode α :=
  fun source _ => .error source.cutError

-- What an alias stands for; other values stand for themselves.
def resolve (node : Node) : Decode Node :=
  match node with
  | .reference _ anchor => fun source followed =>
      if source.limit < followed + 1 then .error .tooManyAliases
      else .ok ((source.root.find? anchor).getD .cut, followed + 1)
  | other => pure other

def ownTag? (tag : Option String) : Option String :=
  match tag with
  | none => none
  | some name =>
      match name.toList with
      | ['!'] => some "!"
      | '!' :: rest => some (String.ofList rest)
      | _ => none

def refuseScalar {α : Type} (header : Header) (text : String) (style : ScalarStyle)
    (expected : String) : Decode α := do
  let value ← lift (Scalar.read header.tag style text)
  refuseHere (.wrongType value.found expected)

def refuseNode {α : Type} (node : Node) (expected : String) : Decode α :=
  match node with
  | .scalar header text style => refuseScalar header text style expected
  | .sequence _ _ => refuseHere (.wrongType .sequence expected)
  | .mapping _ _ => refuseHere (.wrongType .map expected)
  | .reference _ _ => refuseCut
  | .cut => refuseCut

def Node.mark : Node → Mark
  | .scalar header _ _ => header.mark
  | .sequence header _ => header.mark
  | .mapping header _ => header.mark
  | .reference mark _ => mark
  | .cut => {}

def readResolved {α : Type} (read : Node → Decode α) (path : Path) (node : Node) : Decode α := do
  let node ← resolve node
  located node.mark path (read node)

def readTextAs (expected : String) : Reader String :=
  readResolved fun node =>
    match node with
    | .scalar _ text _ => pure text
    | other => refuseNode other expected

def readText : Reader String :=
  readTextAs "a string"

def mayBe (kind : String) (header : Header) (style : ScalarStyle) : Bool :=
  match style with
  | .plain => true
  | .literal => header.tag == some (Scalar.standardTag kind)
  | _ => false

def readFlag : Reader Bool :=
  readResolved fun node =>
    match node with
    | .scalar header text style =>
        match if mayBe "bool" header style then Scalar.bool? text else none with
        | some value => pure value
        | none => refuseScalar header text style "a boolean"
    | other => refuseNode other "a boolean"

def readWord32 : Reader Nat :=
  readResolved fun node =>
    match node with
    | .scalar header text style =>
        let value := if mayBe "int" header style then Scalar.int? text.toList else none
        match value with
        | some value =>
            if value < 0 ∨ text.toList.head? = some '-' ∨ twoTo 64 ≤ value then
              refuseScalar header text style "u32"
            else if value < twoTo 32 then pure value.toNat
            else refuseHere (.wrongValue (.int value) "u32")
        | none => refuseScalar header text style "u32"
    | other => refuseNode other "u32"

def isAbsent (header : Header) (text : String) (style : ScalarStyle) :
    Except Record.Fault Bool :=
  if style ≠ .plain then .ok false
  else
    match header.tag with
    | some tag =>
        if tag = Scalar.standardTag "null" then
          if Scalar.isNothing text then .ok true
          else .error (.wrongValue (.text text) "null")
        else .ok false
    | none => .ok (text.isEmpty || Scalar.isNothing text)

def readOptional {α : Type} (read : Reader α) : Reader (Option α) := fun path node => do
  let node ← resolve node
  match node with
  | .scalar header text style =>
      if ← lift (isAbsent header text style) then pure none
      else some <$> read path node
  | .reference _ _ => refuseCut
  | .cut => refuseCut
  | _ => some <$> read path node

def readEach {α : Type} (read : Reader α) (path : Path) : Nat → List Node → Decode (List α)
  | _, [] => pure []
  | index, item :: rest => do
      let value ← read (.item index :: path) item
      let others ← readEach read path (index + 1) rest
      pure (value :: others)

-- The items of a sequence; an empty value has none.
def readList {α : Type} (read : Reader α) : Reader (List α) := fun path =>
  readResolved (fun node =>
    match node with
    | .sequence _ items => readEach read path 0 items
    | .scalar header text style =>
        if text.isEmpty && style == .plain then pure []
        else refuseScalar header text style "a sequence"
    | other => refuseNode other "a sequence") path

def readNothing : Reader Unit :=
  readResolved fun node =>
    match node with
    | .scalar _ text style =>
        if style = .plain ∧ (text.isEmpty ∨ Scalar.isNothing text) then pure ()
        else refuseHere (.wrongValue (.text text) "null")
    | other => refuseNode other "unit"

def pickWord {α : Type} (words : List (String × α)) (word : String) : Decode α :=
  match words.find? fun entry => entry.1 == word with
  | some entry => pure entry.2
  | none => refuseHere (.unknownWord word (words.map Prod.fst))

def readWord {α : Type} (words : List (String × α)) : Reader α := fun path node => do
  let node ← resolve node
  let tagged (tag : Option String) (other : Decode α) : Decode α :=
    match ownTag? tag with
    | some word => do
        let value ← pickWord words word
        readNothing path node
        pure value
    | none => located node.mark path other
  match node with
  | .scalar header text _ => tagged header.tag (pickWord words text)
  | .sequence header _ => tagged header.tag (refuseNode node "a YAML tag starting with '!'")
  | .mapping header _ => tagged header.tag (refuseNode node "a YAML tag starting with '!'")
  | .reference _ _ => refuseCut
  | .cut => refuseCut

def Node.step : Node → Step
  | .scalar _ text _ => .key text
  | _ => .unnamed

structure Layout (slots : Type) where
  title : String
  names : List String
  empty : slots
  put : slots → String → Path → Node → Decode slots

def readName {slots : Type} (layout : Layout slots) (path : Path) (key : Node) : Decode String :=
  readResolved (fun node =>
    match node with
    | .scalar _ text _ =>
        if layout.names.contains text then pure text
        else refuseHere (.unknownField text layout.names)
    | other => refuseNode other "field identifier") path key

def readFields {slots : Type} (layout : Layout slots) (path : Path) :
    List String → slots → List (Node × Node) → Decode slots
  | _, s, [] => pure s
  | seen, s, (key, value) :: rest => do
      let name ← readName layout path key
      if seen.contains name then refuseHere (.duplicateField name)
      else
        let s ← layout.put s name (key.step :: path) value
        readFields layout path (name :: seen) s rest

-- Reads a record; an empty value has no fields.
def readRecord {slots α : Type} (layout : Layout slots) (finish : slots → Except Record.Fault α) :
    Reader α := fun path =>
  readResolved (fun node =>
    match node with
    | .mapping _ entries => do
        let s ← readFields layout path [] layout.empty entries
        lift (finish s)
    | .scalar header text style =>
        if text.isEmpty && style == .plain then lift (finish layout.empty)
        else refuseScalar header text style layout.title
    | other => refuseNode other layout.title) path

def putPair {α : Type} (name : String) (value : α) : List (String × α) → List (String × α)
  | [] => [(name, value)]
  | entry :: rest =>
      if entry.1 = name then (name, value) :: rest else entry :: putPair name value rest

def readPairs {α : Type} (read : Reader α) (path : Path) :
    List (String × α) → List (Node × Node) → Decode (List (String × α))
  | pairs, [] => pure pairs
  | pairs, (key, value) :: rest => do
      let name ← readText path key
      let item ← read (key.step :: path) value
      readPairs read path (putPair name item pairs) rest

def readMap {α : Type} (read : Reader α) : Reader (List (String × α)) := fun path =>
  readResolved (fun node =>
    match node with
    | .mapping _ entries => readPairs read path [] entries
    | .scalar header text style =>
        if text.isEmpty && style == .plain then pure []
        else refuseScalar header text style "a map"
    | other => refuseNode other "a map") path

def readJsonFields (read : Reader Json) (path : Path) :
    Bool → List (String × Json) → List (Node × Node) → Decode (List (String × Json))
  | _, fields, [] => pure fields
  | first, fields, (key, value) :: rest => do
      let name ← readTextAs (if first then "a string key" else "a string") path key
      let item ← read (key.step :: path) value
      readJsonFields read path false (Json.put name item fields) rest

-- Any value, as JSON; collections may be `depth` deep.
def readJson : Nat → Reader Json
  | depth, path => readResolved (fun node =>
      let plainly (tag : Option String) (read : Decode Json) : Decode Json :=
        match ownTag? tag with
        | some _ => refuseHere (.wrongType .tagged "any valid JSON value")
        | none => read
      match node with
      | .scalar header text style =>
          plainly header.tag do
            let value ← lift (Scalar.read header.tag style text)
            lift value.toJson
      | .sequence header items =>
          plainly header.tag
            (match depth with
             | 0 => refuse (.tooDeep header.mark)
             | depth + 1 => do
                 let values ← readEach (readJson depth) path 0 items
                 pure (.array values))
      | .mapping header entries =>
          plainly header.tag
            (match depth with
             | 0 => refuse (.tooDeep header.mark)
             | depth + 1 => do
                 let fields ← readJsonFields (readJson depth) path true [] entries
                 pure (.object fields))
      | .reference _ _ => refuseCut
      | .cut => refuseCut) path

-- Reads the only document of a text; `whenEmpty` is what a text without a document stands for.
def readDocument {α : Type} (read : Reader α) (whenEmpty : α) (text : String) :
    Except Error α :=
  let document := Document.ofText text
  match document.root with
  | none => .ok whenEmpty
  | some root =>
      let source : Source := ⟨root, document.stop, 100 * root.weight.1⟩
      match read [] root source 0 with
      | .error error => .error error
      | .ok (value, _) =>
          if document.stop.isSome then .error source.cutError
          else if document.more then .error .moreDocuments
          else .ok value

def depthLimit : Nat := 128

-- The JSON value of a text; a text without a document stands for null.
def jsonOfText (text : String) : Except Error Json :=
  readDocument (readJson depthLimit) .null text

end ApiContract.Yaml
