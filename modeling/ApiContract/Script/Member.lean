import ApiContract.Script.Parameter

/-!
Members of interfaces and classes: how they start and where they end. A member that cannot be read is
left out, and its place is kept. Of a class, only a method with a body is complete.
-/

set_option autoImplicit false

namespace ApiContract.Script

inductive Member where
  | field (name : Item) (optional : Bool) (type : Option Ascription)
  | method (name : Item) (parameters : List Parameter) (result : Option Ascription)
      (body : Option (List Item))
  | unnamed

abbrev MemberRead := Member × List Nat × List Item

def Item.startsName (item : Item) : Bool :=
  item.isName || item.isLiteral || item.isGroup "["

def isIndex : Item → Bool
  | .group opening (name :: next :: _) _ =>
      opening.text == ['['] && name.isName && (next.isMark ":" || next.isWord "in")
  | _ => false

def afterIndex (items : List Item) : List Nat × List Item :=
  let (_, faults, rest) := readAscription true (items.dropWhile fun item =>
    item.isMark "?" || item.isMark "-" || item.isMark "+")
  (faults, rest)

def endsMember : List Item → Bool
  | [] => true
  | next :: _ => next.onNewLine && !next.leadsOn false

def Item.isSeparator (item : Item) : Bool :=
  item.isMark ";" || item.isMark ","

def afterFaulty (items : List Item) : List Item :=
  (items.dropWhile fun item => !item.isMark ";" && !item.isGroup "\x7b").drop 1

def Member.isBare : Member → Bool
  | .field _ false none => true
  | _ => false

def afterStatementFrom (last : Item) : List Item → List Item
  | [] => []
  | item :: rest =>
      if item.isMark ";" || item.isStray then item :: rest
      else if item.onNewLine && last.endsValue && !item.leadsOn true then item :: rest
      else afterStatementFrom item rest

def Item.startsStatement (item : Item) : Bool :=
  item.startsType || item.isMark "@"

def isEmptyOpen : Item → Bool
  | .group opening [] none => opening.isBracket '('
  | _ => false

-- What follows the name of a member of an interface. Parameters stand on the line of the name, and
-- a parenthesis that is opened for nothing does not count.
def readInterfaceTail? (name : Item) (items : List Item) : Option MemberRead :=
  let optional := items.head?.any (·.isMark "?")
  let rest := if optional then items.drop 1 else items
  if rest.head?.any isEmptyOpen then
    some (.field name optional none, gapsOf (rest.take 1), rest.drop 1)
  else if rest.head?.any fun next => next.startsCall && !(next.isGroup "(" && next.onNewLine) then
    (readSignature? true rest).map fun s => (.method name s.parameters s.result none, s.faults, s.rest)
  else
    let (type, faults, rest) := readAscription true rest
    some (.field name optional type, faults, rest)

def signatureModifiers : List String :=
  ["public", "private", "protected", "static", "override", "readonly", "async", "get", "set"]

def readInterfaceMember? (items : List Item) : Option MemberRead :=
  match dropModifiers signatureModifiers Item.startsName items with
  | [] => none
  | item :: rest =>
      if item.startsCall then
        (readSignature? true (item :: rest)).map fun s => (.unnamed, s.faults, s.rest)
      else if item.isWord "new" && rest.head?.any Item.startsCall then
        (readSignature? true rest).map fun s => (.unnamed, s.faults, s.rest)
      else if isIndex item then
        let (faults, rest) := afterIndex rest
        some (.unnamed, faults, rest)
      else if item.startsName then
        (readInterfaceTail? item rest).map fun (member, faults, rest) =>
          (member, item.gaps ++ faults, rest)
      else none

-- The members of an interface, the faulty places among them, and what is left where the members had
-- to end early. A name in front of another is no member.
def readInterface : Nat → List Item → List Member × List Nat × List Item
  | 0, _ => ([], [], [])
  | _ + 1, [] => ([], [], [])
  | fuel + 1, item :: items =>
      match readInterfaceMember? (item :: items) with
      | none =>
          let rest :=
            if item.startsName || item.startsCall then afterFaulty (item :: items) else items
          let (members, faults, left) := readInterface fuel rest
          (members, item.left :: faults, left)
      | some (member, faults, rest) =>
          let last := lastOr item.first (upTo rest (item :: items))
          match rest with
          | [] => ([member], faults, [])
          | next :: after =>
              if next.isSeparator || endsMember (next :: after) then
                let (members, others, left) :=
                  readInterface fuel (if next.isSeparator then after else next :: after)
                (member :: members, faults ++ others, left)
              else if member.isBare && faults.isEmpty && next.startsName then
                let (members, others, left) := readInterface fuel (next :: after)
                (members, faults ++ item.left :: others, left)
              else if next.startsType then ([member], faults ++ [last.leftAfter], next :: after)
              else
                let (members, others, left) := readInterface fuel after
                (member :: members, faults ++ next.left :: others, left)

def classModifiers : List String :=
  ["declare", "public", "private", "protected", "static", "override", "abstract", "readonly",
    "accessor", "async", "get", "set"]

def endOfMember (member : Member) (start : Item) (last : Token) : List Item → List Nat × List Item
  | [] => ([], [])
  | next :: rest =>
      if next.isSeparator then ([], rest)
      else if endsMember (next :: rest) then ([], next :: rest)
      else if member.isBare && next.startsName then ([start.left], next :: rest)
      else if next.startsStatement then ([last.leftAfter], next :: rest)
      else ([next.left], rest)

-- What follows the name of a member of a class; a sign after the name tells that a field may be
-- missing, or that it is set elsewhere.
def readClassTail? (name : Item) (items : List Item) : Option MemberRead :=
  let signed := items.head?.any fun item => item.isMark "?" || item.isMark "!"
  let rest := if signed then items.drop 1 else items
  if rest.head?.any Item.startsCall then
    match readSignature? true rest with
    | none => none
    | some s =>
        match s.rest with
        | .group opening inner closing :: after =>
            if opening.text == ['\x7b'] then
              some (.method name s.parameters s.result (some inner),
                s.faults ++ (Item.group opening inner closing).gaps, after)
            else some (.unnamed, s.faults, s.rest)
        | _ => some (.unnamed, s.faults, s.rest)
  else
    let (type, faults, rest) := readAscription true rest
    let optional := items.head?.any (·.isMark "?")
    match rest with
    | sign :: value =>
        if sign.isMark "=" then
          let after := afterStatementFrom sign value
          let consumed := upTo after value
          let missing := if consumed.isEmpty then [sign.left] else gapsOf consumed
          some (.field name optional type, faults ++ missing, after)
        else some (.field name optional type, faults, rest)
    | [] => some (.field name optional type, faults, [])

def readClassMember? (items : List Item) : Option MemberRead :=
  match dropModifiers classModifiers Item.startsName (withoutDecorators items) with
  | [] => none
  | item :: rest =>
      if item.isWord "static" && rest.head?.any (·.isGroup "\x7b") then
        some (.unnamed, gapsOf (rest.take 1), rest.drop 1)
      else if isIndex item then
        let (faults, rest) := afterIndex rest
        some (.unnamed, faults, rest)
      else if item.startsName then
        (readClassTail? item rest).map fun (member, faults, rest) =>
          (member, item.gaps ++ faults, rest)
      else none

def Member.endsWithBlock (member : Member) (consumed : List Item) : Bool :=
  match member with
  | .method _ _ _ (some _) => true
  | _ => consumed.getLast?.any (·.isGroup "\x7b")

def readClass : Nat → List Item → List Member × List Nat
  | 0, _ => ([], [])
  | _ + 1, [] => ([], [])
  | fuel + 1, item :: items =>
      if item.isMark ";" then readClass fuel items
      else
        match readClassMember? (item :: items) with
        | none =>
            let (members, faults) := readClass fuel (afterFaulty (item :: items))
            (members, item.left :: faults)
        | some (member, faults, rest) =>
            let consumed := upTo rest (item :: items)
            let (missing, rest) :=
              if member.endsWithBlock consumed then ([], rest)
              else endOfMember member item (lastOr item.first consumed) rest
            let (members, others) := readClass fuel rest
            (member :: members, faults ++ missing ++ others)

end ApiContract.Script
