import ApiContract.Script.Item

/-!
How far a type reaches. The items of a type are read one after the other; groups are taken whole.
-/

set_option autoImplicit false

namespace ApiContract.Script

def typeOperators : List String :=
  ["keyof", "readonly", "unique", "typeof", "infer", "asserts", "new", "abstract"]

inductive TypeState where
  -- A type must follow; where it may `lead` with a sign of union, it is a whole type.
  | operand (lead : Bool)
  | inferred
  -- A type ends with `last`, or goes on; a bound may follow a name that is inferred.
  | more (last : Item) (bound : Bool)
  | member
  | angles (depth : Nat) (arguments : Bool)

def Item.startsType (item : Item) : Bool :=
  item.isName || item.isLiteral || item.isMark "<" || item.isMark "-" || item.isGroup "(" ||
    item.isGroup "[" || item.isGroup "\x7b" || item.isGroup "\x60"

def operatesOn : List Item → Bool
  | [] => false
  | next :: _ => next.startsType && !next.isWord "extends" && !next.isMark "<"

def afterOperand (lead : Bool) (item : Item) (rest : List Item) : Option TypeState :=
  if lead && (item.isMark "|" || item.isMark "&") then some (.operand false)
  else if item.isMark "<" then some (.angles 1 false)
  else if item.isMark "-" then some (.operand false)
  else if item.isWord "infer" && operatesOn rest then some .inferred
  else if item.isOneOf typeOperators && operatesOn rest then some (.operand false)
  else if item.isWord "new" then some (.operand false)
  else if item.startsType then some (.more item false)
  else none

def afterMore (last : Item) (bound : Bool) (checks choices : Nat) (item : Item) :
    Option (TypeState × Nat × Nat) :=
  if item.isMark "|" || item.isMark "&" then some (.operand false, checks, choices)
  else if item.isMark "." then some (.member, checks, choices)
  else if item.isMark "<" && last.isName then some (.angles 1 true, checks, choices)
  else if item.isGroup "[" then some (.more item false, checks, choices)
  else if item.isGroup "(" && last.isWord "import" then some (.more item false, checks, choices)
  else if item.isMark "=>" && last.isGroup "(" then some (.operand true, checks, choices)
  else if item.isWord "extends" && bound then some (.operand false, checks, choices)
  else if item.isWord "extends" then some (.operand false, checks + 1, choices)
  else if item.isWord "is" && last.isName && !item.onNewLine then
    some (.operand true, checks, choices)
  else if item.isMark "?" && 0 < checks then some (.operand true, checks - 1, choices + 1)
  else if item.isMark ":" && 0 < choices then some (.operand true, checks, choices - 1)
  else none

-- What is left of some items after a type. Where `lines` holds, the end of a line ends the type if
-- the next line does not lead on.
def afterTypeFrom (lines : Bool) : TypeState → Nat → Nat → List Item → Option (List Item)
  | .more _ _, checks, choices, [] => if checks == 0 && choices == 0 then some [] else none
  | _, _, _, [] => none
  | .operand lead, checks, choices, item :: rest =>
      match afterOperand lead item rest with
      | some state => afterTypeFrom lines state checks choices rest
      | none => none
  | .inferred, checks, choices, item :: rest =>
      if item.isName then afterTypeFrom lines (.more item true) checks choices rest else none
  | .more last bound, checks, choices, item :: rest =>
      let done := if checks == 0 && choices == 0 then some (item :: rest) else none
      if lines && item.onNewLine && !item.leadsOn false then done
      else
        match afterMore last bound checks choices item with
        | some (state, checks, choices) => afterTypeFrom lines state checks choices rest
        | none => done
  | .member, checks, choices, item :: rest =>
      if item.isName then afterTypeFrom lines (.more item false) checks choices rest else none
  | .angles depth arguments, checks, choices, item :: rest =>
      if item.isMark "<" then afterTypeFrom lines (.angles (depth + 1) arguments) checks choices rest
      else if item.isMark ">" then
        if depth == 1 then
          if arguments then afterTypeFrom lines (.more item false) checks choices rest
          else afterTypeFrom lines (.operand false) checks choices rest
        else afterTypeFrom lines (.angles (depth - 1) arguments) checks choices rest
      else if item.isMark ";" || item.isStray then none
      else afterTypeFrom lines (.angles depth arguments) checks choices rest

def afterType? (lines : Bool) (items : List Item) : Option (List Item) :=
  afterTypeFrom lines (.operand true) 0 0 items

def afterAngles? : Nat → List Item → Option (List Item)
  | 0, items => some items
  | _ + 1, [] => none
  | depth + 1, item :: rest =>
      if item.isMark "<" then afterAngles? (depth + 2) rest
      else if item.isMark ">" then afterAngles? depth rest
      else if item.isMark ";" || item.isStray then none
      else afterAngles? (depth + 1) rest

def afterTypeParameters? : List Item → Option (List Item)
  | [] => some []
  | item :: rest => if item.isMark "<" then afterAngles? 1 rest else some (item :: rest)

def upTo (rest items : List Item) : List Item :=
  items.take (items.length - rest.length)

structure Ascription where
  colon : Item
  type : List Item

def isPredicate : List Item → Bool
  | first :: second :: _ =>
      (first.isWord "asserts" && second.isName) ||
        (first.isName && second.isWord "is" && !second.onNewLine)
  | _ => false

-- The ascription at the front of some items, if there is one, and what is left after it. Of a colon
-- without a type only the place is kept.
def readAscription (lines : Bool) : List Item → Option Ascription × List Nat × List Item
  | [] => (none, [], [])
  | colon :: items =>
      if colon.isMark ":" then
        match afterType? lines items with
        | some rest => (some ⟨colon, upTo rest items⟩, gapsOf (upTo rest items), rest)
        | none =>
            let (type, faults, rest) := readAscription lines items
            (type, colon.left :: faults, rest)
      else (none, [], colon :: items)

def opensArguments (items : List Item) : Bool :=
  match afterAngles? 1 items with
  | some (call :: _) => call.isGroup "(" || call.isGroup "\x60"
  | _ => false

def depthAfter (depth : Nat) (item : Item) (rest : List Item) : Nat :=
  if item.isMark "<" then if depth == 0 && !opensArguments rest then 0 else depth + 1
  else if item.isMark ">" then depth - 1
  else depth

-- The runs of items between commas, each with the text in front of what ends it; `behind` stands in
-- front of what ends the last. Commas between angle brackets do not count.
def runsFrom (behind : List Char) : Nat → List Item → List (List Item × List Char)
  | _, [] => [([], behind)]
  | depth, item :: rest =>
      if item.isMark "," && depth == 0 then ([], item.first.lead) :: runsFrom behind 0 rest
      else
        match runsFrom behind (depthAfter depth item rest) rest with
        | (items, gap) :: others => (item :: items, gap) :: others
        | [] => [([item], [])]

end ApiContract.Script
