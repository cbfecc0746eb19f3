import ApiContract.Script.Type

/-!
The parameters and the results of functions, and the decorators and words in front of names.
-/

set_option autoImplicit false

namespace ApiContract.Script

structure Parameter where
  pattern : List Item
  optional : Bool
  type : Option Ascription

def afterPoints : List Item → List Item
  | point :: name :: rest =>
      if point.isMark "." && name.isName then afterPoints rest else point :: name :: rest
  | items => items

def afterDecoratorCall (items : List Item) : List Item :=
  match afterTypeParameters? items with
  | some (call :: after) => if call.isGroup "(" then after else items
  | _ => items

def dropDecorators : Nat → List Item → List Item
  | 0, items => items
  | fuel + 1, items =>
      match items with
      | sign :: name :: rest =>
          if sign.isMark "@" && name.isName then
            dropDecorators fuel (afterDecoratorCall (afterPoints rest))
          else if sign.isMark "@" && name.isGroup "(" then dropDecorators fuel rest
          else items
      | _ => items

-- Drops decorators; there are fewer than items.
def withoutDecorators (items : List Item) : List Item :=
  dropDecorators items.length items

def dropModifiers (words : List String) (starts : Item → Bool) : List Item → List Item
  | item :: next :: rest =>
      if item.isOneOf words && !next.onNewLine && (starts next || next.isMark "*") ||
          item.isMark "*" && starts next then
        dropModifiers words starts (next :: rest)
      else item :: next :: rest
  | items => items

def parameterModifiers : List String :=
  ["public", "private", "protected", "override", "readonly"]

def dropValue (items : List Item) : List Item :=
  match runsFrom [] 0 items with
  | (value, _) :: _ => items.drop value.length
  | [] => []

def readPattern? : List Item → Option (List Item × List Item)
  | item :: rest =>
      if item.isMark "..." then
        match rest with
        | name :: after =>
            if name.isName || name.isGroup "\x7b" || name.isGroup "[" then some ([item, name], after)
            else none
        | [] => none
      else if item.isName || item.isGroup "\x7b" || item.isGroup "[" then some ([item], rest)
      else none
  | [] => none

def readParameter? (items : List Item) : Option (Parameter × List Item) :=
  let start (item : Item) : Bool := item.isName || item.isGroup "\x7b" || item.isGroup "["
  match readPattern? (dropModifiers parameterModifiers start (withoutDecorators items)) with
  | none => none
  | some (pattern, rest) =>
      let optional := rest.head?.any (·.isMark "?")
      match readAscription false (if optional then rest.drop 1 else rest) with
      | (type, [], rest) =>
          match rest with
          | [] => some (⟨pattern, optional, type⟩, [])
          | next :: _ =>
              if next.isMark "=" then some (⟨pattern, optional, type⟩, dropValue rest)
              else if next.isMark "," then some (⟨pattern, optional, type⟩, rest)
              else none
      | _ => none

-- The parameters between two parentheses; a comma may follow the last.
def readParameters : Nat → List Item → Option (List Parameter)
  | 0, _ => none
  | _ + 1, [] => some []
  | fuel + 1, items =>
      match readParameter? items with
      | none => none
      | some (parameter, rest) =>
          (readParameters fuel (rest.drop 1)).map (parameter :: ·)

structure Signature where
  parameters : List Parameter
  result : Option Ascription
  faults : List Nat
  rest : List Item

def readSignature? (lines : Bool) (items : List Item) : Option Signature :=
  match afterTypeParameters? items with
  | some (.group opening inner (some closing) :: rest) =>
      if opening.text == ['('] then
        match readParameters (inner.length + 1) inner with
        | some parameters =>
            let (result, faults, rest) := readAscription lines rest
            some ⟨parameters, result, gapsOf [.group opening inner (some closing)] ++ faults, rest⟩
        | none => none
      else none
  | _ => none

def Item.startsCall (item : Item) : Bool :=
  item.isGroup "(" || item.isMark "<"

end ApiContract.Script
