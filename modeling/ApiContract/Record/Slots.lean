import ApiContract.Json.Basic
import ApiContract.Record.Fault

/-!
Reading records from JSON values: the values of the known fields in the order of the record, and an
error at the first that does not fit.
-/

set_option autoImplicit false

namespace ApiContract.Record

def foundIn : Json → Found
  | .null => .nothing
  | .bool value => .bool value
  | .int value => .int value
  | .float value => .float value
  | .text value => .text value
  | .array _ => .sequence
  | .object _ => .map

def readText : Json → Except Fault String
  | .text value => .ok value
  | other => .error (.wrongType (foundIn other) "a string")

def readFlag : Json → Except Fault Bool
  | .bool value => .ok value
  | other => .error (.wrongType (foundIn other) "a boolean")

def readCount : Json → Except Fault Nat
  | .int value =>
      if value < 0 then .error (.wrongValue (.int value) "usize") else .ok value.toNat
  | other => .error (.wrongType (foundIn other) "usize")

def readOptional {α : Type} (read : Json → Except Fault α) : Json → Except Fault (Option α)
  | .null => .ok none
  | value => (read value).map some

def readEach {α : Type} (read : Json → Except Fault α) : List Json → Except Fault (List α)
  | [] => .ok []
  | value :: rest =>
      match read value with
      | .error fault => .error fault
      | .ok item => (readEach read rest).map (item :: ·)

def readList {α : Type} (read : Json → Except Fault α) : Json → Except Fault (List α)
  | .array items => readEach read items
  | other => .error (.wrongType (foundIn other) "a sequence")

def readWord {α : Type} (words : List (String × α)) : Json → Except Fault α
  | .text word =>
      match words.find? fun entry => entry.1 == word with
      | some entry => .ok entry.2
      | none => .error (.unknownWord word (words.map (·.1)))
  | .object [(word, value)] =>
      match words.find? fun entry => entry.1 == word with
      | some entry =>
          match value with
          | .null => .ok entry.2
          | other => .error (.wrongType (foundIn other) "unit")
      | none => .error (.unknownWord word (words.map (·.1)))
  | .object _ => .error (.wrongValue .map "map with a single key")
  | other => .error (.wrongType (foundIn other) "string or map")

structure Layout (slots : Type) where
  title : String
  empty : slots
  fields : List (String × Bool)
  put : slots → String → Json → Except Fault slots

def fold {slots : Type} (put : slots → String → Json → Except Fault slots) :
    slots → List (String × Json) → Except Fault slots
  | s, [] => .ok s
  | s, (name, value) :: rest =>
      match put s name value with
      | .error fault => .error fault
      | .ok s => fold put s rest

def foldRow {slots : Type} (layout : Layout slots) (length : Nat) :
    Nat → slots → List (String × Bool) → List Json → Except Fault slots
  | _, s, [], [] => .ok s
  | _, _, [], _ :: _ => .error (.wrongLength length "fewer elements in array")
  | index, s, (_, mayBeLeftOut) :: more, [] =>
      if mayBeLeftOut then foldRow layout length (index + 1) s more []
      else
        .error (.wrongLength index (layout.title ++ " with " ++ elements layout.fields.length))
  | index, s, (name, _) :: more, value :: rest =>
      match layout.put s name value with
      | .error fault => .error fault
      | .ok s => foldRow layout length (index + 1) s more rest

def readSlots {slots : Type} (layout : Layout slots) : Json → Except Fault slots
  | .object fields => fold layout.put layout.empty fields
  | .array items => foldRow layout items.length 0 layout.empty layout.fields items
  | other => .error (.wrongType (foundIn other) layout.title)

end ApiContract.Record
