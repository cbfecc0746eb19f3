import ApiContract.Record.Fault
import ApiContract.Yaml.Fault

/-!
Why a text cannot be read as a value: it is not well-formed, or its value is not of the kind that
is asked for.
-/

set_option autoImplicit false

namespace ApiContract.Yaml

inductive Step where
  | key (name : String)
  | unnamed
  | item (index : Nat)

abbrev Path := List Step

-- The text of a path. The whole document is a single point.
def pathText : Path → String
  | [] => "."
  | .item index :: outer => pathText outer ++ "[" ++ toString index ++ "]"
  | .key name :: outer => (if outer.isEmpty then "" else pathText outer ++ ".") ++ name
  | .unnamed :: outer => (if outer.isEmpty then "" else pathText outer ++ ".") ++ "?"

structure Place where
  mark : Mark
  path : Path

inductive Error where
  | illFormed (cause : Fault)
  | unknownAnchor (mark : Mark)
  | value (fault : Record.Fault) (place : Option Place)
  | tooDeep (mark : Mark)
  | tooManyAliases
  | ended
  | moreDocuments

namespace Error

def mark? : Error → Option Mark
  | .illFormed cause =>
      some (if cause.problem = .controlCharacter then {} else cause.mark)
  | .unknownAnchor mark => some mark
  | .value _ place => place.map Place.mark
  | .tooDeep mark => some mark
  | .tooManyAliases => none
  | .ended => none
  | .moreDocuments => none

def pathLead (path : Path) : String :=
  let text := pathText path
  if text = "." then "" else text ++ ": "

def message : Error → String
  | .illFormed cause => cause.message
  | .unknownAnchor mark => "unknown anchor" ++ mark.suffix
  | .value fault none => fault.message .yaml
  | .value fault (some place) => pathLead place.path ++ fault.message .yaml ++ place.mark.suffix
  | .tooDeep mark => "recursion limit exceeded" ++ mark.suffix
  | .tooManyAliases => "repetition limit exceeded"
  | .ended => "EOF while parsing a value"
  | .moreDocuments =>
      "deserializing from YAML containing more than one document is not supported"

end Error

end ApiContract.Yaml
