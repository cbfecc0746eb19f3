import ApiContract.Yaml.Fault

/-!
The tokens of a text: marks of structure, some of which follow from the indentation alone, and
scalars with the properties in front of them.
-/

set_option autoImplicit false

namespace ApiContract.Yaml

inductive ScalarStyle where
  | plain
  | quoted
  | literal
  | folded
deriving DecidableEq

inductive TokenKind where
  | streamStart
  | streamEnd
  | version (major : Nat) (minor : Nat)
  | tagDirective (handle : String) (lead : String)
  | documentStart
  | documentEnd
  | blockSequenceStart
  | blockMappingStart
  | blockEnd
  | flowSequenceStart
  | flowSequenceEnd
  | flowMappingStart
  | flowMappingEnd
  | blockEntry
  | flowEntry
  | key
  | value
  | reference (name : String)
  | anchor (name : String)
  | tag (handle : String) (suffix : String)
  | scalar (text : String) (style : ScalarStyle)
deriving DecidableEq

structure Token where
  kind : TokenKind
  start : Mark
  stop : Mark
deriving DecidableEq

structure Tokens where
  list : List Token
  fault : Option Fault
deriving DecidableEq

end ApiContract.Yaml
