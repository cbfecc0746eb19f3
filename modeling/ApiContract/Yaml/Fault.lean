import ApiContract.Yaml.Mark

/-!
What can be wrong with the text of a document, what was being read then, and where.
-/

set_option autoImplicit false

namespace ApiContract.Yaml

inductive Problem where
  | controlCharacter
  | noTokenStart
  | entryNotAllowed
  | keyNotAllowed
  | valueNotAllowed
  | colonMissing
  | directiveNameMissing
  | directiveNameUnended
  | directiveUnknown
  | lineEndMissing
  | versionTooLong
  | versionMissing
  | versionPointMissing
  | blankMissing
  | blankOrLineEndMissing
  | anchorNameMissing
  | tagUnclosed
  | tagMarkMissing
  | tagMissing
  | octetMissing
  | octetWrongFirst
  | octetWrongNext
  | indentationZero
  | tabForIndentation
  | documentMark
  | endOfStream
  | escapeUnknown
  | hexDigitMissing
  | escapeNoCharacter
  | colonUnexpected
  | tabBreaksIndentation
  | documentStartMissing
  | tagHandleUndefined
  | contentMissing
  | entryMissing
  | keyMissing
  | sequenceEndMissing
  | mappingEndMissing
  | versionTwice
  | versionIncompatible
  | tagHandleTwice
deriving DecidableEq

def Problem.message : Problem → String
  | .controlCharacter => "control characters are not allowed"
  | .noTokenStart => "found character that cannot start any token"
  | .entryNotAllowed => "block sequence entries are not allowed in this context"
  | .keyNotAllowed => "mapping keys are not allowed in this context"
  | .valueNotAllowed => "mapping values are not allowed in this context"
  | .colonMissing => "could not find expected ':'"
  | .directiveNameMissing => "could not find expected directive name"
  | .directiveNameUnended => "found unexpected non-alphabetical character"
  | .directiveUnknown => "found unknown directive name"
  | .lineEndMissing => "did not find expected comment or line break"
  | .versionTooLong => "found extremely long version number"
  | .versionMissing => "did not find expected version number"
  | .versionPointMissing => "did not find expected digit or '.' character"
  | .blankMissing => "did not find expected whitespace"
  | .blankOrLineEndMissing => "did not find expected whitespace or line break"
  | .anchorNameMissing => "did not find expected alphabetic or numeric character"
  | .tagUnclosed => "did not find the expected '>'"
  | .tagMarkMissing => "did not find expected '!'"
  | .tagMissing => "did not find expected tag URI"
  | .octetMissing => "did not find URI escaped octet"
  | .octetWrongFirst => "found an incorrect leading UTF-8 octet"
  | .octetWrongNext => "found an incorrect trailing UTF-8 octet"
  | .indentationZero => "found an indentation indicator equal to 0"
  | .tabForIndentation => "found a tab character where an indentation space is expected"
  | .documentMark => "found unexpected document indicator"
  | .endOfStream => "found unexpected end of stream"
  | .escapeUnknown => "found unknown escape character"
  | .hexDigitMissing => "did not find expected hexadecimal number"
  | .escapeNoCharacter => "found invalid Unicode character escape code"
  | .colonUnexpected => "found unexpected ':'"
  | .tabBreaksIndentation => "found a tab character that violates indentation"
  | .documentStartMissing => "did not find expected <document start>"
  | .tagHandleUndefined => "found undefined tag handle"
  | .contentMissing => "did not find expected node content"
  | .entryMissing => "did not find expected '-' indicator"
  | .keyMissing => "did not find expected key"
  | .sequenceEndMissing => "did not find expected ',' or ']'"
  | .mappingEndMissing => "did not find expected ',' or '\x7d'"
  | .versionTwice => "found duplicate %YAML directive"
  | .versionIncompatible => "found incompatible YAML document"
  | .tagHandleTwice => "found duplicate %TAG directive"

inductive Activity where
  | nextToken
  | simpleKey
  | directive
  | versionDirective
  | tagDirective
  | anchor
  | reference
  | tag
  | tagHandle
  | tagHandleEnd
  | tagAddress
  | tagPrefix
  | blockScalar
  | quotedScalar
  | escape
  | plainScalar
  | node
  | blockNode
  | flowNode
  | blockSequence
  | blockMapping
  | flowSequence
  | flowMapping
deriving DecidableEq

def Activity.message : Activity → String
  | .nextToken => "while scanning for the next token"
  | .simpleKey => "while scanning a simple key"
  | .directive => "while scanning a directive"
  | .versionDirective => "while scanning a %YAML directive"
  | .tagDirective => "while scanning a %TAG directive"
  | .anchor => "while scanning an anchor"
  | .reference => "while scanning an alias"
  | .tag => "while scanning a tag"
  | .tagHandle => "while scanning a tag directive"
  | .tagHandleEnd => "while parsing a tag directive"
  | .tagAddress => "while parsing a tag"
  | .tagPrefix => "while parsing a %TAG directive"
  | .blockScalar => "while scanning a block scalar"
  | .quotedScalar => "while scanning a quoted scalar"
  | .escape => "while parsing a quoted scalar"
  | .plainScalar => "while scanning a plain scalar"
  | .node => "while parsing a node"
  | .blockNode => "while parsing a block node"
  | .flowNode => "while parsing a flow node"
  | .blockSequence => "while parsing a block collection"
  | .blockMapping => "while parsing a block mapping"
  | .flowSequence => "while parsing a flow sequence"
  | .flowMapping => "while parsing a flow mapping"

structure Context where
  activity : Activity
  mark : Mark
deriving DecidableEq

structure Fault where
  problem : Problem
  mark : Mark
  context : Option Context := none
deriving DecidableEq

-- A character that may not occur is told by its byte, anything else by line and column.
def Fault.place (f : Fault) : String :=
  match f.problem with
  | .controlCharacter =>
      if f.mark.offset = 0 then "" else " at position " ++ toString f.mark.offset
  | _ => f.mark.suffix

def Context.message (c : Context) (problem : Mark) : String :=
  ", " ++ c.activity.message ++
    (if c.mark.line = problem.line ∧ c.mark.column = problem.column then "" else c.mark.suffix)

def Fault.message (f : Fault) : String :=
  f.problem.message ++ f.place ++
    (match f.context with
     | some context => context.message f.mark
     | none => "")

end ApiContract.Yaml
