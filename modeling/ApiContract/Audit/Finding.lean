import ApiContract.Emit.Output

/-!
What an audit finds.
-/

set_option autoImplicit false

namespace ApiContract.Audit

inductive Severity where
  | missing
  | mismatched
  | extra
deriving DecidableEq

def Severity.word : Severity → String
  | .missing => "missing"
  | .mismatched => "mismatched"
  | .extra => "extra"

inductive Subject where
  | file
  | type
  | field
  | operation
  | schema
deriving DecidableEq

def Subject.word : Subject → String
  | .file => "file"
  | .type => "type"
  | .field => "field"
  | .operation => "operation"
  | .schema => "schema"

structure Finding where
  module : String
  file : Option String
  subject : String
  kind : Subject
  severity : Severity
  expected : Option String
  actual : Option String
deriving DecidableEq

def prefixed (lead : String) (value : Option String) (tail : String) : String :=
  match value with
  | some text => lead ++ text ++ tail
  | none => ""

def Finding.describe (f : Finding) : String :=
  "[" ++ f.severity.word ++ "] " ++ f.module ++ prefixed " " f.file "" ++ " " ++ f.subject ++
    prefixed " expected \x60" f.expected "\x60" ++ prefixed " found \x60" f.actual "\x60"

end ApiContract.Audit
