import ApiContract.Audit.Finding
import ApiContract.Text.Blank

/-!
Reports of audits: whether an audit passed, and its findings as a table and as JSON.
-/

set_option autoImplicit false

namespace ApiContract.Audit

open Json (optional)

inductive Mode where
  | normal
  | schema
deriving DecidableEq

def Mode.word : Mode → String
  | .normal => "normal"
  | .schema => "schema"

structure Report where
  mode : Mode
  findings : List Finding
  failures : List Emit.Failure

-- Extra things do not fail an audit of files; any finding fails an audit of schemas.
def Report.passed (r : Report) : Bool :=
  match r.mode with
  | .normal => r.failures.isEmpty && r.findings.all fun f => decide (f.severity = .extra)
  | .schema => r.findings.isEmpty

def Report.count (r : Report) (severity : Severity) : Nat :=
  (r.findings.filter fun f => decide (f.severity = severity)).length

def Finding.toJson (f : Finding) : Json :=
  .object ([("module", .text f.module)] ++ optional "file" (f.file.map Json.text) ++
    [("subject", .text f.subject), ("kind", .text f.kind.word),
     ("severity", .text f.severity.word)] ++
    optional "expected" (f.expected.map Json.text) ++ optional "actual" (f.actual.map Json.text))

def failureJson (f : Emit.Failure) : Json :=
  .object [("module", .text f.module), ("kind", .text f.kind.word), ("message", .text f.message)]

def Report.toJson (r : Report) : Json :=
  .object ([("mode", .text r.mode.word), ("findings", .array (r.findings.map Finding.toJson))] ++
    (if r.failures.isEmpty then [] else [("failures", .array (r.failures.map failureJson))]))

def Finding.row (f : Finding) : List String :=
  [f.severity.word, f.module, f.file.getD "-", f.subject, f.expected.getD "-", f.actual.getD "-"]

def columns : List String :=
  ["SEVERITY", "MODULE", "FILE", "SUBJECT", "EXPECTED", "ACTUAL"]

def widths (rows : List (List String)) : List Nat :=
  rows.foldl (fun ws row => List.zipWith (fun w cell => max w cell.length) ws row)
    (columns.map String.length)

def padTo (width : Nat) (cell : String) : String :=
  cell ++ String.ofList (List.replicate (width - cell.length) ' ')

def tableLine (ws : List Nat) (cells : List String) : String :=
  let line := Text.join "  " (List.zipWith (fun cell w => padTo w cell) cells ws)
  String.ofList (Text.trimRight line.toList) ++ "\n"

def table (findings : List Finding) : String :=
  if findings.isEmpty then "No findings.\n\n"
  else
    let rows := findings.map Finding.row
    String.join ((columns :: rows).map (tableLine (widths rows))) ++ "\n"

def rule : String :=
  String.ofList (List.replicate 63 '═')

def Report.render (r : Report) : String :=
  "AUDIT REPORT (" ++ r.mode.word ++ " mode)\n" ++ rule ++ "\n\n" ++ table r.findings ++
    (if r.failures.isEmpty then ""
     else "Failures:\n" ++ String.join (r.failures.map fun f => "  " ++ f.describe ++ "\n") ++ "\n") ++
    "Summary: " ++ toString (r.count .missing) ++ " missing, " ++
    toString (r.count .mismatched) ++ " mismatched, " ++ toString (r.count .extra) ++ " extra, " ++
    toString r.failures.length ++ " failures\n" ++
    "Status: " ++ (if r.passed then "PASSED" else "FAILED") ++ "\n"

end ApiContract.Audit
