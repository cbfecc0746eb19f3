import ApiContract.Proofs.Code.LiteralTexts
import ApiContract.Proofs.Code.Nesting

/-!
What is read of statements that are composed, put into blocks and moved in, next to what is read of
each piece of them by itself. Outside of literals only blanks change. The literals are the same
exactly when no literal of a statement that is moved in goes over a line end: each of its further
lines is moved in with the statement, and the blanks become part of the literal.
-/

set_option autoImplicit false

namespace ApiContract.Literals

open Code
open Grammar (Uncut ahead endsLine)
open Spot

-- A piece of a statement as it is written by itself, with the levels that it is moved in by and the
-- texts of its templates.
structure Part where
  depth : Nat
  text : String
  templates : List String

def deeper (level : Nat) (parts : List Part) : List Part :=
  parts.map fun part => { part with depth := part.depth + level }

def inBraces (parts : List Part) : List Part :=
  ⟨0, "\x7b", []⟩ :: (deeper 1 parts ++ [⟨0, "\x7d", []⟩])

def valueTemplates : Option Expr → List String
  | some value => templates value
  | none => []

def headPart (test : Expr) : Part :=
  ⟨0, "if (" ++ test.render ++ ") ", templates test⟩

def loopPart (binding : Binding) (name : String) (iterable : Expr) : Part :=
  ⟨0, "for (" ++ binding.word ++ " " ++ name ++ " of " ++ iterable.render ++ ") ", templates iterable⟩

-- A statement without a block, with the end of its line.
def linePart (s : Stmt) (texts : List String) : Part :=
  ⟨0, s.render ++ "\n", texts⟩

mutual

-- The statement in the order of its text. What stands in a block is one level in.
def statementParts : Stmt → List Part
  | .expression value => [linePart (.expression value) (templates value)]
  | .throw value => [linePart (.throw value) (templates value)]
  | .return_ value => [linePart (.return_ value) (valueTemplates value)]
  | .declare binding name type init =>
      [linePart (.declare binding name type init) (valueTemplates init)]
  | .branch test whenTrue none => headPart test :: inBraces (bodyParts whenTrue)
  | .branch test whenTrue (some body) =>
      headPart test :: (inBraces (bodyParts whenTrue) ++ ⟨0, " else ", []⟩ :: elseParts body)
  | .forOf binding name iterable body =>
      loopPart binding name iterable :: inBraces (bodyParts body)
  | .comment text => [linePart (.comment text) []]

def bodyParts : List Stmt → List Part
  | [] => []
  | s :: rest => statementParts s ++ bodyParts rest

def elseParts : List Stmt → List Part
  | [] => inBraces []
  | [s] => if s.isBranch then statementParts s else inBraces (statementParts s)
  | s :: next :: rest => inBraces (statementParts s ++ bodyParts (next :: rest))

end

def own (parts : List Part) : List Piece :=
  parts.flatMap fun part => pieces part.text

-- A literal that goes over a line end stands in a part that is moved in.
def Moved (parts : List Part) : Prop :=
  ∃ part ∈ parts, 0 < part.depth ∧ .text '\n' ∈ pieces part.text

def ReadableParts (parts : List Part) : Prop :=
  ∀ part ∈ parts, Readable part.text

@[simp] theorem own_append (first second : List Part) :
    own (first ++ second) = own first ++ own second :=
  List.flatMap_append

@[simp] theorem moved_append (first second : List Part) :
    Moved (first ++ second) ↔ Moved first ∨ Moved second := by
  simp [Moved, or_and_right, exists_or]

@[simp] theorem readable_append (first second : List Part) :
    ReadableParts (first ++ second) ↔ ReadableParts first ∧ ReadableParts second := by
  simp [ReadableParts, or_imp, forall_and]

@[simp] theorem readable_cons (part : Part) (rest : List Part) :
    ReadableParts (part :: rest) ↔ Readable part.text ∧ ReadableParts rest := by
  simp [ReadableParts]

theorem own_deeper (level : Nat) (parts : List Part) : own (deeper level parts) = own parts := by
  rw [own, deeper, List.flatMap_map]
  rfl

theorem readable_deeper (level : Nat) (parts : List Part) :
    ReadableParts (deeper level parts) ↔ ReadableParts parts := by
  simp [ReadableParts, deeper]

theorem own_feed (parts : List Part) :
    .text '\n' ∈ own parts ↔ ∃ part ∈ parts, .text '\n' ∈ pieces part.text :=
  List.mem_flatMap

theorem moved_deeper (level : Nat) (parts : List Part) :
    Moved (deeper (level + 1) parts) ↔ .text '\n' ∈ own parts := by
  have deep (depth : Nat) : 0 < depth + (level + 1) := Nat.succ_pos _
  simp [Moved, deeper, own_feed, deep]

theorem moved_own (parts : List Part) (moved : Moved parts) : .text '\n' ∈ own parts := by
  obtain ⟨part, member, -, feed⟩ := moved
  exact (own_feed parts).mpr ⟨part, member, feed⟩

-- What is read of a text is what is read of its parts, unless a part with a line end in a literal
-- was moved in.
def Carries (text : String) (parts : List Part) : Prop :=
  Moves (own parts) (start.run text.toList) (Moved parts)

theorem carries_nothing : Carries "" [] :=
  still_moves ([], start) rfl _ (by simp [Moved])

theorem carries_part (text : String) (texts : List String) (readable : Readable text) :
    Carries text [⟨0, text, texts⟩] := by
  have rests : (start.run text.toList).2.Rests := by
    rw [readable]
    rfl
  have same := still_moves (start.run text.toList) rests (Moved [⟨0, text, texts⟩]) (by simp [Moved])
  simpa [Carries, own, pieces] using same

theorem run_to_rest (text : String) (rest : List Char) (rests : (start.run text.toList).2.Rests) :
    start.run (text.toList ++ '\n' :: rest) =
      (pieces text ++ (start.run rest).1, (start.run rest).2) := by
  rw [run_append, run_cons, step_feed, rests_feed _ rests]
  rfl

theorem run_below (first second : String) (rests : (start.run first.toList).2.Rests) :
    start.run (first ++ "\n" ++ second).toList =
      (pieces first ++ pieces second, (start.run second.toList).2) := by
  have text : (first ++ "\n" ++ second).toList = first.toList ++ '\n' :: second.toList := by simp
  rw [text, run_to_rest first second.toList rests]
  rfl

-- The line end behind a statement is read as nothing.
theorem carries_line (s : Stmt) (texts : List String) (readable : Readable (s.render ++ "\n")) :
    Carries s.render [linePart s texts] := by
  have rests : (start.run s.render.toList).2.Rests := by
    have ends := readable
    rwa [Readable, String.toList_append, run_append] at ends
  have same := still_moves (start.run s.render.toList) rests (Moved [linePart s texts])
    (by simp [Moved, linePart])
  have line : own [linePart s texts] = pieces s.render := by
    have read := congrArg Prod.fst (run_to_rest s.render [] rests)
    simpa [own, linePart, pieces, run] using read
  rw [Carries, line]
  exact same

theorem carries_only (s : Stmt) (texts : List String) (one : statementParts s = [linePart s texts])
    (readable : ReadableParts (statementParts s)) : Carries s.render (statementParts s) := by
  rw [one] at readable ⊢
  exact carries_line s texts (readable _ (List.mem_singleton_self _))

theorem Carries.append {first second : String} {parts more : List Part}
    (left : Carries first parts) (ends : Readable first) (right : Carries second more) :
    Carries (first ++ second) (parts ++ more) := by
  have text : start.run (first ++ second).toList =
      ((start.run first.toList).1 ++ (start.run second.toList).1, (start.run second.toList).2) := by
    rw [String.toList_append, run_append, ends]
  rw [Carries, text, own_append]
  exact {
    rests := right.rests
    thinned := by simp [left.thinned, right.thinned]
    fewer := by simpa using Nat.add_le_add left.fewer right.fewer
    kept := fun still => by
      obtain ⟨first, later⟩ := not_or.mp (mt (moved_append parts more).mpr still)
      simp [left.kept first, right.kept later]
    grown := fun moved => by
      simp only [spaces_append]
      rcases (moved_append parts more).mp moved with here | later
      · exact Nat.add_lt_add_of_lt_of_le (left.grown here) right.fewer
      · exact Nat.add_lt_add_of_le_of_lt left.fewer (right.grown later) }

theorem carries_indent (level : Nat) {text : String} {parts : List Part}
    (carries : Carries text parts) : Carries (indent level text) (deeper level parts) := by
  cases level with
  | zero =>
      have same : deeper 0 parts = parts := List.map_id parts
      rw [indent_zero, same]
      exact carries
  | succ level =>
      have moves := indent_moves_on level carries (moved_own parts)
      rw [Carries, own_deeper]
      exact moves_congr moves (moved_deeper level parts).symm

-- Line ends, behind any text that is read to its end.
def Feeds (sep : String) : Prop :=
  sep = "\n" ∨ sep = "\n\n"

theorem carries_apart (sep : String) {first second : String} {parts more : List Part}
    (feeds : Feeds sep) (left : Carries first parts) (right : Carries second more) :
    Carries (first ++ sep ++ second) (parts ++ more) := by
  have ended : Carries (first ++ sep) parts ∧ Readable (first ++ sep) := by
    have read : start.run (first ++ sep).toList = (pieces first, start) := by
      rw [String.toList_append]
      rcases feeds with rfl | rfl
      · simpa [run] using run_to_rest first [] left.rests
      · simpa [run, step_feed, feed, start] using run_to_rest first ['\n'] left.rests
    refine ⟨?_, congrArg Prod.snd read⟩
    rw [Carries, read]
    exact ⟨rfl, left.thinned, left.fewer, left.kept, left.grown⟩
  exact Carries.append ended.1 ended.2 right

theorem carries_join {α : Type} (sep : String) (feeds : Feeds sep) (items : List α)
    (text : α → String) (parts : α → List Part)
    (each : ∀ item ∈ items, Carries (text item) (parts item)) :
    Carries (Text.join sep (items.map text)) (items.flatMap parts) := by
  induction items with
  | nil => exact carries_nothing
  | cons item rest ih =>
      obtain ⟨own, later⟩ := List.forall_mem_cons.mp each
      by_cases none_ : rest = []
      · subst none_
        simpa [Text.join] using own
      · rw [List.map_cons, Text.join_cons _ _ _ (by simpa using none_), List.flatMap_cons]
        exact carries_apart sep feeds own (ih later)

theorem deeper_flat {α : Type} (level : Nat) (items : List α) (parts : α → List Part) :
    deeper level (items.flatMap parts) = items.flatMap fun item => deeper level (parts item) :=
  List.map_flatMap

theorem carries_stack {α : Type} (sep : String) (feeds : Feeds sep) (level : Nat) (items : List α)
    (text : α → String) (parts : α → List Part)
    (each : ∀ item ∈ items, Carries (text item) (parts item)) :
    Carries (Text.join sep ((items.map text).map (indent level)))
      (deeper level (items.flatMap parts)) := by
  rw [List.map_map, deeper_flat]
  exact carries_join sep feeds items _ _ fun item member =>
    carries_indent level (each item member)

theorem readable_brace : Readable "\x7b" ∧ Readable "\x7d" :=
  ⟨rfl, rfl⟩

-- A block takes up the levels of what is in it, and ends as code.
theorem carries_braces {α : Type} (items : List α) (text : α → String) (parts : α → List Part)
    (each : ∀ item ∈ items, Carries (text item) (parts item)) :
    Carries (braced (stack 1 (items.map text)) items.isEmpty) (inBraces (items.flatMap parts)) ∧
      Readable (braced (stack 1 (items.map text)) items.isEmpty) := by
  have opened := carries_part "\x7b" [] readable_brace.1
  have closed := carries_part "\x7d" [] readable_brace.2
  cases items with
  | nil =>
      have none_ : Readable "\x7b\x7d" := rfl
      exact ⟨Carries.append opened readable_brace.1 closed, none_⟩
  | cons item rest =>
      have inner := carries_stack "\n" (.inl rfl) 1 (item :: rest) text parts each
      have lines := carries_apart "\n" (.inl rfl) opened inner
      have whole := carries_apart "\n" (.inl rfl) lines closed
      have block : braced (stack 1 ((item :: rest).map text)) (item :: rest).isEmpty =
          "\x7b" ++ "\n" ++ stack 1 ((item :: rest).map text) ++ "\n" ++ "\x7d" := by
        simp [braced, ← String.toList_inj]
      rw [block]
      constructor
      · simpa [inBraces, stack] using whole
      · have last := run_to_rest _ ['\x7d'] lines.rests
        rw [Readable, String.toList_append, String.toList_append, List.append_assoc]
        exact congrArg Prod.snd last

theorem block_braced (body : List Stmt) :
    Stmt.block body = braced (stack 1 (body.map Stmt.render)) body.isEmpty := by
  by_cases none_ : body = []
  · subst none_
    rw [Stmt.block]
    rfl
  · have some_ : body.isEmpty = false := by simpa using none_
    rw [Stmt.block_text body none_, braced, some_]
    rfl

theorem body_parts_flat (body : List Stmt) : bodyParts body = body.flatMap statementParts := by
  induction body with
  | nil => rfl
  | cons s rest ih => rw [bodyParts, ih, List.flatMap_cons]

theorem readable_braces {parts : List Part} (readable : ReadableParts (inBraces parts)) :
    ReadableParts parts := by
  simp only [inBraces, readable_cons, readable_append, readable_deeper] at readable
  exact readable.2.1

theorem carries_block (body : List Stmt) (each : ∀ s ∈ body, Carries s.render (statementParts s)) :
    Carries (Stmt.block body) (inBraces (bodyParts body)) ∧ Readable (Stmt.block body) := by
  rw [block_braced, body_parts_flat]
  exact carries_braces body Stmt.render statementParts each

mutual

theorem statement_carries : ∀ s : Stmt, ReadableParts (statementParts s) →
    Carries s.render (statementParts s)
  | .expression _, readable => carries_only _ _ (by rw [statementParts]) readable
  | .throw _, readable => carries_only _ _ (by rw [statementParts]) readable
  | .return_ _, readable => carries_only _ _ (by rw [statementParts]) readable
  | .declare _ _ _ _, readable => carries_only _ _ (by rw [statementParts]) readable
  | .comment _, readable => carries_only _ _ (by rw [statementParts]) readable
  | .branch test whenTrue none, readable => by
      obtain ⟨head, inner⟩ := (readable_cons _ _).mp readable
      have block := carries_block whenTrue (body_carries whenTrue (readable_braces inner))
      have whole := Carries.append (carries_part _ (templates test) head) head block.1
      simpa [Stmt.render, statementParts, headPart] using whole
  | .branch test whenTrue (some body), readable => by
      obtain ⟨head, inner⟩ := (readable_cons _ _).mp readable
      obtain ⟨first, later⟩ := (readable_append _ _).mp inner
      obtain ⟨word, other⟩ := (readable_cons _ _).mp later
      have block := carries_block whenTrue (body_carries whenTrue (readable_braces first))
      have last := Carries.append (carries_part _ [] word) word (else_carries body other)
      have whole := Carries.append (carries_part _ (templates test) head) head
        (Carries.append block.1 block.2 last)
      simpa [Stmt.render, statementParts, headPart, String.append_assoc] using whole
  | .forOf binding name iterable body, readable => by
      obtain ⟨head, inner⟩ := (readable_cons _ _).mp readable
      have block := carries_block body (body_carries body (readable_braces inner))
      have whole := Carries.append (carries_part _ (templates iterable) head) head block.1
      simpa [Stmt.render, statementParts, loopPart] using whole

theorem body_carries : ∀ body : List Stmt, ReadableParts (bodyParts body) →
    ∀ s ∈ body, Carries s.render (statementParts s)
  | [], _ => nofun
  | s :: rest, readable => by
      obtain ⟨own, later⟩ := (readable_append _ _).mp readable
      exact List.forall_mem_cons.mpr ⟨statement_carries s own, body_carries rest later⟩

theorem else_carries : ∀ body : List Stmt, ReadableParts (elseParts body) →
    Carries (Stmt.otherwise body) (elseParts body)
  | [], _ => (carries_block [] nofun).1
  | [s], readable => by
      cases chain : s.isBranch with
      | true =>
          rw [elseParts, if_pos chain] at readable ⊢
          rw [Stmt.otherwise_chain s chain]
          exact statement_carries s readable
      | false =>
          rw [elseParts, if_neg (by simp [chain])] at readable ⊢
          rw [Stmt.otherwise_block [s] chain]
          have own := statement_carries s (readable_braces readable)
          have block := carries_block [s] (by simpa using own)
          simpa [bodyParts] using block.1
  | s :: next :: rest, readable => by
      rw [elseParts] at readable ⊢
      obtain ⟨own, later⟩ := (readable_append _ _).mp (readable_braces readable)
      rw [Stmt.otherwise_block _ rfl]
      refine (carries_block (s :: next :: rest) ?_).1
      exact List.forall_mem_cons.mpr ⟨statement_carries s own, body_carries (next :: rest) later⟩

end

mutual

-- Clear expressions, types and names; a line of a comment ends where the next one is marked.
def ClearStmt : Stmt → Prop
  | .expression value => ClearExpr value
  | .throw value => ClearExpr value
  | .return_ value => ∀ e ∈ value, ClearExpr e
  | .declare _ name type init => ClearName name ∧ ClearSuffix type ∧ ∀ e ∈ init, ClearExpr e
  | .branch test whenTrue none => ClearExpr test ∧ ClearBody whenTrue
  | .branch test whenTrue (some body) => ClearExpr test ∧ ClearBody whenTrue ∧ ClearBody body
  | .forOf _ name iterable body => ClearName name ∧ ClearExpr iterable ∧ ClearBody body
  | .comment text => ∀ line ∈ Text.lines text.toList, ∀ c ∈ line, endsLine c = false

def ClearBody : List Stmt → Prop
  | [] => True
  | s :: rest => ClearStmt s ∧ ClearBody rest

end

-- A part that is read to its end, with line ends in its literals when its templates have them.
def Told (part : Part) : Prop :=
  Readable part.text ∧ (.text '\n' ∈ pieces part.text ↔ Fed part.templates)

theorem reads_told {text : String} {texts : List String} (reads : Reads text texts) :
    Told ⟨0, text, texts⟩ :=
  ⟨reads.spot [], reads.feeds []⟩

theorem told_deeper (level : Nat) {parts : List Part} (told : ∀ part ∈ parts, Told part) :
    ∀ part ∈ deeper level parts, Told part := by
  rw [deeper, List.forall_mem_map]
  exact told

theorem told_braces {parts : List Part} (told : ∀ part ∈ parts, Told part) :
    ∀ part ∈ inBraces parts, Told part := by
  have brace : Told ⟨0, "\x7b", []⟩ ∧ Told ⟨0, "\x7d", []⟩ := by
    constructor <;> exact ⟨rfl, iff_of_false (by decide) fed_nil⟩
  rw [inBraces, List.forall_mem_cons, List.forall_mem_append]
  refine ⟨brace.1, told_deeper 1 told, ?_⟩
  simpa using brace.2

theorem line_told {s : Stmt} {texts : List String} (reads : Reads s.render texts) :
    Told (linePart s texts) := by
  have whole := Reads.append reads (reads_clear "\n" rfl)
  rw [List.append_nil] at whole
  exact reads_told whole

theorem line_run (line : List Char) (open_ : ∀ c ∈ line, endsLine c = false) :
    (run ⟨.line, []⟩ line).2 = ⟨.line, []⟩ ∧ .text '\n' ∉ (run ⟨.line, []⟩ line).1 := by
  induction line with
  | nil => exact ⟨rfl, List.not_mem_nil⟩
  | cons c rest ih =>
      obtain ⟨own, later⟩ := List.forall_mem_cons.mp open_
      obtain ⟨spot, free⟩ := ih later
      have still : step ⟨.line, []⟩ c = (outside c, ⟨.line, []⟩) := by simp [step, own]
      rw [run_cons, still]
      exact ⟨spot, by simp [outside_free, free]⟩

theorem comment_line_run (line : List Char) (open_ : ∀ c ∈ line, endsLine c = false) :
    (start.run (commentLine line).toList).2 = ⟨.line, []⟩ ∧
      .text '\n' ∉ pieces (commentLine line) := by
  rw [commentLine]
  split
  · exact ⟨rfl, by decide⟩
  · obtain ⟨spot, free⟩ := line_run line open_
    have mark : start.run "// ".toList = ([.code '/', .code '/'], ⟨.line, []⟩) := rfl
    rw [pieces, String.toList_append, run_append, mark, String.toList_ofList]
    exact ⟨spot, by simpa using free⟩

theorem comment_run (lines : List (List Char)) (some_ : lines ≠ [])
    (open_ : ∀ line ∈ lines, ∀ c ∈ line, endsLine c = false) :
    (start.run (Text.join "\n" (lines.map commentLine)).toList).2 = ⟨.line, []⟩ ∧
      .text '\n' ∉ pieces (Text.join "\n" (lines.map commentLine)) := by
  induction lines with
  | nil => exact absurd rfl some_
  | cons line rest ih =>
      obtain ⟨own, later⟩ := List.forall_mem_cons.mp open_
      obtain ⟨spot, free⟩ := comment_line_run line own
      by_cases none_ : rest = []
      · subst none_
        exact ⟨spot, free⟩
      · obtain ⟨lastSpot, lastFree⟩ := ih none_ later
        have rests : (start.run (commentLine line).toList).2.Rests := by
          rw [spot]
          rfl
        rw [List.map_cons, Text.join_cons _ _ _ (by simpa using none_), pieces, run_below _ _ rests]
        refine ⟨lastSpot, ?_⟩
        simpa only [List.mem_append, not_or] using ⟨free, lastFree⟩

theorem comment_told (text : String)
    (open_ : ∀ line ∈ Text.lines text.toList, ∀ c ∈ line, endsLine c = false) :
    Told (linePart (.comment text) []) := by
  have inner : (start.run (commentLines text).toList).2 = ⟨.line, []⟩ ∧
      .text '\n' ∉ pieces (commentLines text) := by
    rw [comment_lines_text]
    split
    · exact ⟨rfl, by decide⟩
    · rename_i some_
      refine comment_run _ ?_ open_
      rw [ne_eq, Text.lines_empty_iff]
      simpa using some_
  obtain ⟨spot, free⟩ := inner
  have rests : (start.run (commentLines text).toList).2.Rests := by
    rw [spot]
    rfl
  have read := run_to_rest (commentLines text) [] rests
  have whole : (linePart (.comment text) []).text.toList = (commentLines text).toList ++ ['\n'] := by
    simp [linePart, Stmt.render]
  rw [Told, Readable, pieces, whole, read]
  exact ⟨rfl, iff_of_false (by simpa [run] using free) fed_nil⟩

theorem value_reads (value : Option Expr) (clear : ∀ e ∈ value, ClearExpr e) :
    Reads (initSuffix value) (valueTemplates value) := by
  cases value with
  | none => exact reads_nothing
  | some e => exact Reads.append (reads_clear " = " rfl) (expr_reads e (clear e rfl))

theorem binding_clear (binding : Binding) : ClearName binding.word := by
  cases binding <;> rfl

theorem return_reads (value : Option Expr) (clear : ∀ e ∈ value, ClearExpr e) :
    Reads (Stmt.return_ value).render (valueTemplates value) := by
  cases value with
  | none =>
      rw [Stmt.render]
      exact reads_clear "return;" rfl
  | some e =>
      have whole := Reads.append (Reads.append (reads_clear "return " rfl)
        (expr_reads e (clear e rfl))) (reads_clear ";" rfl)
      simpa [Stmt.render, valueTemplates] using whole

theorem declare_reads (binding : Binding) (name : String) (type : Option TypeExpr)
    (init : Option Expr) (named : ClearName name) (typed : ClearSuffix type)
    (valued : ∀ e ∈ init, ClearExpr e) :
    Reads (Stmt.declare binding name type init).render (valueTemplates init) := by
  have word := Reads.append (reads_clear _ (binding_clear binding)) (reads_clear " " rfl)
  have typedName := Reads.append (Reads.append word (reads_clear name named))
    (type_suffix_reads type typed)
  have whole := Reads.append (Reads.append typedName (value_reads init valued))
    (reads_clear ";" rfl)
  simpa [Stmt.render] using whole

theorem head_told (test : Expr) (clear : ClearExpr test) : Told (headPart test) := by
  have whole := Reads.append (Reads.append (reads_clear "if (" rfl)
    (expr_reads test clear)) (reads_clear ") " rfl)
  exact reads_told (by simpa using whole)

theorem loop_told (binding : Binding) (name : String) (iterable : Expr) (named : ClearName name)
    (clear : ClearExpr iterable) : Told (loopPart binding name iterable) := by
  have word := Reads.append (Reads.append (reads_clear "for (" rfl)
    (reads_clear _ (binding_clear binding))) (reads_clear " " rfl)
  have walked := Reads.append (Reads.append (Reads.append word
    (reads_clear name named)) (reads_clear " of " rfl)) (expr_reads iterable clear)
  have whole := Reads.append walked (reads_clear ") " rfl)
  exact reads_told (by simpa using whole)

mutual

theorem statement_told : ∀ s : Stmt, ClearStmt s → ∀ part ∈ statementParts s, Told part
  | .expression value, clear => by
      have whole := Reads.append (expr_reads value clear) (reads_clear ";" rfl)
      rw [statementParts, List.forall_mem_singleton]
      exact line_told (by simpa [Stmt.render] using whole)
  | .throw value, clear => by
      have whole := Reads.append (Reads.append (reads_clear "throw " rfl)
        (expr_reads value clear)) (reads_clear ";" rfl)
      rw [statementParts, List.forall_mem_singleton]
      exact line_told (by simpa [Stmt.render] using whole)
  | .return_ value, clear => by
      rw [statementParts, List.forall_mem_singleton]
      exact line_told (return_reads value clear)
  | .declare binding name type init, ⟨named, typed, valued⟩ => by
      rw [statementParts, List.forall_mem_singleton]
      exact line_told (declare_reads binding name type init named typed valued)
  | .comment text, open_ => by
      rw [statementParts, List.forall_mem_singleton]
      exact comment_told text open_
  | .branch test whenTrue none, ⟨tested, inner⟩ => by
      rw [statementParts, List.forall_mem_cons]
      exact ⟨head_told test tested, told_braces (body_told whenTrue inner)⟩
  | .branch test whenTrue (some body), ⟨tested, inner, other⟩ => by
      have word : Told ⟨0, " else ", []⟩ := reads_told (reads_clear " else " rfl)
      rw [statementParts, List.forall_mem_cons, List.forall_mem_append, List.forall_mem_cons]
      exact ⟨head_told test tested, told_braces (body_told whenTrue inner), word,
        else_told body other⟩
  | .forOf binding name iterable body, ⟨named, walked, inner⟩ => by
      rw [statementParts, List.forall_mem_cons]
      exact ⟨loop_told binding name iterable named walked, told_braces (body_told body inner)⟩

theorem body_told : ∀ body : List Stmt, ClearBody body → ∀ part ∈ bodyParts body, Told part
  | [], _ => nofun
  | s :: rest, ⟨own, later⟩ =>
      List.forall_mem_append.mpr ⟨statement_told s own, body_told rest later⟩

theorem else_told : ∀ body : List Stmt, ClearBody body → ∀ part ∈ elseParts body, Told part
  | [], _ => told_braces (List.forall_mem_nil Told)
  | [s], ⟨own, _⟩ => by
      rw [elseParts]
      split
      · exact statement_told s own
      · exact told_braces (statement_told s own)
  | s :: next :: rest, ⟨own, later⟩ => by
      rw [elseParts]
      exact told_braces (List.forall_mem_append.mpr
        ⟨statement_told s own, body_told (next :: rest) later⟩)

end

-- Statements put together in any way that the composer has.
inductive Layout where
  | statement (s : Stmt)
  | compose (level : Nat) (items : List Layout)
  | composeApart (level : Nat) (items : List Layout)
  | block (items : List Layout)
  | indented (level : Nat) (inner : Layout)

namespace Layout

mutual

def render : Layout → String
  | .statement s => s.render
  | .compose level items => stack level (renderAll items)
  | .composeApart level items => stackApart level (renderAll items)
  | .block items => braced (stack 1 (renderAll items)) items.isEmpty
  | .indented level inner => indent level (render inner)

def renderAll : List Layout → List String
  | [] => []
  | item :: rest => render item :: renderAll rest

end

mutual

def parts : Layout → List Part
  | .statement s => statementParts s
  | .compose level items => deeper level (partsAll items)
  | .composeApart level items => deeper level (partsAll items)
  | .block items => inBraces (partsAll items)
  | .indented level inner => deeper level (parts inner)

def partsAll : List Layout → List Part
  | [] => []
  | item :: rest => parts item ++ partsAll rest

end

mutual

def statements : Layout → List Stmt
  | .statement s => [s]
  | .compose _ items => statementsAll items
  | .composeApart _ items => statementsAll items
  | .block items => statementsAll items
  | .indented _ inner => statements inner

def statementsAll : List Layout → List Stmt
  | [] => []
  | item :: rest => statements item ++ statementsAll rest

end

end Layout

theorem render_all_items (items : List Layout) :
    Layout.renderAll items = items.map Layout.render := by
  induction items with
  | nil => rfl
  | cons item rest ih => rw [Layout.renderAll, ih, List.map_cons]

theorem parts_all_items (items : List Layout) :
    Layout.partsAll items = items.flatMap Layout.parts := by
  induction items with
  | nil => rfl
  | cons item rest ih => rw [Layout.partsAll, ih, List.flatMap_cons]

mutual

theorem layout_carries : ∀ layout : Layout, ReadableParts layout.parts →
    Carries layout.render layout.parts
  | .statement s, readable => statement_carries s readable
  | .compose level items, readable => by
      have each := layouts_carry items ((readable_deeper level _).mp readable)
      rw [Layout.render, Layout.parts, render_all_items, parts_all_items]
      exact carries_stack "\n" (.inl rfl) level items _ _ each
  | .composeApart level items, readable => by
      have each := layouts_carry items ((readable_deeper level _).mp readable)
      rw [Layout.render, Layout.parts, render_all_items, parts_all_items]
      exact carries_stack "\n\n" (.inr rfl) level items _ _ each
  | .block items, readable => by
      have each := layouts_carry items (readable_braces readable)
      rw [Layout.render, Layout.parts, render_all_items, parts_all_items]
      exact (carries_braces items _ _ each).1
  | .indented level inner, readable =>
      carries_indent level (layout_carries inner ((readable_deeper level _).mp readable))

theorem layouts_carry : ∀ items : List Layout, ReadableParts (Layout.partsAll items) →
    ∀ item ∈ items, Carries item.render item.parts
  | [], _ => nofun
  | item :: rest, readable => by
      obtain ⟨own, later⟩ := (readable_append _ _).mp readable
      exact List.forall_mem_cons.mpr ⟨layout_carries item own, layouts_carry rest later⟩

end

mutual

theorem layout_told : ∀ layout : Layout, (∀ s ∈ layout.statements, ClearStmt s) →
    ∀ part ∈ layout.parts, Told part
  | .statement s, clear => statement_told s (clear s (List.mem_singleton_self s))
  | .compose level items, clear => told_deeper level (layouts_told items clear)
  | .composeApart level items, clear => told_deeper level (layouts_told items clear)
  | .block items, clear => told_braces (layouts_told items clear)
  | .indented level inner, clear => told_deeper level (layout_told inner clear)

theorem layouts_told : ∀ items : List Layout, (∀ s ∈ Layout.statementsAll items, ClearStmt s) →
    ∀ part ∈ Layout.partsAll items, Told part
  | [], _ => nofun
  | item :: rest, clear => by
      obtain ⟨own, later⟩ := List.forall_mem_append.mp clear
      exact List.forall_mem_append.mpr ⟨layout_told item own, layouts_told rest later⟩

end

def isCode : Piece → Bool
  | .code _ => true
  | _ => false

-- The characters outside of literals, without the blanks.
def outer (read : List Piece) : List Piece :=
  read.filter isCode

-- The contents of the literals, one after the other, each between its two ends.
def literals (read : List Piece) : List Piece :=
  read.filter fun piece => !isCode piece

theorem outer_thin (read : List Piece) : outer (thin read) = outer read := by
  rw [outer, outer, thin, List.filter_filter]
  congr 1
  funext piece
  cases piece <;> simp [isCode]

theorem spaces_literals (read : List Piece) : spaces (literals read) = spaces read :=
  List.count_filter rfl

theorem moves_literals {own : List Piece} {read : List Piece × Spot} {moved : Prop}
    (moves : Moves own read moved) :
    outer read.1 = outer own ∧ (literals read.1 = literals own ↔ ¬ moved) := by
  constructor
  · rw [← outer_thin, moves.thinned, outer_thin]
  · constructor
    · intro same more
      have grown := moves.grown more
      rw [← spaces_literals own, ← same, spaces_literals] at grown
      exact Nat.lt_irrefl _ grown
    · intro still
      rw [moves.kept still]

-- The first half holds of any statements whose parts can be read. The second half tells which
-- statements can be, and what the condition means for them.
theorem literals_kept_iff (layout : Layout) :
    ((∀ part ∈ layout.parts, Readable part.text) →
        (start.run layout.render.toList).2.Rests ∧
        outer (pieces layout.render) = outer (own layout.parts) ∧
        (literals (pieces layout.render) = literals (own layout.parts) ↔ ¬ Moved layout.parts)) ∧
      ((∀ s ∈ layout.statements, ClearStmt s) →
        (∀ part ∈ layout.parts, Readable part.text) ∧
        (Moved layout.parts ↔
          ∃ part ∈ layout.parts, 0 < part.depth ∧ ∃ text ∈ part.templates, '\n' ∈ text.toList)) := by
  constructor
  · intro readable
    have carries := layout_carries layout readable
    exact ⟨carries.rests, moves_literals carries⟩
  · intro clear
    have told := layout_told layout clear
    refine ⟨fun part member => (told part member).1, ?_⟩
    constructor
    · rintro ⟨part, member, deep, feed⟩
      exact ⟨part, member, deep, (told part member).2.mp feed⟩
    · rintro ⟨part, member, deep, fed⟩
      exact ⟨part, member, deep, (told part member).2.mpr fed⟩

-- The template with two lines is not moved in, and the one in the block has one line.
def addresses : Layout :=
  .compose 0
    [.statement (.expression (.template [.text "a\nb"])),
      .indented 1 (.block
        [.statement (.return_ (some (.template [.text "/users/", .hole (.ident "id")])))])]

theorem addresses_kept :
    (∀ s ∈ addresses.statements, ClearStmt s) ∧
      literals (pieces addresses.render) = literals (own addresses.parts) := by
  have clear : ∀ s ∈ addresses.statements, ClearStmt s := by
    have id : ClearName "id" := rfl
    simp [addresses, Layout.statements, Layout.statementsAll, ClearStmt, ClearExpr, ClearParts,
      Uncut, ahead, id]
  obtain ⟨kept, told⟩ := literals_kept_iff addresses
  obtain ⟨readable, moved⟩ := told clear
  refine ⟨clear, ((kept readable).2.2).mpr ?_⟩
  rw [moved]
  simp [addresses, Layout.parts, Layout.partsAll, statementParts, linePart, valueTemplates,
    templates, partTemplates, inBraces, deeper]

-- The second line of a template gets the blanks of the statement.
theorem moved_template_changes :
    ClearStmt (.return_ (some (.template [.text "a\nb"]))) ∧
      literals (pieces (stack 1 [(Stmt.return_ (some (.template [.text "a\nb"]))).render])) ≠
        literals (pieces (Stmt.return_ (some (.template [.text "a\nb"]))).render) := by
  have text : (Stmt.return_ (some (.template [.text "a\nb"]))).render = "return \x60a\nb\x60;" := by
    simp [Stmt.render, Expr.render, Expr.renderParts, templateText]
  rw [text]
  refine ⟨?_, by decide⟩
  simp [ClearStmt, ClearExpr, ClearParts, Uncut, ahead]

end ApiContract.Literals
