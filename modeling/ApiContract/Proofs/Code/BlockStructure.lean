import ApiContract.Proofs.Code.Nesting

/-!
The text of statements determines the statements. Each statement is cut off from the text at its own
end, whatever stands behind it, so that a list is read back one statement after the other, and a
block ends at the first line that is moved in less than it.
-/

set_option autoImplicit false

namespace ApiContract.Code

open Stmt
open Text (Unbroken)

-- An identifier that is no keyword.
structure PlainName (name : String) : Prop where
  identifier : Name.isIdentifier name = true
  unreserved : Name.isReservedWord name = false

def Expr.Plain : Expr → Prop
  | .ident name => PlainName name
  | _ => False

def TypeExpr.Plain : TypeExpr → Prop
  | .named name => PlainName name
  | _ => False

namespace Stmt

mutual

-- Expressions, types and names are names, and comments have one line.
def Plain : Stmt → Prop
  | .expression value => value.Plain
  | .throw value => value.Plain
  | .return_ value => ∀ e ∈ value, e.Plain
  | .declare _ name type init =>
      PlainName name ∧ (∀ t ∈ type, t.Plain) ∧ ∀ e ∈ init, e.Plain
  | .branch test whenTrue none => test.Plain ∧ AllPlain whenTrue
  | .branch test whenTrue (some body) => test.Plain ∧ AllPlain whenTrue ∧ AllPlain body
  | .forOf _ name iterable body => PlainName name ∧ iterable.Plain ∧ AllPlain body
  | .comment text => Unbroken text.toList

def AllPlain : List Stmt → Prop
  | [] => True
  | s :: rest => Plain s ∧ AllPlain rest

end

-- The word that the text of a statement begins with; none in front of a comment.
def lead : Stmt → String
  | .expression (.ident name) => name
  | .expression _ => ""
  | .throw _ => "throw"
  | .return_ _ => "return"
  | .declare binding _ _ _ => binding.word
  | .branch _ _ _ => "if"
  | .forOf _ _ _ _ => "for"
  | .comment _ => ""

inductive Kind where
  | expression
  | throw
  | return_
  | declare
  | branch
  | forOf
  | comment
deriving DecidableEq

def kind : Stmt → Kind
  | .expression _ => .expression
  | .throw _ => .throw
  | .return_ _ => .return_
  | .declare _ _ _ _ => .declare
  | .branch _ _ _ => .branch
  | .forOf _ _ _ _ => .forOf
  | .comment _ => .comment

def kindOf (word : String) : Kind :=
  if word = "throw" then .throw
  else if word = "return" then .return_
  else if word = "const" ∨ word = "let" then .declare
  else if word = "if" then .branch
  else if word = "for" then .forOf
  else if word = "" then .comment
  else .expression

-- Only a branch and a loop have blocks, so all others take one line.
def Kind.isLine (kind : Kind) : Bool :=
  kind ≠ .branch ∧ kind ≠ .forOf

theorem kind_of_name (name : String) (plain : PlainName name) : kindOf name = .expression := by
  obtain ⟨identifier, unreserved⟩ := plain
  have other (word : String) (keyword : Name.isReservedWord word = true) : name ≠ word := by
    rintro rfl
    exact Bool.false_ne_true (unreserved.symm.trans keyword)
  have nonempty : name ≠ "" := by
    rintro rfl
    cases identifier
  simp [kindOf, nonempty, other "throw" (by decide), other "return" (by decide),
    other "const" (by decide), other "let" (by decide), other "if" (by decide),
    other "for" (by decide)]

theorem kind_of_lead (s : Stmt) (plain : s.Plain) : kindOf s.lead = s.kind := by
  cases s with
  | expression value =>
      cases value with
      | ident name => exact kind_of_name name plain
      | _ => exact absurd plain id
  | declare binding name type init => cases binding <;> rfl
  | _ => rfl

end Stmt

theorem plain_ident (e : Expr) (plain : e.Plain) : ∃ name, e = .ident name ∧ PlainName name := by
  cases e with
  | ident name => exact ⟨name, rfl, plain⟩
  | _ => exact absurd plain id

theorem plain_named (t : TypeExpr) (plain : t.Plain) : ∃ name, t = .named name ∧ PlainName name := by
  cases t with
  | named name => exact ⟨name, rfl, plain⟩
  | _ => exact absurd plain id

theorem plain_unbroken (name : String) (plain : PlainName name) : Unbroken name.toList :=
  identifier_unbroken name plain.identifier

theorem plain_no_return (name : String) (plain : PlainName name) : NoReturn name :=
  (plain_unbroken name plain).2

theorem plain_expr_strings (e : Expr) (plain : e.Plain) : NoReturns e.strings := by
  obtain ⟨name, rfl, named⟩ := plain_ident e plain
  simpa [Expr.strings] using plain_no_return name named

theorem plain_value_strings (value : Option Expr) (plain : ∀ e ∈ value, e.Plain) :
    NoReturns (valueStrings value) := by
  cases value with
  | none => exact no_returns_nil
  | some e => exact plain_expr_strings e (plain e rfl)

theorem plain_type_strings (type : Option TypeExpr) (plain : ∀ t ∈ type, t.Plain) :
    NoReturns (typeStrings type) := by
  cases type with
  | none => exact no_returns_nil
  | some t =>
      obtain ⟨name, rfl, named⟩ := plain_named t (plain t rfl)
      simpa [typeStrings, TypeExpr.strings] using plain_no_return name named

mutual

theorem plain_strings : ∀ s : Stmt, s.Plain → NoReturns s.strings
  | .expression value, plain => plain_expr_strings value plain
  | .throw value, plain => plain_expr_strings value plain
  | .return_ value, plain => plain_value_strings value plain
  | .declare _ name type init, ⟨named, typed, valued⟩ => by
      simpa [strings] using ⟨plain_no_return name named, plain_type_strings type typed,
        plain_value_strings init valued⟩
  | .branch test whenTrue none, ⟨tested, inner⟩ => by
      simpa [strings] using ⟨plain_expr_strings test tested, all_plain_strings whenTrue inner⟩
  | .branch test whenTrue (some body), ⟨tested, inner, other⟩ => by
      simpa [strings, and_assoc] using ⟨plain_expr_strings test tested,
        all_plain_strings whenTrue inner, all_plain_strings body other⟩
  | .forOf _ name iterable body, ⟨named, walked, inner⟩ => by
      simpa [strings] using ⟨plain_no_return name named, plain_expr_strings iterable walked,
        all_plain_strings body inner⟩
  | .comment text, unbroken => by
      have noReturn : NoReturn text := unbroken.2
      simpa [strings] using noReturn

theorem all_plain_strings : ∀ body : List Stmt, AllPlain body → NoReturns (bodyStrings body)
  | [], _ => no_returns_nil
  | s :: rest, ⟨own, later⟩ =>
      (no_returns_append _ _).mpr ⟨plain_strings s own, all_plain_strings rest later⟩

end

theorem plain_whole (s : Stmt) (plain : s.Plain) : WholeLines s.render.toList :=
  statement_whole s (plain_strings s plain)

theorem all_plain_iff (body : List Stmt) : AllPlain body ↔ ∀ s ∈ body, s.Plain := by
  induction body with
  | nil => simp [AllPlain]
  | cons s rest ih => simp [AllPlain, ih]

theorem comment_line_text (text : String) (unbroken : Unbroken text.toList) :
    commentLines text = if text = "" then "//" else "// " ++ text := by
  by_cases empty : text = ""
  · subst empty
    rfl
  · have nonempty : text.toList ≠ [] := by simpa using empty
    have notEmpty : text.isEmpty = false := by simpa using empty
    rw [commentLines, Text.lines_whole _ nonempty unbroken, if_neg empty]
    simp [notEmpty, Text.join, nonempty]

-- The word in front of a statement ends at one of these.
def EndsLead (c : Char) : Prop :=
  c = ';' ∨ c = ' ' ∨ c = '/'

theorem render_lead (s : Stmt) (plain : s.Plain) :
    ∃ c rest, s.render.toList = s.lead.toList ++ c :: rest ∧ EndsLead c := by
  cases s with
  | expression value =>
      obtain ⟨name, rfl, named⟩ := plain_ident value plain
      exact ⟨';', [], by simp [Stmt.render, Expr.render, lead], .inl rfl⟩
  | throw value => exact ⟨' ', _, by simp [Stmt.render, lead]; rfl, .inr (.inl rfl)⟩
  | return_ value =>
      cases value with
      | none => exact ⟨';', [], by simp [Stmt.render, lead], .inl rfl⟩
      | some value => exact ⟨' ', _, by simp [Stmt.render, lead]; rfl, .inr (.inl rfl)⟩
  | declare binding name type init =>
      exact ⟨' ', _, by simp [Stmt.render, lead]; rfl, .inr (.inl rfl)⟩
  | branch test whenTrue whenFalse =>
      cases whenFalse with
      | none => exact ⟨' ', _, by simp [Stmt.render, lead]; rfl, .inr (.inl rfl)⟩
      | some body => exact ⟨' ', _, by simp [Stmt.render, lead]; rfl, .inr (.inl rfl)⟩
  | forOf binding name iterable body =>
      exact ⟨' ', _, by simp [Stmt.render, lead]; rfl, .inr (.inl rfl)⟩
  | comment text =>
      rw [Stmt.render, comment_line_text text plain]
      split
      · exact ⟨'/', _, by simp [lead]; rfl, .inr (.inr rfl)⟩
      · exact ⟨'/', _, by simp [lead]; rfl, .inr (.inr rfl)⟩

-- The text of a statement at a depth, without the margin in front of its first line.
def hung (depth : Nat) (s : Stmt) : List Char :=
  padLines (margin depth) false s.render.toList

def hungBlock (depth : Nat) (body : List Stmt) : List Char :=
  padLines (margin depth) false (block body).toList

def hungElse (depth : Nat) : Option (List Stmt) → List Char
  | none => []
  | some body => " else ".toList ++ padLines (margin depth) false (otherwise body).toList

-- The lines of a body at a depth, each behind the end of the line before it.
def rows (depth : Nat) (body : List Stmt) : List Char :=
  body.flatMap fun s => '\n' :: (margin depth ++ hung depth s)

theorem cut_word (first second left right : List Char)
    (firstParts : ∀ c ∈ first, Name.isPart c = true)
    (secondParts : ∀ c ∈ second, Name.isPart c = true)
    (leftStops : ∀ c ∈ left.head?, Name.isPart c = false)
    (rightStops : ∀ c ∈ right.head?, Name.isPart c = false)
    (same : first ++ left = second ++ right) : first = second ∧ left = right := by
  have word (name rest : List Char) (parts : ∀ c ∈ name, Name.isPart c = true)
      (stops : ∀ c ∈ rest.head?, Name.isPart c = false) :
      (name ++ rest).takeWhile Name.isPart = name := by
    rw [List.takeWhile_append_of_pos parts]
    cases rest with
    | nil => simp
    | cons c rest => simp [stops c rfl]
  have names := word first left firstParts leftStops
  rw [same, word second right secondParts rightStops] at names
  subst names
  exact ⟨rfl, List.append_cancel_left same⟩

theorem keyword_parts :
    ∀ word ∈ ["throw", "return", "const", "let", "if", "for"],
      word.toList.all Name.isPart = true := by
  decide

theorem lead_parts (s : Stmt) (plain : s.Plain) : ∀ c ∈ s.lead.toList, Name.isPart c = true := by
  cases s with
  | expression value =>
      obtain ⟨name, rfl, named⟩ := plain_ident value plain
      obtain ⟨-, -, -, -, parts⟩ := Name.identifier_parts name named.identifier
      exact parts
  | declare binding name type init =>
      apply List.all_eq_true.mp
      apply keyword_parts
      cases binding <;> simp [lead, Binding.word]
  | comment text => exact nofun
  | _ =>
      apply List.all_eq_true.mp
      apply keyword_parts
      simp [lead]

theorem part_unbroken (word : List Char) (parts : ∀ c ∈ word, Name.isPart c = true) :
    Unbroken word := by
  constructor
  · intro feed
    cases parts '\n' feed
  · intro return_
    cases parts '\r' return_

theorem lead_end (c : Char) (ends : EndsLead c) :
    c ≠ '\n' ∧ c ≠ '\r' ∧ Name.isPart c = false := by
  rcases ends with rfl | rfl | rfl <;> decide

theorem hung_lead (depth : Nat) (s : Stmt) (plain : s.Plain) :
    ∃ c rest, hung depth s = s.lead.toList ++ c :: rest ∧ Name.isPart c = false := by
  obtain ⟨c, rest, text, ends⟩ := render_lead s plain
  obtain ⟨noFeed, noReturn, stops⟩ := lead_end c ends
  refine ⟨c, padLines (margin depth) false rest, ?_, stops⟩
  rw [hung, text, pad_behind_line _ _ _ (part_unbroken _ (lead_parts s plain)),
    pad_inside _ false c rest noFeed fun same => absurd same noReturn]
  rfl

theorem indent_hung (depth : Nat) (s : Stmt) (plain : s.Plain) :
    (indent depth s.render).toList = margin depth ++ hung depth s := by
  obtain ⟨c, rest, text, ends⟩ := render_lead s plain
  obtain ⟨noFeed, noReturn, -⟩ := lead_end c ends
  have unbroken := part_unbroken _ (lead_parts s plain)
  rw [indent_chars depth _ (plain_whole s plain), hung, text]
  cases lead : s.lead.toList with
  | nil => exact pad_first _ c rest noFeed noReturn
  | cons d others =>
      rw [lead] at unbroken
      obtain ⟨noFeed, noReturn, -⟩ := (unbroken_cons d others).mp unbroken
      exact pad_first _ d _ noFeed noReturn

theorem rows_stack (depth : Nat) (body : List Stmt) (some_ : body ≠ [])
    (plain : ∀ s ∈ body, s.Plain) :
    '\n' :: (stack depth (body.map render)).toList = rows depth body := by
  have apart := join_apart "\n" ((body.map render).map (indent depth)) (by simpa using some_)
  have each : ∀ s ∈ body, "\n".toList ++ (indent depth s.render).toList =
      '\n' :: (margin depth ++ hung depth s) := fun s member => by
    rw [indent_hung depth s (plain s member)]
    rfl
  rw [List.flatMap_map, List.flatMap_map, List.flatMap_congr each] at apart
  exact apart

theorem hung_block (depth : Nat) (body : List Stmt) (some_ : body ≠ [])
    (plain : ∀ s ∈ body, s.Plain) :
    hungBlock depth body =
      '\x7b' :: (rows (depth + 1) body ++ '\n' :: (margin depth ++ ['\x7d'])) := by
  have each : ∀ text ∈ body.map render, WholeLines text.toList := by
    simpa using fun s member => plain_whole s (plain s member)
  have inner := stack_whole 1 (body.map render) (by simpa using some_) each
  have text : (block body).toList =
      '\x7b' :: '\n' :: ((stack 1 (body.map render)).toList ++ '\n' :: ['\x7d']) := by
    rw [block_text body some_]
    simp
  rw [hungBlock, text, pad_inside _ false '\x7b' _ (by decide) nofun, pad_feed _ false _ (by simp),
    pad_append _ true _ _ inner.open_end inner.no_return (by simp), ← indent_chars depth _ inner,
    indent_stack 1 depth _ each, Nat.add_comm 1 depth, ← rows_stack (depth + 1) body some_ plain,
    pad_inside _ true '\x7d' _ (by decide) nofun]
  simp [pad_nil]

theorem hung_no_block (depth : Nat) : hungBlock depth [] = ['\x7b', '\x7d'] := by
  rw [hungBlock, block]
  exact pad_line _ _ (by simp)

theorem line_unbroken (s : Stmt) (plain : s.Plain) (line : s.kind.isLine = true) :
    Unbroken s.render.toList := by
  cases s with
  | expression value =>
      obtain ⟨name, rfl, named⟩ := plain_ident value plain
      simpa [Stmt.render, Expr.render] using plain_unbroken name named
  | throw value =>
      obtain ⟨name, rfl, named⟩ := plain_ident value plain
      simpa [Stmt.render, Expr.render] using plain_unbroken name named
  | return_ value =>
      cases value with
      | none => simp [Stmt.render]
      | some value =>
          obtain ⟨name, rfl, named⟩ := plain_ident value (plain value rfl)
          simpa [Stmt.render, Expr.render] using plain_unbroken name named
  | declare binding name type init =>
      obtain ⟨named, typed, valued⟩ := plain
      have word : Unbroken binding.word.toList := by
        cases binding <;> simp [Binding.word]
      have own := plain_unbroken name named
      have suffix : Unbroken (typeSuffix type).toList := by
        cases type with
        | none => simp [typeSuffix]
        | some t =>
            obtain ⟨typeName, rfl, typeNamed⟩ := plain_named t (typed t rfl)
            simpa [typeSuffix, TypeExpr.render] using plain_unbroken typeName typeNamed
      have value : Unbroken (initSuffix init).toList := by
        cases init with
        | none => simp [initSuffix]
        | some e =>
            obtain ⟨valueName, rfl, valueNamed⟩ := plain_ident e (valued e rfl)
            simpa [initSuffix, Expr.render] using plain_unbroken valueName valueNamed
      simpa [Stmt.render] using ⟨word, own, suffix, value⟩
  | comment text =>
      have own : Unbroken text.toList := plain
      rw [Stmt.render, comment_line_text text own]
      split
      · simp
      · simpa using own
  | branch => cases line
  | forOf => cases line

theorem hung_line (depth : Nat) (s : Stmt) (plain : s.Plain) (line : s.kind.isLine = true) :
    hung depth s = s.render.toList :=
  pad_line _ _ (line_unbroken s plain line)

theorem hung_branch (depth : Nat) (name : String) (whenTrue : List Stmt)
    (whenFalse : Option (List Stmt)) (plain : (Stmt.branch (.ident name) whenTrue whenFalse).Plain) :
    hung depth (.branch (.ident name) whenTrue whenFalse) =
      "if (".toList ++ (name.toList ++ (") ".toList ++
        (hungBlock depth whenTrue ++ hungElse depth whenFalse))) := by
  have parts : PlainName name ∧ AllPlain whenTrue := by
    cases whenFalse with
    | none => exact plain
    | some body => exact ⟨plain.1, plain.2.1⟩
  obtain ⟨named, inner⟩ := parts
  have whole := block_whole whenTrue fun s member =>
    plain_whole s ((all_plain_iff whenTrue).mp inner s member)
  have text : (Stmt.branch (.ident name) whenTrue whenFalse).render.toList =
      "if (".toList ++ (name.toList ++ (") ".toList ++ ((block whenTrue).toList ++
        (match whenFalse with
         | none => []
         | some body => " else ".toList ++ (otherwise body).toList)))) := by
    cases whenFalse <;> simp [Stmt.render, Expr.render]
  rw [hung, text, pad_behind_line _ _ _ (by simp),
    pad_behind_line _ _ _ (plain_unbroken name named),
    pad_behind_line _ _ _ (by simp),
    pad_onward _ _ _ _ whole.nonempty whole.open_end whole.no_return]
  cases whenFalse with
  | none => rfl
  | some body =>
      rw [pad_behind_line _ " else ".toList _ (by simp)]
      rfl

theorem hung_loop (depth : Nat) (binding : Binding) (name walked : String) (body : List Stmt)
    (named : PlainName name) (iterable : PlainName walked) :
    hung depth (.forOf binding name (.ident walked) body) =
      "for (".toList ++ (binding.word.toList ++ (" ".toList ++ (name.toList ++ (" of ".toList ++
        (walked.toList ++ (") ".toList ++ hungBlock depth body)))))) := by
  have word : Unbroken binding.word.toList := by
    cases binding <;> simp [Binding.word]
  have text : (Stmt.forOf binding name (.ident walked) body).render.toList =
      "for (".toList ++ (binding.word.toList ++ (" ".toList ++ (name.toList ++ (" of ".toList ++
        (walked.toList ++ (") ".toList ++ (block body).toList)))))) := by
    simp [Stmt.render, Expr.render]
  rw [hung, text, pad_behind_line _ _ _ (by simp), pad_behind_line _ _ _ word,
    pad_behind_line _ _ _ (by simp),
    pad_behind_line _ _ _ (plain_unbroken name named),
    pad_behind_line _ _ _ (by simp),
    pad_behind_line _ _ _ (plain_unbroken walked iterable),
    pad_behind_line _ _ _ (by simp)]
  rfl

theorem name_cut (first second : String) (left right : List Char) (firstName : PlainName first)
    (secondName : PlainName second) (leftStops : ∀ c ∈ left.head?, Name.isPart c = false)
    (rightStops : ∀ c ∈ right.head?, Name.isPart c = false)
    (same : first.toList ++ left = second.toList ++ right) : first = second ∧ left = right := by
  obtain ⟨-, -, -, -, firstParts⟩ := Name.identifier_parts first firstName.identifier
  obtain ⟨-, -, -, -, secondParts⟩ := Name.identifier_parts second secondName.identifier
  obtain ⟨names, rest⟩ :=
    cut_word first.toList second.toList left right firstParts secondParts leftStops rightStops same
  exact ⟨String.toList_inj.mp names, rest⟩

theorem type_suffix_cut (first second : Option TypeExpr) (left right : List Char)
    (firstPlain : ∀ t ∈ first, t.Plain) (secondPlain : ∀ t ∈ second, t.Plain)
    (leftStops : ∃ c rest, left = c :: rest ∧ (c = ' ' ∨ c = ';'))
    (rightStops : ∃ c rest, right = c :: rest ∧ (c = ' ' ∨ c = ';'))
    (same : (typeSuffix first).toList ++ left = (typeSuffix second).toList ++ right) :
    first = second ∧ left = right := by
  obtain ⟨c, rest, rfl, stops⟩ := leftStops
  obtain ⟨d, others, rfl, ends⟩ := rightStops
  have partStop (c : Char) (stops : c = ' ' ∨ c = ';') : Name.isPart c = false := by
    rcases stops with rfl | rfl <;> decide
  match first, second with
  | none, none => exact ⟨rfl, by simpa [typeSuffix] using same⟩
  | none, some t =>
      obtain ⟨name, rfl, -⟩ := plain_named t (secondPlain t rfl)
      have head : c = ':' := by simpa [typeSuffix] using congrArg List.head? same
      subst head
      simp at stops
  | some t, none =>
      obtain ⟨name, rfl, -⟩ := plain_named t (firstPlain t rfl)
      have head : ':' = d := by simpa [typeSuffix] using congrArg List.head? same
      subst head
      simp at ends
  | some t, some u =>
      obtain ⟨name, rfl, named⟩ := plain_named t (firstPlain t rfl)
      obtain ⟨other, rfl, otherNamed⟩ := plain_named u (secondPlain u rfl)
      have names : name.toList ++ c :: rest = other.toList ++ d :: others := by
        simpa [typeSuffix, TypeExpr.render] using same
      obtain ⟨rfl, onward⟩ := name_cut name other _ _ named otherNamed
        (by simpa using partStop c stops) (by simpa using partStop d ends) names
      exact ⟨rfl, onward⟩

theorem init_suffix_cut (first second : Option Expr) (left right : List Char)
    (firstPlain : ∀ e ∈ first, e.Plain) (secondPlain : ∀ e ∈ second, e.Plain)
    (same : (initSuffix first).toList ++ ';' :: left = (initSuffix second).toList ++ ';' :: right) :
    first = second := by
  match first, second with
  | none, none => rfl
  | none, some e =>
      obtain ⟨name, rfl, -⟩ := plain_ident e (secondPlain e rfl)
      simp [initSuffix] at same
  | some e, none =>
      obtain ⟨name, rfl, -⟩ := plain_ident e (firstPlain e rfl)
      simp [initSuffix] at same
  | some e, some f =>
      obtain ⟨name, rfl, named⟩ := plain_ident e (firstPlain e rfl)
      obtain ⟨other, rfl, otherNamed⟩ := plain_ident f (secondPlain f rfl)
      have names : name.toList ++ ';' :: left = other.toList ++ ';' :: right := by
        simpa [initSuffix, Expr.render] using same
      obtain ⟨rfl, -⟩ :=
        name_cut name other _ _ named otherNamed (by simp; decide) (by simp; decide) names
      rfl

-- What may stand behind a statement.
def Ends (rest : List Char) : Prop :=
  ∀ c ∈ rest.head?, c = '\n'

theorem line_cut (first second left right : List Char) (unbroken : Unbroken first)
    (other : Unbroken second) (leftEnds : Ends left) (rightEnds : Ends right)
    (same : first ++ left = second ++ right) : first = second := by
  have line (cs rest : List Char) (unbroken : Unbroken cs) (ends : Ends rest) :
      (cs ++ rest).takeWhile (· ≠ '\n') = cs := by
    have inside : ∀ c ∈ cs, decide (c ≠ '\n') = true := fun c member =>
      decide_eq_true (ne_of_mem_of_not_mem member unbroken.1)
    rw [List.takeWhile_append_of_pos inside]
    cases rest with
    | nil => simp
    | cons c rest => simp [ends c rfl]
  have lines := line first left unbroken leftEnds
  rw [same, line second right other rightEnds] at lines
  exact lines.symm

theorem comment_cut (first second : String) (unbroken : Unbroken first.toList)
    (other : Unbroken second.toList) (same : commentLines first = commentLines second) :
    first = second := by
  rw [comment_line_text first unbroken, comment_line_text second other] at same
  have short (text : String) : ¬ "//" = "// " ++ text := by
    rw [← String.toList_inj]
    simp
  by_cases empty : first = ""
  · by_cases alsoEmpty : second = ""
    · rw [empty, alsoEmpty]
    · rw [if_pos empty, if_neg alsoEmpty] at same
      exact absurd same (short second)
  · by_cases alsoEmpty : second = ""
    · rw [if_neg empty, if_pos alsoEmpty] at same
      exact absurd same.symm (short first)
    · rw [if_neg empty, if_neg alsoEmpty, ← String.toList_inj] at same
      simpa [String.toList_inj] using same

theorem return_cut (first second : Option Expr) (plain : (Stmt.return_ first).Plain)
    (otherPlain : (Stmt.return_ second).Plain)
    (same : (Stmt.return_ first).render = (Stmt.return_ second).render) : first = second := by
  rw [← String.toList_inj] at same
  match first, second with
  | none, none => rfl
  | none, some value => simp [Stmt.render] at same
  | some value, none => simp [Stmt.render] at same
  | some value, some other =>
      obtain ⟨name, rfl, -⟩ := plain_ident value (plain value rfl)
      obtain ⟨otherName, rfl, -⟩ := plain_ident other (otherPlain other rfl)
      have names : name = otherName := by
        simpa [Stmt.render, Expr.render, String.toList_inj] using same
      rw [names]

theorem declare_cut (first second : Binding) (name other : String) (type type' : Option TypeExpr)
    (init init' : Option Expr) (plain : (Stmt.declare first name type init).Plain)
    (otherPlain : (Stmt.declare second other type' init').Plain) (bindings : first.word = second.word)
    (same : (Stmt.declare first name type init).render =
      (Stmt.declare second other type' init').render) :
    Stmt.declare first name type init = Stmt.declare second other type' init' := by
  obtain ⟨named, typed, valued⟩ := plain
  obtain ⟨otherNamed, otherTyped, otherValued⟩ := otherPlain
  have words : first = second := by
    cases first <;> cases second <;> first | rfl | exact absurd bindings (by decide)
  have initStops (init : Option Expr) :
      ∃ c rest, (initSuffix init).toList ++ [';'] = c :: rest ∧ (c = ' ' ∨ c = ';') := by
    cases init with
    | none => exact ⟨';', [], rfl, .inr rfl⟩
    | some value => exact ⟨' ', _, by simp [initSuffix]; rfl, .inl rfl⟩
  have typeStops (type : Option TypeExpr) (init : Option Expr) :
      ∀ c ∈ ((typeSuffix type).toList ++ ((initSuffix init).toList ++ [';'])).head?,
        Name.isPart c = false := by
    cases type with
    | none =>
        obtain ⟨c, rest, text, stops⟩ := initStops init
        rw [text]
        rcases stops with rfl | rfl <;> simp [typeSuffix] <;> decide
    | some t => simp [typeSuffix]; decide
  subst words
  rw [← String.toList_inj] at same
  simp only [Stmt.render, String.toList_append, List.append_assoc, List.append_cancel_left_eq] at same
  obtain ⟨rfl, typedRest⟩ := name_cut name other _ _ named otherNamed (typeStops type init)
    (typeStops type' init') same
  obtain ⟨rfl, valuedRest⟩ := type_suffix_cut type type' _ _ typed otherTyped (initStops init)
    (initStops init') typedRest
  rw [init_suffix_cut init init' [] [] valued otherValued valuedRest]

-- The statement is known from its text, whatever stands behind it.
def CutsOff (s : Stmt) : Prop :=
  ∀ depth t left right, t.Plain → Ends left → Ends right →
    hung depth s ++ left = hung depth t ++ right → s = t

theorem same_lead (s t : Stmt) (plain : s.Plain) (other : t.Plain) (depth : Nat)
    (left right : List Char) (same : hung depth s ++ left = hung depth t ++ right) :
    s.lead = t.lead ∧ s.kind = t.kind := by
  obtain ⟨c, rest, text, stops⟩ := hung_lead depth s plain
  obtain ⟨d, others, otherText, otherStops⟩ := hung_lead depth t other
  rw [text, otherText, List.append_assoc, List.append_assoc] at same
  obtain ⟨words, -⟩ := cut_word _ _ _ _ (lead_parts s plain) (lead_parts t other)
    (by simpa using stops) (by simpa using otherStops) same
  have leads := String.toList_inj.mp words
  exact ⟨leads, by rw [← kind_of_lead s plain, ← kind_of_lead t other, leads]⟩

theorem line_cuts_off (s : Stmt) (plain : s.Plain) (line : s.kind.isLine = true) : CutsOff s := by
  intro depth t left right other leftEnds rightEnds same
  obtain ⟨leads, kinds⟩ := same_lead s t plain other depth left right same
  have otherLine : t.kind.isLine = true := kinds ▸ line
  rw [hung_line depth s plain line, hung_line depth t other otherLine] at same
  have texts := String.toList_inj.mp (line_cut _ _ left right (line_unbroken s plain line)
    (line_unbroken t other otherLine) leftEnds rightEnds same)
  cases s with
  | expression value =>
      cases t with
      | expression otherValue =>
          obtain ⟨name, rfl, -⟩ := plain_ident value plain
          obtain ⟨otherName, rfl, -⟩ := plain_ident otherValue other
          exact congrArg (Stmt.expression ∘ Expr.ident) leads
      | _ => cases kinds
  | throw value =>
      cases t with
      | throw otherValue =>
          obtain ⟨name, rfl, -⟩ := plain_ident value plain
          obtain ⟨otherName, rfl, -⟩ := plain_ident otherValue other
          have names : name = otherName := by
            simpa [Stmt.render, Expr.render, ← String.toList_inj] using texts
          rw [names]
      | _ => cases kinds
  | return_ value =>
      cases t with
      | return_ otherValue => rw [return_cut value otherValue plain other texts]
      | _ => cases kinds
  | declare binding name type init =>
      cases t with
      | declare otherBinding otherName otherType otherInit =>
          exact declare_cut binding otherBinding name otherName type otherType init otherInit plain
            other leads texts
      | _ => cases kinds
  | comment text =>
      cases t with
      | comment otherText => rw [comment_cut text otherText plain other texts]
      | _ => cases kinds
  | branch => cases line
  | forOf => cases line

theorem block_head (depth : Nat) (body : List Stmt) (plain : ∀ s ∈ body, s.Plain) :
    ∃ rest, hungBlock depth body = '\x7b' :: rest := by
  by_cases none_ : body = []
  · subst none_
    exact ⟨_, hung_no_block depth⟩
  · exact ⟨_, hung_block depth body none_ plain⟩

-- What stands behind the lines of a body: nothing, or the brace that closes the block around it.
def Outdents (depth : Nat) (rest : List Char) : Prop :=
  rest = [] ∨ ∃ outer after, depth = outer + 1 ∧ rest = '\n' :: (margin outer ++ '\x7d' :: after)

theorem outdents_ends (depth : Nat) (rest : List Char) (outdents : Outdents depth rest) :
    Ends rest := by
  rcases outdents with rfl | ⟨outer, after, rfl, rfl⟩
  · exact nofun
  · simp [Ends]

-- The closing brace stands further left than any line of the body.
theorem outdents_no_row (depth : Nat) (rest line : List Char) (outdents : Outdents depth rest) :
    rest ≠ '\n' :: (margin depth ++ line) := by
  rcases outdents with rfl | ⟨outer, after, rfl, rfl⟩
  · exact nofun
  · intro same
    rw [Nat.add_comm outer 1, ← margin_add 1 outer] at same
    simp [margin] at same

theorem rows_ends (depth : Nat) (body : List Stmt) (rest : List Char) (ends : Ends rest) :
    Ends (rows depth body ++ rest) := by
  cases body with
  | nil => exact ends
  | cons s others => simp [Ends, rows]

-- By induction on the first body: the statements in front are the same, and behind them as many.
theorem rows_cut (depth : Nat) (body other : List Stmt) (left right : List Char)
    (cuts : ∀ s ∈ body, CutsOff s) (otherPlain : ∀ t ∈ other, t.Plain)
    (leftEnds : Outdents depth left) (rightEnds : Outdents depth right)
    (same : rows depth body ++ left = rows depth other ++ right) : body = other := by
  induction body generalizing other with
  | nil =>
      cases other with
      | nil => rfl
      | cons t others =>
          refine absurd same ?_
          simpa [rows] using outdents_no_row depth left _ leftEnds
  | cons s rest ih =>
      obtain ⟨cut, later⟩ := List.forall_mem_cons.mp cuts
      cases other with
      | nil =>
          refine absurd same.symm ?_
          simpa [rows] using outdents_no_row depth right _ rightEnds
      | cons t others =>
          obtain ⟨plain, otherLater⟩ := List.forall_mem_cons.mp otherPlain
          have onward : hung depth s ++ (rows depth rest ++ left) =
              hung depth t ++ (rows depth others ++ right) := by
            simpa [rows] using same
          have first := cut depth t _ _ plain (rows_ends _ _ _ (outdents_ends _ _ leftEnds))
            (rows_ends _ _ _ (outdents_ends _ _ rightEnds)) onward
          subst first
          rw [ih others later otherLater (List.append_cancel_left onward)]

theorem empty_block_cut (depth : Nat) (other : List Stmt) (left right : List Char)
    (plain : ∀ t ∈ other, t.Plain)
    (same : hungBlock depth [] ++ left = hungBlock depth other ++ right) : other = [] := by
  by_contra some_
  obtain ⟨t, others, rfl⟩ := List.exists_cons_of_ne_nil some_
  rw [hung_no_block, hung_block depth _ some_ plain] at same
  simp [rows] at same

theorem block_cut (depth : Nat) (body other : List Stmt) (left right : List Char)
    (plain : ∀ s ∈ body, s.Plain) (cuts : ∀ s ∈ body, CutsOff s) (otherPlain : ∀ t ∈ other, t.Plain)
    (same : hungBlock depth body ++ left = hungBlock depth other ++ right) : body = other := by
  by_cases none_ : body = []
  · subst none_
    exact (empty_block_cut depth other left right otherPlain same).symm
  · by_cases alsoNone : other = []
    · subst alsoNone
      exact empty_block_cut depth body right left plain same.symm
    · rw [hung_block depth body none_ plain, hung_block depth other alsoNone otherPlain] at same
      have inner : rows (depth + 1) body ++ '\n' :: (margin depth ++ '\x7d' :: left) =
          rows (depth + 1) other ++ '\n' :: (margin depth ++ '\x7d' :: right) := by
        simpa using same
      exact rows_cut (depth + 1) body other _ _ cuts otherPlain (.inr ⟨depth, left, rfl, rfl⟩)
        (.inr ⟨depth, right, rfl, rfl⟩) inner

-- A chained branch begins with its own word, where a block has its brace.
theorem otherwise_cut (depth : Nat) (body other : List Stmt) (left right : List Char)
    (plain : ∀ s ∈ body, s.Plain) (cuts : ∀ s ∈ body, CutsOff s) (otherPlain : ∀ t ∈ other, t.Plain)
    (leftEnds : Ends left) (rightEnds : Ends right)
    (same : padLines (margin depth) false (otherwise body).toList ++ left =
      padLines (margin depth) false (otherwise other).toList ++ right) : body = other := by
  have chained (body : List Stmt) (chain : isChain body = true) :
      ∃ s, body = [s] ∧ s.isBranch = true := by
    match body, chain with
    | [s], chain => exact ⟨s, rfl, chain⟩
  have head (s : Stmt) (plain : s.Plain) (branch : s.isBranch = true) (rest : List Char) :
      (hung depth s ++ rest).head? = some 'i' := by
    obtain ⟨c, others, text, -⟩ := hung_lead depth s plain
    cases s with
    | branch => simp [text, lead]
    | _ => cases branch
  have blockHead (body : List Stmt) (plain : ∀ s ∈ body, s.Plain) (rest : List Char) :
      (hungBlock depth body ++ rest).head? = some '\x7b' := by
    obtain ⟨others, text⟩ := block_head depth body plain
    rw [text]
    rfl
  cases chain : isChain body with
  | false =>
      rw [otherwise_block body chain] at same
      cases otherChain : isChain other with
      | false =>
          rw [otherwise_block other otherChain] at same
          exact block_cut depth body other left right plain cuts otherPlain same
      | true =>
          obtain ⟨t, rfl, branch⟩ := chained other otherChain
          rw [otherwise_chain t branch] at same
          have heads := congrArg List.head? same
          rw [← hungBlock, ← hung, blockHead body plain,
            head t (otherPlain t (List.mem_singleton_self t)) branch] at heads
          cases heads
  | true =>
      obtain ⟨s, rfl, branch⟩ := chained body chain
      have own := plain s (List.mem_singleton_self s)
      rw [otherwise_chain s branch] at same
      cases otherChain : isChain other with
      | false =>
          rw [otherwise_block other otherChain] at same
          have heads := congrArg List.head? same
          rw [← hungBlock, ← hung, blockHead other otherPlain, head s own branch] at heads
          cases heads
      | true =>
          obtain ⟨t, rfl, otherBranch⟩ := chained other otherChain
          rw [otherwise_chain t otherBranch] at same
          have first := cuts s (List.mem_singleton_self s) depth t left right
            (otherPlain t (List.mem_singleton_self t)) leftEnds rightEnds same
          rw [first]

theorem hung_else_some (depth : Nat) (body : List Stmt) :
    hungElse depth (some body) =
      " else ".toList ++ padLines (margin depth) false (otherwise body).toList := rfl

theorem else_cut (depth : Nat) (body other : Option (List Stmt)) (left right : List Char)
    (plain : ∀ inner ∈ body, ∀ s ∈ inner, s.Plain) (cuts : ∀ inner ∈ body, ∀ s ∈ inner, CutsOff s)
    (otherPlain : ∀ inner ∈ other, ∀ t ∈ inner, t.Plain) (leftEnds : Ends left)
    (rightEnds : Ends right)
    (same : hungElse depth body ++ left = hungElse depth other ++ right) : body = other := by
  match body, other with
  | none, none => rfl
  | none, some inner =>
      have text : left = hungElse depth (some inner) ++ right := same
      subst text
      have feed : ' ' = '\n' := leftEnds ' ' rfl
      cases feed
  | some inner, none =>
      have text : hungElse depth (some inner) ++ left = right := same
      subst text
      have feed : ' ' = '\n' := rightEnds ' ' rfl
      cases feed
  | some inner, some otherInner =>
      rw [hung_else_some, hung_else_some, List.append_assoc, List.append_assoc,
        List.append_cancel_left_eq] at same
      rw [otherwise_cut depth inner otherInner left right (plain inner rfl) (cuts inner rfl)
        (otherPlain otherInner rfl) leftEnds rightEnds same]

theorem branch_parts (test : Expr) (whenTrue : List Stmt) (whenFalse : Option (List Stmt))
    (plain : (Stmt.branch test whenTrue whenFalse).Plain) :
    test.Plain ∧ (∀ s ∈ whenTrue, s.Plain) ∧ ∀ inner ∈ whenFalse, ∀ s ∈ inner, s.Plain := by
  cases whenFalse with
  | none => exact ⟨plain.1, (all_plain_iff whenTrue).mp plain.2, nofun⟩
  | some body =>
      obtain ⟨tested, inner, other⟩ := plain
      refine ⟨tested, (all_plain_iff whenTrue).mp inner, ?_⟩
      simpa using (all_plain_iff body).mp other

theorem branch_cuts_off (test : Expr) (whenTrue : List Stmt) (whenFalse : Option (List Stmt))
    (plain : (Stmt.branch test whenTrue whenFalse).Plain) (cuts : ∀ s ∈ whenTrue, CutsOff s)
    (elseCuts : ∀ inner ∈ whenFalse, ∀ s ∈ inner, CutsOff s) :
    CutsOff (.branch test whenTrue whenFalse) := by
  intro depth t left right other leftEnds rightEnds same
  obtain ⟨-, kinds⟩ := same_lead _ t plain other depth left right same
  cases t with
  | branch otherTest otherTrue otherFalse =>
      obtain ⟨tested, inner, elseInner⟩ := branch_parts test whenTrue whenFalse plain
      obtain ⟨otherTested, otherInner, otherElse⟩ :=
        branch_parts otherTest otherTrue otherFalse other
      obtain ⟨name, rfl, named⟩ := plain_ident test tested
      obtain ⟨otherName, rfl, otherNamed⟩ := plain_ident otherTest otherTested
      rw [hung_branch depth name whenTrue whenFalse plain,
        hung_branch depth otherName otherTrue otherFalse other] at same
      simp only [List.append_assoc, List.append_cancel_left_eq] at same
      obtain ⟨rfl, onward⟩ :=
        name_cut name otherName _ _ named otherNamed (by simp; decide) (by simp; decide) same
      rw [List.append_cancel_left_eq] at onward
      have first := block_cut depth whenTrue otherTrue _ _ inner cuts otherInner onward
      subst first
      rw [else_cut depth whenFalse otherFalse left right elseInner elseCuts otherElse leftEnds
        rightEnds (List.append_cancel_left onward)]
  | _ => cases kinds

theorem loop_cuts_off (binding : Binding) (name : String) (iterable : Expr) (body : List Stmt)
    (plain : (Stmt.forOf binding name iterable body).Plain) (cuts : ∀ s ∈ body, CutsOff s) :
    CutsOff (.forOf binding name iterable body) := by
  intro depth t left right other leftEnds rightEnds same
  obtain ⟨-, kinds⟩ := same_lead _ t plain other depth left right same
  cases t with
  | forOf otherBinding otherName otherIterable otherBody =>
      obtain ⟨named, tested, inner⟩ := plain
      obtain ⟨otherNamed, otherTested, otherInner⟩ := other
      obtain ⟨walked, rfl, walkedNamed⟩ := plain_ident iterable tested
      obtain ⟨otherWalked, rfl, otherWalkedNamed⟩ := plain_ident otherIterable otherTested
      rw [hung_loop depth binding name walked body named walkedNamed,
        hung_loop depth otherBinding otherName otherWalked otherBody otherNamed
          otherWalkedNamed] at same
      simp only [List.append_assoc, List.append_cancel_left_eq] at same
      have bindings : binding = otherBinding := by
        cases binding <;> cases otherBinding <;> first | rfl | simp [Binding.word] at same
      subst bindings
      simp only [List.append_cancel_left_eq] at same
      obtain ⟨rfl, onward⟩ :=
        name_cut name otherName _ _ named otherNamed (by simp; decide) (by simp; decide) same
      rw [List.append_cancel_left_eq] at onward
      obtain ⟨rfl, last⟩ := name_cut walked otherWalked _ _ walkedNamed otherWalkedNamed
        (by simp; decide) (by simp; decide) onward
      rw [List.append_cancel_left_eq] at last
      rw [block_cut depth body otherBody left right ((all_plain_iff body).mp inner) cuts
        ((all_plain_iff otherBody).mp otherInner) last]
  | _ => cases kinds

mutual

theorem statement_cuts_off : ∀ s : Stmt, s.Plain → CutsOff s
  | .branch test whenTrue none, plain =>
      branch_cuts_off test whenTrue none plain (body_cuts_off whenTrue plain.2) nofun
  | .branch test whenTrue (some body), plain =>
      branch_cuts_off test whenTrue (some body) plain (body_cuts_off whenTrue plain.2.1)
        (by simpa using body_cuts_off body plain.2.2)
  | .forOf binding name iterable body, plain =>
      loop_cuts_off binding name iterable body plain (body_cuts_off body plain.2.2)
  | .expression value, plain => line_cuts_off _ plain rfl
  | .throw value, plain => line_cuts_off _ plain rfl
  | .return_ value, plain => line_cuts_off _ plain rfl
  | .declare binding name type init, plain => line_cuts_off _ plain rfl
  | .comment text, plain => line_cuts_off _ plain rfl

theorem body_cuts_off : ∀ body : List Stmt, AllPlain body → ∀ s ∈ body, CutsOff s
  | [], _ => nofun
  | s :: rest, ⟨own, later⟩ =>
      List.forall_mem_cons.mpr ⟨statement_cuts_off s own, body_cuts_off rest later⟩

end

theorem composed_rows (ss : List Stmt) (some_ : ss ≠ []) (plain : ∀ s ∈ ss, s.Plain) :
    '\n' :: (stack 0 (ss.map render)).toList = rows 0 ss ++ [] := by
  rw [rows_stack 0 ss some_ plain, List.append_nil]

theorem composed_nonempty (ss : List Stmt) (some_ : ss ≠ []) (plain : ∀ s ∈ ss, s.Plain) :
    stack 0 (ss.map render) ≠ "" :=
  stack_nonempty 0 _ (by simpa using some_)
    (by simpa using fun s member => plain_whole s (plain s member))

-- Statements of plain names are read back from their text.
theorem composed_injective (ss tt : List Stmt) (first : ∀ s ∈ ss, s.Plain)
    (second : ∀ t ∈ tt, t.Plain) :
    stack 0 (ss.map render) = stack 0 (tt.map render) ↔ ss = tt := by
  refine ⟨fun same => ?_, fun same => same ▸ rfl⟩
  by_cases none_ : ss = []
  · by_cases alsoNone : tt = []
    · rw [none_, alsoNone]
    · subst none_
      exact absurd same.symm (composed_nonempty tt alsoNone second)
  · by_cases alsoNone : tt = []
    · subst alsoNone
      exact absurd same (composed_nonempty ss none_ first)
    · have cuts := body_cuts_off ss ((all_plain_iff ss).mpr first)
      refine rows_cut 0 ss tt [] [] cuts second (.inl rfl) (.inl rfl) ?_
      rw [← composed_rows ss none_ first, ← composed_rows tt alsoNone second, same]

-- A statement behind a chain of branches, and the same one at the end of its last block.
def behindChain : List Stmt :=
  [.branch (.ident "done") [] (some [.branch (.ident "late") [.comment "", .return_ none] (some [])]),
    .forOf .const "row" (.ident "rows") [.expression (.ident "row")]]

def insideChain : List Stmt :=
  [.branch (.ident "done") [] (some [.branch (.ident "late") [.comment "", .return_ none]
    (some [.forOf .const "row" (.ident "rows") [.expression (.ident "row")]])])]

theorem moved_statement_differs :
    (∀ s ∈ behindChain, s.Plain) ∧ (∀ t ∈ insideChain, t.Plain) ∧
      stack 0 (behindChain.map render) ≠ stack 0 (insideChain.map render) := by
  have done : PlainName "done" := ⟨by decide, by decide⟩
  have late : PlainName "late" := ⟨by decide, by decide⟩
  have row : PlainName "row" := ⟨by decide, by decide⟩
  have rows : PlainName "rows" := ⟨by decide, by decide⟩
  have behind : ∀ s ∈ behindChain, s.Plain := by
    simp [behindChain, Plain, AllPlain, Expr.Plain, done, late, row, rows]
  have inside : ∀ t ∈ insideChain, t.Plain := by
    simp [insideChain, Plain, AllPlain, Expr.Plain, done, late, row, rows]
  refine ⟨behind, inside, ?_⟩
  rw [ne_eq, composed_injective behindChain insideChain behind inside]
  simp [behindChain, insideChain]

end ApiContract.Code
