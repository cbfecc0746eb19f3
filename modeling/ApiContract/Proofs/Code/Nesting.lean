import ApiContract.Proofs.Code.Indentation
import ApiContract.Proofs.Code.Strings

/-!
Statements put one below the other and moved in. A statement is never empty and never ends at a line
feed, so composing a list at one level and moving it in by another is composing it at both together,
and a statement in a block stands there as it is by itself, moved in by the levels around it.
-/

set_option autoImplicit false

namespace ApiContract.Code

theorem whole_append (first second : String) (noReturn : NoReturn first)
    (whole : WholeLines second.toList) : WholeLines (first ++ second).toList := by
  obtain ⟨nonempty, openEnd, later⟩ := whole
  rw [String.toList_append]
  refine ⟨by simp [nonempty], ?_, by simpa using ⟨noReturn, later⟩⟩
  rwa [List.getLast?_append_of_ne_nil _ nonempty]

theorem whole_ended (text : String) (noReturn : NoReturn text) : WholeLines (text ++ ";").toList :=
  whole_append text ";" noReturn (by decide)

theorem stack_whole (level : Nat) (texts : List String) (some_ : texts ≠ [])
    (whole : ∀ text ∈ texts, WholeLines text.toList) : WholeLines (stack level texts).toList := by
  induction texts with
  | nil => exact absurd rfl some_
  | cons text rest ih =>
      obtain ⟨own, later⟩ := List.forall_mem_cons.mp whole
      have moved := indent_whole level text own
      by_cases last : rest = []
      · subst last
        exact moved
      · rw [stack_cons level text rest last]
        exact whole_append _ _ ((no_return_append _ _).mpr ⟨moved.no_return, by decide⟩)
          (ih last later)

theorem line_chars (cs : List Char) :
    ∀ line ∈ Text.lines cs, ∀ c ∈ line, c ∈ cs ∧ c ≠ '\n' := by
  have behind (c : Char) (cs line : List Char) (each : ∀ d ∈ line, d ∈ cs ∧ d ≠ '\n') :
      ∀ d ∈ line, d ∈ c :: cs ∧ d ≠ '\n' :=
    fun d inner => ⟨List.mem_cons_of_mem c (each d inner).1, (each d inner).2⟩
  fun_induction Text.lines cs with
  | case1 => exact nofun
  | case2 rest ih =>
      exact List.forall_mem_cons.mpr ⟨nofun, fun line member => behind _ _ _ (ih line member)⟩
  | case3 rest ih =>
      exact List.forall_mem_cons.mpr
        ⟨nofun, fun line member => behind _ _ _ (behind _ _ _ (ih line member))⟩
  | case4 c rest feed _ whole ih => simpa using feed
  | case5 c rest feed _ first others whole ih =>
      rw [whole] at ih
      obtain ⟨own, later⟩ := List.forall_mem_cons.mp ih
      refine List.forall_mem_cons.mpr ⟨?_, fun line member => behind _ _ _ (later line member)⟩
      exact List.forall_mem_cons.mpr ⟨⟨List.mem_cons_self, feed⟩, behind _ _ _ own⟩

-- A line of a comment with its mark.
def commentLine (line : List Char) : String :=
  if line.isEmpty then "//" else "// " ++ String.ofList line

theorem comment_lines_text (text : String) :
    commentLines text = if text.isEmpty then "//"
      else Text.join "\n" ((Text.lines text.toList).map commentLine) :=
  rfl

theorem comment_line_whole (line : List Char) (noReturn : '\r' ∉ line) (noFeed : '\n' ∉ line) :
    WholeLines (commentLine line).toList := by
  rw [commentLine]
  split
  · decide
  · rename_i some_
    apply whole_append "// " _ (by decide)
    rw [String.toList_ofList]
    refine ⟨by simpa using some_, ?_, noReturn⟩
    exact fun last => noFeed (List.mem_of_getLast? last)

theorem stack_zero (texts : List String) : stack 0 texts = Text.join "\n" texts := by
  rw [stack, List.map_congr_left (g := id) fun text _ => indent_zero text, List.map_id]

theorem comment_whole (text : String) (noReturn : NoReturn text) :
    WholeLines (commentLines text).toList := by
  rw [comment_lines_text]
  split
  · decide
  · rename_i some_
    have cut : Text.lines text.toList ≠ [] := by
      rw [ne_eq, Text.lines_empty_iff]
      simpa using some_
    have each : ∀ line ∈ (Text.lines text.toList).map commentLine, WholeLines line.toList := by
      rw [List.forall_mem_map]
      intro line member
      have chars := line_chars text.toList line member
      exact comment_line_whole line (fun inner => noReturn (chars _ inner).1)
        (fun inner => (chars _ inner).2 rfl)
    rw [← stack_zero]
    exact stack_whole 0 _ (by simpa using cut) each

namespace Stmt

def isBranch : Stmt → Bool
  | .branch _ _ _ => true
  | _ => false

-- A single branch behind `else` is written without braces of its own.
def isChain : List Stmt → Bool
  | [s] => s.isBranch
  | _ => false

theorem otherwise_chain (s : Stmt) (chain : s.isBranch = true) : otherwise [s] = s.render := by
  cases s with
  | branch test whenTrue whenFalse => cases whenFalse <;> rw [otherwise, render]
  | _ => cases chain

theorem otherwise_block (body : List Stmt) (unchained : isChain body = false) :
    otherwise body = block body := by
  cases body with
  | nil => rfl
  | cons s rest =>
      refine otherwise.eq_4 s rest ?_
      rintro test whenTrue whenFalse rfl rfl
      cases unchained

theorem block_text (body : List Stmt) (some_ : body ≠ []) :
    block body = "\x7b\n" ++ stack 1 (body.map render) ++ "\n\x7d" := by
  obtain ⟨s, rest, rfl⟩ := List.exists_cons_of_ne_nil some_
  rw [block, render_all_map, List.map_cons]

end Stmt

open Stmt

theorem block_whole (body : List Stmt) (each : ∀ s ∈ body, WholeLines s.render.toList) :
    WholeLines (block body).toList := by
  by_cases none_ : body = []
  · subst none_
    decide
  · rw [block_text body none_]
    have inner := stack_whole 1 (body.map render) (by simpa using none_) (by simpa using each)
    have open_ : NoReturn "\x7b\n" := by decide
    exact whole_append _ _ ((no_return_append _ _).mpr ⟨open_, inner.no_return⟩)
      (by decide)

theorem otherwise_whole (body : List Stmt) (each : ∀ s ∈ body, WholeLines s.render.toList) :
    WholeLines (otherwise body).toList := by
  cases chain : isChain body with
  | false =>
      rw [otherwise_block body chain]
      exact block_whole body each
  | true =>
      obtain ⟨s, rfl⟩ : ∃ s, body = [s] := by
        match body, chain with
        | [s], _ => exact ⟨s, rfl⟩
      rw [otherwise_chain s chain]
      exact each s (List.mem_singleton_self s)

theorem binding_no_return (binding : Binding) : NoReturn binding.word := by
  cases binding <;> decide

theorem init_suffix_no_return (init : Option Expr) (own : NoReturns (valueStrings init)) :
    NoReturn (initSuffix init) := by
  cases init with
  | none => decide
  | some value =>
      have equals : NoReturn " = " := by decide
      simpa [initSuffix, equals] using expr_no_return value own

theorem head_no_return (test : Expr) (own : NoReturns test.strings) :
    NoReturn ("if (" ++ test.render ++ ") ") := by
  have marks : NoReturn "if (" ∧ NoReturn ") " := by decide
  simp [marks, expr_no_return test own]

theorem loop_no_return (binding : Binding) (name : String) (iterable : Expr) (named : NoReturn name)
    (own : NoReturns iterable.strings) :
    NoReturn ("for (" ++ binding.word ++ " " ++ name ++ " of " ++ iterable.render ++ ") ") := by
  have marks : NoReturn "for (" ∧ NoReturn " " ∧ NoReturn " of " ∧ NoReturn ") " := by decide
  simp [marks, binding_no_return binding, named, expr_no_return iterable own]

mutual

theorem statement_whole : ∀ s : Stmt, NoReturns s.strings → WholeLines s.render.toList
  | .expression value, own => by
      rw [render]
      exact whole_ended _ (expr_no_return value own)
  | .throw value, own => by
      have word : NoReturn "throw " := by decide
      rw [render]
      exact whole_ended _ ((no_return_append _ _).mpr ⟨word, expr_no_return value own⟩)
  | .return_ none, _ => by decide
  | .return_ (some value), own => by
      have word : NoReturn "return " := by decide
      rw [render]
      exact whole_ended _ ((no_return_append _ _).mpr ⟨word, expr_no_return value own⟩)
  | .declare binding name type init, own => by
      obtain ⟨named, more⟩ := (no_returns_cons name _).mp own
      obtain ⟨typed, valued⟩ := (no_returns_append _ _).mp more
      have blank : NoReturn " " := by decide
      rw [render]
      apply whole_ended
      simp [binding_no_return binding, blank, named, type_suffix_no_return type typed,
        init_suffix_no_return init valued]
  | .branch test whenTrue none, own => by
      obtain ⟨tested, first⟩ : NoReturns test.strings ∧ NoReturns (bodyStrings whenTrue) := by
        simpa [strings] using own
      rw [render, String.append_empty]
      exact whole_append _ _ (head_no_return test tested)
        (block_whole whenTrue (body_whole whenTrue first))
  | .branch test whenTrue (some body), own => by
      obtain ⟨tested, first, second⟩ : NoReturns test.strings ∧ NoReturns (bodyStrings whenTrue) ∧
          NoReturns (bodyStrings body) := by
        simpa [strings] using own
      have yes := block_whole whenTrue (body_whole whenTrue first)
      have else_ : NoReturn " else " := by decide
      rw [render, ← String.append_assoc]
      refine whole_append _ _ ?_ (otherwise_whole body (body_whole body second))
      exact (no_return_append _ _).mpr
        ⟨(no_return_append _ _).mpr ⟨head_no_return test tested, yes.no_return⟩, else_⟩
  | .forOf binding name iterable body, own => by
      obtain ⟨named, more⟩ := (no_returns_cons name _).mp own
      obtain ⟨walked, inner⟩ := (no_returns_append _ _).mp more
      rw [render]
      exact whole_append _ _ (loop_no_return binding name iterable named walked)
        (block_whole body (body_whole body inner))
  | .comment text, own => comment_whole text (own text (List.mem_singleton_self text))

theorem body_whole : ∀ body : List Stmt, NoReturns (bodyStrings body) →
    ∀ s ∈ body, WholeLines s.render.toList
  | [], _ => nofun
  | s :: rest, own => by
      obtain ⟨first, later⟩ := (no_returns_append _ _).mp own
      exact List.forall_mem_cons.mpr ⟨statement_whole s first, body_whole rest later⟩

end

-- A text as lines of its own within another one.
def OwnLines (part whole : String) : Prop :=
  ∃ before after, whole = before ++ part ++ after ∧
    (before = "" ∨ before.toList.getLast? = some '\n') ∧
    (after = "" ∨ after.toList.head? = some '\n')

theorem own_lines_refl (text : String) : OwnLines text text :=
  ⟨"", "", by simp, .inl rfl, .inl rfl⟩

theorem own_lines_trans (part middle whole : String) (inner : OwnLines part middle)
    (outer : OwnLines middle whole) : OwnLines part whole := by
  obtain ⟨before, after, rfl, starts, ends⟩ := inner
  obtain ⟨front, back, rfl, opens, closes⟩ := outer
  refine ⟨front ++ before, after ++ back, by simp only [String.append_assoc], ?_, ?_⟩
  · rcases starts with rfl | feed
    · simpa using opens
    · right
      rw [String.toList_append, List.getLast?_append, feed, Option.some_or]
  · rcases ends with rfl | feed
    · simpa using closes
    · right
      rw [String.toList_append, List.head?_append, feed, Option.some_or]

theorem own_lines_above (first second : String) : OwnLines first (first ++ "\n" ++ second) :=
  ⟨"", "\n" ++ second, by simp [String.append_assoc], .inl rfl, .inr (by simp)⟩

theorem own_lines_below (first second : String) : OwnLines second (first ++ "\n" ++ second) :=
  ⟨first ++ "\n", "", by simp, .inr (by simp), .inl rfl⟩

theorem stacked_own_lines (level : Nat) (texts : List String) (text : String)
    (member : text ∈ texts) : OwnLines (indent level text) (stack level texts) := by
  induction texts with
  | nil => cases member
  | cons first rest ih =>
      by_cases last : rest = []
      · subst last
        rw [List.mem_singleton.mp member]
        exact own_lines_refl _
      · rw [stack_cons level first rest last]
        rcases List.mem_cons.mp member with rfl | later
        · exact own_lines_above _ _
        · exact own_lines_trans _ _ _ (ih later) (own_lines_below _ _)

namespace Stmt

mutual

-- The bodies of a statement that stand in braces, those of an `else if` among them.
def blocks : Stmt → List (List Stmt)
  | .branch _ whenTrue none => [whenTrue]
  | .branch _ whenTrue (some body) => whenTrue :: elseBlocks body
  | .forOf _ _ _ body => [body]
  | _ => []

def elseBlocks : List Stmt → List (List Stmt)
  | [s] => if s.isBranch then blocks s else [[s]]
  | body => [body]

end

end Stmt

-- A statement that stands in a list, with as many blocks around it.
inductive Nested (s : Stmt) : Nat → List Stmt → Prop where
  | here (list : List Stmt) (member : s ∈ list) : Nested s 0 list
  | inside (depth : Nat) (list : List Stmt) (outer : Stmt) (body : List Stmt) (member : outer ∈ list)
      (braced : body ∈ outer.blocks) (inner : Nested s depth body) : Nested s (depth + 1) list

theorem body_strings_all (body : List Stmt) (own : NoReturns (bodyStrings body)) :
    ∀ s ∈ body, NoReturns s.strings := by
  induction body with
  | nil => exact nofun
  | cons s rest ih =>
      obtain ⟨first, later⟩ := (no_returns_append _ _).mp own
      exact List.forall_mem_cons.mpr ⟨first, ih later⟩

-- A body of a statement as it is written, with the text of the statement around it.
structure Encloses (text : String) (strings : List String) (body : List Stmt) : Prop where
  written : ∃ head tail, text = head ++ block body ++ tail
  kept : NoReturns strings → ∀ s ∈ body, NoReturns s.strings

theorem encloses_within (text : String) (strings : List String) (body : List Stmt)
    (within : Encloses text strings body) (head tail : String) (more : List String)
    (fewer : NoReturns more → NoReturns strings) : Encloses (head ++ text ++ tail) more body := by
  obtain ⟨⟨before, after, rfl⟩, kept⟩ := within
  exact ⟨⟨head ++ before, after ++ tail, by simp only [String.append_assoc]⟩,
    fun own => kept (fewer own)⟩

theorem encloses_block (body : List Stmt) : Encloses (block body) (bodyStrings body) body :=
  ⟨⟨"", "", by simp⟩, body_strings_all body⟩

mutual

theorem blocks_enclosed : ∀ (outer : Stmt) (body : List Stmt), body ∈ outer.blocks →
    Encloses outer.render outer.strings body
  | .branch test whenTrue none, body, member => by
      rw [blocks, List.mem_singleton] at member
      subst member
      rw [render]
      exact encloses_within _ _ _ (encloses_block body) _ "" _ (by simp [strings])
  | .branch test whenTrue (some otherBody), body, member => by
      rw [blocks, List.mem_cons] at member
      rw [render]
      rcases member with rfl | member
      · exact encloses_within _ _ _ (encloses_block body) _ _ _ (by simp +contextual [strings])
      · have within := encloses_within _ _ _ (else_blocks_enclosed otherBody body member)
          ("if (" ++ test.render ++ ") " ++ block whenTrue ++ " else ") ""
          (strings (.branch test whenTrue (some otherBody))) (by simp +contextual [strings])
        simpa [String.append_assoc] using within
  | .forOf binding name iterable inner, body, member => by
      rw [blocks, List.mem_singleton] at member
      subst member
      have within := encloses_within _ _ _ (encloses_block body)
        ("for (" ++ binding.word ++ " " ++ name ++ " of " ++ iterable.render ++ ") ") ""
        (strings (.forOf binding name iterable body)) (by simp +contextual [strings])
      simpa [render] using within
  | .expression _, _, member => nomatch member
  | .throw _, _, member => nomatch member
  | .return_ _, _, member => nomatch member
  | .declare _ _ _ _, _, member => nomatch member
  | .comment _, _, member => nomatch member

theorem else_blocks_enclosed : ∀ (whole body : List Stmt), body ∈ elseBlocks whole →
    Encloses (otherwise whole) (bodyStrings whole) body
  | [], body, member => by
      rw [elseBlocks, List.mem_singleton] at member
      · subst member
        exact encloses_block []
      · exact nofun
  | [s], body, member => by
      rw [elseBlocks] at member
      cases chain : s.isBranch with
      | true =>
          rw [if_pos chain] at member
          have inner := blocks_enclosed s body member
          rw [otherwise_chain s chain]
          simpa [bodyStrings] using inner
      | false =>
          rw [if_neg (by simp [chain]), List.mem_singleton] at member
          subst member
          rw [otherwise_block [s] chain]
          exact encloses_block [s]
  | s :: next :: rest, body, member => by
      rw [elseBlocks, List.mem_singleton] at member
      · subst member
        rw [otherwise_block _ rfl]
        exact encloses_block _
      · exact nofun

end

theorem indent_encloses (level : Nat) (outer : Stmt) (body : List Stmt) (some_ : body ≠ [])
    (noReturn : NoReturns outer.strings) (member : body ∈ outer.blocks) :
    OwnLines (stack (level + 1) (body.map render)) (indent level outer.render) := by
  obtain ⟨⟨head, tail, text⟩, kept⟩ := blocks_enclosed outer body member
  have each : ∀ text ∈ body.map render, WholeLines text.toList := by
    simpa using fun s inner => statement_whole s (kept noReturn s inner)
  have inner := stack_whole 1 (body.map render) (by simpa using some_) each
  have free : NoReturn outer.render := (statement_whole outer noReturn).no_return
  have parts : outer.render =
      (head ++ "\x7b") ++ "\n" ++ (stack 1 (body.map render) ++ "\n" ++ ("\x7d" ++ tail)) := by
    rw [text, block_text body some_, ← String.toList_inj]
    simp
  rw [parts] at free ⊢
  have opens : NoReturn (head ++ "\x7b") :=
    ((no_return_append _ _).mp ((no_return_append _ _).mp free).1).1
  rw [indent_below level _ _ (by simp) opens (by simp),
    indent_below level _ _ inner.open_end inner.no_return (by simp), indent_stack 1 level _ each,
    Nat.add_comm 1 level]
  exact own_lines_trans _ _ _ (own_lines_above _ _) (own_lines_below _ _)

theorem nested_nonempty (s : Stmt) (depth : Nat) (list : List Stmt) (nested : Nested s depth list) :
    list ≠ [] := by
  cases nested with
  | here _ member => exact List.ne_nil_of_mem member
  | inside _ _ _ _ member => exact List.ne_nil_of_mem member

theorem nested_own_lines (s : Stmt) (depth : Nat) (list : List Stmt) (nested : Nested s depth list) :
    ∀ level, (∀ t ∈ list, NoReturns t.strings) →
      OwnLines (indent (level + depth) s.render) (stack level (list.map render)) := by
  induction nested with
  | here list member =>
      intro level noReturn
      exact stacked_own_lines level _ _ (List.mem_map_of_mem member)
  | inside depth list outer body member braced inner ih =>
      intro level noReturn
      have own := noReturn outer member
      have some_ := nested_nonempty s depth body inner
      have below := ih (level + 1) ((blocks_enclosed outer body braced).kept own)
      have within := indent_encloses level outer body some_ own braced
      have around := stacked_own_lines level (list.map render) _ (List.mem_map_of_mem member)
      rw [Nat.add_right_comm, Nat.add_assoc] at below
      exact own_lines_trans _ _ _ below (own_lines_trans _ _ _ within around)

theorem nested_no_returns (s : Stmt) (depth : Nat) (list : List Stmt) (nested : Nested s depth list)
    (noReturn : ∀ t ∈ list, NoReturns t.strings) : NoReturns s.strings := by
  induction nested with
  | here list member => exact noReturn _ member
  | inside depth list outer body member braced inner ih =>
      exact ih ((blocks_enclosed outer body braced).kept (noReturn outer member))

theorem composed_and_indented (ss : List Stmt) (a b : Nat)
    (noReturn : ∀ s ∈ ss, ∀ text ∈ s.strings, '\r' ∉ text.toList) :
    indent b (stack a (ss.map render)) = stack (a + b) (ss.map render) ∧
      ∀ depth s, Nested s depth ss →
        OwnLines (indent (a + depth) s.render) (stack a (ss.map render)) ∧
          Text.lines (indent (a + depth) s.render).toList =
            (Text.lines s.render.toList).map fun line =>
              if line.isEmpty then [] else List.replicate (2 * (a + depth)) ' ' ++ line := by
  refine ⟨indent_stack a b _ ?_, fun depth s nested =>
    ⟨nested_own_lines s depth ss nested a noReturn, indent_lines _ _ ?_⟩⟩
  · simpa using fun s member => statement_whole s (noReturn s member)
  · exact statement_whole s (nested_no_returns s depth ss nested noReturn)

-- Two blocks around the last statement; the one behind `else` is written without braces.
def polling : List Stmt :=
  [.comment "again\n\nuntil it holds",
    .forOf .const "step" (.ident "steps")
      [.branch (.ident "done") [] (some [.branch (.raw "early\n|| late") [.return_ none] none])]]

theorem polling_moved_in :
    (∀ s ∈ polling, ∀ text ∈ s.strings, '\r' ∉ text.toList) ∧
      indent 3 (stack 1 (polling.map render)) = stack 4 (polling.map render) ∧
      OwnLines (indent 3 "return;") (stack 1 (polling.map render)) := by
  have noReturn : ∀ s ∈ polling, ∀ text ∈ s.strings, '\r' ∉ text.toList := by
    simp [polling, strings, bodyStrings, valueStrings, Expr.strings]
  obtain ⟨moved, nested⟩ := composed_and_indented polling 1 3 noReturn
  refine ⟨noReturn, moved, ?_⟩
  have text : (Stmt.return_ none).render = "return;" := by rw [render]
  rw [← text]
  refine (nested 2 (.return_ none) (.inside 1 _ _ _ (List.mem_cons_of_mem _ List.mem_cons_self)
    List.mem_cons_self (.inside 0 _ _ [.return_ none] List.mem_cons_self ?_
      (.here _ List.mem_cons_self)))).1
  simp [blocks, elseBlocks, isBranch]

end ApiContract.Code
