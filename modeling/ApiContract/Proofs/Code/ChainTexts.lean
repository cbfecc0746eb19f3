import ApiContract.Proofs.Code.Chains
import ApiContract.Proofs.Code.Phrases
import ApiContract.Proofs.Text.Lines

/-!
The texts of chains of calls, constructions and accesses. Two of them with one text are read as one
tree, so they are the same but for which argument lists belong to a `new`. A text stands for one
chain alone when no chain in it has lists of both kinds.
-/

set_option autoImplicit false

namespace ApiContract.Grammar

open Code

-- An expression of names, calls, constructions, accesses, `!`, `typeof` and `await` alone.
inductive OfChains : Expr → Prop where
  | ident (name : String) (identifier : Name.isIdentifier name = true)
      (free : Name.isReservedWord name = false) : OfChains (.ident name)
  | call (callee : Expr) (args : List Expr) (ofCallee : OfChains callee)
      (ofArgs : ∀ a ∈ args, OfChains a) : OfChains (.call callee args)
  | construct (callee : Expr) (args : List Expr) (ofCallee : OfChains callee)
      (ofArgs : ∀ a ∈ args, OfChains a) : OfChains (.construct callee args)
  | member (target : Expr) (property : String) (optional : Bool) (ofTarget : OfChains target)
      (identifier : Name.isIdentifier property = true) :
      OfChains (.member target property optional)
  | index (target key : Expr) (ofTarget : OfChains target) (ofKey : OfChains key) :
      OfChains (.index target key)
  | unary (op : UnaryOp) (e : Expr) (plain : op ≠ .neg) (inner : OfChains e) :
      OfChains (.unary op e)
  | await (e : Expr) (inner : OfChains e) : OfChains (.await e)

-- A text that can stand behind any chain.
structure Linked (text : String) (us : List Token) : Prop where
  apart : ∀ rest, Breaks (text.toList ++ rest)
  cut : ∀ rest, Breaks rest → tokens (text.toList ++ rest) = (tokens rest).map (us ++ ·)

theorem spelled_linked (text suffix : String) (ts us : List Token) (spelled : Spelled text ts)
    (linked : Linked suffix us) : Spelled (text ++ suffix) (ts ++ us) := by
  refine ⟨spelled.opens.append suffix, ?_⟩
  intro rest breaks
  rw [String.toList_append, List.append_assoc, spelled.cut _ (linked.apart rest),
    linked.cut rest breaks]
  simp [Function.comp_def]

theorem linked_property (optional : Bool) (property : String)
    (identifier : Name.isIdentifier property = true) :
    Linked ((if optional then "?." else ".") ++ property)
      [.mark (if optional then "?." else "."), .word property] := by
  have word (rest : List Char) (breaks : Breaks rest) :=
    tokens_word property rest identifier breaks
  cases optional with
  | true =>
      refine ⟨fun rest => ?_, fun rest breaks => ?_⟩
      · rw [String.toList_append, List.append_assoc]
        exact breaks_cons '?' _ (by decide)
      have mark := tokens_mark "?." '?' ['.'] (property.toList ++ rest) rfl rfl rfl rfl
      rw [word rest breaks] at mark
      simpa [Function.comp_def] using mark
  | false =>
      refine ⟨fun rest => ?_, fun rest breaks => ?_⟩
      · rw [String.toList_append, List.append_assoc]
        exact breaks_cons '.' _ (by decide)
      obtain ⟨c, others, spelled, start, -⟩ := Name.identifier_parts property identifier
      have single : '.' ≠ c := by
        rintro rfl
        cases start
      have alone : nextMark ('.' :: (property.toList ++ rest)) = some "." := by
        simp [nextMark, marks, spelled, single]
      have mark := tokens_mark "." '.' [] (property.toList ++ rest) rfl rfl rfl alone
      rw [word rest breaks] at mark
      simpa [Function.comp_def] using mark

theorem linked_key (text : String) (ts : List Token) (spelled : Spelled text ts) :
    Linked ("[" ++ text ++ "]") (.mark "[" :: (ts ++ [.mark "]"])) := by
  have chars (rest : List Char) : ("[" ++ text ++ "]").toList ++ rest =
      '[' :: (text.toList ++ ']' :: rest) := by
    simp
  have opens : Lone '[' "[" := lone_mark "[" '[' rfl rfl rfl (fun _ => rfl)
  have closes : Lone ']' "]" := lone_mark "]" ']' rfl rfl rfl (fun _ => rfl)
  refine ⟨fun rest => ?_, fun rest breaks => ?_⟩
  · rw [chars]
    exact breaks_cons '[' _ (by decide)
  · rw [chars]
    exact enclosed_cut '[' ']' "[" "]" text ts rest opens closes (by decide) spelled

-- A text that is read as the tree of an expression wherever no chain goes on behind it.
def ToldWhole (text : String) (e : Expr) : Prop :=
  ∃ ts, Spelled text ts ∧
    ∀ rest, Rests rest → Leads .operand (ts ++ rest) (settled 0 e) rest

-- A text that is read as the tree of an expression and gone on from, behind any number of `new`.
def ToldChain (text : String) (e : Expr) : Prop :=
  ∃ ts, Spelled text ts ∧ ∀ news rest whole behind,
    Leads (.behind (news - calls e) (settled news e)) rest whole behind →
      Leads (.head news) (ts ++ rest) whole behind

theorem chain_whole (text : String) (e : Expr) (told : ToldChain text e) : ToldWhole text e := by
  obtain ⟨ts, spelled, goesOn⟩ := told
  refine ⟨ts, spelled, fun rest rests => ?_⟩
  have none : 0 - calls e = 0 := Nat.zero_sub _
  have stops : Leads (.behind (0 - calls e) (settled 0 e)) rest (settled 0 e) rest := by
    rw [none]
    exact .stop _ rest rests
  have head := goesOn 0 rest _ _ stops
  obtain ⟨t, us, same, plain, -⟩ := head_first 0 _ _ _ head
  rw [same] at head ⊢
  exact .bare t us rest _ plain head

theorem chain_name (name : String) (identifier : Name.isIdentifier name = true)
    (free : Name.isReservedWord name = false) : ToldChain name (.ident name) := by
  refine ⟨_, spelled_name name identifier, fun news rest whole behind further => ?_⟩
  have other : name ≠ "new" := by
    rintro rfl
    cases free
  have plain : prefixing (.word name) = none := by
    have typeOf := reserved_free name "typeof" free (by decide)
    have await := reserved_free name "await" free (by decide)
    simp [prefixing, typeOf, await]
  exact .name news name rest behind whole other plain further

-- What stands in parentheses is read by itself, whatever `new` stand in front of them.
theorem chain_parens (text : String) (e : Expr) (told : ToldWhole text e) (uncalled : calls e = 0)
    (apart : ∀ news, settled news e = settled 0 e) : ToldChain ("(" ++ text ++ ")") e := by
  obtain ⟨ts, spelled, reads⟩ := told
  refine ⟨_, spelled_parens text ts spelled, fun news rest whole behind further => ?_⟩
  rw [uncalled, Nat.sub_zero, apart news] at further
  rw [List.cons_append, List.append_assoc]
  refine .parenthesised news _ _ _ _ _ (reads _ ?_) further
  rintro t ⟨rfl⟩
  decide

theorem chain_linked (text suffix : String) (us : List Token) (e longer : Expr)
    (told : ToldChain text e) (linked : Linked suffix us)
    (goesOn : ∀ news rest whole behind,
      Leads (.behind (news - calls longer) (settled news longer)) rest whole behind →
        Leads (.behind (news - calls e) (settled news e)) (us ++ rest) whole behind) :
    ToldChain (text ++ suffix) longer := by
  obtain ⟨ts, spelled, reads⟩ := told
  refine ⟨_, spelled_linked text suffix ts us spelled linked, ?_⟩
  intro news rest whole behind further
  rw [List.append_assoc]
  exact reads news _ whole behind (goesOn news rest whole behind further)

theorem chain_property (text property : String) (optional : Bool) (e : Expr)
    (told : ToldChain text e) (identifier : Name.isIdentifier property = true) :
    ToldChain (text ++ ((if optional then "?." else ".") ++ property))
      (.member e property optional) := by
  refine chain_linked text _ _ e _ told (linked_property optional property identifier) ?_
  intro news rest whole behind further
  refine .member _ _ optional property _ whole rest behind ?_ further
  cases optional <;> rfl

theorem chain_key (text keyText : String) (e key : Expr) (told : ToldChain text e)
    (keyTold : ToldWhole keyText key) :
    ToldChain (text ++ ("[" ++ keyText ++ "]")) (.index e key) := by
  obtain ⟨ts, spelled, reads⟩ := keyTold
  refine chain_linked text _ _ e _ told (linked_key keyText ts spelled) ?_
  intro news rest whole behind further
  rw [List.cons_append, List.append_assoc]
  refine .index _ _ _ _ whole _ _ behind rfl (reads _ ?_) further
  rintro t ⟨rfl⟩
  decide

-- The text behind an argument, up to the end of its list.
def tailText (args : List Expr) : List Char :=
  args.flatMap (fun a => ", ".toList ++ a.render.toList) ++ [')']

theorem tail_breaks (args : List Expr) (rest : List Char) : Breaks (tailText args ++ rest) := by
  cases args with
  | nil => exact breaks_cons ')' rest (by decide)
  | cons a args => exact breaks_cons ',' _ (by decide)

-- By induction on the arguments that are still to come.
theorem tail_told (args : List Expr) (told : ∀ a ∈ args, ToldWhole a.render a) :
    ∃ us, (∀ rest, tokens (tailText args ++ rest) = (tokens rest).map (us ++ ·)) ∧
      (∀ rest, Rests (us ++ rest)) ∧ ∀ news callee done rest whole behind,
        Leads (.behind (news - 1) (applied news callee (done ++ settledAll args))) rest whole behind →
          Leads (.listed news callee done) (us ++ rest) whole behind := by
  induction args with
  | nil =>
      refine ⟨[.mark ")"], fun rest => ?_, ?_, ?_⟩
      · exact lone_close rest
      · rintro rest t ⟨rfl⟩
        decide
      · intro news callee done rest whole behind further
        rw [settledAll, List.append_nil] at further
        exact .close news _ callee whole done rest behind rfl further
  | cons a args ih =>
      obtain ⟨⟨ts, spelled, reads⟩, others⟩ := List.forall_mem_cons.mp told
      obtain ⟨us, cut, rests, goesOn⟩ := ih others
      refine ⟨.mark "," :: (ts ++ us), fun rest => ?_, ?_, ?_⟩
      · have text : tailText (a :: args) ++ rest =
            ',' :: ' ' :: (a.render.toList ++ (tailText args ++ rest)) := by
          simp [tailText]
        have comma : Lone ',' "," := lone_mark "," ',' rfl rfl rfl (fun _ => rfl)
        rw [text, comma, tokens_blank, spelled.cut _ (tail_breaks args rest), cut]
        simp [Function.comp_def]
      · rintro rest t ⟨rfl⟩
        decide
      · intro news callee done rest whole behind further
        rw [List.cons_append, List.append_assoc]
        refine .more news _ callee _ whole done _ _ behind rfl (reads _ (rests rest)) ?_
        refine goesOn news callee _ rest whole behind ?_
        rwa [List.append_assoc]

def argsText (args : List Expr) : String :=
  "(" ++ Text.join ", " (args.map Expr.render) ++ ")"

theorem args_told (args : List Expr) (told : ∀ a ∈ args, ToldWhole a.render a) :
    ∃ us, Linked (argsText args) us ∧
      ∀ news callee rest whole behind,
        Leads (.behind (news - 1) (applied news callee (settledAll args))) rest whole behind →
          Leads (.behind news callee) (us ++ rest) whole behind := by
  have apart (text : List Char) : Breaks ('(' :: text) := breaks_cons '(' text (by decide)
  cases args with
  | nil =>
      refine ⟨[.mark "(", .mark ")"], ⟨fun rest => apart _, fun rest breaks => ?_⟩, ?_⟩
      · have both := lone_open (')' :: rest)
        rw [lone_close] at both
        simpa [argsText, Text.join, Function.comp_def] using both
      · intro news callee rest whole behind further
        exact .noArgs news _ callee whole rest behind rfl further
  | cons a args =>
      obtain ⟨⟨ts, spelled, reads⟩, others⟩ := List.forall_mem_cons.mp told
      obtain ⟨us, cut, rests, goesOn⟩ := tail_told args others
      have text (rest : List Char) : (argsText (a :: args)).toList ++ rest =
          '(' :: (a.render.toList ++ (tailText args ++ rest)) := by
        simp [argsText, Text.join_chars, tailText, List.flatMap_map]
      refine ⟨.mark "(" :: (ts ++ us), ⟨fun rest => ?_, fun rest breaks => ?_⟩, ?_⟩
      · rw [text]
        exact apart _
      · rw [text, lone_open, spelled.cut _ (tail_breaks args rest), cut]
        simp [Function.comp_def]
      · intro news callee rest whole behind further
        rw [List.cons_append, List.append_assoc]
        exact .args news _ callee _ whole _ _ behind rfl (reads _ (rests rest))
          (goesOn news callee _ rest whole behind further)

theorem chain_call (text : String) (callee : Expr) (args : List Expr)
    (told : ToldChain text callee) (argsTold : ∀ a ∈ args, ToldWhole a.render a) :
    ToldChain (text ++ argsText args) (.call callee args) := by
  obtain ⟨us, linked, goesOn⟩ := args_told args argsTold
  refine chain_linked text _ us callee _ told linked ?_
  intro news rest whole behind further
  refine goesOn _ _ rest whole behind ?_
  rwa [calls, Nat.sub_add_eq, settled] at further

theorem chain_construct (text : String) (callee : Expr) (args : List Expr)
    (told : ToldChain text callee) (argsTold : ∀ a ∈ args, ToldWhole a.render a) :
    ToldChain ("new " ++ (text ++ argsText args)) (.construct callee args) := by
  obtain ⟨us, linked, goesOn⟩ := args_told args argsTold
  obtain ⟨ts, spelled, reads⟩ := told
  have whole := spelled_keyword "new" _ _ (by decide) (spelled_linked text _ ts us spelled linked)
  refine ⟨_, whole, fun news rest whole behind further => ?_⟩
  rw [List.cons_append, List.append_assoc]
  refine .new news _ behind whole (reads (news + 1) _ whole behind ?_)
  refine goesOn _ _ rest whole behind ?_
  have waiting : news + 1 - calls callee - 1 = news - calls callee := by
    omega
  rwa [calls, settled, ← waiting] at further

theorem whole_signed (sign text : String) (t : Token) (build : Expr → Expr) (e : Expr)
    (told : ToldWhole text e) (signed : prefixing t = some build)
    (spelled : ∀ ts, Spelled text ts → Spelled (sign ++ text) (t :: ts))
    (kept : settled 0 (build e) = build (settled 0 e)) : ToldWhole (sign ++ text) (build e) := by
  obtain ⟨ts, inner, reads⟩ := told
  refine ⟨t :: ts, spelled ts inner, fun rest rests => ?_⟩
  rw [kept]
  exact .built t build _ rest _ signed (reads rest rests)

theorem chains_strong (e : Expr) (chains : OfChains e) : Expr.prefixed ≤ e.strength := by
  cases chains with
  | unary | await => exact Nat.le_refl Expr.prefixed
  | _ => exact show Expr.prefixed ≤ Expr.primary by decide

theorem chains_unwrapped (e : Expr) (chains : OfChains e) (least : Nat)
    (atMost : least ≤ Expr.prefixed) : decide (e.strength < least) = false :=
  decide_eq_false (Nat.not_lt_of_le (Nat.le_trans atMost (chains_strong e chains)))

theorem render_args_of (args : List Expr) (chains : ∀ a ∈ args, OfChains a) :
    Expr.renderArgs args = args.map Expr.render := by
  induction args with
  | nil => rw [Expr.renderArgs, List.map_nil]
  | cons a args ih =>
      obtain ⟨ofFirst, ofOthers⟩ := List.forall_mem_cons.mp chains
      rw [Expr.renderArgs, chains_unwrapped a ofFirst _ (by decide), ih ofOthers]
      rfl

theorem call_text (callee : Expr) (args : List Expr) (chains : ∀ a ∈ args, OfChains a) :
    (Expr.call callee args).render = primaryText callee ++ argsText args := by
  have text : (Expr.call callee args).render =
      primaryText callee ++ "(" ++ Text.join ", " (Expr.renderArgs args) ++ ")" := rfl
  rw [text, render_args_of args chains, argsText]
  simp only [String.append_assoc]

theorem construct_text (callee : Expr) (args : List Expr) (chains : ∀ a ∈ args, OfChains a) :
    (Expr.construct callee args).render = "new " ++ (primaryText callee ++ argsText args) := by
  have text : (Expr.construct callee args).render =
      "new " ++ primaryText callee ++ "(" ++ Text.join ", " (Expr.renderArgs args) ++ ")" := rfl
  rw [text, render_args_of args chains, argsText]
  simp only [String.append_assoc]

theorem member_text (target : Expr) (property : String) (optional : Bool) :
    (Expr.member target property optional).render =
      primaryText target ++ ((if optional then "?." else ".") ++ property) :=
  String.append_assoc

theorem index_text (target key : Expr) :
    (Expr.index target key).render = primaryText target ++ ("[" ++ key.render ++ "]") := by
  have text : (Expr.index target key).render =
      primaryText target ++ "[" ++ key.render ++ "]" := rfl
  rw [text]
  simp only [String.append_assoc]

-- A chain is told from its own text, anything else from its text in parentheses.
theorem told_primary (e : Expr) (chain : ToldChain e.render e) (strong : e.strength = Expr.primary) :
    ToldWhole e.render e ∧ ToldChain (primaryText e) e := by
  rw [primaryText, strong, decide_eq_false (Nat.lt_irrefl _)]
  exact ⟨chain_whole e.render e chain, chain⟩

theorem told_prefixed (e : Expr) (whole : ToldWhole e.render e) (strong : e.strength = Expr.prefixed)
    (uncalled : calls e = 0) (apart : ∀ news, settled news e = settled 0 e) :
    ToldWhole e.render e ∧ ToldChain (primaryText e) e := by
  have weak : Expr.prefixed < Expr.primary := by
    decide
  rw [primaryText, strong, decide_eq_true weak]
  exact ⟨whole, chain_parens e.render e whole uncalled apart⟩

-- By induction on the expression: its text is read as its tree, by itself and in front of a chain.
theorem chains_told (e : Expr) (chains : OfChains e) :
    ToldWhole e.render e ∧ ToldChain (primaryText e) e := by
  induction chains with
  | ident name identifier free =>
      refine told_primary _ ?_ rfl
      rw [Expr.render]
      exact chain_name name identifier free
  | call callee args ofCallee ofArgs calleeIh argsIh =>
      refine told_primary _ ?_ rfl
      rw [call_text callee args ofArgs]
      exact chain_call _ callee args calleeIh.2 (fun a member => (argsIh a member).1)
  | construct callee args ofCallee ofArgs calleeIh argsIh =>
      refine told_primary _ ?_ rfl
      rw [construct_text callee args ofArgs]
      exact chain_construct _ callee args calleeIh.2 (fun a member => (argsIh a member).1)
  | member target property optional ofTarget identifier ih =>
      refine told_primary _ ?_ rfl
      rw [member_text]
      exact chain_property _ property optional target ih.2 identifier
  | index target key ofTarget ofKey targetIh keyIh =>
      refine told_primary _ ?_ rfl
      rw [index_text]
      exact chain_key _ key.render target key targetIh.2 keyIh.1
  | unary op e plain inner ih =>
      refine told_prefixed _ ?_ rfl rfl (fun _ => by rw [settled, settled])
      rw [Expr.render, chains_unwrapped e inner _ (Nat.le_refl _)]
      refine whole_signed op.symbol e.render _ (.unary op) e ih.1 (prefixing_sign op) ?_
        (by rw [settled])
      intro ts spelled
      cases op with
      | not => exact spelled_not e.render ts spelled
      | neg => exact absurd rfl plain
      | typeOf => exact spelled_keyword "typeof" e.render ts (by decide) spelled
  | await e inner ih =>
      refine told_prefixed _ ?_ rfl rfl (fun _ => by rw [settled, settled])
      rw [Expr.render, chains_unwrapped e inner _ (Nat.le_refl _)]
      exact whole_signed "await " e.render (.word "await") .await e ih.1 rfl
        (fun ts spelled => spelled_keyword "await" e.render ts (by decide) spelled) (by rw [settled])

theorem same_text_settled (x y : Expr) (ofX : OfChains x) (ofY : OfChains y)
    (same : x.render = y.render) : settled 0 x = settled 0 y := by
  obtain ⟨ts, tsSpelled, tsRead⟩ := (chains_told x ofX).1
  obtain ⟨us, usSpelled, usRead⟩ := (chains_told y ofY).1
  have row := tsSpelled.cut [] breaks_nil
  rw [same, usSpelled.cut [] breaks_nil, tokens] at row
  have rows : us = ts := by
    simpa using row
  subst rows
  exact (leads_unique _ _ _ _ _ _ (usRead [] rests_nil) (tsRead [] rests_nil)).1

end ApiContract.Grammar
