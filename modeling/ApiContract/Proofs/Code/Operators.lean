import ApiContract.Proofs.Code.Phrases
import ApiContract.Proofs.Code.Unambiguous

/-!
An expression of names and operators is read back from its text. Each operand stands in a place that
takes what it is without parentheses, or gets them: the strengths of the operators have the order of
the levels, and an operand gets them wherever `??` would meet `&&` or `||`.
-/

set_option autoImplicit false

namespace ApiContract.Grammar

open Code

variable (casts : Bool)

-- Whatever the one phrase derives, the other derives too.
def Admits (casts : Bool) (weak strong : Phrase) : Prop :=
  ∀ ts e, Derives casts strong ts e → Derives casts weak ts e

theorem admits_level (m n : Nat) (positive : 1 ≤ m) (atMost : m ≤ n)
    (bound : n ≤ 6) : Admits casts (.level m) (.level n) := by
  obtain ⟨k, rfl⟩ := Nat.exists_eq_add_of_le atMost
  induction k with
  | zero => exact fun ts e derived => derived
  | succ k ih =>
      intro ts e derived
      have step : rightOf (m + k) = .level (m + (k + 1)) := by
        rw [rightOf, if_neg (by omega), if_pos (by omega), Nat.add_assoc]
      exact ih (by omega) (by omega) ts e (.operand (m + k) ts e (by rwa [step]))

theorem admits_lowest (n : Nat) (equality : 3 ≤ n) (bound : n ≤ 6) :
    Admits casts (.level 0) (.level n) :=
  fun ts e derived => .operand 0 ts e (admits_level casts 3 n (by omega) equality bound ts e derived)

theorem prefixed_level (n : Nat) (bound : n ≤ 6) : Admits casts (.level n) .prefixed := by
  intro ts e derived
  have tightest : Derives casts (.level 6) ts e := .operand 6 ts e derived
  by_cases zero : n = 0
  · subst zero
    exact admits_lowest casts 6 (by omega) (by omega) ts e tightest
  · exact admits_level casts n 6 (by omega) bound (by omega) ts e tightest

theorem level_short_circuit (n : Nat) (bound : n ≤ 6) : Admits casts .shortCircuit (.level n) := by
  intro ts e derived
  by_cases zero : n = 0
  · subst zero
    exact .coalescing ts e derived
  · exact .logical ts e (admits_level casts 1 n (by omega) (by omega) bound ts e derived)

theorem level_bound (op : BinaryOp) : level op ≤ 6 := by
  cases op <;> decide

-- An expression of names and operators alone. A minus in front of an operand is not one of them.
inductive OfOperators : Expr → Prop where
  | ident (name : String) (identifier : Name.isIdentifier name = true)
      (free : Name.isReservedWord name = false) : OfOperators (.ident name)
  | binary (left : Expr) (op : BinaryOp) (right : Expr) (ofLeft : OfOperators left)
      (ofRight : OfOperators right) : OfOperators (.binary left op right)
  | unary (op : UnaryOp) (e : Expr) (plain : op ≠ .neg) (inner : OfOperators e) :
      OfOperators (.unary op e)
  | await (e : Expr) (inner : OfOperators e) : OfOperators (.await e)
  | conditional (test whenTrue whenFalse : Expr) (ofTest : OfOperators test)
      (ofTrue : OfOperators whenTrue) (ofFalse : OfOperators whenFalse) :
      OfOperators (.conditional test whenTrue whenFalse)

-- The phrase that an expression is without parentheses.
def home : Expr → Phrase
  | .binary _ op _ => .level (level op)
  | .unary _ _ | .await _ => .prefixed
  | .conditional _ _ _ => .expression
  | _ => .primary

-- How strong the operators of each level are.
def weight : Nat → Nat
  | 0 => 4
  | 1 => 5
  | 2 => 6
  | 3 => 10
  | 4 => 11
  | 5 => 13
  | _ => 14

theorem strength_weight (op : BinaryOp) : op.strength = weight (level op) := by
  cases op <;> rfl

theorem strength_choosing (op : BinaryOp) : Expr.choosing < op.strength := by
  cases op <;> decide

theorem strength_prefixed (op : BinaryOp) : op.strength < Expr.prefixed := by
  cases op <;> decide

theorem weight_lt (m n : Nat) (less : m < n) (bound : n ≤ 6) : weight m < weight n := by
  have table : ∀ n < 7, ∀ m < n, weight m < weight n := by decide
  exact table n (by omega) m less

theorem logical_level (op : BinaryOp) : op.isLogical = (level op == 1 || level op == 2) := by
  cases op <;> rfl

theorem coalesce_level (op : BinaryOp) : op = .coalesce ↔ level op = 0 := by
  cases op <;> decide

-- What an operand without parentheses tells about the levels.
theorem unwrapped_levels (op inner : BinaryOp) (onRight : Bool) (left right : Expr)
    (unwrapped : Expr.operandNeedsWrap op onRight (.binary left inner right) = false) :
    level op ≤ level inner ∧ (onRight = true → level op < level inner) ∧
      (level op = 0 → level inner = 0 ∨ 3 ≤ level inner) := by
  simp only [Expr.operandNeedsWrap, Bool.or_eq_false_iff, Bool.and_eq_false_iff,
    beq_eq_false_iff_ne, ne_eq, coalesce_level, logical_level, decide_eq_false_iff_not,
    strength_weight] at unwrapped
  obtain ⟨⟨⟨mixed, -⟩, notWeaker⟩, notSame⟩ := unwrapped
  have atMost : level op ≤ level inner := by
    by_contra less
    exact notWeaker (weight_lt _ _ (by omega) (level_bound op))
  refine ⟨atMost, ?_, by omega⟩
  intro right
  refine Nat.lt_of_le_of_ne atMost (fun same => ?_)
  rcases notSame with onLeft | other
  · exact Bool.false_ne_true (onLeft.symm.trans right)
  · exact other (congrArg weight same.symm)

theorem left_admits (op inner : BinaryOp) (left right : Expr)
    (unwrapped : Expr.operandNeedsWrap op false (.binary left inner right) = false) :
    Admits casts (.level (level op)) (.level (level inner)) := by
  obtain ⟨atMost, -, unmixed⟩ := unwrapped_levels op inner false left right unwrapped
  have bound := level_bound inner
  by_cases zero : level op = 0
  · rw [zero]
    rcases unmixed zero with same | equality
    · exact fun ts e derived => same ▸ derived
    · exact admits_lowest casts _ equality bound
  · exact admits_level casts _ _ (by omega) atMost bound

theorem right_admits (op inner : BinaryOp) (left right : Expr)
    (unwrapped : Expr.operandNeedsWrap op true (.binary left inner right) = false) :
    Admits casts (rightOf (level op)) (.level (level inner)) := by
  obtain ⟨-, less, unmixed⟩ := unwrapped_levels op inner true left right unwrapped
  have bound := level_bound inner
  have stronger := less rfl
  rw [rightOf]
  split
  · rename_i zero
    exact admits_level casts 3 _ (by omega) (by omega) bound
  · rw [if_pos (by omega)]
    exact admits_level casts _ _ (by omega) (by omega) bound

-- The place of an operand beside `op`.
def side (op : BinaryOp) (onRight : Bool) : Phrase :=
  if onRight then rightOf (level op) else .level (level op)

theorem side_prefixed (op : BinaryOp) (onRight : Bool) :
    Admits casts (side op onRight) .prefixed := by
  cases onRight with
  | false => exact prefixed_level casts _ (level_bound op)
  | true =>
      rw [side, if_pos rfl, rightOf]
      split
      · exact prefixed_level casts 3 (by omega)
      · split
        · exact prefixed_level casts _ (by omega)
        · exact fun ts e derived => derived

theorem short_circuit_prefixed : Admits casts .shortCircuit .prefixed :=
  fun ts e derived => .logical ts e (prefixed_level casts 1 (by omega) ts e derived)

theorem expression_prefixed : Admits casts .expression .prefixed :=
  fun ts e derived => .unconditional ts e (short_circuit_prefixed casts ts e derived)

-- A place that takes the prefix operators has to be looked at for binary operators and conditionals.
theorem admits_home (phrase : Phrase) (e : Expr) (operators : OfOperators e)
    (tight : Admits casts phrase .prefixed)
    (ofBinary : ∀ left op right, e = .binary left op right → Admits casts phrase (.level (level op)))
    (ofConditional : ∀ test whenTrue whenFalse, e = .conditional test whenTrue whenFalse →
      Admits casts phrase .expression) : Admits casts phrase (home e) := by
  cases operators with
  | ident name identifier free => exact fun ts e derived => tight ts e (.bare ts e derived)
  | binary left op right ofLeft ofRight => exact ofBinary left op right rfl
  | unary op e plain inner => exact tight
  | await e inner => exact tight
  | conditional test whenTrue whenFalse ofTest ofTrue ofFalse =>
      exact ofConditional test whenTrue whenFalse rfl

-- An operand that gets no parentheses is, as it stands, what its place takes.
theorem operand_admits (op : BinaryOp) (onRight : Bool) (e : Expr)
    (operators : OfOperators e) (unwrapped : Expr.operandNeedsWrap op onRight e = false) :
    Admits casts (side op onRight) (home e) := by
  apply admits_home casts _ e operators (side_prefixed casts op onRight)
  · rintro left inner right rfl
    cases onRight with
    | false => exact left_admits casts op inner left right unwrapped
    | true => exact right_admits casts op inner left right unwrapped
  · rintro test whenTrue whenFalse rfl
    exact absurd (strength_choosing op) (of_decide_eq_false unwrapped)

theorem prefixed_admits (e : Expr) (operators : OfOperators e)
    (unwrapped : decide (e.strength < Expr.prefixed) = false) :
    Admits casts .prefixed (home e) := by
  apply admits_home casts _ e operators (fun ts e derived => derived)
  · rintro left op right rfl
    exact absurd (strength_prefixed op) (of_decide_eq_false unwrapped)
  · rintro test whenTrue whenFalse rfl
    cases unwrapped

theorem short_circuit_admits (e : Expr) (operators : OfOperators e)
    (unwrapped : decide (e.strength < Expr.choosing + 1) = false) :
    Admits casts .shortCircuit (home e) := by
  apply admits_home casts _ e operators (short_circuit_prefixed casts)
  · rintro left op right rfl
    exact level_short_circuit casts _ (level_bound op)
  · rintro test whenTrue whenFalse rfl
    cases unwrapped

theorem expression_admits (e : Expr) (operators : OfOperators e) :
    Admits casts .expression (home e) := by
  apply admits_home casts _ e operators (expression_prefixed casts)
  · rintro left op right rfl ts e derived
    exact .unconditional ts e (level_short_circuit casts _ (level_bound op) ts e derived)
  · rintro test whenTrue whenFalse rfl
    exact fun ts e derived => derived

theorem told_wrapped (phrase own : Phrase) (needed : Bool) (text : String) (e : Expr)
    (tight : Admits casts phrase .prefixed) (whole : Admits casts .expression own)
    (told : Told casts own text e) (unwrapped : needed = false → Admits casts phrase own) :
    Told casts phrase (Expr.wrapIf needed text) e := by
  obtain ⟨ts, spelled, derived⟩ := told
  cases needed with
  | false => exact ⟨ts, spelled, unwrapped rfl ts e derived⟩
  | true =>
      have inner := Derives.parenthesised ts e (whole ts e derived)
      exact ⟨_, spelled_parens text ts spelled, tight _ e (.bare _ e inner)⟩

-- By induction on the expression: its text stands for it, as the phrase that it is.
theorem render_told (e : Expr) (operators : OfOperators e) : Told casts (home e) e.render e := by
  induction operators with
  | ident name identifier free =>
      rw [Expr.render]
      exact ⟨_, spelled_name name identifier, .name name identifier free⟩
  | binary left op right ofLeft ofRight leftIh rightIh =>
      rw [Expr.render]
      refine told_binary casts op _ _ left right ?_ ?_
      · exact told_wrapped casts _ _ _ _ left (side_prefixed casts op false)
          (expression_admits casts left ofLeft) leftIh (operand_admits casts op false left ofLeft)
      · exact told_wrapped casts _ _ _ _ right (side_prefixed casts op true)
          (expression_admits casts right ofRight) rightIh (operand_admits casts op true right ofRight)
  | unary op e plain inner ih =>
      rw [Expr.render]
      exact told_unary casts op _ e plain (told_wrapped casts _ _ _ _ e (fun ts e derived => derived)
        (expression_admits casts e inner) ih (prefixed_admits casts e inner))
  | await e inner ih =>
      rw [Expr.render]
      exact told_await casts _ e (told_wrapped casts _ _ _ _ e (fun ts e derived => derived)
        (expression_admits casts e inner) ih (prefixed_admits casts e inner))
  | conditional test whenTrue whenFalse ofTest ofTrue ofFalse testIh trueIh falseIh =>
      rw [Expr.render]
      have testWhole := expression_admits casts test ofTest
      have trueWhole := expression_admits casts whenTrue ofTrue
      have falseWhole := expression_admits casts whenFalse ofFalse
      refine told_conditional casts _ _ _ test whenTrue whenFalse ?_ ?_ ?_
      · exact told_wrapped casts _ _ _ _ test (short_circuit_prefixed casts) testWhole testIh
          (short_circuit_admits casts test ofTest)
      · exact told_wrapped casts _ _ _ _ whenTrue (expression_prefixed casts) trueWhole trueIh
          (fun _ => trueWhole)
      · exact told_wrapped casts _ _ _ _ whenFalse (expression_prefixed casts) falseWhole falseIh
          (fun _ => falseWhole)

theorem told_reads (text : String) (e : Expr) (told : Told casts .expression text e)
    (other : Expr) : Reads casts text other ↔ other = e := by
  obtain ⟨ts, spelled, derived⟩ := told
  have whole := spelled.cut [] breaks_nil
  rw [List.append_nil, tokens, Option.map_some, List.append_nil] at whole
  constructor
  · rintro ⟨us, cut, again⟩
    rw [whole] at cut
    obtain rfl := Option.some.inj cut
    exact tree_unique casts ts e other derived again
  · rintro rfl
    exact ⟨ts, whole, derived⟩

theorem operators_read_back (casts : Bool) (e : Expr) (operators : OfOperators e) (other : Expr) :
    Reads casts e.render other ↔ other = e := by
  obtain ⟨ts, spelled, derived⟩ := render_told casts e operators
  have whole := expression_admits casts e operators ts e derived
  exact told_reads casts e.render e ⟨ts, spelled, whole⟩ other

def nested : Expr :=
  .conditional
    (.binary (.binary (.ident "a") .coalesce (.ident "b")) .and
      (.unary .not (.binary (.ident "c") .sub (.binary (.ident "d") .sub (.ident "x")))))
    (.await (.binary (.unary .typeOf (.ident "e")) .isIn (.ident "f")))
    (.binary (.conditional (.ident "g") (.ident "h") (.ident "i")) .mul (.ident "j"))

example : nested.render =
    "(a ?? b) && !(c - (d - x)) ? await (typeof e in f) : (g ? h : i) * j" := by
  rfl

theorem nested_read_back : OfOperators nested ∧ ∀ other,
    Reads false nested.render other ↔ other = nested := by
  have ofOperators : OfOperators nested := by
    repeat' constructor
    all_goals decide
  exact ⟨ofOperators, operators_read_back false nested ofOperators⟩

end ApiContract.Grammar
