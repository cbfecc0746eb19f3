import ApiContract.Proofs.Code.Grammar

/-!
A row of tokens stands for one tree at most. A reader goes through the row from the left: on each
level of the binary operators it reads one operand and then takes up operators of that level as long
as they come. The next token decides on each of its steps, and whatever tree the grammar gives, the
reader comes to the same one.
-/

set_option autoImplicit false

namespace ApiContract.Grammar

open Code

def operators : List BinaryOp := [
  .coalesce, .or, .and, .strictEq, .strictNe, .eq, .ne, .lt, .le, .gt, .ge, .instanceOf, .isIn,
  .add, .sub, .mul, .div, .rem]

def operatorOf (t : Token) : Option BinaryOp :=
  operators.find? (fun op => sign op == t)

theorem operator_of_sign (op : BinaryOp) : operatorOf (sign op) = some op := by
  cases op <;> rfl

variable (casts : Bool)

-- The level on which a token goes on with what was read so far.
def joint (casts : Bool) (t : Token) : Option Nat :=
  match operatorOf t with
  | some op => some (level op)
  | none => if casts && t == .word "as" then some 4 else none

theorem joint_operator (t : Token) (op : BinaryOp) (here : operatorOf t = some op) :
    joint casts t = some (level op) := by
  rw [joint, here]

theorem joint_as : joint true (.word "as") = some 4 := by
  decide

theorem joint_mark (m : String) (plain : operatorOf (.mark m) = none) :
    joint casts (.mark m) = none := by
  rw [joint, plain]
  cases casts <;> rfl

def prefixing (t : Token) : Option (Expr → Expr) :=
  if t = .mark "!" then some (.unary .not)
  else if t = .mark "-" then some (.unary .neg)
  else if t = .word "typeof" then some (.unary .typeOf)
  else if t = .word "await" then some .await
  else none

theorem prefixing_sign (op : UnaryOp) : prefixing (prefixSign op) = some (.unary op) := by
  cases op <;> rfl

-- What is read first on level `n`. Beside `??` this lets `&&` and `||` stand.
def firstOf (n : Nat) : Phrase :=
  if n = 0 then .level 1 else rightOf n

inductive Task where
  | phrase (phrase : Phrase)
  | more (n : Nat) (e : Expr)

-- What the reader comes to from a row of tokens: a tree and what is left of the row.
inductive Goes (casts : Bool) : Task → List Token → Expr → List Token → Prop where
  | name (spelling : String) (rest : List Token) :
      Goes casts (.phrase .primary) (.word spelling :: rest) (.ident spelling) rest
  | parenthesised (ts rest : List Token) (e : Expr)
      (inner : Goes casts (.phrase .expression) ts e (.mark ")" :: rest)) :
      Goes casts (.phrase .primary) (.mark "(" :: ts) e rest
  | built (t : Token) (build : Expr → Expr) (ts rest : List Token) (e : Expr)
      (sign : prefixing t = some build) (inner : Goes casts (.phrase .prefixed) ts e rest) :
      Goes casts (.phrase .prefixed) (t :: ts) (build e) rest
  | bare (t : Token) (ts rest : List Token) (e : Expr) (plain : prefixing t = none)
      (inner : Goes casts (.phrase .primary) (t :: ts) e rest) :
      Goes casts (.phrase .prefixed) (t :: ts) e rest
  | level (n : Nat) (ts us rest : List Token) (first e : Expr)
      (begins : Goes casts (.phrase (firstOf n)) ts first us)
      (takesUp : Goes casts (.more n first) us e rest) :
      Goes casts (.phrase (.level n)) ts e rest
  | shortCircuit (ts rest : List Token) (e : Expr)
      (inner : Goes casts (.phrase (.level 0)) ts e rest) :
      Goes casts (.phrase .shortCircuit) ts e rest
  | unconditional (ts rest : List Token) (e : Expr)
      (inner : Goes casts (.phrase .shortCircuit) ts e rest)
      (stops : rest.head? ≠ some (.mark "?")) : Goes casts (.phrase .expression) ts e rest
  | conditional (ts us vs rest : List Token) (test whenTrue whenFalse : Expr)
      (testGoes : Goes casts (.phrase .shortCircuit) ts test (.mark "?" :: us))
      (trueGoes : Goes casts (.phrase .expression) us whenTrue (.mark ":" :: vs))
      (falseGoes : Goes casts (.phrase .expression) vs whenFalse rest) :
      Goes casts (.phrase .expression) ts (.conditional test whenTrue whenFalse) rest
  | stop (n : Nat) (e : Expr) (ts : List Token)
      (stops : ∀ t ∈ ts.head?, joint casts t ≠ some n) : Goes casts (.more n e) ts e ts
  | operator (n : Nat) (t : Token) (op : BinaryOp) (ts us rest : List Token) (left right e : Expr)
      (here : operatorOf t = some op) (same : level op = n)
      (operand : Goes casts (.phrase (rightOf n)) ts right us)
      (takesUp : Goes casts (.more n (.binary left op right)) us e rest) :
      Goes casts (.more n left) (t :: ts) e rest
  | cast (type : String) (ts rest : List Token) (inner e : Expr) (allowed : casts = true)
      (takesUp : Goes casts (.more 4 (.cast inner (.named type))) ts e rest) :
      Goes casts (.more 4 inner) (.word "as" :: .word type :: ts) e rest

-- By induction on how the reader goes: the task and the next tokens decide on each step.
theorem goes_unique (task : Task) (ts rest others : List Token) (e other : Expr)
    (goes : Goes casts task ts e rest) (again : Goes casts task ts other others) :
    other = e ∧ others = rest := by
  induction goes generalizing other others with
  | name spelling rest =>
      cases again
      exact ⟨rfl, rfl⟩
  | parenthesised ts rest e inner ih =>
      cases again with
      | parenthesised _ _ _ inner' =>
          obtain ⟨rfl, same⟩ := ih _ _ inner'
          cases same
          exact ⟨rfl, rfl⟩
  | built t build ts rest e sign inner ih =>
      cases again with
      | built _ _ _ _ _ sign' inner' =>
          rw [sign] at sign'
          cases sign'
          obtain ⟨rfl, rfl⟩ := ih _ _ inner'
          exact ⟨rfl, rfl⟩
      | bare _ _ _ _ plain' =>
          rw [sign] at plain'
          cases plain'
  | bare t ts rest e plain inner ih =>
      cases again with
      | built _ _ _ _ _ sign' =>
          rw [plain] at sign'
          cases sign'
      | bare _ _ _ _ plain' inner' => exact ih _ _ inner'
  | level n ts us rest first e begins takesUp beginsIh takesUpIh =>
      cases again with
      | level _ _ _ _ _ _ begins' takesUp' =>
          obtain ⟨rfl, rfl⟩ := beginsIh _ _ begins'
          exact takesUpIh _ _ takesUp'
  | shortCircuit ts rest e inner ih =>
      cases again with
      | shortCircuit _ _ _ inner' => exact ih _ _ inner'
  | unconditional ts rest e inner stops ih =>
      cases again with
      | unconditional _ _ _ inner' => exact ih _ _ inner'
      | conditional _ _ _ _ _ _ _ testGoes' =>
          obtain ⟨-, rfl⟩ := ih _ _ testGoes'
          exact absurd rfl stops
  | conditional ts us vs rest test whenTrue whenFalse testGoes trueGoes falseGoes testIh trueIh
      falseIh =>
      cases again with
      | unconditional _ _ _ inner' stops' =>
          obtain ⟨-, rfl⟩ := testIh _ _ inner'
          exact absurd rfl stops'
      | conditional _ _ _ _ _ _ _ testGoes' trueGoes' falseGoes' =>
          obtain ⟨rfl, same⟩ := testIh _ _ testGoes'
          cases same
          obtain ⟨rfl, same⟩ := trueIh _ _ trueGoes'
          cases same
          obtain ⟨rfl, rfl⟩ := falseIh _ _ falseGoes'
          exact ⟨rfl, rfl⟩
  | stop n e ts stops =>
      cases again with
      | stop => exact ⟨rfl, rfl⟩
      | operator _ t op _ _ _ _ _ _ here same =>
          exact absurd (same ▸ joint_operator casts t op here) (stops t rfl)
      | cast type _ _ _ _ allowed =>
          subst allowed
          exact absurd joint_as (stops _ rfl)
  | operator n t op ts us rest left right e here same operand takesUp operandIh takesUpIh =>
      cases again with
      | stop _ _ _ stops => exact absurd (same ▸ joint_operator casts t op here) (stops t rfl)
      | operator _ _ _ _ _ _ _ _ _ here' _ operand' takesUp' =>
          rw [here] at here'
          cases here'
          obtain ⟨rfl, rfl⟩ := operandIh _ _ operand'
          exact takesUpIh _ _ takesUp'
      | cast => cases here
  | cast type ts rest inner e allowed takesUp ih =>
      cases again with
      | stop _ _ _ stops =>
          subst allowed
          exact absurd joint_as (stops _ rfl)
      | operator _ _ _ _ _ _ _ _ _ here' => cases here'
      | cast _ _ _ _ _ _ takesUp' => exact ih _ _ takesUp'

-- What comes next goes on with nothing, or only on a level below `n`.
def Below (casts : Bool) (n : Nat) (rest : List Token) : Prop :=
  ∀ t ∈ rest.head?, ∀ k, joint casts t = some k → k < n

theorem Below.mono {casts : Bool} {m n : Nat} {rest : List Token} (weaker : Below casts m rest)
    (atMost : m ≤ n) : Below casts n rest :=
  fun t first k here => Nat.lt_of_lt_of_le (weaker t first k here) atMost

theorem below_joint (t : Token) (k : Nat) (rest : List Token)
    (here : joint casts t = some k) : Below casts (k + 1) (t :: rest) := by
  intro other first n level
  obtain rfl := Option.some.inj first
  rw [here] at level
  obtain rfl := Option.some.inj level
  exact Nat.lt_succ_self k

theorem below_mark (m : String) (rest : List Token)
    (plain : operatorOf (.mark m) = none) : Below casts 0 (.mark m :: rest) := by
  intro t first k here
  obtain rfl := Option.some.inj first
  rw [joint_mark casts m plain] at here
  cases here

theorem goes_stop (n : Nat) (e : Expr) (rest : List Token)
    (weaker : Below casts n rest) : Goes casts (.more n e) rest e rest :=
  .stop n e rest (fun t first here => Nat.lt_irrefl n (weaker t first n here))

-- What may follow a phrase, so that the reader stops behind it.
def Ends (casts : Bool) : Phrase → List Token → Prop
  | .primary, _ | .prefixed, _ => True
  | .level n, rest => Below casts (n + 1) rest
  | .shortCircuit, rest => Below casts 0 rest
  | .expression, rest => Below casts 0 rest ∧ rest.head? ≠ some (.mark "?")

theorem ends_mark (m : String) (rest : List Token)
    (plain : operatorOf (.mark m) = none) (other : m ≠ "?") :
    Ends casts .expression (.mark m :: rest) := by
  refine ⟨below_mark casts m rest plain, ?_⟩
  rintro ⟨rfl⟩
  exact other rfl

-- How the reader ends that has the tree of a phrase and `rest` in front of it.
def Resumes (casts : Bool) : Phrase → Expr → List Token → Expr → List Token → Prop
  | .level n, e, rest, whole, behind => Goes casts (.more n e) rest whole behind
  | _, e, rest, whole, behind => whole = e ∧ behind = rest

theorem ends_right (n : Nat) (rest : List Token) (weaker : Below casts (n + 1) rest) :
    Ends casts (rightOf n) rest ∧ ∀ e, Resumes casts (rightOf n) e rest e rest := by
  unfold rightOf
  split
  · rename_i zero
    exact ⟨weaker.mono (by omega), fun e => goes_stop casts 3 e rest (weaker.mono (by omega))⟩
  · split
    · exact ⟨weaker.mono (by omega), fun e => goes_stop casts (n + 1) e rest weaker⟩
    · exact ⟨trivial, fun e => ⟨rfl, rfl⟩⟩

-- An operand of level `n` is all that is read first on that level.
theorem goes_operand (n : Nat) (e : Expr) (ts rest : List Token)
    (operand : Goes casts (.phrase (rightOf n)) ts e rest) (weaker : Below casts (n + 1) rest) :
    Goes casts (.phrase (firstOf n)) ts e rest := by
  by_cases zero : n = 0
  · subst zero
    have second : Goes casts (.phrase (.level 2)) ts e rest :=
      .level 2 ts rest rest e e operand (goes_stop casts 2 e rest (weaker.mono (by omega)))
    exact .level 1 ts rest rest e e second (goes_stop casts 1 e rest weaker)
  · rwa [firstOf, if_neg zero]

theorem reserved_free (spelling word : String) (free : Name.isReservedWord spelling = false)
    (reserved : Name.isReservedWord word = true) : Token.word spelling ≠ .word word := by
  rintro ⟨rfl⟩
  rw [free] at reserved
  cases reserved

theorem primary_first (ts : List Token) (e : Expr) (derived : Derives casts .primary ts e) :
    ∃ t rest, ts = t :: rest ∧ prefixing t = none := by
  cases derived with
  | name spelling identifier free =>
      refine ⟨_, _, rfl, ?_⟩
      have typeOf := reserved_free spelling "typeof" free (by decide)
      have await := reserved_free spelling "await" free (by decide)
      simp [prefixing, typeOf, await]
  | parenthesised ts e inner => exact ⟨_, _, rfl, by decide⟩

-- By induction on the derivation: the reader goes through exactly the phrase and has its tree.
theorem goes_derived (phrase : Phrase) (ts rest behind : List Token) (e whole : Expr)
    (derived : Derives casts phrase ts e) (ends : Ends casts phrase rest)
    (resumes : Resumes casts phrase e rest whole behind) :
    Goes casts (.phrase phrase) (ts ++ rest) whole behind := by
  induction derived generalizing rest whole behind with
  | name spelling identifier free =>
      obtain ⟨rfl, rfl⟩ := resumes
      exact .name spelling _
  | parenthesised ts e inner ih =>
      obtain ⟨rfl, rfl⟩ := resumes
      rw [List.cons_append, List.append_assoc]
      exact .parenthesised _ _ _ (ih (.mark ")" :: behind) _ _
        (ends_mark casts ")" behind (by decide) (by decide)) ⟨rfl, rfl⟩)
  | bare ts e inner ih =>
      obtain ⟨t, others, rfl, plain⟩ := primary_first casts ts e inner
      exact .bare t _ _ _ plain (ih rest _ _ trivial resumes)
  | unary op ts e inner ih =>
      obtain ⟨rfl, rfl⟩ := resumes
      exact .built _ _ _ _ e (prefixing_sign op) (ih _ _ _ trivial ⟨rfl, rfl⟩)
  | awaited ts e inner ih =>
      obtain ⟨rfl, rfl⟩ := resumes
      exact .built _ _ _ _ e rfl (ih _ _ _ trivial ⟨rfl, rfl⟩)
  | operand n ts e inner ih =>
      obtain ⟨stops, passed⟩ := ends_right casts n rest ends
      have first := goes_operand casts n e _ rest (ih rest _ _ stops (passed e)) ends
      exact .level n _ _ _ e whole first resumes
  | binary op ts us left right leftRead rightRead leftIh rightIh =>
      obtain ⟨stops, passed⟩ := ends_right casts (level op) rest ends
      have operand := rightIh rest _ _ stops (passed right)
      have joined := joint_operator casts (sign op) op (operator_of_sign op)
      rw [List.append_assoc, List.cons_append]
      exact leftIh _ _ _ (below_joint casts _ _ _ joined)
        (.operator _ _ op _ rest _ left right _ (operator_of_sign op) rfl operand resumes)
  | cast ts e type allowed inner identifier free ih =>
      subst allowed
      rw [List.append_assoc]
      exact ih _ _ _ (below_joint true _ 4 _ joint_as) (.cast type rest _ e _ rfl resumes)
  | logical ts e inner ih =>
      obtain ⟨rfl, rfl⟩ := resumes
      have first := ih behind _ _ (ends.mono (by omega))
        (goes_stop casts 1 whole behind (ends.mono (by omega)))
      exact .shortCircuit _ _ _ (.level 0 _ _ _ _ _ first (goes_stop casts 0 whole behind ends))
  | coalescing ts e inner ih =>
      obtain ⟨rfl, rfl⟩ := resumes
      exact .shortCircuit _ _ _ (ih behind _ _ (ends.mono (by omega))
        (goes_stop casts 0 whole behind ends))
  | unconditional ts e inner ih =>
      obtain ⟨rfl, rfl⟩ := resumes
      exact .unconditional _ _ _ (ih behind _ _ ends.1 ⟨rfl, rfl⟩) ends.2
  | conditional ts us vs test whenTrue whenFalse testRead trueRead falseRead testIh trueIh falseIh =>
      obtain ⟨rfl, rfl⟩ := resumes
      simp only [List.append_assoc, List.cons_append]
      have tested := testIh (.mark "?" :: (us ++ .mark ":" :: (vs ++ behind))) _ _
        (below_mark casts "?" _ (by decide)) ⟨rfl, rfl⟩
      have chosen := trueIh (.mark ":" :: (vs ++ behind)) _ _
        (ends_mark casts ":" _ (by decide) (by decide)) ⟨rfl, rfl⟩
      have other := falseIh behind _ _ ends ⟨rfl, rfl⟩
      exact .conditional _ _ _ behind test whenTrue whenFalse tested chosen other

theorem tree_unique (ts : List Token) (e other : Expr)
    (derived : Derives casts .expression ts e) (again : Derives casts .expression ts other) :
    other = e := by
  have ends : Ends casts .expression [] := by
    refine ⟨?_, nofun⟩
    intro t first
    cases first
  have goes := goes_derived casts _ ts [] [] e e derived ends ⟨rfl, rfl⟩
  have goesAgain := goes_derived casts _ ts [] [] other other again ends ⟨rfl, rfl⟩
  exact (goes_unique casts _ _ _ _ _ _ goes goesAgain).1

end ApiContract.Grammar
