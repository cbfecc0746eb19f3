import ApiContract.Proofs.Code.Operators

/-!
Casts beside binary operators. A cast has the level of the relations and groups to the left like
them. As an operand it gets parentheses where it binds weaker than its place asks for, but not on
the right of a relation, where it is as strong: there the whole relation is read as what is cast.
Everywhere else a cast is read back as the operand that it is.
-/

set_option autoImplicit false

namespace ApiContract.Grammar

open Code

-- An expression of names, binary operators and casts to named types alone.
inductive OfCasts : Expr → Prop where
  | ident (name : String) (identifier : Name.isIdentifier name = true)
      (free : Name.isReservedWord name = false) : OfCasts (.ident name)
  | binary (left : Expr) (op : BinaryOp) (right : Expr) (ofLeft : OfCasts left)
      (ofRight : OfCasts right) : OfCasts (.binary left op right)
  | cast (e : Expr) (type : String) (inner : OfCasts e)
      (identifier : Name.isIdentifier type = true) (free : Name.isReservedWord type = false) :
      OfCasts (.cast e (.named type))

-- No cast stands on the right of a relation.
def CastsAside : Expr → Prop
  | .binary left op right =>
      CastsAside left ∧ CastsAside right ∧
        ∀ inner type, right = .cast inner type → level op ≠ 4
  | .cast inner _ => CastsAside inner
  | _ => True

-- The tree that the text of an expression stands for.
def regrouped : Expr → Expr
  | .binary left op (.cast inner type) =>
      if level op = 4 then .cast (.binary (regrouped left) op (regrouped inner)) type
      else .binary (regrouped left) op (.cast (regrouped inner) type)
  | .binary left op right => .binary (regrouped left) op (regrouped right)
  | .cast inner type => .cast (regrouped inner) type
  | e => e

theorem regrouped_relation (left inner : Expr) (op : BinaryOp) (type : TypeExpr)
    (relation : level op = 4) : regrouped (.binary left op (.cast inner type)) =
      .cast (.binary (regrouped left) op (regrouped inner)) type := by
  rw [regrouped, if_pos relation]

theorem regrouped_binary (left right : Expr) (op : BinaryOp)
    (aside : ∀ inner type, right = .cast inner type → level op ≠ 4) :
    regrouped (.binary left op right) = .binary (regrouped left) op (regrouped right) := by
  cases right with
  | cast inner type => rw [regrouped, if_neg (aside inner type rfl), regrouped]
  | _ => rw [regrouped]; nofun

-- By induction on the expression: it is its own regrouping when every operand stays in its place.
theorem regrouped_same_iff (e : Expr) (casts : OfCasts e) : regrouped e = e ↔ CastsAside e := by
  induction casts with
  | ident name identifier free => exact ⟨fun _ => trivial, fun _ => rfl⟩
  | binary left op right ofLeft ofRight leftIh rightIh =>
      by_cases aside : ∀ inner type, right = .cast inner type → level op ≠ 4
      · rw [regrouped_binary left right op aside, CastsAside, ← leftIh, ← rightIh]
        simpa using fun _ _ => aside
      · push Not at aside
        obtain ⟨inner, type, rfl, relation⟩ := aside
        rw [regrouped_relation left inner op type relation]
        refine ⟨nofun, fun kept => ?_⟩
        exact absurd relation (kept.2.2 inner type rfl)
  | cast e type inner identifier free ih =>
      rw [regrouped, CastsAside, ← ih]
      simp

-- The phrase that an expression is without parentheses.
def place : Expr → Phrase
  | .binary _ op _ => .level (level op)
  | .cast _ _ => .level 4
  | _ => .primary

theorem place_whole (e : Expr) (casts : OfCasts e) : Admits true .expression (place e) := by
  cases casts with
  | ident name identifier free =>
      exact fun ts e derived => expression_prefixed true ts e (.bare ts e derived)
  | binary left op right ofLeft ofRight =>
      exact fun ts e derived =>
        .unconditional ts e (level_short_circuit true _ (level_bound op) ts e derived)
  | cast e type inner identifier free =>
      exact fun ts e derived =>
        .unconditional ts e (level_short_circuit true 4 (by omega) ts e derived)

theorem cast_atMost (op : BinaryOp) (unwrapped : decide (Expr.casting < op.strength) = false) :
    level op ≤ 4 := by
  by_contra above
  rw [strength_weight] at unwrapped
  exact of_decide_eq_false unwrapped (weight_lt 4 (level op) (by omega) (level_bound op))

-- A cast without parentheses is what its place takes, but for the right of a relation.
theorem cast_admits (op : BinaryOp) (onRight : Bool)
    (unwrapped : decide (Expr.casting < op.strength) = false)
    (aside : onRight = true → level op ≠ 4) : Admits true (side op onRight) (.level 4) := by
  have atMost := cast_atMost op unwrapped
  cases onRight with
  | false =>
      rw [side, if_neg Bool.false_ne_true]
      by_cases zero : level op = 0
      · rw [zero]
        exact admits_lowest true 4 (by omega) (by omega)
      · exact admits_level true _ 4 (by omega) atMost (by omega)
  | true =>
      have other := aside rfl
      rw [side, if_pos rfl, rightOf]
      split
      · exact admits_level true 3 4 (by omega) (by omega) (by omega)
      · rw [if_pos (by omega)]
        exact admits_level true _ 4 (by omega) (by omega) (by omega)

theorem place_admits (op : BinaryOp) (onRight : Bool) (e : Expr) (casts : OfCasts e)
    (aside : onRight = true → ∀ inner type, e = .cast inner type → level op ≠ 4)
    (unwrapped : Expr.operandNeedsWrap op onRight e = false) :
    Admits true (side op onRight) (place e) := by
  cases casts with
  | ident name identifier free =>
      exact fun ts e derived => side_prefixed true op onRight ts e (.bare ts e derived)
  | binary left inner right ofLeft ofRight =>
      cases onRight with
      | false => exact left_admits true op inner left right unwrapped
      | true => exact right_admits true op inner left right unwrapped
  | cast e type inner identifier free =>
      exact cast_admits op onRight unwrapped (fun onRight => aside onRight e _ rfl)

theorem told_cast (text type : String) (e : Expr) (identifier : Name.isIdentifier type = true)
    (free : Name.isReservedWord type = false) (inner : Told true (.level 4) text e) :
    Told true (.level 4) (text ++ " as " ++ type) (.cast e (.named type)) := by
  obtain ⟨ts, spelled, derived⟩ := inner
  have joined := spelled_joined text type "as" _ ts _ (spaced_word "as" (by decide)) spelled
    (spelled_name type identifier)
  have same : text ++ " " ++ "as" ++ " " ++ type = text ++ " as " ++ type := by
    rw [← String.toList_inj]
    simp
  rw [same] at joined
  exact ⟨_, joined, .cast ts e type rfl derived identifier free⟩

-- Behind a relation, `as` takes up the whole relation.
theorem told_relation_cast (op : BinaryOp) (leftText rightText type : String) (left inner : Expr)
    (relation : level op = 4) (leftTold : Told true (.level 4) leftText left)
    (innerTold : Told true .prefixed rightText inner) (identifier : Name.isIdentifier type = true)
    (free : Name.isReservedWord type = false) :
    Told true (.level 4) (leftText ++ " " ++ op.symbol ++ " " ++ (rightText ++ " as " ++ type))
      (.cast (.binary left op inner) (.named type)) := by
  obtain ⟨us, spelled, derived⟩ := innerTold
  have operand : Told true (rightOf (level op)) rightText inner :=
    ⟨us, spelled, side_prefixed true op true us inner derived⟩
  rw [← relation] at leftTold
  have related := told_binary true op leftText rightText left inner leftTold operand
  rw [relation] at related
  have whole := told_cast _ type _ identifier free related
  have same : leftText ++ " " ++ op.symbol ++ " " ++ rightText ++ " as " ++ type =
      leftText ++ " " ++ op.symbol ++ " " ++ (rightText ++ " as " ++ type) := by
    rw [← String.toList_inj]
    simp
  rwa [same] at whole

theorem primary_text_told (e : Expr) (casts : OfCasts e)
    (told : Told true (place e) e.render (regrouped e)) :
    Told true .prefixed (primaryText e) (regrouped e) := by
  refine told_wrapped true _ _ _ _ _ (fun ts e derived => derived) (place_whole e casts) told ?_
  intro unwrapped
  cases casts with
  | ident name identifier free => exact fun ts e derived => .bare ts e derived
  | binary left op right ofLeft ofRight =>
      have weaker := Nat.lt_trans (strength_prefixed op) (show Expr.prefixed < Expr.primary by decide)
      exact absurd weaker (of_decide_eq_false unwrapped)
  | cast e type inner identifier free => cases unwrapped

theorem operand_told (op : BinaryOp) (onRight : Bool) (e : Expr) (casts : OfCasts e)
    (aside : onRight = true → ∀ inner type, e = .cast inner type → level op ≠ 4)
    (told : Told true (place e) e.render (regrouped e)) :
    Told true (side op onRight) (Expr.wrapIf (Expr.operandNeedsWrap op onRight e) e.render)
      (regrouped e) :=
  told_wrapped true _ _ _ _ _ (side_prefixed true op onRight) (place_whole e casts) told
    (place_admits op onRight e casts aside)

-- By induction on the expression: its text stands for its regrouping. What a cast is made of is
-- told along with it, since a relation in front takes it out of the cast.
theorem casts_told (e : Expr) (casts : OfCasts e) :
    Told true (place e) e.render (regrouped e) ∧
      ∀ inner type, e = .cast inner type → Told true .prefixed (primaryText inner) (regrouped inner) := by
  induction casts with
  | ident name identifier free =>
      refine ⟨?_, fun _ _ same => by cases same⟩
      rw [Expr.render]
      exact ⟨_, spelled_name name identifier, .name name identifier free⟩
  | binary left op right ofLeft ofRight leftIh rightIh =>
      refine ⟨?_, fun _ _ same => by cases same⟩
      rw [Expr.render]
      have leftTold := operand_told op false left ofLeft (fun onRight => by cases onRight) leftIh.1
      by_cases aside : ∀ inner type, right = .cast inner type → level op ≠ 4
      · rw [regrouped_binary left right op aside]
        exact told_binary true op _ _ _ _ leftTold
          (operand_told op true right ofRight (fun _ => aside) rightIh.1)
      · push Not at aside
        obtain ⟨inner, type, rfl, relation⟩ := aside
        cases ofRight with
        | cast _ name _ identifier free =>
            have asStrong : op.strength = Expr.casting := by
              rw [strength_weight, relation]
              rfl
            have bare : Expr.operandNeedsWrap op true (.cast inner (.named name)) = false :=
              decide_eq_false (Nat.not_lt_of_le (Nat.le_of_eq asStrong))
            rw [regrouped_relation left inner op _ relation, bare, Expr.wrapIf, Expr.render, place,
              relation]
            rw [side, if_neg Bool.false_ne_true, relation] at leftTold
            exact told_relation_cast op _ _ name _ _ relation leftTold (rightIh.2 inner _ rfl)
              identifier free
  | cast e type inner identifier free ih =>
      have operand := primary_text_told e inner ih.1
      refine ⟨?_, fun _ _ same => by cases same; exact operand⟩
      obtain ⟨ts, spelled, derived⟩ := operand
      have onLevel := prefixed_level true 4 (by omega) ts _ derived
      rw [Expr.render, regrouped, TypeExpr.render]
      exact told_cast _ type _ identifier free ⟨ts, spelled, onLevel⟩

theorem casts_read (e : Expr) (casts : OfCasts e) (other : Expr) :
    Reads true e.render other ↔ other = regrouped e := by
  obtain ⟨ts, spelled, derived⟩ := (casts_told e casts).1
  exact told_reads true e.render (regrouped e)
    ⟨ts, spelled, place_whole e casts ts _ derived⟩ other

theorem casts_read_back_iff (e : Expr) (casts : OfCasts e) :
    (∀ other, Reads true e.render other ↔ other = e) ↔ CastsAside e := by
  rw [← regrouped_same_iff e casts]
  constructor
  · intro back
    exact (back (regrouped e)).mp ((casts_read e casts _).mpr rfl)
  · intro same other
    rw [casts_read e casts, same]

def castOperands : Expr :=
  .binary
    (.binary (.cast (.ident "a") (.named "Count")) .lt
      (.binary (.ident "b") .add (.cast (.ident "c") (.named "Size"))))
    .strictEq (.cast (.cast (.binary (.ident "d") .or (.ident "e")) (.named "unknown")) (.named "Flag"))

example : castOperands.render =
    "a as Count < b + (c as Size) === ((d || e) as unknown) as Flag" := by
  rfl

theorem cast_operands_read_back : OfCasts castOperands ∧ CastsAside castOperands ∧
    ∀ other, Reads true castOperands.render other ↔ other = castOperands := by
  have casts : OfCasts castOperands := by
    repeat' constructor
  have aside : CastsAside castOperands := by
    simp [castOperands, CastsAside, level]
  exact ⟨casts, aside, (casts_read_back_iff castOperands casts).mpr aside⟩

def castBehindRelation : Expr :=
  .binary (.ident "a") .lt (.cast (.ident "b") (.named "Size"))

theorem cast_behind_relation_misread : OfCasts castBehindRelation ∧
    castBehindRelation.render = "a < b as Size" ∧
    Reads true castBehindRelation.render
      (.cast (.binary (.ident "a") .lt (.ident "b")) (.named "Size")) ∧
    ¬ Reads true castBehindRelation.render castBehindRelation := by
  have casts : OfCasts castBehindRelation := by
    repeat' constructor
  refine ⟨casts, rfl, (casts_read _ casts _).mpr rfl, ?_⟩
  intro back
  have same := (casts_read _ casts _).mp back
  cases same

end ApiContract.Grammar
