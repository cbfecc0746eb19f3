import ApiContract.Code.Expr
import ApiContract.Proofs.Identifier
import ApiContract.Proofs.Number.Characters

/-!
How the text of an expression begins: with the text of its leftmost part that no parenthesis stands
in front of. An object's brace that comes first behind the arrow of a function opens a block of
statements there, and two minuses in a row are a decrement. Parentheses keep them apart only where
the object is the whole body, and never between two minuses.
-/

set_option autoImplicit false

namespace ApiContract.Code

def Literal.isNegative : Literal → Bool
  | .int value => decide (value < 0)
  | .float value =>
      !value.isNaN && (if value.isInf then decide (value < 0.0) else Number.isSigned value)
  | _ => false

namespace Expr

-- A number below zero, or a minus in front of an operand.
def isNegative : Expr → Bool
  | .literal value => value.isNegative
  | .unary op _ => op == .neg
  | _ => false

-- The part that the text begins with: the first operand's, unless this is in parentheses.
def leading : Expr → Expr
  | .call callee args => if callee.strength < primary then .call callee args else leading callee
  | .member target property optional =>
      if target.strength < primary then .member target property optional else leading target
  | .index target key => if target.strength < primary then .index target key else leading target
  | .binary left op right =>
      if operandNeedsWrap op false left then .binary left op right else leading left
  | .cast operand type =>
      if operand.strength < primary then .cast operand type else leading operand
  | .conditional test whenTrue whenFalse =>
      if test.strength < choosing + 1 then .conditional test whenTrue whenFalse else leading test
  | e => e

-- What comes first is no raw text, and an identifier where it is a name. So it is in every
-- expression that has no raw text and only identifiers for names.
structure LedPlainly (e : Expr) : Prop where
  unraw : ∀ code, leading e ≠ .raw code
  named : ∀ name, leading e = .ident name → Name.isIdentifier name = true

-- A text with the first character of the text of `lead`: a brace for an object, a minus for what is
-- negative, and neither for anything else.
def Starts (text : String) (lead : Expr) : Prop :=
  ∃ c, text.toList.head? = some c ∧ (c = '\x7b' ↔ lead.isObject = true) ∧
    (c = '-' ↔ lead.isNegative = true)

theorem starts_other (text : String) (c : Char) (lead : Expr) (first : text.toList.head? = some c)
    (noBrace : c ≠ '\x7b') (noMinus : c ≠ '-') (noObject : lead.isObject = false)
    (noNegative : lead.isNegative = false) : Starts text lead :=
  ⟨c, first, by simp [noBrace, noObject], by simp [noMinus, noNegative]⟩

theorem starts_append (text more : String) (lead : Expr) (starts : Starts text lead) :
    Starts (text ++ more) lead := by
  obtain ⟨c, first, kinds⟩ := starts
  exact ⟨c, by rw [String.toList_append, List.head?_append, first, Option.some_or], kinds⟩

-- A first operand gives its beginning to the whole, and parentheses take its place if needed.
theorem starts_through (whole operand : Expr) (needed : Bool) (more : String)
    (text : whole.render = wrapIf needed operand.render ++ more)
    (leads : leading whole = if needed = true then whole else leading operand)
    (noObject : whole.isObject = false) (noNegative : whole.isNegative = false)
    (plainly : LedPlainly whole) (inner : LedPlainly operand → Starts operand.render (leading operand)) :
    Starts whole.render (leading whole) := by
  rw [text]
  apply starts_append
  cases needed with
  | true =>
      rw [leads, if_pos rfl]
      exact starts_other _ '(' whole (by simp [wrapIf]) (by decide) (by decide) noObject noNegative
  | false =>
      rw [if_neg Bool.false_ne_true] at leads
      rw [leads]
      exact inner ⟨leads ▸ plainly.unraw, leads ▸ plainly.named⟩

theorem digit_other (c : Char) (digit : c.isDigit = true) : c ≠ '\x7b' ∧ c ≠ '-' := by
  constructor
  all_goals
    rintro rfl
    cases digit

theorem starts_digit (text : String) (lead : Expr) (led : Number.LedByDigit text)
    (noObject : lead.isObject = false) (noNegative : lead.isNegative = false) :
    Starts text lead := by
  obtain ⟨c, rest, spelled, digit⟩ := led
  obtain ⟨noBrace, noMinus⟩ := digit_other c digit
  exact starts_other text c lead (by rw [spelled, List.head?_cons]) noBrace noMinus noObject noNegative

theorem starts_minus (text : String) (lead : Expr) (noObject : lead.isObject = false)
    (negative : lead.isNegative = true) : Starts ("-" ++ text) lead :=
  ⟨'-', by simp, by simp [noObject], by simp [negative]⟩

theorem starts_literal (value : Literal) : Starts value.render (.literal value) := by
  cases value with
  | null => exact starts_other _ 'n' _ rfl (by decide) (by decide) rfl rfl
  | bool value =>
      cases value with
      | true => exact starts_other _ 't' _ rfl (by decide) (by decide) rfl rfl
      | false => exact starts_other _ 'f' _ rfl (by decide) (by decide) rfl rfl
  | int value =>
      cases value with
      | ofNat n => exact starts_digit _ _ (Number.repr_led n) rfl (by simp [isNegative, Literal.isNegative])
      | negSucc n =>
          exact starts_minus (Nat.repr (n + 1)) _ rfl (by simp [isNegative, Literal.isNegative])
  | float value =>
      rw [Literal.render]
      split
      · rename_i notNumber
        refine starts_other _ 'N' _ rfl (by decide) (by decide) rfl ?_
        rw [isNegative, Literal.isNegative, notNumber]
        rfl
      · rename_i number
        split
        · rename_i infinite
          split
          · rename_i below
            refine starts_minus "Infinity" _ rfl ?_
            rw [isNegative, Literal.isNegative, eq_false_of_ne_true number, if_pos infinite,
              decide_eq_true below]
            rfl
          · rename_i above
            refine starts_other _ 'I' _ rfl (by decide) (by decide) rfl ?_
            rw [isNegative, Literal.isNegative, if_pos infinite, decide_eq_false above,
              Bool.and_false]
        · rename_i finite
          obtain ⟨digits, led, spelled⟩ := Number.float_led Number.Spelling.plain value
          rw [spelled]
          cases signed : Number.isSigned value with
          | true =>
              refine starts_minus digits _ rfl ?_
              rw [isNegative, Literal.isNegative, eq_false_of_ne_true number, if_neg finite, signed]
              rfl
          | false =>
              refine starts_digit _ _ led rfl ?_
              rw [isNegative, Literal.isNegative, if_neg finite, signed, Bool.and_false]
  | text value =>
      refine starts_other _ '"' _ ?_ (by decide) (by decide) rfl rfl
      rw [Literal.render, quoted, String.toList_ofList, List.head?_cons]

theorem starts_name (name : String) (identifier : Name.isIdentifier name = true) :
    Starts name (.ident name) := by
  obtain ⟨c, rest, spelled, start, -⟩ := Name.identifier_parts name identifier
  refine starts_other name c _ (by rw [spelled, List.head?_cons]) ?_ ?_ rfl rfl
  all_goals
    rintro rfl
    cases start

-- By recursion along the first operands.
theorem starts_leading (e : Expr) (plainly : LedPlainly e) : Starts e.render (leading e) := by
  match e with
  | .raw code => exact absurd rfl (plainly.unraw code)
  | .ident name => exact starts_name name (plainly.named name rfl)
  | .literal value => exact starts_literal value
  | .call callee args =>
      refine starts_through _ callee (decide (callee.strength < primary))
        ("(" ++ Text.join ", " (renderArgs args) ++ ")") ?_ ?_ rfl rfl plainly (starts_leading callee)
      · simp only [render, String.append_assoc]
      · simp only [leading, decide_eq_true_eq]
  | .construct callee args =>
      exact starts_other _ 'n' _ (by simp [render]) (by decide) (by decide) rfl rfl
  | .member target property optional =>
      refine starts_through _ target (decide (target.strength < primary))
        ((if optional then "?." else ".") ++ property) ?_ ?_ rfl rfl plainly (starts_leading target)
      · simp only [render, String.append_assoc]
      · simp only [leading, decide_eq_true_eq]
  | .index target key =>
      refine starts_through _ target (decide (target.strength < primary)) ("[" ++ key.render ++ "]")
        ?_ ?_ rfl rfl plainly (starts_leading target)
      · simp only [render, String.append_assoc]
      · simp only [leading, decide_eq_true_eq]
  | .binary left op right =>
      refine starts_through _ left (operandNeedsWrap op false left)
        (" " ++ op.symbol ++ " " ++ wrapIf (operandNeedsWrap op true right) right.render)
        ?_ ?_ rfl rfl plainly (starts_leading left)
      · simp only [render, String.append_assoc]
      · simp only [leading]
  | .cast operand type =>
      refine starts_through _ operand (decide (operand.strength < primary)) (" as " ++ type.render)
        ?_ ?_ rfl rfl plainly (starts_leading operand)
      · simp only [render, String.append_assoc]
      · simp only [leading, decide_eq_true_eq]
  | .conditional test whenTrue whenFalse =>
      refine starts_through _ test (decide (test.strength < choosing + 1))
        (" ? " ++ wrapIf (decide (whenTrue.strength < choosing)) whenTrue.render ++ " : " ++
          wrapIf (decide (whenFalse.strength < choosing)) whenFalse.render)
        ?_ ?_ rfl rfl plainly (starts_leading test)
      · simp only [render, String.append_assoc]
      · simp only [leading, decide_eq_true_eq]
  | .unary .neg operand =>
      rw [render]
      exact starts_minus _ _ rfl rfl
  | .unary .not operand =>
      exact starts_other _ '!' _ (by simp [render, UnaryOp.symbol]) (by decide) (by decide) rfl rfl
  | .unary .typeOf operand =>
      exact starts_other _ 't' _ (by simp [render, UnaryOp.symbol]) (by decide) (by decide) rfl rfl
  | .await operand =>
      exact starts_other _ 'a' _ (by simp [render]) (by decide) (by decide) rfl rfl
  | .object fields =>
      have opened : (render (.object fields)).toList.head? = some '\x7b' := by
        cases fields <;> simp [render]
      exact ⟨_, opened, by simp [leading, isObject], by simp [leading, isNegative]⟩
  | .array items =>
      exact starts_other _ '[' _ (by simp [render]) (by decide) (by decide) rfl rfl
  | .template parts =>
      exact starts_other _ '\x60' _ (by simp [render]) (by decide) (by decide) rfl rfl
  | .arrow params body true =>
      exact starts_other _ 'a' _ (by simp [render]) (by decide) (by decide) rfl rfl
  | .arrow params body false =>
      exact starts_other _ '(' _ (by simp [render]) (by decide) (by decide) rfl rfl

-- A function's text up to its body.
def arrowText (params : List Param) (isAsync : Bool) : String :=
  (if isAsync then "async (" else "(") ++ Text.join ", " (renderParams params) ++ ") => "

theorem arrow_render (params : List Param) (body : Expr) (isAsync : Bool) :
    (Expr.arrow params body isAsync).render =
      arrowText params isAsync ++
        wrapIf (body.isObject || decide (body.strength < arrowing)) body.render := by
  rw [render, arrowText]

theorem arrowing_least (e : Expr) : arrowing ≤ e.strength := by
  cases e with
  | binary left op right => cases op <;> exact Nat.le_of_ble_eq_true rfl
  | _ => exact Nat.le_of_ble_eq_true rfl

theorem wrapped_first (text : String) : (wrapIf true text).toList.head? = some '(' := by
  simp [wrapIf]

theorem starts_brace_iff (e : Expr) (plainly : LedPlainly e) :
    (wrapIf (e.isObject || decide (e.strength < arrowing)) e.render).toList.head? = some '\x7b' ↔
      e.isObject = false ∧ (leading e).isObject = true := by
  obtain ⟨c, first, brace, -⟩ := starts_leading e plainly
  rw [decide_eq_false (Nat.not_lt_of_le (arrowing_least e)), Bool.or_false]
  cases e.isObject with
  | true =>
      rw [wrapped_first]
      simp
  | false =>
      rw [wrapIf, if_neg Bool.false_ne_true, first, Option.some_inj, brace]
      simp

theorem starts_minus_iff (e : Expr) (plainly : LedPlainly e) :
    (wrapIf (decide (e.strength < prefixed)) e.render).toList.head? = some '-' ↔
      prefixed ≤ e.strength ∧ (leading e).isNegative = true := by
  obtain ⟨c, first, -, minus⟩ := starts_leading e plainly
  by_cases weak : e.strength < prefixed
  · rw [decide_eq_true weak, wrapped_first]
    simp [Nat.not_le_of_lt weak]
  · rw [decide_eq_false weak, wrapIf, if_neg Bool.false_ne_true, first, Option.some_inj, minus]
    simp [Nat.le_of_not_lt weak]

theorem starts_prefix_iff (front mark text : String) (c : Char) (spelled : mark.toList = [c]) :
    (front ++ mark).toList <+: (front ++ text).toList ↔ text.toList.head? = some c := by
  rw [String.toList_append, String.toList_append, List.prefix_append_right_inj, spelled]
  cases text.toList <;> simp [eq_comm]

theorem first_characters_fuse_iff (e : Expr) (plainly : LedPlainly e) (params : List Param)
    (isAsync : Bool) :
    ((arrowText params isAsync ++ "\x7b").toList <+: (Expr.arrow params e isAsync).render.toList ↔
      e.isObject = false ∧ (leading e).isObject = true) ∧
    ("--".toList <+: (Expr.unary .neg e).render.toList ↔
      prefixed ≤ e.strength ∧ (leading e).isNegative = true) := by
  constructor
  · rw [arrow_render, starts_prefix_iff _ "\x7b" _ '\x7b' rfl]
    exact starts_brace_iff e plainly
  · have both : "--" = "-" ++ "-" := rfl
    rw [render, UnaryOp.symbol, both, starts_prefix_iff "-" "-" _ '-' rfl]
    exact starts_minus_iff e plainly

def difference : Expr :=
  .binary (.member (.index (.ident "sizes") (.object [])) "first" true) .sub
    (.unary .neg (.ident "step"))

example : difference.render = "sizes[\x7b\x7d]?.first - -step" := by
  rfl

theorem difference_apart : LedPlainly difference ∧
    ¬ (arrowText [] false ++ "\x7b").toList <+: (Expr.arrow [] difference false).render.toList ∧
    ¬ "--".toList <+: (Expr.unary .neg difference).render.toList := by
  have plainly : LedPlainly difference := by
    refine ⟨nofun, ?_⟩
    rintro name ⟨rfl⟩
    decide
  obtain ⟨brace, minus⟩ := first_characters_fuse_iff difference plainly [] false
  refine ⟨plainly, fun opens => ?_, fun begins => ?_⟩
  · exact Bool.false_ne_true (brace.mp opens).2
  · exact Bool.false_ne_true (minus.mp begins).2

theorem object_part_and_negation_fuse :
    (Expr.arrow [] (.member (.object []) "x" false) false).render = "() => \x7b\x7d.x" ∧
    (Expr.unary .neg (.unary .neg (.ident "x"))).render = "--x" := by
  exact ⟨rfl, rfl⟩

end Expr

end ApiContract.Code
