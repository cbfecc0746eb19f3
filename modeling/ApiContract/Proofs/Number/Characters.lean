import ApiContract.Code.Expr
import ApiContract.Proofs.Identifier

/-!
The characters of literals that are no text, of words and of numbers. A number begins with a digit,
with a minus in front where it is negative.
-/

set_option autoImplicit false

namespace ApiContract.Number

-- Letters, digits, the signs and the point of a number.
def isSpelled (c : Char) : Bool :=
  Name.isPart c || c == '-' || c == '+' || c == '.'

def Spelled (text : String) : Prop :=
  ∀ c ∈ text.toList, isSpelled c = true

instance (text : String) : Decidable (Spelled text) :=
  List.decidableBAll (isSpelled · = true) text.toList

theorem spelled_append (first second : String) (left : Spelled first) (right : Spelled second) :
    Spelled (first ++ second) := by
  rw [Spelled, String.toList_append, List.forall_mem_append]
  exact ⟨left, right⟩

theorem spelled_within (chars : List Char) (text : String) (spelled : Spelled text)
    (within : ∀ c ∈ chars, c ∈ text.toList) : Spelled (String.ofList chars) := by
  rw [Spelled, String.toList_ofList]
  exact fun c member => spelled c (within c member)

theorem digit_spelled (c : Char) (digit : c.isDigit = true) : isSpelled c = true := by
  simp [isSpelled, Name.isPart, Char.isAlphanum, digit]

theorem repr_spelled (n : Nat) : Spelled (Nat.repr n) := by
  intro c member
  rw [Nat.toList_repr] at member
  exact digit_spelled c (Nat.isDigit_of_mem_toDigits (by decide) (Nat.le_refl 10) member)

theorem int_spelled (n : Int) : Spelled (toString n) := by
  cases n with
  | ofNat n => exact repr_spelled n
  | negSucc n => exact spelled_append "-" _ (by decide) (repr_spelled (n + 1))

theorem zeros_spelled (count : Nat) : Spelled (zeros count) := by
  intro c member
  rw [zeros, String.toList_ofList] at member
  rw [List.eq_of_mem_replicate member]
  rfl

theorem decimal_spelled (s : Spelling) (d : Decimal) : Spelled (s.decimal d) := by
  have digits := repr_spelled d.digits
  have taken (count : Nat) := spelled_within _ _ digits
    fun c (member : c ∈ (Nat.repr d.digits).toList.take count) => List.mem_of_mem_take member
  have dropped (count : Nat) := spelled_within _ _ digits
    fun c (member : c ∈ (Nat.repr d.digits).toList.drop count) => List.mem_of_mem_drop member
  rw [Spelling.decimal]
  split
  · split
    · refine spelled_append _ _ (spelled_append _ _ digits (zeros_spelled _)) ?_
      split <;> decide
    · split
      · exact spelled_append _ _ (spelled_append _ _ (taken _) (by decide)) (dropped _)
      · exact spelled_append _ _ (spelled_append _ _ (by decide) (zeros_spelled _)) digits
  · refine spelled_append _ _ (spelled_append _ _ (spelled_append _ _ (spelled_append _ _
      (taken 1) ?_) (by decide)) ?_) (int_spelled _)
    · split
      · decide
      · exact spelled_append _ _ (by decide) (dropped 1)
    · split <;> decide

theorem float_spelled (s : Spelling) (x : Float) : Spelled (s.float x) := by
  have sign : Spelled (if x.toBits.toNat / twoTo 63 = 1 then "-" else "") := by
    split <;> decide
  rw [Spelling.float]
  split
  · exact spelled_append _ _ sign (by split <;> decide)
  · exact spelled_append _ _ sign (decimal_spelled s _)

theorem literal_spelled (value : Code.Literal) (noText : ∀ text, value ≠ .text text) :
    Spelled value.render := by
  cases value with
  | null => decide
  | bool value => cases value <;> decide
  | int value => exact int_spelled value
  | float value =>
      rw [Code.Literal.render]
      split
      · decide
      · split
        · split <;> decide
        · exact float_spelled _ value
  | text value => exact absurd rfl (noText value)

-- A text that begins with a digit.
def LedByDigit (text : String) : Prop :=
  ∃ c rest, text.toList = c :: rest ∧ c.isDigit = true

theorem repr_led (n : Nat) : LedByDigit (Nat.repr n) := by
  obtain ⟨c, rest, spelled⟩ := List.exists_cons_of_ne_nil (Nat.toDigits_ne_nil (n := n) (b := 10))
  rw [LedByDigit, Nat.toList_repr]
  refine ⟨c, rest, spelled, Nat.isDigit_of_mem_toDigits (n := n) (by decide) (Nat.le_refl 10) ?_⟩
  rw [spelled]
  exact .head rest

theorem LedByDigit.append {text : String} (led : LedByDigit text) (more : String) :
    LedByDigit (text ++ more) := by
  obtain ⟨c, rest, spelled, digit⟩ := led
  exact ⟨c, rest ++ more.toList, by rw [String.toList_append, spelled, List.cons_append], digit⟩

theorem LedByDigit.take {text : String} (led : LedByDigit text) (count : Nat) (some : 0 < count) :
    LedByDigit (String.ofList (text.toList.take count)) := by
  obtain ⟨c, rest, spelled, digit⟩ := led
  obtain ⟨fewer, rfl⟩ := Nat.exists_eq_succ_of_ne_zero (Nat.ne_of_gt some)
  exact ⟨c, rest.take fewer, by rw [String.toList_ofList, spelled, List.take_succ_cons], digit⟩

theorem decimal_led (s : Spelling) (d : Decimal) : LedByDigit (s.decimal d) := by
  have digits := repr_led d.digits
  rw [Spelling.decimal]
  split
  · split
    · exact (digits.append _).append _
    · split
      · rename_i point
        exact ((digits.take _ (by omega)).append _).append _
      · have zero : LedByDigit "0." := ⟨'0', ['.'], rfl, by decide⟩
        exact (zero.append _).append _
  · have first := digits.take 1 Nat.one_pos
    exact (((first.append _).append _).append _).append _

-- The sign of a number as it is held.
def isSigned (x : Float) : Bool :=
  decide (x.toBits.toNat / twoTo 63 = 1)

theorem float_led (s : Spelling) (x : Float) :
    ∃ digits, LedByDigit digits ∧
      s.float x = (if isSigned x then "-" else "") ++ digits := by
  have zero : LedByDigit (if s.pointZero then "0.0" else "0") := by
    split <;> exact ⟨'0', _, rfl, by decide⟩
  simp only [Spelling.float, isSigned, decide_eq_true_eq]
  split
  · exact ⟨_, zero, rfl⟩
  · exact ⟨_, decimal_led s _, rfl⟩

end ApiContract.Number
