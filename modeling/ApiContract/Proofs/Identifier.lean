import ApiContract.Name
import Mathlib.Data.List.Basic

/-!
The characters of identifiers, which can be looked at one after the other.
-/

set_option autoImplicit false

namespace ApiContract.Name

theorem ascii_all (p : Char → Prop) (each : ∀ n : Fin 128, p (Char.ofNat n)) (c : Char)
    (ascii : c.toNat < 128) : p c := by
  simpa only [Char.ofNat_toNat] using each ⟨c.toNat, ascii⟩

theorem part_ascii (c : Char) (part : isPart c = true) : c.toNat < 128 := by
  unfold isPart Char.isAlphanum Char.isAlpha Char.isUpper Char.isLower Char.isDigit at part
  simp only [Bool.or_eq_true, Bool.and_eq_true, decide_eq_true_eq, beq_iff_eq] at part
  have below (most : UInt32) (atMost : c.val ≤ most) (small : most.toNat < 128) : c.toNat < 128 :=
    Nat.lt_of_le_of_lt (UInt32.le_iff_toNat_le.mp atMost) small
  rcases part with (((⟨-, atMost⟩ | ⟨-, atMost⟩) | ⟨-, atMost⟩) | rfl) | rfl
  · exact below _ atMost (by decide)
  · exact below _ atMost (by decide)
  · exact below _ atMost (by decide)
  · decide
  · decide

-- What holds of each character that an identifier may have holds of all of them.
theorem part_all (p : Char → Prop) (each : ∀ n : Fin 128, isPart (Char.ofNat n) = true →
    p (Char.ofNat n)) (c : Char) (part : isPart c = true) : p c :=
  ascii_all (fun c => isPart c = true → p c) each c (part_ascii c part) part

theorem start_part (c : Char) (start : isStart c = true) : isPart c = true := by
  simp only [isStart, Bool.or_eq_true] at start
  simp only [isPart, Char.isAlphanum, Bool.or_eq_true]
  tauto

theorem identifier_parts (name : String) (named : isIdentifier name = true) :
    ∃ c rest, name.toList = c :: rest ∧ isStart c = true ∧ ∀ d ∈ name.toList, isPart d = true := by
  rw [isIdentifier] at named
  split at named
  · cases named
  · rename_i c rest spelled
    obtain ⟨start, parts⟩ := Bool.and_eq_true_iff.mp named
    refine ⟨c, rest, spelled, start, ?_⟩
    rw [spelled]
    exact List.forall_mem_cons.mpr ⟨start_part c start, List.all_eq_true.mp parts⟩

end ApiContract.Name
