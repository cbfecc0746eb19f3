/-!
Results that may fail: what is known of an outcome when a later one has succeeded.
-/

set_option autoImplicit false

namespace ApiContract

variable {α β ε δ : Type}

theorem map_ok_iff (f : α → β) (outcome : Except ε α) (b : β) :
    outcome.map f = .ok b ↔ ∃ a, outcome = .ok a ∧ f a = b := by
  cases outcome with
  | error e => simp [Except.map]
  | ok a => simp [Except.map]

theorem map_error_ok_iff (f : ε → δ) (outcome : Except ε α) (a : α) :
    outcome.mapError f = .ok a ↔ outcome = .ok a := by
  cases outcome with
  | error e => exact ⟨nofun, nofun⟩
  | ok b =>
      constructor
      · intro same
        exact congrArg Except.ok (Except.ok.inj same)
      · intro same
        exact congrArg Except.ok (Except.ok.inj same)

theorem map_error_error (f : ε → δ) (outcome : Except ε α) (d : δ)
    (fails : outcome.mapError f = .error d) : ∃ e, d = f e := by
  cases outcome with
  | error e => exact ⟨e, (Except.error.inj fails).symm⟩
  | ok a => exact nomatch fails

theorem map_error_iff (f : α → β) (outcome : Except ε α) (e : ε) :
    outcome.map f = .error e ↔ outcome = .error e := by
  cases outcome with
  | error found => simp [Except.map]
  | ok a => simp [Except.map]

theorem bind_error_iff (outcome : Except ε α) (f : α → Except ε β) (e : ε) :
    outcome.bind f = .error e ↔ outcome = .error e ∨ ∃ a, outcome = .ok a ∧ f a = .error e := by
  cases outcome with
  | error found => simp [Except.bind]
  | ok a => simp [Except.bind]

theorem ok_of_is_ok (outcome : Except ε α) (isOk : outcome.isOk = true) :
    ∃ a, outcome = .ok a := by
  cases outcome with
  | error e => cases isOk
  | ok a => exact ⟨a, rfl⟩

theorem error_of_not_ok (outcome : Except ε α) (notOk : outcome.isOk = false) :
    ∃ e, outcome = .error e := by
  cases outcome with
  | error e => exact ⟨e, rfl⟩
  | ok a => cases notOk

theorem to_option_some_iff (outcome : Except ε α) (a : α) :
    outcome.toOption = some a ↔ outcome = .ok a := by
  cases outcome with
  | error e => simp [Except.toOption]
  | ok b => simp [Except.toOption]

def error? : Except ε α → Option ε
  | .error e => some e
  | .ok _ => none

theorem error_eq_some_iff (outcome : Except ε α) (e : ε) :
    error? outcome = some e ↔ outcome = .error e := by
  cases outcome with
  | error found => simp [error?]
  | ok a => simp [error?]

theorem error_eq_none_iff (outcome : Except ε α) :
    error? outcome = none ↔ ∃ a, outcome = .ok a := by
  cases outcome with
  | error e => simp [error?]
  | ok a => simp [error?]

theorem error_map (f : α → β) (outcome : Except ε α) :
    error? (outcome.map f) = error? outcome := by
  cases outcome with
  | error found => rfl
  | ok a => rfl

end ApiContract
