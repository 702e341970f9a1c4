/-! # Results of computations that may fail

How a computation that goes on with another one ends.
-/
namespace EnclaveRegistry.Result

variable {ε α β : Type}

@[simp] theorem ok_bind (a : α) (f : α → Except ε β) : (.ok a : Except ε α) >>= f = f a := rfl

@[simp] theorem error_bind (error : ε) (f : α → Except ε β) :
    (.error error : Except ε α) >>= f = .error error := rfl

@[simp] theorem pure_eq_ok (a : α) : (pure a : Except ε α) = .ok a := rfl

theorem bind_eq_ok_iff {x : Except ε α} {f : α → Except ε β} {b : β} :
    x >>= f = .ok b ↔ ∃ a, x = .ok a ∧ f a = .ok b := by
  cases x <;> simp

theorem toOption_eq_some_iff {x : Except ε α} {a : α} : x.toOption = some a ↔ x = .ok a := by
  cases x <;> simp [Except.toOption]

theorem exists_error_of_ne_ok {x : Except ε α} (h : ∀ a, x ≠ .ok a) :
    ∃ error, x = .error error := by
  cases x with
  | ok a => exact absurd rfl (h a)
  | error error => exact ⟨error, rfl⟩

end EnclaveRegistry.Result
