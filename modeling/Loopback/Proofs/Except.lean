/-! # Results that may be errors

    A program that may fail is a sequence of steps, each of which must succeed before the next one
    is taken.  If the whole has succeeded, it can be taken apart again, step by step.
-/

namespace Loopback

namespace Except

variable {ε α β : Type}

/-- Of two steps, both succeed or the whole fails. -/
theorem bind_eq_ok {x : Except ε α} {f : α → Except ε β} {b : β} :
    (x >>= f) = .ok b ↔ ∃ a, x = .ok a ∧ f a = .ok b := by
  cases x with
  | error err => simp [bind, Except.bind]
  | ok a => simp [bind, Except.bind]

/-- A check that is passed lets the rest decide. -/
theorem check_eq_ok {p : Prop} [Decidable p] {err : ε} {x : Except ε α} {a : α} :
    (if p then .error err else x) = .ok a ↔ ¬p ∧ x = .ok a := by
  by_cases hp : p <;> simp [hp]

/-- Steps none of which fails give the list of their results. -/
theorem mapM_of_ok {step : α → Except ε β} {result : α → β} {items : List α}
    (h : ∀ item ∈ items, step item = .ok (result item)) :
    items.mapM step = .ok (items.map result) := by
  induction items with
  | nil => rfl
  | cons item items ih =>
    have hitem := h item (List.mem_cons_self ..)
    have hitems := ih fun other hother => h other (List.mem_cons_of_mem _ hother)
    rw [List.mapM_cons, hitem, hitems]
    rfl

end Except

end Loopback
