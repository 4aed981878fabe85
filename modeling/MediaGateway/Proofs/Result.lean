/-!
# Results of computations that can fail

What a computation that consists of steps has to say about its steps if it succeeds.
-/

namespace MediaGateway

variable {ε α β : Type} {r : Except ε α}

theorem exists_of_bind_eq_ok {f : α → Except ε β} {b : β} (h : (r >>= f) = .ok b) :
    ∃ a, r = .ok a ∧ f a = .ok b := by
  cases r with
  | error e => simp [bind, Except.bind] at h
  | ok a => exact ⟨a, rfl, h⟩

theorem exists_of_map_eq_ok {f : α → β} {b : β} (h : r.map f = .ok b) :
    ∃ a, r = .ok a ∧ f a = b := by
  cases r with
  | error e => simp [Except.map] at h
  | ok a => exact ⟨a, rfl, Except.ok.inj h⟩

/-- A result can be found by evaluation also where errors cannot be compared. -/
theorem ok_of_toOption {a : α} (h : r.toOption = some a) : r = .ok a := by
  cases r with
  | error e => simp [Except.toOption] at h
  | ok b => rw [Option.some.inj h]

end MediaGateway
