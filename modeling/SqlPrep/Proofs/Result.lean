/-!
# Results

When a computation that can fail succeeds, and with what: of one computation after another, and of
one whose failure is reported otherwise.
-/

namespace SqlPrep

/-- A computation after another one succeeds if both do. -/
theorem bind_eq_ok {x : Except ε α} {f : α → Except ε β} {b : β} :
    (x >>= f) = .ok b ↔ ∃ a, x = .ok a ∧ f a = .ok b := by
  cases x with
  | error e => exact ⟨nofun, nofun⟩
  | ok a => exact ⟨fun h => ⟨a, rfl, h⟩, fun ⟨_, ha, h⟩ => Except.ok.inj ha ▸ h⟩

/-- A computation whose failure is reported otherwise succeeds with the same value. -/
theorem mapError_eq_ok {x : Except ε α} {f : ε → δ} {a : α} :
    x.mapError f = .ok a ↔ x = .ok a := by
  cases x with
  | error e => exact ⟨nofun, nofun⟩
  | ok b =>
    constructor
    · intro h
      rw [Except.ok.inj h]
    · intro h
      rw [Except.ok.inj h]
      rfl

/-- The cause of a failure, if it is one. -/
def failure? (x : Except ε α) : Option ε :=
  match x with
  | .error e => some e
  | .ok _ => none

/-- A computation has a cause of failure if it fails with it. -/
theorem failure?_eq_some {x : Except ε α} {e : ε} : failure? x = some e ↔ x = .error e := by
  cases x <;> simp [failure?]

end SqlPrep
