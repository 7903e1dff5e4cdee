/-!
# Results in sequence

A computation in steps succeeds if all its steps do, and fails with what goes wrong in the first
step that fails. These are the inversions that later proofs use to take such computations apart.

## Main results

* `bind_eq_ok_iff`, `bind_eq_error_iff` — one step and what follows it
* `mapError_eq_ok_iff` — a step whose errors are wrapped
-/

namespace MazeChase

variable {ε ε' α β : Type} {x : Except ε α} {f : α → Except ε β}

theorem bind_eq_ok_iff {y : β} : (x >>= f) = .ok y ↔ ∃ a, x = .ok a ∧ f a = .ok y := by
  cases x <;> simp [bind, Except.bind]

theorem bind_eq_error_iff {e : ε} :
    (x >>= f) = .error e ↔ x = .error e ∨ ∃ a, x = .ok a ∧ f a = .error e := by
  cases x <;> simp [bind, Except.bind]

theorem mapError_eq_ok_iff {wrap : ε → ε'} {a : α} : x.mapError wrap = .ok a ↔ x = .ok a := by
  cases x with
  | error e => exact ⟨nofun, nofun⟩
  | ok b =>
    change Except.ok b = Except.ok a ↔ _
    rw [Except.ok.injEq, Except.ok.injEq]

end MazeChase
