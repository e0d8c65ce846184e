/-!
# Outcomes of several steps

A reading in several steps succeeds if each of them does, one after the other (`bind_eq_ok_iff`). If
one goes wrong, the first that does is to blame (`faultOf_bind`).
-/

namespace BearerGate

/-- What has gone wrong, if anything has. -/
def faultOf {ε α : Type} : Except ε α → Option ε
  | .error fault => some fault
  | .ok _ => none

theorem faultOf_eq_none_iff {ε α : Type} {outcome : Except ε α} :
    faultOf outcome = none ↔ ∃ result, outcome = .ok result := by
  cases outcome with
  | error fault => simp [faultOf]
  | ok result => simp [faultOf]

theorem faultOf_eq_some_iff {ε α : Type} {outcome : Except ε α} {fault : ε} :
    faultOf outcome = some fault ↔ outcome = .error fault := by
  cases outcome with
  | error other => simp [faultOf]
  | ok result => simp [faultOf]

theorem exists_eq_ok_of_isOk {ε α : Type} {outcome : Except ε α} (isOk : outcome.isOk = true) :
    ∃ result, outcome = .ok result := by
  cases outcome with
  | error fault => cases isOk
  | ok result => exact ⟨result, rfl⟩

theorem eq_ok_of_toOption {ε α : Type} {outcome : Except ε α} {result : α}
    (kept : outcome.toOption = some result) : outcome = .ok result := by
  cases outcome with
  | error fault => cases kept
  | ok found =>
    cases kept
    rfl

/-- Of several steps the first that goes wrong counts. -/
theorem faultOf_bind {ε α β γ : Type} {outcome : Except ε α} {next : α → Except ε β}
    {fault? : γ → Option ε} {step : γ} {steps : List γ} (here : faultOf outcome = fault? step)
    (later : ∀ result, faultOf (next result) = steps.findSome? fault?) :
    faultOf (outcome >>= next) = (step :: steps).findSome? fault? := by
  rw [List.findSome?_cons, ← here]
  cases outcome with
  | error fault => rfl
  | ok result => exact later result

theorem bind_eq_ok_iff {ε α β : Type} {outcome : Except ε α} {next : α → Except ε β} {y : β} :
    (outcome >>= next) = .ok y ↔ ∃ x, outcome = .ok x ∧ next x = .ok y := by
  cases outcome with
  | error fault => simp [bind, Except.bind]
  | ok x => simp [bind, Except.bind]

end BearerGate
