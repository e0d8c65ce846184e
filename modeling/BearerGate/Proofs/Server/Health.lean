import BearerGate.Proofs.Keys.CurrentKeys
import BearerGate.Server.Internal

/-!
# What a health check tells

A health check tells whether keys can be resolved. The check and a question for a key are written
apart: the one looks whether a fresh set is cached and fetches if there is none, the other takes
the fresh set or a fetched one. Both come to reading the current keys
(`KeyManager.check_eq`), and so they agree in every state of a manager, about the answer as well as
about what they leave behind.
-/

namespace BearerGate

/-! ## Questions for a key -/

theorem KeySet.lookup_cases (keys : KeySet) (id : String) :
    (∃ key, keys.lookup id = .ok key) ∨ keys.lookup id = .error (.notFound id) := by
  unfold lookup
  cases keys.find? id with
  | some key => exact .inl ⟨key, rfl⟩
  | none => exact .inr rfl

/-- A question is settled by a key set, which has the key or has none of that name, or it meets with
an outage. -/
theorem KeyManager.resolve_cases (manager : KeyManager) (turn : Turn) (id : String) :
    ((manager.currentKeys turn).1.isOk = true ∧
        ((∃ key, (manager.resolve turn id).1 = .ok key) ∨
          (manager.resolve turn id).1 = .error (.notFound id))) ∨
      ((manager.currentKeys turn).1.isOk = false ∧
        ∃ failure, (manager.resolve turn id).1 = .error failure ∧ failure.IsOutage) := by
  have answer : (manager.resolve turn id).1 =
      (manager.currentKeys turn).1.bind (·.lookup id) := rfl
  rw [answer]
  cases current : (manager.currentKeys turn).1 with
  | ok keys => exact .inl ⟨rfl, keys.lookup_cases id⟩
  | error failure => exact .inr ⟨rfl, failure, rfl, isOutage_of_currentKeys current⟩

/-- An outage does not settle a question. -/
theorem KeyFailure.IsOutage.not_settled {failure : KeyFailure} (outage : failure.IsOutage)
    {answer : Except KeyFailure KeyEntry} {id : String} (failed : answer = .error failure) :
    ¬ ((∃ key, answer = .ok key) ∨ answer = .error (.notFound id)) := by
  subst failed
  rintro (⟨key, given⟩ | unknown)
  · cases given
  · cases unknown
    cases outage

namespace Internals

/-! ## The two answers to a question for health -/

/-- The answer if keys can be had. -/
def passing : Response :=
  ⟨200, some "application/json",
    "\x7b\"status\":\"pass\",\"checks\":\x7b\"jwks\":\"pass\"\x7d\x7d", none⟩

/-- The answer if they cannot. -/
def failing : Response :=
  ⟨500, some "application/json",
    "\x7b\"status\":\"fail\",\"checks\":\x7b\"jwks\":\"fail\"\x7d\x7d", none⟩

theorem healthResponse_some (passed : Bool) :
    healthResponse (some passed) = if passed then passing else failing := by
  cases passed with
  | true => decide
  | false => decide

theorem get_health (manager : KeyManager) (exporter : Option Exporter) (registry : Registry)
    (turn : Turn) :
    (Internals.mk (some manager) exporter registry).get "/health" turn =
      (if (manager.currentKeys turn).1.isOk then passing else failing,
        ⟨some (manager.currentKeys turn).2, exporter, registry⟩) := by
  have asked : withoutQuery "/health" = "/health" := by decide
  unfold get
  rw [if_pos asked]
  unfold health
  dsimp only
  rw [manager.check_eq turn, healthResponse_some]

/-- In every state of a manager, whatever its endpoint does and whenever it is asked, a question
for health passes just if a question for a key would be settled, and fails just if that would meet
with an outage. Either leaves the same manager, with its cache and its requests. -/
theorem get_health_iff_resolve (manager : KeyManager) (exporter : Option Exporter)
    (registry : Registry) (turn : Turn) (id : String) :
    let health := (Internals.mk (some manager) exporter registry).get "/health" turn
    let question := manager.resolve turn id
    (health.1 = passing ∨ health.1 = failing) ∧
      (health.1 = passing ↔
        (∃ key, question.1 = .ok key) ∨ question.1 = .error (.notFound id)) ∧
      (health.1 = failing ↔ ∃ failure, question.1 = .error failure ∧ failure.IsOutage) ∧
      health.2 = ⟨some question.2, exporter, registry⟩ := by
  intro health question
  have told : health = (if (manager.currentKeys turn).1.isOk then passing else failing,
      ⟨some question.2, exporter, registry⟩) := get_health manager exporter registry turn
  have apart : passing ≠ failing := by decide
  rw [told]
  rcases manager.resolve_cases turn id with
    ⟨available, settled⟩ | ⟨missing, failure, failed, outage⟩
  · rw [available]
    refine ⟨.inl rfl, ⟨fun _ => settled, fun _ => rfl⟩,
      ⟨fun broken => (apart broken).elim, ?_⟩, rfl⟩
    rintro ⟨failure, failed, outage⟩
    exact (outage.not_settled failed settled).elim
  · rw [missing]
    refine ⟨.inr rfl, ⟨fun whole => (apart whole.symm).elim, ?_⟩,
      ⟨fun _ => ⟨failure, failed, outage⟩, fun _ => rfl⟩, rfl⟩
    intro settled
    exact (outage.not_settled failed settled).elim

end Internals

end BearerGate
