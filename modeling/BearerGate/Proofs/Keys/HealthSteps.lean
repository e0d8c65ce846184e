import BearerGate.Keys.HealthDesk
import BearerGate.Proofs.Keys.CurrentKeys

/-!
# The steps of health checks

What one step of a visitor does to a desk, and what a visitor comes to that takes all its steps
before anybody else takes one: it is told what the manager says to it (`HealthDesk.run_alone`).
-/

namespace BearerGate

namespace KeyVisitor

/-- What a visitor is told that is alone at a manager, and the manager after its visit. -/
def visit (manager : KeyManager) (now : Instant) : KeyVisitor → VisitorAnswer × KeyManager
  | .caller id =>
    let (key, after) := manager.resolve now id
    (.key key, after)
  | .check =>
    let (passes, after) := manager.check now
    (.health passes, after)

variable {manager : KeyManager} {now : Instant}

/-- A visitor is told what the current keys say. -/
theorem visit_eq (visitor : KeyVisitor) :
    visitor.visit manager now =
      (visitor.answer (manager.currentKeys now).1, (manager.currentKeys now).2) := by
  cases visitor with
  | caller id => rfl
  | check =>
    unfold visit
    rw [manager.check_eq]
    rfl

theorem visit_of_fresh {keys : KeySet} (fresh : manager.cache.fresh? now = some keys)
    (visitor : KeyVisitor) : visitor.visit manager now = (visitor.answer (.ok keys), manager) := by
  have current : manager.currentKeys now = (.ok keys, manager) :=
    KeyManager.currentKeys_of_fresh fresh
  rw [visit_eq, current]

theorem visit_of_stale (stale : manager.cache.fresh? now = none) (visitor : KeyVisitor) :
    visitor.visit manager now = (visitor.answer (manager.fetch now).1, (manager.fetch now).2) := by
  have stale' : manager.cache.fresh? (Turn.still now).served = none := stale
  have current : manager.currentKeys now = manager.fetch now := by
    unfold KeyManager.currentKeys
    rw [stale']
    rfl
  rw [visit_eq, current]

end KeyVisitor

namespace HealthDesk

variable {visitors : Nat → KeyVisitor} {now : Instant} {desk after : HealthDesk} {c : Nat}

theorem moved_phase_self (phase : VisitorPhase) : (desk.moved c phase).phase c = phase :=
  if_pos rfl

theorem moved_phase_of_ne {b : Nat} (other : b ≠ c) (phase : VisitorPhase) :
    (desk.moved c phase).phase b = desk.phase b :=
  if_neg other

/-! ## One step -/

/-- What the step of a visitor can do to a desk. -/
inductive Steps (visitors : Nat → KeyVisitor) (now : Instant) (desk : HealthDesk) (c : Nat) :
    HealthDesk → Prop
  | entered (here : desk.phase c = .waiting) (free : desk.holder = none) :
    Steps visitors now desk c { desk.moved c .looking with holder := some c }
  | served {id : String} {keys : KeySet} (here : desk.phase c = .looking)
    (caller : visitors c = .caller id) (fresh : desk.manager.cache.fresh? now = some keys) :
    Steps visitors now desk c (desk.moved c (.told (.key (keys.lookup id))))
  | unserved {id : String} (here : desk.phase c = .looking) (caller : visitors c = .caller id)
    (stale : desk.manager.cache.fresh? now = none) :
    Steps visitors now desk c (desk.moved c .fetching)
  | saw {keys : KeySet} (here : desk.phase c = .looking) (check : visitors c = .check)
    (fresh : desk.manager.cache.fresh? now = some keys) :
    Steps visitors now desk c (desk.moved c (.looked true))
  | missed (here : desk.phase c = .looking) (check : visitors c = .check)
    (stale : desk.manager.cache.fresh? now = none) :
    Steps visitors now desk c
      { desk.moved c (.looked false) with missed := desk.missed ++ [c] }
  | passed (here : desk.phase c = .looked true) :
    Steps visitors now desk c { desk.moved c (.gone (.health true)) with holder := none }
  | left (here : desk.phase c = .looked false) :
    Steps visitors now desk c { desk.moved c .waitingAgain with holder := none }
  | returned (here : desk.phase c = .waitingAgain) (free : desk.holder = none) :
    Steps visitors now desk c { desk.moved c .fetching with holder := some c }
  | fetched (here : desk.phase c = .fetching) :
    Steps visitors now desk c
      { desk.moved c (.told ((visitors c).answer (desk.manager.fetch now).1)) with
        manager := (desk.manager.fetch now).2
        asked := desk.asked ++ [c] }
  | closed {answer : VisitorAnswer} (here : desk.phase c = .told answer) :
    Steps visitors now desk c { desk.moved c (.gone answer) with holder := none }

theorem steps_of_step (stepped : desk.step visitors now c = some after) :
    desk.Steps visitors now c after := by
  unfold step at stepped
  split at stepped
  next here =>
    split at stepped
    next => cases stepped
    next free =>
      cases stepped
      exact .entered here (Option.not_isSome_iff_eq_none.mp free)
  next here caller =>
    split at stepped
    next fresh =>
      cases stepped
      exact .served here caller fresh
    next stale =>
      cases stepped
      exact .unserved here caller stale
  next here check =>
    split at stepped
    next cached =>
      cases stepped
      obtain ⟨keys, fresh⟩ := Option.isSome_iff_exists.mp cached
      exact .saw here check fresh
    next uncached =>
      cases stepped
      exact .missed here check (Option.not_isSome_iff_eq_none.mp uncached)
  next here =>
    cases stepped
    exact .passed here
  next here =>
    cases stepped
    exact .left here
  next here =>
    split at stepped
    next => cases stepped
    next free =>
      cases stepped
      exact .returned here (Option.not_isSome_iff_eq_none.mp free)
  next here =>
    cases stepped
    exact .fetched here
  next here =>
    cases stepped
    exact .closed here
  next => cases stepped

theorem step_of_steps (steps : desk.Steps visitors now c after) :
    desk.step visitors now c = some after := by
  unfold step
  cases steps with
  | entered here free =>
    simp only [here, free]
    rfl
  | served here caller fresh => simp only [here, caller, fresh]
  | unserved here caller stale => simp only [here, caller, stale]
  | saw here check fresh =>
    have cached : desk.manager.isCached now = true := by
      unfold KeyManager.isCached KeyCache.isFresh
      rw [fresh]
      rfl
    simp only [here, check, cached, if_true]
  | missed here check stale =>
    have uncached : desk.manager.isCached now = false := by
      unfold KeyManager.isCached KeyCache.isFresh
      rw [stale]
      rfl
    simp only [here, check, uncached]
    rfl
  | passed here => simp only [here]
  | left here => simp only [here]
  | returned here free =>
    simp only [here, free]
    rfl
  | fetched here => simp only [here]
  | closed here => simp only [here]

/-! ## Several steps -/

theorem run_append (front back : List Nat) :
    desk.run visitors now (front ++ back) =
      (desk.run visitors now front).bind (run visitors now · back) := by
  induction front generalizing desk with
  | nil => rfl
  | cons c front ih =>
    change (desk.step visitors now c).bind _ = ((desk.step visitors now c).bind _).bind _
    cases desk.step visitors now c with
    | none => rfl
    | some between => exact ih

theorem run_cons_of_steps {between : HealthDesk} {moves : List Nat} {result : Option HealthDesk}
    (steps : desk.Steps visitors now c between)
    (rest : between.run visitors now moves = result) :
    desk.run visitors now (c :: moves) = result := by
  unfold run
  rw [step_of_steps steps]
  exact rest

/-- A visitor that finds the lock free, and takes all its steps before anybody else takes one, is
told what the manager says. -/
theorem run_alone (here : desk.phase c = .waiting) (free : desk.holder = none) :
    ∃ n after, desk.run visitors now (List.replicate n c) = some after ∧
      after.phase c = .gone ((visitors c).visit desk.manager now).1 ∧
      after.manager = ((visitors c).visit desk.manager now).2 ∧ after.holder = none ∧
      ∀ b, b ≠ c → after.phase b = desk.phase b := by
  have entered : desk.Steps visitors now c { desk.moved c .looking with holder := some c } :=
    .entered here free
  cases visitor : visitors c with
  | caller id =>
    cases found : desk.manager.cache.fresh? now with
    | some keys =>
      refine ⟨3, _, run_cons_of_steps entered
        (run_cons_of_steps (.served (moved_phase_self _) visitor found)
          (run_cons_of_steps (.closed (moved_phase_self _)) rfl)), ?_, ?_, rfl, fun b other => ?_⟩
      · rw [KeyVisitor.visit_of_fresh found]
        exact moved_phase_self _
      · rw [KeyVisitor.visit_of_fresh found]
        rfl
      · simp [moved, other]
    | none =>
      refine ⟨4, _, run_cons_of_steps entered
        (run_cons_of_steps (.unserved (moved_phase_self _) visitor found)
          (run_cons_of_steps (.fetched (moved_phase_self _))
            (run_cons_of_steps (.closed (moved_phase_self _)) rfl))), ?_, ?_, rfl,
        fun b other => ?_⟩
      · rw [← visitor, KeyVisitor.visit_of_stale found]
        exact moved_phase_self _
      · rw [KeyVisitor.visit_of_stale found]
        rfl
      · simp [moved, other]
  | check =>
    cases found : desk.manager.cache.fresh? now with
    | some keys =>
      refine ⟨3, _, run_cons_of_steps entered
        (run_cons_of_steps (.saw (moved_phase_self _) visitor found)
          (run_cons_of_steps (.passed (moved_phase_self _)) rfl)), ?_, ?_, rfl, fun b other => ?_⟩
      · rw [KeyVisitor.visit_of_fresh found]
        exact moved_phase_self _
      · rw [KeyVisitor.visit_of_fresh found]
        rfl
      · simp [moved, other]
    | none =>
      refine ⟨6, _, run_cons_of_steps entered
        (run_cons_of_steps (.missed (moved_phase_self _) visitor found)
          (run_cons_of_steps (.left (moved_phase_self _))
            (run_cons_of_steps (.returned (moved_phase_self _) rfl)
              (run_cons_of_steps (.fetched (moved_phase_self _))
                (run_cons_of_steps (.closed (moved_phase_self _)) rfl))))), ?_, ?_, rfl,
        fun b other => ?_⟩
      · rw [← visitor, KeyVisitor.visit_of_stale found]
        exact moved_phase_self _
      · rw [KeyVisitor.visit_of_stale found]
        rfl
      · simp [moved, other]

end HealthDesk

end BearerGate
