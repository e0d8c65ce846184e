import BearerGate.Keys.Desk
import BearerGate.Proofs.Token.Accounting
import Mathlib.Data.List.Induction
import Mathlib.Data.List.Nodup

/-!
# Callers side by side are served in turn

However the steps of any number of callers are mixed, and whoever of them gives up when, they are
served as if they had come one after another, in the order in which they got the lock.

The turn of a caller is two events of the traffic on a manager: the endpoint becomes what the
caller meets with, and the caller resolves its key, with a request that is awaited or given up.
While a caller has the lock, the manager is what the turns before it have left, up to the endpoint
and to what the caller has installed (`KeyDesk.Sound.busy`); when it gives the lock back, its own
turn is one more of them.
-/

namespace BearerGate

/-! ## One turn -/

namespace KeyCaller

/-- The turn of a caller, who may give up its request. -/
def events (caller : KeyCaller) (gaveUp : Bool) : List KeyEvent :=
  [.turnsTo caller.endpoint,
    .resolveCancellable caller.turn caller.id (if gaveUp then .beforeAnswer else .never)]

/-- A manager as the caller meets with it. -/
def meets (caller : KeyCaller) (manager : KeyManager) : KeyManager :=
  { manager with endpoint := caller.endpoint }

/-- The request of a caller, if it makes one. -/
def request (caller : KeyCaller) (gaveUp : Bool) : KeyRequest :=
  ⟨caller.endpoint, caller.turn.ended, !gaveUp⟩

variable {caller : KeyCaller} {manager : KeyManager}

theorem run_events_false :
    manager.run (caller.events false) = ((caller.meets manager).currentKeys caller.turn).2 := rfl

theorem run_events_of_fresh {keys : KeySet}
    (fresh : manager.cache.fresh? caller.turn.served = some keys) (gaveUp : Bool) :
    manager.run (caller.events gaveUp) = caller.meets manager := by
  have fresh' : (caller.meets manager).cache.fresh? caller.turn.served = some keys := fresh
  cases gaveUp with
  | false => rw [run_events_false, KeyManager.currentKeys_of_fresh fresh']
  | true =>
    have left : manager.run (caller.events true) =
        ((caller.meets manager).resolveAbandoning caller.turn caller.id).2 := rfl
    rw [left]
    unfold KeyManager.resolveAbandoning
    rw [fresh']

theorem run_events_of_stale (stale : manager.cache.fresh? caller.turn.served = none)
    (gaveUp : Bool) :
    manager.run (caller.events gaveUp) =
      ((caller.meets manager).settle (caller.request gaveUp)).2 := by
  have stale' : (caller.meets manager).cache.fresh? caller.turn.served = none := stale
  cases gaveUp with
  | false =>
    rw [run_events_false]
    unfold KeyManager.currentKeys
    rw [stale']
    rfl
  | true =>
    have left : manager.run (caller.events true) =
        ((caller.meets manager).resolveAbandoning caller.turn caller.id).2 := rfl
    rw [left]
    unfold KeyManager.resolveAbandoning
    rw [stale']
    rfl

/-- A turn whose request brings no key set leaves the cache as it was. -/
theorem run_events_cache {gaveUp : Bool} (failed : (caller.request gaveUp).succeeds = false) :
    (manager.run (caller.events gaveUp)).cache = manager.cache := by
  cases found : manager.cache.fresh? caller.turn.served with
  | some keys =>
    rw [run_events_of_fresh found]
    rfl
  | none =>
    rw [run_events_of_stale found, KeyManager.settle_cache_of_not_succeeds failed]
    rfl

end KeyCaller

/-! ## Turns one after another -/

/-- The manager after the turns of callers, one after another. -/
def KeyManager.serveAll (callers : Nat → KeyCaller) (gaveUp : Nat → Bool) (manager : KeyManager)
    (order : List Nat) : KeyManager :=
  manager.run (order.flatMap fun c => (callers c).events (gaveUp c))

section Turns

variable {callers : Nat → KeyCaller} {gaveUp gaveUp' : Nat → Bool} {manager : KeyManager}

theorem KeyManager.serveAll_append (order later : List Nat) :
    manager.serveAll callers gaveUp (order ++ later) =
      (manager.serveAll callers gaveUp order).serveAll callers gaveUp later := by
  unfold serveAll run
  rw [List.flatMap_append, List.foldl_append]

theorem KeyManager.serveAll_concat (order : List Nat) (c : Nat) :
    manager.serveAll callers gaveUp (order ++ [c]) =
      (manager.serveAll callers gaveUp order).run ((callers c).events (gaveUp c)) := by
  rw [serveAll_append]
  rfl

theorem KeyManager.serveAll_congr {order : List Nat}
    (same : ∀ c ∈ order, gaveUp c = gaveUp' c) :
    manager.serveAll callers gaveUp order = manager.serveAll callers gaveUp' order := by
  induction order using List.reverseRecOn with
  | nil => rfl
  | append_singleton order c ih =>
    rw [serveAll_concat, serveAll_concat, ih fun b member => same b (List.mem_append_left _ member),
      same c (List.mem_append_right _ List.mem_cons_self)]

/-- Turns whose requests bring no key set leave the cache as it was. -/
theorem KeyManager.serveAll_cache {order : List Nat}
    (failed : ∀ c ∈ order, ((callers c).request (gaveUp c)).succeeds = false) :
    (manager.serveAll callers gaveUp order).cache = manager.cache := by
  induction order using List.reverseRecOn with
  | nil => rfl
  | append_singleton order c ih =>
    rw [serveAll_concat,
      KeyCaller.run_events_cache (failed c (List.mem_append_right _ List.mem_cons_self))]
    exact ih fun b member => failed b (List.mem_append_left _ member)

/-- Turns that find a fresh cache leave it as it was. -/
theorem KeyManager.serveAll_cache_of_fresh {order : List Nat}
    (fresh : ∀ c ∈ order, ∃ keys, manager.cache.fresh? (callers c).turn.served = some keys) :
    (manager.serveAll callers gaveUp order).cache = manager.cache := by
  induction order using List.reverseRecOn with
  | nil => rfl
  | append_singleton order c ih =>
    have kept := ih fun b member => fresh b (List.mem_append_left _ member)
    obtain ⟨keys, found⟩ := fresh c (List.mem_append_right _ List.mem_cons_self)
    rw [← kept] at found
    rw [serveAll_concat, KeyCaller.run_events_of_fresh found]
    exact kept

end Turns

/-- The manager while a caller has the lock. Its turn is over with respect to the manager once it
holds the keys. -/
def CallerPhase.either (ended begun : KeyManager) : CallerPhase → KeyManager
  | .holding _ => ended
  | _ => begun

theorem CallerPhase.isCancelled_of_isInside {phase : CallerPhase}
    (inside : phase.isInside = true) : phase.isCancelled = false := by
  cases phase with
  | cancelled => cases inside
  | started | queued | admitted | fetching | fetched | holding | released | answered => rfl

/-! ## One step -/

namespace KeyDesk

variable {callers : Nat → KeyCaller} {start : KeyManager} {desk after : KeyDesk} {c : Nat}

@[simp]
theorem moved_phase_self (phase : CallerPhase) : (desk.moved c phase).phase c = phase :=
  if_pos rfl

theorem moved_phase_of_ne {b : Nat} (other : b ≠ c) (phase : CallerPhase) :
    (desk.moved c phase).phase b = desk.phase b :=
  if_neg other

/-- What a move can do to a desk. -/
inductive Steps (callers : Nat → KeyCaller) (desk : KeyDesk) : KeyMove → KeyDesk → Prop
  | queued {c : Nat} (here : desk.phase c = .started) (unfired : desk.fired c = false) :
    Steps callers desk ⟨c, .queue⟩ (desk.moved c .queued)
  | acquired {c : Nat} (here : desk.phase c = .queued) (unfired : desk.fired c = false)
    (free : desk.holder = none) :
    Steps callers desk ⟨c, .acquire⟩ { desk.moved c .admitted with
      holder := some c
      manager := (callers c).meets desk.manager
      order := desk.order ++ [c] }
  | found {c : Nat} {keys : KeySet} (here : desk.phase c = .admitted)
    (fresh : desk.manager.cache.fresh? (callers c).turn.served = some keys) :
    Steps callers desk ⟨c, .check⟩ (desk.moved c (.holding (.ok keys)))
  | asked {c : Nat} (here : desk.phase c = .admitted)
    (stale : desk.manager.cache.fresh? (callers c).turn.served = none) :
    Steps callers desk ⟨c, .check⟩ { desk.moved c .fetching with asked := desk.asked ++ [c] }
  | arrived {c : Nat} (here : desk.phase c = .fetching) (unfired : desk.fired c = false) :
    Steps callers desk ⟨c, .arrive⟩ (desk.moved c .fetched)
  | installed {c : Nat} (here : desk.phase c = .fetched) :
    Steps callers desk ⟨c, .install⟩
      { desk.moved c (.holding (desk.manager.fetch (callers c).turn.ended).1) with
        manager := (desk.manager.fetch (callers c).turn.ended).2 }
  | released {c : Nat} {keys : Except KeyFailure KeySet} (here : desk.phase c = .holding keys) :
    Steps callers desk ⟨c, .release⟩ { desk.moved c (.released keys) with holder := none }
  | answered {c : Nat} {keys : Except KeyFailure KeySet} (here : desk.phase c = .released keys) :
    Steps callers desk ⟨c, .lookup⟩ (desk.moved c (.answered (keys.bind (·.lookup (callers c).id))))
  | fired {c : Nat} (cancellable : (callers c).cancellable = true) :
    Steps callers desk ⟨c, .fire⟩ { desk with fired := fun b => b = c || desk.fired b }
  | left {c : Nat} (here : desk.phase c = .started ∨ desk.phase c = .queued)
    (fired : desk.fired c = true) : Steps callers desk ⟨c, .giveUp⟩ (desk.moved c .cancelled)
  | abandoned {c : Nat} (here : desk.phase c = .fetching) (fired : desk.fired c = true) :
    Steps callers desk ⟨c, .giveUp⟩ { desk.moved c .cancelled with
      holder := none
      manager := (desk.manager.abandon (callers c).turn.ended).2 }

theorem steps_of_step {move : KeyMove} (stepped : desk.step callers move = some after) :
    desk.Steps callers move after := by
  obtain ⟨c, act⟩ := move
  unfold step at stepped
  dsimp only at stepped
  split at stepped
  next here =>
    split at stepped
    · cases stepped
    next unfired =>
      cases stepped
      exact .queued here (eq_false_of_ne_true unfired)
  next here =>
    split at stepped
    · cases stepped
    next clear =>
      cases stepped
      rw [Bool.or_eq_true, not_or] at clear
      obtain ⟨unfired, free⟩ := clear
      exact .acquired here (eq_false_of_ne_true unfired)
        (Option.not_isSome_iff_eq_none.mp free)
  next here =>
    split at stepped
    next fresh =>
      cases stepped
      exact .found here fresh
    next stale =>
      cases stepped
      exact .asked here stale
  next here =>
    split at stepped
    · cases stepped
    next unfired =>
      cases stepped
      exact .arrived here (eq_false_of_ne_true unfired)
  next here =>
    cases stepped
    exact .installed here
  next here =>
    cases stepped
    exact .released here
  next here =>
    cases stepped
    exact .answered here
  next =>
    split at stepped
    next cancellable =>
      cases stepped
      exact .fired cancellable
    · cases stepped
  next here =>
    split at stepped
    next fired =>
      cases stepped
      exact .left (.inl here) fired
    · cases stepped
  next here =>
    split at stepped
    next fired =>
      cases stepped
      exact .left (.inr here) fired
    · cases stepped
  next here =>
    split at stepped
    next fired =>
      cases stepped
      exact .abandoned here fired
    · cases stepped
  · cases stepped

/-! ## What the steps keep -/

/-- The callers that have given up. -/
def gaveUp (desk : KeyDesk) (c : Nat) : Bool := (desk.phase c).isCancelled

/-- The manager after the turns of callers, with those given up that have been. -/
def served (callers : Nat → KeyCaller) (start : KeyManager) (desk : KeyDesk) (order : List Nat) :
    KeyManager :=
  start.serveAll callers desk.gaveUp order

/-- How far a caller can have come that has got the lock when the turns before it had left `found`,
and whether it has asked the endpoint. -/
inductive Turned (caller : KeyCaller) (found : KeyManager) (asked : Prop) : CallerPhase → Prop
  | admitted (unasked : ¬ asked) : Turned caller found asked .admitted
  | fetching (stale : found.cache.fresh? caller.turn.served = none) (sent : asked) :
    Turned caller found asked .fetching
  | fetched (stale : found.cache.fresh? caller.turn.served = none) (sent : asked) :
    Turned caller found asked .fetched
  | cancelled (stale : found.cache.fresh? caller.turn.served = none) (sent : asked) :
    Turned caller found asked .cancelled
  | holding (sent : asked ↔ found.cache.fresh? caller.turn.served = none) :
    Turned caller found asked (.holding ((caller.meets found).currentKeys caller.turn).1)
  | released (sent : asked ↔ found.cache.fresh? caller.turn.served = none) :
    Turned caller found asked (.released ((caller.meets found).currentKeys caller.turn).1)
  | answered (sent : asked ↔ found.cache.fresh? caller.turn.served = none) :
    Turned caller found asked (.answered ((caller.meets found).resolve caller.turn caller.id).1)

/-- What every step keeps of a desk at which all began with the manager `start`. -/
structure Sound (callers : Nat → KeyCaller) (start : KeyManager) (desk : KeyDesk) : Prop where
  lock : ∀ c, (desk.phase c).isInside = true ↔ desk.holder = some c
  outside : ∀ c, c ∉ desk.order →
    desk.phase c = .started ∨ desk.phase c = .queued ∨ desk.phase c = .cancelled
  once : desk.order.Nodup
  askedOnce : desk.asked.Nodup
  askers : ∀ c ∈ desk.asked, c ∈ desk.order
  tokens : ∀ c, desk.phase c = .cancelled → desk.fired c = true
  cancellable : ∀ c, desk.fired c = true → (callers c).cancellable = true
  turned : ∀ before c later, desk.order = before ++ c :: later →
    Turned (callers c) (desk.served callers start before) (c ∈ desk.asked) (desk.phase c)
  idle : desk.holder = none → desk.manager = desk.served callers start desk.order
  busy : ∀ c, desk.holder = some c → ∃ before, desk.order = before ++ [c] ∧
    desk.manager = (desk.phase c).either (desk.served callers start desk.order)
      ((callers c).meets (desk.served callers start before))

theorem opened_sound (callers : Nat → KeyCaller) (start : KeyManager) :
    (opened start).Sound callers start where
  lock c := ⟨fun inside => (nomatch inside), fun held => (nomatch held)⟩
  outside _ _ := .inl rfl
  once := List.nodup_nil
  askedOnce := List.nodup_nil
  askers _ member := nomatch member
  tokens _ gone := nomatch gone
  cancellable _ fired := nomatch fired
  turned before c later empty := by
    have filled := List.append_ne_nil_of_right_ne_nil before (List.cons_ne_nil c later)
    exact (filled empty.symm).elim
  idle _ := rfl
  busy _ held := nomatch held

theorem served_congr {order : List Nat} (same : ∀ b ∈ order, after.gaveUp b = desk.gaveUp b) :
    after.served callers start order = desk.served callers start order :=
  KeyManager.serveAll_congr same

theorem gaveUp_moved {b : Nat} {phase : CallerPhase}
    (flag : b = c → phase.isCancelled = (desk.phase c).isCancelled) :
    (desk.moved c phase).gaveUp b = desk.gaveUp b := by
  unfold gaveUp
  by_cases same : b = c
  · subst same
    rw [moved_phase_self, flag rfl]
  · rw [moved_phase_of_ne same]

theorem Sound.not_mem_order (sound : desk.Sound callers start)
    (waiting : desk.phase c = .started ∨ desk.phase c = .queued) : c ∉ desk.order := by
  intro member
  obtain ⟨before, later, split⟩ := List.append_of_mem member
  have turned := sound.turned before c later split
  rcases waiting with here | here
  · rw [here] at turned
    cases turned
  · rw [here] at turned
    cases turned

theorem Sound.holds (sound : desk.Sound callers start) (inside : (desk.phase c).isInside = true) :
    desk.holder = some c := (sound.lock c).mp inside

theorem Sound.mem_order (sound : desk.Sound callers start)
    (inside : (desk.phase c).isInside = true) : c ∈ desk.order := by
  obtain ⟨before, order, -⟩ := sound.busy c (sound.holds inside)
  rw [order]
  exact List.mem_append_right before List.mem_cons_self

/-- The turn of a caller that has the lock is the last. -/
theorem Sound.split_last (sound : desk.Sound callers start) {before before' later : List Nat}
    (last : desk.order = before ++ [c]) (split : desk.order = before' ++ c :: later) :
    before' = before ∧ later = [] := by
  have once := sound.once
  rw [split, List.nodup_middle, List.nodup_cons, List.mem_append, not_or] at once
  obtain ⟨⟨away, away'⟩, -⟩ := once
  rw [last, eq_comm] at split
  obtain ⟨rfl, -, rfl⟩ := (List.append_cons_inj_of_notMem away away').mp split
  exact ⟨rfl, rfl⟩

/-- A step that leaves the caller where it is, inside or outside. -/
theorem Sound.advanced {phase : CallerPhase} {manager : KeyManager} {asked : List Nat}
    (sound : desk.Sound callers start)
    (inside : phase.isInside = (desk.phase c).isInside)
    (flag : c ∈ desk.order → phase.isCancelled = (desk.phase c).isCancelled)
    (outside : c ∈ desk.order ∨ phase = .queued ∨ phase = .cancelled)
    (token : phase = .cancelled → desk.fired c = true)
    (askedOnce : asked.Nodup) (askers : ∀ b ∈ asked, b ∈ desk.order)
    (others : ∀ b, b ≠ c → (b ∈ asked ↔ b ∈ desk.asked))
    (mine : ∀ before later, desk.order = before ++ c :: later →
      Turned (callers c) (desk.served callers start before) (c ∈ asked) phase)
    (kept : desk.holder ≠ some c → manager = desk.manager)
    (held : ∀ before, desk.holder = some c → desk.order = before ++ [c] →
      manager = phase.either (desk.served callers start desk.order)
        ((callers c).meets (desk.served callers start before))) :
    Sound callers start { desk.moved c phase with manager, asked } := by
  have served_eq : ∀ order, (∀ b ∈ order, b ∈ desk.order) →
      served callers start { desk.moved c phase with manager, asked } order =
        desk.served callers start order := by
    intro order within
    refine served_congr fun b member => gaveUp_moved fun mine => flag ?_
    rw [← mine]
    exact within b member
  refine ⟨fun b => ?_, fun b away => ?_, sound.once, askedOnce, askers, fun b gone => ?_,
    sound.cancellable, fun before b later split => ?_, fun free => ?_, fun b holds => ?_⟩
  · change ((desk.moved c phase).phase b).isInside = true ↔ desk.holder = some b
    by_cases same : b = c
    · subst same
      rw [moved_phase_self, inside]
      exact sound.lock b
    · rw [moved_phase_of_ne same]
      exact sound.lock b
  · change (desk.moved c phase).phase b = _ ∨ (desk.moved c phase).phase b = _ ∨
      (desk.moved c phase).phase b = _
    by_cases same : b = c
    · subst same
      rw [moved_phase_self]
      exact .inr (outside.resolve_left away)
    · rw [moved_phase_of_ne same]
      exact sound.outside b away
  · change (desk.moved c phase).phase b = _ at gone
    by_cases same : b = c
    · subst same
      rw [moved_phase_self] at gone
      exact token gone
    · rw [moved_phase_of_ne same] at gone
      exact sound.tokens b gone
  · change desk.order = _ at split
    have within : ∀ a ∈ before, a ∈ desk.order := by
      intro a member
      rw [split]
      exact List.mem_append_left _ member
    rw [served_eq before within]
    change Turned _ _ (b ∈ asked) ((desk.moved c phase).phase b)
    by_cases same : b = c
    · subst same
      rw [moved_phase_self]
      exact mine before later split
    · rw [moved_phase_of_ne same, others b same]
      exact sound.turned before b later split
  · change desk.holder = none at free
    change manager = served _ _ _ desk.order
    have away : desk.holder ≠ some c := by
      rw [free]
      exact (Option.some_ne_none c).symm
    rw [served_eq desk.order fun _ member => member, kept away]
    exact sound.idle free
  · change desk.holder = some b at holds
    obtain ⟨before, order, left⟩ := sound.busy b holds
    refine ⟨before, order, ?_⟩
    have within : ∀ a ∈ before, a ∈ desk.order := by
      intro a member
      rw [order]
      exact List.mem_append_left _ member
    change manager = ((desk.moved c phase).phase b).either (served _ _ _ desk.order)
      ((callers b).meets (served _ _ _ before))
    rw [served_eq desk.order fun _ member => member, served_eq before within]
    by_cases same : b = c
    · subst same
      rw [moved_phase_self]
      exact held before holds order
    · have other : desk.holder ≠ some c := by
        rw [holds]
        exact fun both => same (Option.some.inj both)
      rw [moved_phase_of_ne same, kept other]
      exact left

/-- A step with which the caller gives the lock back. Its turn is over then. -/
theorem Sound.freed {phase : CallerPhase} {manager : KeyManager} {last : List Nat}
    (sound : desk.Sound callers start) (order : desk.order = last ++ [c])
    (inside : (desk.phase c).isInside = true) (outside : phase.isInside = false)
    (token : phase = .cancelled → desk.fired c = true)
    (mine : Turned (callers c) (desk.served callers start last) (c ∈ desk.asked) phase)
    (left : manager =
      (desk.served callers start last).run ((callers c).events phase.isCancelled)) :
    Sound callers start { desk.moved c phase with manager, holder := none } := by
  have holds := sound.holds inside
  have member := sound.mem_order inside
  -- The caller is the last, so that whether it gives up does not matter to the turns before.
  have served_eq : ∀ before b later, desk.order = before ++ b :: later →
      served callers start { desk.moved c phase with manager, holder := none } before =
        desk.served callers start before := by
    intro before b later split
    refine served_congr fun a early => gaveUp_moved fun same => ?_
    subst same
    obtain ⟨front, rest, rfl⟩ := List.append_of_mem early
    rw [List.append_assoc, List.cons_append] at split
    obtain ⟨-, nothing⟩ := sound.split_last order split
    exact (List.append_ne_nil_of_right_ne_nil rest (List.cons_ne_nil b later) nothing).elim
  refine ⟨fun b => ?_, fun b away => ?_, sound.once, sound.askedOnce, sound.askers,
    fun b gone => ?_, sound.cancellable, fun before b later split => ?_, fun _ => ?_,
    fun b held => (nomatch held)⟩
  · change ((desk.moved c phase).phase b).isInside = true ↔ none = some b
    by_cases same : b = c
    · subst same
      rw [moved_phase_self, outside]
      exact ⟨fun no => (nomatch no), fun no => (nomatch no)⟩
    · rw [moved_phase_of_ne same, sound.lock b, holds]
      exact ⟨fun both => (same (Option.some.inj both).symm).elim, fun no => (nomatch no)⟩
  · change (desk.moved c phase).phase b = _ ∨ (desk.moved c phase).phase b = _ ∨
      (desk.moved c phase).phase b = _
    have same : b ≠ c := by
      rintro rfl
      exact away member
    rw [moved_phase_of_ne same]
    exact sound.outside b away
  · change (desk.moved c phase).phase b = _ at gone
    by_cases same : b = c
    · subst same
      rw [moved_phase_self] at gone
      exact token gone
    · rw [moved_phase_of_ne same] at gone
      exact sound.tokens b gone
  · rw [served_eq before b later split]
    change Turned _ _ (b ∈ desk.asked) ((desk.moved c phase).phase b)
    by_cases same : b = c
    · subst same
      obtain ⟨rfl, -⟩ := sound.split_last order split
      rw [moved_phase_self]
      exact mine
    · rw [moved_phase_of_ne same]
      exact sound.turned before b later split
  · change manager = served _ _ _ desk.order
    have flag : gaveUp { desk.moved c phase with manager, holder := none } c =
        phase.isCancelled := by
      unfold gaveUp
      rw [moved_phase_self]
    refine left.trans ?_
    rw [order]
    refine Eq.trans ?_ (KeyManager.serveAll_concat last c).symm
    rw [flag]
    exact congrArg (fun begun => KeyManager.run begun _) (served_eq last c [] order).symm

theorem Sound.acquired (sound : desk.Sound callers start) (here : desk.phase c = .queued)
    (free : desk.holder = none) :
    Sound callers start { desk.moved c .admitted with
      holder := some c
      manager := (callers c).meets desk.manager
      order := desk.order ++ [c] } := by
  have away := sound.not_mem_order (.inr here)
  have unasked : c ∉ desk.asked := fun sent => away (sound.askers c sent)
  have served_eq : ∀ order, served callers start { desk.moved c .admitted with
      holder := some c
      manager := (callers c).meets desk.manager
      order := desk.order ++ [c] } order = desk.served callers start order := by
    intro order
    refine served_congr fun b _ => gaveUp_moved fun _ => ?_
    rw [here]
    rfl
  have nobody : ∀ b, (desk.phase b).isInside = false := by
    intro b
    cases inside : (desk.phase b).isInside with
    | false => rfl
    | true =>
      have holds := sound.holds inside
      rw [free] at holds
      cases holds
  refine ⟨fun b => ?_, fun b outside => ?_, ?_, sound.askedOnce,
    fun b sent => List.mem_append_left _ (sound.askers b sent), fun b gone => ?_,
    sound.cancellable, fun before b later split => ?_, fun held => (nomatch held),
    fun b holds => ?_⟩
  · change ((desk.moved c .admitted).phase b).isInside = true ↔ some c = some b
    by_cases same : b = c
    · subst same
      rw [moved_phase_self]
      exact ⟨fun _ => rfl, fun _ => rfl⟩
    · rw [moved_phase_of_ne same, nobody b]
      exact ⟨fun no => (nomatch no), fun both => (same (Option.some.inj both).symm).elim⟩
  · change (desk.moved c .admitted).phase b = _ ∨ (desk.moved c .admitted).phase b = _ ∨
      (desk.moved c .admitted).phase b = _
    change b ∉ desk.order ++ [c] at outside
    rw [List.mem_append, List.mem_singleton, not_or] at outside
    rw [moved_phase_of_ne outside.2]
    exact sound.outside b outside.1
  · exact List.nodup_append.mpr ⟨sound.once, List.nodup_singleton c, fun b member a last both => by
      rw [List.mem_singleton.mp last] at both
      rw [both] at member
      exact away member⟩
  · change (desk.moved c .admitted).phase b = _ at gone
    by_cases same : b = c
    · subst same
      rw [moved_phase_self] at gone
      cases gone
    · rw [moved_phase_of_ne same] at gone
      exact sound.tokens b gone
  · change desk.order ++ [c] = _ at split
    rw [served_eq]
    change Turned _ _ (b ∈ desk.asked) ((desk.moved c .admitted).phase b)
    by_cases same : b = c
    · subst same
      rw [moved_phase_self]
      exact .admitted unasked
    · rw [moved_phase_of_ne same]
      induction later using List.reverseRecOn with
      | nil =>
        obtain ⟨-, last⟩ := List.append_inj' split rfl
        exact (same (List.cons.inj last).1.symm).elim
      | append_singleton later last _ =>
        rw [← List.cons_append, ← List.append_assoc] at split
        obtain ⟨earlier, -⟩ := List.append_inj' split rfl
        exact sound.turned before b later earlier
  · obtain rfl := Option.some.inj holds
    refine ⟨desk.order, rfl, ?_⟩
    change (callers c).meets desk.manager = ((desk.moved c .admitted).phase c).either _ _
    rw [moved_phase_self]
    change (callers c).meets desk.manager = (callers c).meets (served _ _ _ desk.order)
    rw [served_eq]
    exact congrArg _ (sound.idle free)

theorem Sound.fired (sound : desk.Sound callers start)
    (cancellable : (callers c).cancellable = true) :
    Sound callers start { desk with fired := fun b => b = c || desk.fired b } := by
  refine ⟨sound.lock, sound.outside, sound.once, sound.askedOnce, sound.askers, fun b gone => ?_,
    fun b fires => ?_, sound.turned, sound.idle, sound.busy⟩
  · change (decide (b = c) || desk.fired b) = true
    rw [sound.tokens b gone, Bool.or_true]
  · change (decide (b = c) || desk.fired b) = true at fires
    rw [Bool.or_eq_true, decide_eq_true_eq] at fires
    rcases fires with rfl | before
    · exact cancellable
    · exact sound.cancellable b before

/-- A caller that has the lock has the last turn. -/
theorem Sound.last_turn (sound : desk.Sound callers start)
    (inside : (desk.phase c).isInside = true) :
    ∃ before, desk.order = before ++ [c] ∧
      Turned (callers c) (desk.served callers start before) (c ∈ desk.asked) (desk.phase c) ∧
      desk.manager = (desk.phase c).either (desk.served callers start desk.order)
        ((callers c).meets (desk.served callers start before)) := by
  obtain ⟨before, order, manager⟩ := sound.busy c (sound.holds inside)
  exact ⟨before, order, sound.turned before c [] order, manager⟩

theorem served_concat (before : List Nat) : desk.served callers start (before ++ [c]) =
    (desk.served callers start before).run ((callers c).events (desk.gaveUp c)) :=
  KeyManager.serveAll_concat before c

/-- A step outside of the lock. -/
theorem Sound.without {phase : CallerPhase} (sound : desk.Sound callers start)
    (outside : (desk.phase c).isInside = false) (stays : phase.isInside = false)
    (flag : c ∈ desk.order → phase.isCancelled = (desk.phase c).isCancelled)
    (place : c ∈ desk.order ∨ phase = .queued ∨ phase = .cancelled)
    (token : phase = .cancelled → desk.fired c = true)
    (mine : ∀ before later, desk.order = before ++ c :: later →
      Turned (callers c) (desk.served callers start before) (c ∈ desk.asked) phase) :
    (desk.moved c phase).Sound callers start := by
  have inside : phase.isInside = (desk.phase c).isInside := by rw [stays, outside]
  refine sound.advanced inside flag place token sound.askedOnce sound.askers (fun b _ => Iff.rfl)
    mine (fun _ => rfl) fun before holds _ => ?_
  rw [← sound.lock c, outside] at holds
  cases holds

/-- A step inside of the lock. -/
theorem Sound.within {phase : CallerPhase} {manager : KeyManager} {asked before : List Nat}
    (sound : desk.Sound callers start) (order : desk.order = before ++ [c])
    (inside : (desk.phase c).isInside = true) (stays : phase.isInside = true)
    (asks : asked = desk.asked ∨ c ∉ desk.asked ∧ asked = desk.asked ++ [c])
    (mine : Turned (callers c) (desk.served callers start before) (c ∈ asked) phase)
    (left : manager = phase.either (desk.served callers start desk.order)
      ((callers c).meets (desk.served callers start before))) :
    Sound callers start { desk.moved c phase with manager, asked } := by
  have member := sound.mem_order inside
  have flag : phase.isCancelled = (desk.phase c).isCancelled := by
    rw [CallerPhase.isCancelled_of_isInside inside, CallerPhase.isCancelled_of_isInside stays]
  have present : phase ≠ .cancelled := by
    rintro rfl
    cases stays
  have askedOnce : asked.Nodup := by
    rcases asks with rfl | ⟨unasked, rfl⟩
    · exact sound.askedOnce
    · rw [← List.concat_eq_append]
      exact sound.askedOnce.concat unasked
  have askers : ∀ b ∈ asked, b ∈ desk.order := by
    intro b sent
    rcases asks with rfl | ⟨unasked, rfl⟩
    · exact sound.askers b sent
    · rw [List.mem_append, List.mem_singleton] at sent
      rcases sent with earlier | rfl
      · exact sound.askers b earlier
      · exact member
  have others : ∀ b, b ≠ c → (b ∈ asked ↔ b ∈ desk.asked) := by
    intro b other
    rcases asks with rfl | ⟨unasked, rfl⟩
    · exact Iff.rfl
    · rw [List.mem_append, List.mem_singleton, or_iff_left other]
  refine sound.advanced (by rw [stays, inside]) (fun _ => flag) (.inl member)
    (fun gone => (present gone).elim) askedOnce askers others ?_
    (fun away => (away (sound.holds inside)).elim) ?_
  · intro before' later split
    obtain ⟨rfl, -⟩ := sound.split_last order split
    exact mine
  · intro before' _ order'
    obtain ⟨rfl, -⟩ := sound.split_last order order'
    exact left

theorem Sound.found {keys : KeySet} (sound : desk.Sound callers start)
    (here : desk.phase c = .admitted)
    (fresh : desk.manager.cache.fresh? (callers c).turn.served = some keys) :
    (desk.moved c (.holding (.ok keys))).Sound callers start := by
  have inside : (desk.phase c).isInside = true := by rw [here]; rfl
  obtain ⟨before, order, turned, begun⟩ := sound.last_turn inside
  rw [here] at turned begun
  change desk.manager = (callers c).meets _ at begun
  have fresh' : (desk.served callers start before).cache.fresh? (callers c).turn.served =
      some keys := by
    rw [begun] at fresh
    exact fresh
  have met : ((callers c).meets (desk.served callers start before)).currentKeys (callers c).turn =
      (.ok keys, (callers c).meets (desk.served callers start before)) :=
    KeyManager.currentKeys_of_fresh fresh'
  have sent : c ∈ desk.asked ↔
      (desk.served callers start before).cache.fresh? (callers c).turn.served = none := by
    rw [fresh']
    cases turned with
    | admitted unasked => exact ⟨fun sent => (unasked sent).elim, fun stale => nomatch stale⟩
  refine sound.within order inside rfl (.inl rfl) ?_ ?_
  · have turned' := Turned.holding sent
    rw [met] at turned'
    exact turned'
  · change desk.manager = desk.served callers start desk.order
    rw [begun, order, served_concat, KeyCaller.run_events_of_fresh fresh']

theorem Sound.asking (sound : desk.Sound callers start) (here : desk.phase c = .admitted)
    (stale : desk.manager.cache.fresh? (callers c).turn.served = none) :
    Sound callers start { desk.moved c .fetching with asked := desk.asked ++ [c] } := by
  have inside : (desk.phase c).isInside = true := by rw [here]; rfl
  obtain ⟨before, order, turned, begun⟩ := sound.last_turn inside
  rw [here] at turned begun
  change desk.manager = (callers c).meets _ at begun
  rw [begun] at stale
  cases turned with
  | admitted unasked =>
    refine sound.within order inside rfl (.inr ⟨unasked, rfl⟩) ?_ begun
    exact .fetching stale (List.mem_append_right _ List.mem_cons_self)

theorem Sound.arrived (sound : desk.Sound callers start) (here : desk.phase c = .fetching) :
    (desk.moved c .fetched).Sound callers start := by
  have inside : (desk.phase c).isInside = true := by rw [here]; rfl
  obtain ⟨before, order, turned, begun⟩ := sound.last_turn inside
  rw [here] at turned begun
  refine sound.within order inside rfl (.inl rfl) ?_ begun
  cases turned with
  | fetching stale sent => exact .fetched stale sent

theorem Sound.installed (sound : desk.Sound callers start) (here : desk.phase c = .fetched) :
    Sound callers start
      { desk.moved c (.holding (desk.manager.fetch (callers c).turn.ended).1) with
        manager := (desk.manager.fetch (callers c).turn.ended).2 } := by
  have inside : (desk.phase c).isInside = true := by rw [here]; rfl
  have waits : desk.gaveUp c = false := CallerPhase.isCancelled_of_isInside inside
  obtain ⟨before, order, turned, begun⟩ := sound.last_turn inside
  rw [here] at turned begun
  change desk.manager = (callers c).meets _ at begun
  cases turned with
  | fetched stale sent =>
    have stale' : ((callers c).meets (desk.served callers start before)).cache.fresh?
        (callers c).turn.served = none := stale
    have fetched : ((callers c).meets (desk.served callers start before)).currentKeys
        (callers c).turn = desk.manager.fetch (callers c).turn.ended := by
      unfold KeyManager.currentKeys
      rw [stale', begun]
    refine sound.within order inside rfl (.inl rfl) ?_ ?_
    · rw [← fetched]
      exact .holding ⟨fun _ => stale, fun _ => sent⟩
    · change _ = desk.served callers start desk.order
      rw [order, served_concat, waits, KeyCaller.run_events_false, fetched]

theorem Sound.released {keys : Except KeyFailure KeySet} (sound : desk.Sound callers start)
    (here : desk.phase c = .holding keys) :
    Sound callers start { desk.moved c (.released keys) with holder := none } := by
  have inside : (desk.phase c).isInside = true := by rw [here]; rfl
  have waits : desk.gaveUp c = false := CallerPhase.isCancelled_of_isInside inside
  obtain ⟨before, order, turned, begun⟩ := sound.last_turn inside
  rw [here] at turned begun
  change desk.manager = desk.served callers start desk.order at begun
  refine sound.freed order inside rfl (fun no => nomatch no) ?_ ?_
  · cases turned with
    | holding sent => exact .released sent
  · change desk.manager = _
    rw [begun, order, served_concat, waits]
    rfl

theorem Sound.abandoned (sound : desk.Sound callers start) (here : desk.phase c = .fetching)
    (fired : desk.fired c = true) :
    Sound callers start { desk.moved c .cancelled with
      holder := none
      manager := (desk.manager.abandon (callers c).turn.ended).2 } := by
  have inside : (desk.phase c).isInside = true := by rw [here]; rfl
  obtain ⟨before, order, turned, begun⟩ := sound.last_turn inside
  rw [here] at turned begun
  change desk.manager = (callers c).meets _ at begun
  cases turned with
  | fetching stale sent =>
    refine sound.freed order inside rfl (fun _ => fired) (.cancelled stale sent) ?_
    rw [begun, CallerPhase.isCancelled, KeyCaller.run_events_of_stale stale]
    rfl

theorem Sound.answered {keys : Except KeyFailure KeySet} (sound : desk.Sound callers start)
    (here : desk.phase c = .released keys) :
    (desk.moved c (.answered (keys.bind (·.lookup (callers c).id)))).Sound callers start := by
  have member : c ∈ desk.order := by
    by_contra away
    have waiting := sound.outside c away
    rw [here] at waiting
    rcases waiting with no | no | no
    · cases no
    · cases no
    · cases no
  refine sound.without (by rw [here]; rfl) rfl (fun _ => by rw [here]; rfl) (.inl member)
    (fun no => nomatch no) ?_
  intro before later split
  have turned := sound.turned before c later split
  rw [here] at turned
  cases turned with
  | released sent => exact .answered sent

theorem Sound.left (sound : desk.Sound callers start)
    (here : desk.phase c = .started ∨ desk.phase c = .queued) (fired : desk.fired c = true) :
    (desk.moved c .cancelled).Sound callers start := by
  have away := sound.not_mem_order here
  have outside : (desk.phase c).isInside = false := by
    rcases here with here | here
    · rw [here]; rfl
    · rw [here]; rfl
  refine sound.without outside rfl (fun member => (away member).elim) (.inr (.inr rfl))
    (fun _ => fired) ?_
  intro before later split
  exact (away (by rw [split]; exact List.mem_append_right before List.mem_cons_self)).elim

theorem Sound.queued (sound : desk.Sound callers start) (here : desk.phase c = .started) :
    (desk.moved c .queued).Sound callers start := by
  have away := sound.not_mem_order (.inl here)
  refine sound.without (by rw [here]; rfl) rfl (fun member => (away member).elim) (.inr (.inl rfl))
    (fun no => nomatch no) ?_
  intro before later split
  exact (away (by rw [split]; exact List.mem_append_right before List.mem_cons_self)).elim

theorem Steps.sound {move : KeyMove} (steps : desk.Steps callers move after)
    (sound : desk.Sound callers start) : after.Sound callers start := by
  cases steps with
  | queued here unfired => exact sound.queued here
  | acquired here unfired free => exact sound.acquired here free
  | found here fresh => exact sound.found here fresh
  | asked here stale => exact sound.asking here stale
  | arrived here unfired => exact sound.arrived here
  | installed here => exact sound.installed here
  | released here => exact sound.released here
  | answered here => exact sound.answered here
  | fired cancellable => exact sound.fired cancellable
  | left here fired => exact sound.left here fired
  | abandoned here fired => exact sound.abandoned here fired

theorem run_sound {moves : List KeyMove} (sound : desk.Sound callers start)
    (ran : desk.run callers moves = some after) : after.Sound callers start := by
  induction moves generalizing desk with
  | nil =>
    cases ran
    exact sound
  | cons move moves ih =>
    obtain ⟨between, stepped, rest⟩ := Option.bind_eq_some_iff.mp ran
    exact ih ((steps_of_step stepped).sound sound) rest

end KeyDesk

end BearerGate
