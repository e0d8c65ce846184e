import BearerGate.Proofs.Json.RoundTrip
import BearerGate.Proofs.Keys.Freshness
import BearerGate.Proofs.Keys.HealthSteps
import Mathlib.Data.List.Nodup

/-!
# What health checks cost

Callers who ask for a key look and fetch in one turn, so of many that come to a stale cache just
one makes a request. A health check gives the lock back in between. By its second turn another
visitor may have had a set fetched, and the check has one more fetched all the same: where the
endpoint is good, the requests are those of the checks that looked before the first set was there,
and of one caller at most (`HealthDesk.run_requests`). All checks pass.
-/

namespace BearerGate

namespace KeyManager

/-- The manager after fetches that have all brought the same set at the same time. -/
def refetched (manager : KeyManager) (now : Instant) (keys : KeySet) : Nat → KeyManager
  | 0 => manager
  | n + 1 =>
    { manager with
      cache := .installed now manager.ttl keys
      requests := List.replicate (n + 1) ⟨manager.endpoint, now, true⟩ ++ manager.requests }

variable {manager : KeyManager} {now : Instant} {keys : KeySet}

theorem fetch_refetched (good : manager.endpoint.outcome = .ok keys) (n : Nat) :
    (manager.refetched now keys n).fetch now =
      (.ok keys, manager.refetched now keys (n + 1)) := by
  have same : (manager.refetched now keys n).endpoint = manager.endpoint := by
    cases n with
    | zero => rfl
    | succ n => rfl
  have brought : (KeyRequest.mk manager.endpoint now true).outcome = .ok keys := good
  unfold fetch settle
  rw [same, brought]
  cases n with
  | zero => rfl
  | succ n => rfl

theorem fresh?_refetched (stale : manager.cache.fresh? now = none)
    (lives : now.nanos < (KeyCache.staleTime now manager.ttl).nanos) (n : Nat) :
    (manager.refetched now keys n).cache.fresh? now = if n = 0 then none else some keys := by
  cases n with
  | zero => exact stale
  | succ n => exact KeyCache.fresh?_eq_some_iff.mpr ⟨lives, rfl⟩

theorem fetches_refetched (good : manager.endpoint.outcome = .ok keys) (n : Nat) :
    (manager.refetched now keys n).fetches = manager.fetches + n := by
  have reached : manager.endpoint.isReached = true := by
    cases endpoint : manager.endpoint with
    | unreachable =>
      rw [endpoint] at good
      cases good
    | answers | drops | truncates | hangs => rfl
  cases n with
  | zero => rfl
  | succ n =>
    unfold fetches
    change List.countP _ (List.replicate (n + 1) _ ++ manager.requests) = _
    rw [List.countP_append, List.countP_replicate, if_pos reached, Nat.add_comm]

end KeyManager

namespace HealthDesk

variable {visitors : Nat → KeyVisitor} {now : Instant} {start : KeyManager} {keys : KeySet}
  {desk after : HealthDesk} {c : Nat}

/-! ## What every step keeps -/

/-- How a visitor in a phase stands in the lists of a desk whose endpoint brings `keys`. -/
inductive Standing (visitor : KeyVisitor) (keys : KeySet) (missed asked : List Nat) (c : Nat) :
    VisitorPhase → Prop
  | waiting (unmissed : c ∉ missed) (unasked : c ∉ asked) :
    Standing visitor keys missed asked c .waiting
  | looking (unmissed : c ∉ missed) (unasked : c ∉ asked) :
    Standing visitor keys missed asked c .looking
  | sawFresh (check : visitor = .check) (unmissed : c ∉ missed) (unasked : c ∉ asked)
    (filled : asked ≠ []) : Standing visitor keys missed asked c (.looked true)
  | sawNothing (check : visitor = .check) (missing : c ∈ missed) (unasked : c ∉ asked) :
    Standing visitor keys missed asked c (.looked false)
  | waitingAgain (check : visitor = .check) (missing : c ∈ missed) (unasked : c ∉ asked) :
    Standing visitor keys missed asked c .waitingAgain
  | fetchingAgain (check : visitor = .check) (missing : c ∈ missed) (unasked : c ∉ asked) :
    Standing visitor keys missed asked c .fetching
  | fetchingFirst {id : String} (caller : visitor = .caller id) (unmissed : c ∉ missed)
    (first : asked = []) : Standing visitor keys missed asked c .fetching
  | told (filled : asked ≠ []) (settled : c ∈ missed → c ∈ asked) :
    Standing visitor keys missed asked c (.told (visitor.answer (.ok keys)))
  | gone (filled : asked ≠ []) (settled : c ∈ missed → c ∈ asked) :
    Standing visitor keys missed asked c (.gone (visitor.answer (.ok keys)))

/-- What a visitor has to do with the lists stays as it is when others are put on them, unless it
is about to make the first request itself. -/
theorem Standing.mono {visitor : KeyVisitor} {missed asked missed' asked' : List Nat}
    {phase : VisitorPhase} (standing : Standing visitor keys missed asked c phase)
    (missing : c ∈ missed' ↔ c ∈ missed) (asking : c ∈ asked' ↔ c ∈ asked)
    (filling : asked ≠ [] → asked' ≠ []) (apart : phase.isInside = false ∨ asked' = asked) :
    Standing visitor keys missed' asked' c phase := by
  cases standing with
  | waiting unmissed unasked =>
    exact .waiting (missing.not.mpr unmissed) (asking.not.mpr unasked)
  | looking unmissed unasked =>
    exact .looking (missing.not.mpr unmissed) (asking.not.mpr unasked)
  | sawFresh check unmissed unasked filled =>
    exact .sawFresh check (missing.not.mpr unmissed) (asking.not.mpr unasked) (filling filled)
  | sawNothing check missed unasked =>
    exact .sawNothing check (missing.mpr missed) (asking.not.mpr unasked)
  | waitingAgain check missed unasked =>
    exact .waitingAgain check (missing.mpr missed) (asking.not.mpr unasked)
  | fetchingAgain check missed unasked =>
    exact .fetchingAgain check (missing.mpr missed) (asking.not.mpr unasked)
  | fetchingFirst caller unmissed first =>
    -- A caller about to fetch has the lock, so nobody else has asked in the meantime.
    obtain outside | same := apart
    · cases outside
    · exact .fetchingFirst caller (missing.not.mpr unmissed) (same.trans first)
  | told filled settled =>
    exact .told (filling filled) fun member => asking.mpr (settled (missing.mp member))
  | gone filled settled =>
    exact .gone (filling filled) fun member => asking.mpr (settled (missing.mp member))

/-- What holds of a desk at which `start` was opened, if its endpoint brings `keys`. -/
structure Sound (visitors : Nat → KeyVisitor) (now : Instant) (start : KeyManager) (keys : KeySet)
    (desk : HealthDesk) : Prop where
  inside : ∀ c, (desk.phase c).isInside = true ↔ desk.holder = some c
  manager : desk.manager = start.refetched now keys desk.asked.length
  standing : ∀ c, Standing (visitors c) keys desk.missed desk.asked c (desk.phase c)
  missedOnce : desk.missed.Nodup
  askedOnce : desk.asked.Nodup
  checks : ∀ c ∈ desk.missed, visitors c = .check
  /-- Those who have asked are checks that had found nothing fresh, but for the first of them. -/
  askers : ∀ c ∈ desk.asked,
    c ∈ desk.missed ∨ ∃ id, visitors c = .caller id ∧ desk.asked.head? = some c

theorem sound_opened (visitors : Nat → KeyVisitor) (now : Instant) (start : KeyManager)
    (keys : KeySet) : (opened start).Sound visitors now start keys where
  inside _ := ⟨nofun, nofun⟩
  manager := rfl
  standing _ := .waiting List.not_mem_nil List.not_mem_nil
  missedOnce := List.nodup_nil
  askedOnce := List.nodup_nil
  checks := nofun
  askers := nofun

/-- After a step of a visitor that has the lock, or finds it free, the lock is with this visitor or
with nobody, as the new phase says. -/
theorem inside_moved {phase : VisitorPhase}
    (inside : ∀ b, (desk.phase b).isInside = true ↔ desk.holder = some b)
    (mine : desk.holder = none ∨ desk.holder = some c) (b : Nat) :
    ((desk.moved c phase).phase b).isInside = true ↔
      (if phase.isInside then some c else none) = some b := by
  by_cases same : b = c
  · subst same
    rw [moved_phase_self]
    cases phase.isInside with
    | true => exact ⟨fun _ => rfl, fun _ => rfl⟩
    | false => exact ⟨nofun, nofun⟩
  · rw [moved_phase_of_ne same, inside b]
    have not_now : desk.holder ≠ some b := by
      obtain free | held := mine
      · rw [free]
        nofun
      · rw [held]
        exact fun other => same (Option.some.inj other).symm
    refine ⟨fun held => (not_now held).elim, fun held => ?_⟩
    split at held
    · exact (same (Option.some.inj held).symm).elim
    · cases held

theorem Sound.stays_inside (sound : desk.Sound visitors now start keys)
    (here : (desk.phase c).isInside = true) {phase : VisitorPhase}
    (stays : phase.isInside = true) (b : Nat) :
    ((desk.moved c phase).phase b).isInside = true ↔ desk.holder = some b := by
  have held := (sound.inside c).mp here
  rw [inside_moved sound.inside (.inr held) b, if_pos stays, held]

/-- A step of a visitor that puts nobody on a list. -/
theorem Sound.quiet (sound : desk.Sound visitors now start keys) {phase : VisitorPhase}
    {holder : Option Nat} (lock : holder = if phase.isInside then some c else none)
    (mine : desk.holder = none ∨ desk.holder = some c)
    (standing : Standing (visitors c) keys desk.missed desk.asked c phase) :
    Sound visitors now start keys { desk.moved c phase with holder } where
  inside b := by
    rw [lock]
    exact inside_moved sound.inside mine b
  manager := sound.manager
  standing b := by
    by_cases same : b = c
    · subst same
      exact (moved_phase_self phase).symm ▸ standing
    · exact (moved_phase_of_ne same phase).symm ▸ sound.standing b
  missedOnce := sound.missedOnce
  askedOnce := sound.askedOnce
  checks := sound.checks
  askers := sound.askers

theorem mem_concat_iff {list : List Nat} {b : Nat} (other : b ≠ c) :
    b ∈ list ++ [c] ↔ b ∈ list := by
  rw [List.mem_append, List.mem_singleton, or_iff_left other]

theorem nodup_concat {list : List Nat} (once : list.Nodup) (new : c ∉ list) :
    (list ++ [c]).Nodup := by
  rw [List.nodup_append]
  refine ⟨once, List.nodup_singleton c, fun b member b' other same => ?_⟩
  rw [List.mem_singleton] at other
  subst other same
  exact new member

/-- Only one visitor has the lock. -/
theorem Sound.isInside_of_ne (sound : desk.Sound visitors now start keys)
    (here : (desk.phase c).isInside = true) {b : Nat} (other : b ≠ c) :
    (desk.phase b).isInside = false := by
  cases inside : (desk.phase b).isInside with
  | false => rfl
  | true =>
    have mine := (sound.inside c).mp here
    have theirs := (sound.inside b).mp inside
    rw [mine] at theirs
    exact (other (Option.some.inj theirs).symm).elim

theorem Sound.missed (sound : desk.Sound visitors now start keys) (here : desk.phase c = .looking)
    (check : visitors c = .check) :
    Sound visitors now start keys
      { desk.moved c (.looked false) with missed := desk.missed ++ [c] } := by
  have inside : (desk.phase c).isInside = true := by rw [here]; rfl
  have standing := sound.standing c
  rw [here] at standing
  cases standing with
  | looking unmissed unasked =>
    refine ⟨fun b => ?_, sound.manager, fun b => ?_, nodup_concat sound.missedOnce unmissed,
      sound.askedOnce, fun b member => ?_, fun b member => ?_⟩
    · exact sound.stays_inside inside rfl b
    · by_cases same : b = c
      · subst same
        change Standing _ _ _ _ _ ((desk.moved b (.looked false)).phase b)
        rw [moved_phase_self]
        exact .sawNothing check (List.mem_append_right _ List.mem_cons_self) unasked
      · change Standing _ _ _ _ _ ((desk.moved c (.looked false)).phase b)
        rw [moved_phase_of_ne same]
        exact (sound.standing b).mono (mem_concat_iff same) Iff.rfl id (.inr rfl)
    · by_cases same : b = c
      · rw [same]
        exact check
      · exact sound.checks b ((mem_concat_iff same).mp member)
    · exact (sound.askers b member).imp_left (List.mem_append_left _)

theorem Sound.fetched (sound : desk.Sound visitors now start keys)
    (good : start.endpoint.outcome = .ok keys) (here : desk.phase c = .fetching) :
    Sound visitors now start keys
      { desk.moved c (.told ((visitors c).answer (desk.manager.fetch now).1)) with
        manager := (desk.manager.fetch now).2
        asked := desk.asked ++ [c] } := by
  have inside : (desk.phase c).isInside = true := by rw [here]; rfl
  have standing := sound.standing c
  rw [here] at standing
  have unasked : c ∉ desk.asked := by
    cases standing with
    | fetchingAgain check missing unasked => exact unasked
    | fetchingFirst caller unmissed first =>
      rw [first]
      exact List.not_mem_nil
  have asking : c ∈ desk.missed ∨ ∃ id, visitors c = .caller id ∧ desk.asked = [] := by
    cases standing with
    | fetchingAgain check missing unasked => exact .inl missing
    | fetchingFirst caller unmissed first => exact .inr ⟨_, caller, first⟩
  have brought : desk.manager.fetch now =
      (.ok keys, start.refetched now keys (desk.asked.length + 1)) := by
    rw [sound.manager]
    exact KeyManager.fetch_refetched good desk.asked.length
  rw [brought]
  refine ⟨fun b => ?_, ?_, fun b => ?_, sound.missedOnce, nodup_concat sound.askedOnce unasked,
    sound.checks, fun b member => ?_⟩
  · exact sound.stays_inside inside rfl b
  · change _ = start.refetched now keys (desk.asked ++ [c]).length
    rw [List.length_append, List.length_singleton]
  · by_cases same : b = c
    · subst same
      change Standing _ _ _ _ _ ((desk.moved b _).phase b)
      rw [moved_phase_self]
      exact .told (List.append_ne_nil_of_right_ne_nil _ (List.cons_ne_nil _ _))
        fun _ => List.mem_append_right _ List.mem_cons_self
    · change Standing _ _ _ _ _ ((desk.moved c _).phase b)
      rw [moved_phase_of_ne same]
      exact (sound.standing b).mono Iff.rfl (mem_concat_iff same)
        (List.append_ne_nil_of_left_ne_nil · _) (.inl (sound.isInside_of_ne inside same))
  · by_cases same : b = c
    · subst same
      refine asking.imp_right fun ⟨id, caller, first⟩ => ⟨id, caller, ?_⟩
      change (desk.asked ++ [b]).head? = some b
      rw [first]
      rfl
    · refine (sound.askers b ((mem_concat_iff same).mp member)).imp_right
        fun ⟨id, caller, first⟩ => ⟨id, caller, ?_⟩
      change (desk.asked ++ [c]).head? = some b
      rw [List.head?_append, first]
      rfl

variable (stale : start.cache.fresh? now = none)
  (lives : now.nanos < (KeyCache.staleTime now start.ttl).nanos)
  (good : start.endpoint.outcome = .ok keys)

include stale lives in
/-- The cache is fresh just if somebody has asked. -/
theorem Sound.fresh? (sound : desk.Sound visitors now start keys) :
    desk.manager.cache.fresh? now = if desk.asked = [] then none else some keys := by
  rw [sound.manager, KeyManager.fresh?_refetched stale lives]
  simp only [List.length_eq_zero_iff]

include stale lives good in
theorem Sound.step (sound : desk.Sound visitors now start keys)
    (steps : desk.Steps visitors now c after) : after.Sound visitors now start keys := by
  -- What a visitor finds in the cache tells whether somebody has asked before.
  have cached := sound.fresh? stale lives
  have standing := sound.standing c
  have held : (desk.phase c).isInside = true → desk.holder = some c := (sound.inside c).mp
  cases steps with
  | entered here free =>
    rw [here] at standing
    cases standing with
    | waiting unmissed unasked => exact sound.quiet rfl (.inl free) (.looking unmissed unasked)
  | @served id _ here caller fresh =>
    rw [here] at standing held
    rw [fresh] at cached
    split at cached
    next => cases cached
    next filled =>
      cases cached
      cases standing with
      | looking unmissed unasked =>
        have answer : (visitors c).answer (.ok keys) = .key (keys.lookup id) := by
          rw [caller]
          rfl
        refine sound.quiet (held rfl) (.inr (held rfl)) ?_
        rw [← answer]
        exact .told filled fun member => (unmissed member).elim
  | unserved here caller nothing =>
    rw [here] at standing held
    rw [nothing] at cached
    split at cached
    next first =>
      cases standing with
      | looking unmissed unasked =>
        exact sound.quiet (held rfl) (.inr (held rfl)) (.fetchingFirst caller unmissed first)
    next => cases cached
  | saw here check fresh =>
    rw [here] at standing held
    rw [fresh] at cached
    split at cached
    next => cases cached
    next filled =>
      cases standing with
      | looking unmissed unasked =>
        exact sound.quiet (held rfl) (.inr (held rfl)) (.sawFresh check unmissed unasked filled)
  | missed here check nothing => exact sound.missed here check
  | passed here =>
    rw [here] at standing held
    cases standing with
    | sawFresh check unmissed unasked filled =>
      have answer : (visitors c).answer (.ok keys) = .health true := by
        rw [check]
        rfl
      refine sound.quiet rfl (.inr (held rfl)) ?_
      rw [← answer]
      exact .gone filled fun member => (unmissed member).elim
  | left here =>
    rw [here] at standing held
    cases standing with
    | sawNothing check missing unasked =>
      exact sound.quiet rfl (.inr (held rfl)) (.waitingAgain check missing unasked)
  | returned here free =>
    rw [here] at standing
    cases standing with
    | waitingAgain check missing unasked =>
      exact sound.quiet rfl (.inl free) (.fetchingAgain check missing unasked)
  | fetched here => exact sound.fetched good here
  | closed here =>
    rw [here] at standing held
    cases standing with
    | told filled settled => exact sound.quiet rfl (.inr (held rfl)) (.gone filled settled)

include stale lives good in
theorem Sound.run {moves : List Nat} (sound : desk.Sound visitors now start keys)
    (ran : desk.run visitors now moves = some after) : after.Sound visitors now start keys := by
  induction moves generalizing desk with
  | nil =>
    cases ran
    exact sound
  | cons c moves ih =>
    obtain ⟨between, stepped, rest⟩ := Option.bind_eq_some_iff.mp ran
    exact ih (sound.step stale lives good (steps_of_step stepped)) rest

include stale lives good in
/-- Once a set has been fetched, no check finds nothing fresh any more. -/
theorem Sound.run_missed {moves : List Nat} (sound : desk.Sound visitors now start keys)
    (filled : desk.asked ≠ []) (ran : desk.run visitors now moves = some after) :
    after.missed = desk.missed := by
  induction moves generalizing desk with
  | nil =>
    cases ran
    rfl
  | cons c moves ih =>
    obtain ⟨between, stepped, rest⟩ := Option.bind_eq_some_iff.mp ran
    have steps := steps_of_step stepped
    have sound' := sound.step stale lives good steps
    have kept : between.missed = desk.missed ∧ between.asked ≠ [] := by
      cases steps with
      | missed here check nothing =>
        have cached := sound.fresh? stale lives
        rw [nothing, if_neg filled] at cached
        cases cached
      | fetched here => exact ⟨rfl, List.append_ne_nil_of_left_ne_nil filled _⟩
      | entered | served | unserved | saw | passed | left | returned | closed =>
        exact ⟨rfl, filled⟩
    exact (ih sound' kept.2 rest).trans kept.1

/-! ## The requests -/

/-- All who have made a request, but for the first of them, are checks that had found nothing
fresh. -/
theorem Sound.missed_of_mem_tail (sound : desk.Sound visitors now start keys)
    (behind : c ∈ desk.asked.tail) : c ∈ desk.missed := by
  obtain missing | ⟨id, caller, first⟩ := sound.askers c (List.mem_of_mem_tail behind)
  · exact missing
  · have once := sound.askedOnce
    cases asked : desk.asked with
    | nil =>
      rw [asked] at behind
      cases behind
    | cons head rest =>
      rw [asked] at behind first once
      cases first
      exact ((List.nodup_cons.mp once).1 behind).elim

/-- Who has made requests at a desk, when those who found nothing fresh are done: they, and
possibly a caller before them. -/
theorem Sound.asked_of_settled (sound : desk.Sound visitors now start keys)
    (settled : ∀ c ∈ desk.missed, c ∈ desk.asked) :
    desk.asked.Perm desk.missed ∨ ∃ c id rest, visitors c = .caller id ∧ desk.asked = c :: rest ∧
      rest.Perm desk.missed := by
  have behind : ∀ c ∈ desk.asked.tail, c ∈ desk.missed := fun c => sound.missed_of_mem_tail
  have once := sound.askedOnce
  have askers := sound.askers
  cases asked : desk.asked with
  | nil =>
    rw [asked] at settled
    have nobody : desk.missed = [] :=
      List.eq_nil_iff_forall_not_mem.mpr fun c missing => nomatch settled c missing
    rw [nobody]
    exact .inl (.refl [])
  | cons first rest =>
    rw [asked] at settled behind once askers
    by_cases missing : first ∈ desk.missed
    · left
      refine (List.perm_ext_iff_of_nodup once sound.missedOnce).mpr fun c => ⟨?_, settled c⟩
      rw [List.mem_cons]
      rintro (rfl | later)
      · exact missing
      · exact behind c later
    · right
      obtain missing' | ⟨id, caller, -⟩ := askers first List.mem_cons_self
      · exact (missing missing').elim
      rw [List.nodup_cons] at once
      refine ⟨first, id, rest, caller, rfl, ?_⟩
      refine (List.perm_ext_iff_of_nodup once.2 sound.missedOnce).mpr fun c =>
        ⟨behind c, fun missing' => ?_⟩
      obtain same | later := List.mem_cons.mp (settled c missing')
      · rw [same] at missing'
        exact (missing missing').elim
      · exact later

theorem Sound.of_gone (sound : desk.Sound visitors now start keys) {answer : VisitorAnswer}
    (here : desk.phase c = .gone answer) : answer = (visitors c).answer (.ok keys) ∧
      desk.asked ≠ [] ∧ (c ∈ desk.missed → c ∈ desk.asked) := by
  have standing := sound.standing c
  rw [here] at standing
  cases standing with
  | gone filled settled => exact ⟨rfl, filled, settled⟩

/-- What visitors of a manager with a stale cache and a good endpoint can rely on, at any time. -/
structure Served (visitors : Nat → KeyVisitor) (start : KeyManager) (keys : KeySet)
    (desk : HealthDesk) : Prop where
  /-- Checks pass, and callers are given their keys of the set that the endpoint has. -/
  answers : ∀ c answer, desk.phase c = .gone answer → answer = (visitors c).answer (.ok keys)
  requests : desk.manager.fetches = start.fetches + desk.asked.length
  /-- Nobody makes two requests. -/
  once : desk.asked.Nodup
  /-- Nobody is told anything before there was a request. -/
  needed : ∀ c answer, desk.phase c = .gone answer → desk.asked ≠ []
  bounded : desk.asked.length ≤ desk.missed.length + 1
  checks : ∀ c ∈ desk.missed, visitors c = .check
  /-- When those are gone who found nothing fresh, each of them has made a request, and one caller
  at most has made one, the first. -/
  settled : (∀ c ∈ desk.missed, ∃ answer, desk.phase c = .gone answer) →
    desk.asked.Perm desk.missed ∨ ∃ c id rest, visitors c = .caller id ∧ desk.asked = c :: rest ∧
      rest.Perm desk.missed

theorem Sound.served (good : start.endpoint.outcome = .ok keys)
    (sound : desk.Sound visitors now start keys) : desk.Served visitors start keys where
  answers c answer here := (sound.of_gone here).1
  requests := by
    rw [sound.manager]
    exact KeyManager.fetches_refetched good _
  once := sound.askedOnce
  needed c answer here := (sound.of_gone here).2.1
  bounded := by
    have once : desk.asked.tail.Nodup := sound.askedOnce.sublist (List.tail_sublist _)
    have short := once.length_le_of_subset fun c => sound.missed_of_mem_tail
    rw [List.length_tail] at short
    omega
  checks := sound.checks
  settled gone := by
    refine sound.asked_of_settled fun c missing => ?_
    obtain ⟨answer, here⟩ := gone c missing
    exact (sound.of_gone here).2.2 missing

/-- In whatever order visitors take their steps at a manager with a stale cache and a good
endpoint, checks pass, and requests are made by the checks that looked before the first set was
fetched, and by one caller at most. -/
theorem run_requests {visitors : Nat → KeyVisitor} {now : Instant} {start : KeyManager}
    {keys : KeySet} {moves : List Nat} {desk : HealthDesk}
    (stale : start.cache.fresh? now = none) (lasting : 0 < start.ttl.nanos)
    (early : now.nanos < latestNanos) (good : start.endpoint.outcome = .ok keys)
    (ran : (opened start).run visitors now moves = some desk) :
    desk.Served visitors start keys ∧
      ∀ front back between, moves = front ++ back →
        (opened start).run visitors now front = some between → between.asked ≠ [] →
        desk.missed = between.missed := by
  have lives : now.nanos < (KeyCache.staleTime now start.ttl).nanos := by
    rw [KeyCache.staleTime_nanos]
    omega
  have sound := sound_opened visitors now start keys
  refine ⟨(sound.run stale lives good ran).served good, ?_⟩
  rintro front back between rfl ran' filled
  rw [run_append, ran'] at ran
  exact (sound.run stale lives good ran').run_missed stale lives good filled ran

/-! ## Two checks -/

deriving instance DecidableEq for VisitorAnswer, VisitorPhase

/-- A new manager whose endpoint has a set without keys. -/
def keylessManager : KeyManager :=
  .new (.answers Endpoint.okStatus (Text.Utf8.encode "\x7b\x7d")) KeyManager.defaultTtl

theorem keylessManager_good :
    keylessManager.endpoint.outcome = .ok ⟨[], .empty, none⟩ := by
  have parsed : Json.Document.ofBytes? (Text.Utf8.encode "\x7b\x7d") = some (.object []) :=
    Json.Document.ofBytes?_of_text (.object []) (by decide +kernel) rfl
  have read : KeySet.ofBytes (Text.Utf8.encode "\x7b\x7d") = .ok ⟨[], .empty, none⟩ := by
    unfold KeySet.ofBytes
    rw [parsed]
    rfl
  exact read

/-- A check looks, another one comes and takes both of its turns, and then the first takes its
second turn. -/
def twoChecks : List Nat :=
  [0, 0, 0, 1, 1, 1, 1, 1, 1, 0, 0, 0]

theorem exists_run_twoChecks :
    ∃ desk, (opened keylessManager).run (fun _ => .check) .epoch twoChecks = some desk ∧
      desk.phase 0 = .gone (.health true) ∧ desk.phase 1 = .gone (.health true) ∧
      desk.manager.fetches = 2 := by
  refine ⟨_, rfl, ?_, ?_, ?_⟩
  · decide +kernel
  · decide +kernel
  · decide +kernel

theorem run_requests_twoChecks :
    ∃ desk, (opened keylessManager).run (fun _ => .check) .epoch twoChecks = some desk ∧
      desk.Served (fun _ => .check) keylessManager ⟨[], .empty, none⟩ := by
  have stale : keylessManager.cache.fresh? .epoch = none := rfl
  have lasting : 0 < keylessManager.ttl.nanos := by decide
  have early : Instant.epoch.nanos < latestNanos := by decide
  obtain ⟨desk, ran, -⟩ := exists_run_twoChecks
  exact ⟨desk, ran, (run_requests stale lasting early keylessManager_good ran).1⟩

/-- Both checks pass, and there are two requests. -/
theorem twoChecks_two_requests :
    keylessManager.cache.fresh? .epoch = none ∧ 0 < keylessManager.ttl.nanos ∧
      keylessManager.endpoint.outcome = .ok ⟨[], .empty, none⟩ ∧
      ∃ desk, (opened keylessManager).run (fun _ => .check) .epoch twoChecks = some desk ∧
        (∀ c ∈ twoChecks, desk.phase c = .gone (.health true)) ∧ desk.manager.fetches = 2 := by
  obtain ⟨desk, ran, first, second, fetches⟩ := exists_run_twoChecks
  refine ⟨rfl, by decide, keylessManager_good, desk, ran, fun c visits => ?_, fetches⟩
  have known : c = 0 ∨ c = 1 := by
    simp [twoChecks] at visits
    omega
  obtain rfl | rfl := known
  · exact first
  · exact second

end HealthDesk

end BearerGate
