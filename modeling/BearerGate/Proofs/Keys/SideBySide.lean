import BearerGate.Proofs.Keys.InTurn

/-!
# What callers side by side can rely on

The steps of callers may be mixed in any way: what each of them is told, what is cached and how
many requests are made is as if they had come one after another. This is read off here from what
every step keeps, and with it what giving up changes (nothing) and what a queue at a stale cache
costs (a request for each caller up to the first that brings a key set, and none for the others).
-/

namespace BearerGate

/-- Whether a caller goes no further once its token has fired. -/
def CallerPhase.heeds : CallerPhase → Bool
  | .started | .queued | .fetching | .cancelled => true
  | _ => false

theorem CallerPhase.eq_cancelled_of_result? {phase : CallerPhase}
    {key : Except KeyFailure KeyEntry} (heeds : phase.heeds = true)
    (told : phase.result? = some key) : key = .error .cancelled := by
  cases phase with
  | cancelled =>
    cases told
    rfl
  | started | queued | fetching => cases told
  | admitted | fetched | holding | released | answered => cases heeds

namespace KeyDesk

variable {callers : Nat → KeyCaller} {start : KeyManager} {desk after : KeyDesk} {c : Nat}

/-! ## Giving up -/

/-- A move of another caller does not show in what a desk says of a caller. -/
theorem Steps.other {move : KeyMove} (steps : desk.Steps callers move after)
    (other : c ≠ move.caller) :
    after.phase c = desk.phase c ∧ after.fired c = desk.fired c ∧
      (c ∈ after.order ↔ c ∈ desk.order) ∧ after.asked.count c = desk.asked.count c := by
  cases steps with
  | queued | found | arrived | installed | released | answered | left | abandoned =>
    exact ⟨moved_phase_of_ne other _, rfl, Iff.rfl, rfl⟩
  | @acquired b here unfired free =>
    refine ⟨moved_phase_of_ne other _, rfl, ?_, rfl⟩
    change c ∈ desk.order ++ [b] ↔ c ∈ desk.order
    rw [List.mem_append, List.mem_singleton, or_iff_left other]
  | @asked b here stale =>
    refine ⟨moved_phase_of_ne other _, rfl, Iff.rfl, ?_⟩
    change (desk.asked ++ [b]).count c = desk.asked.count c
    have absent : ¬ (b == c) = true := by
      simpa using Ne.symm other
    rw [List.count_append, List.count_singleton, if_neg absent, Nat.add_zero]
  | @fired b cancellable =>
    refine ⟨rfl, ?_, Iff.rfl, rfl⟩
    change (decide (c = b) || desk.fired c) = desk.fired c
    rw [decide_eq_false other, Bool.false_or]

/-- All that a caller can do after its token has fired is to give up. -/
theorem Steps.own {move : KeyMove} (steps : desk.Steps callers move after)
    (heeds : (desk.phase move.caller).heeds = true) (fired : desk.fired move.caller = true) :
    (after.phase move.caller = desk.phase move.caller ∨ after.phase move.caller = .cancelled) ∧
      after.fired move.caller = true ∧ after.order = desk.order ∧ after.asked = desk.asked := by
  cases steps with
  | queued here unfired | acquired here unfired free | arrived here unfired =>
    rw [fired] at unfired
    cases unfired
  | found here | asked here | installed here | released here | answered here =>
    rw [here] at heeds
    cases heeds
  | fired cancellable =>
    refine ⟨.inl rfl, ?_, rfl, rfl⟩
    change (decide _ || desk.fired _) = true
    rw [fired, Bool.or_true]
  | left here fired => exact ⟨.inr (moved_phase_self _), fired, rfl, rfl⟩
  | abandoned here fired => exact ⟨.inr (moved_phase_self _), fired, rfl, rfl⟩

theorem run_heeds {moves : List KeyMove} (heeds : (desk.phase c).heeds = true)
    (fired : desk.fired c = true) (ran : desk.run callers moves = some after) :
    (after.phase c = desk.phase c ∨ after.phase c = .cancelled) ∧
      (c ∈ after.order ↔ c ∈ desk.order) ∧ after.asked.count c = desk.asked.count c := by
  induction moves generalizing desk with
  | nil =>
    cases ran
    exact ⟨.inl rfl, Iff.rfl, rfl⟩
  | cons move moves ih =>
    obtain ⟨between, stepped, rest⟩ := Option.bind_eq_some_iff.mp ran
    have steps := steps_of_step stepped
    have first : (between.phase c = desk.phase c ∨ between.phase c = .cancelled) ∧
        between.fired c = true ∧ (c ∈ between.order ↔ c ∈ desk.order) ∧
        between.asked.count c = desk.asked.count c := by
      by_cases mine : c = move.caller
      · subst mine
        obtain ⟨phase, fired', order, asked⟩ := steps.own heeds fired
        exact ⟨phase, fired', by rw [order], by rw [asked]⟩
      · obtain ⟨phase, fired', order, asked⟩ := steps.other mine
        exact ⟨.inl phase, fired'.trans fired, order, asked⟩
    obtain ⟨phase, fired', order, asked⟩ := first
    have heeds' : (between.phase c).heeds = true := by
      rcases phase with same | gone
      · rw [same]
        exact heeds
      · rw [gone]
        rfl
    obtain ⟨phase', order', asked'⟩ := ih heeds' fired' rest
    refine ⟨?_, order'.trans order, asked'.trans asked⟩
    rcases phase' with same' | gone'
    · rw [same']
      exact phase
    · exact .inr gone'

/-- Giving up leaves the cache as it is. -/
theorem Steps.giveUp (steps : desk.Steps callers ⟨c, .giveUp⟩ after) :
    after.manager.cache = desk.manager.cache ∧ after.phase c = .cancelled := by
  cases steps with
  | left here fired => exact ⟨rfl, moved_phase_self _⟩
  | abandoned here fired =>
    exact ⟨KeyManager.settle_cache_of_not_succeeds rfl, moved_phase_self _⟩

/-! ## Going on -/

/-- A caller that has the lock can go on, or give up. -/
theorem exists_step_of_isInside (callers : Nat → KeyCaller)
    (inside : (desk.phase c).isInside = true) :
    ∃ act after, act ≠ .fire ∧ desk.step callers ⟨c, act⟩ = some after := by
  cases here : desk.phase c with
  | admitted =>
    refine ⟨.check, ?_⟩
    cases found : desk.manager.cache.fresh? (callers c).turn.served with
    | some keys => exact ⟨_, nofun, by simp only [step, here, found]; rfl⟩
    | none => exact ⟨_, nofun, by simp only [step, here, found]; rfl⟩
  | fetching =>
    cases fired : desk.fired c with
    | true => exact ⟨.giveUp, _, nofun, by simp only [step, here, fired]; rfl⟩
    | false => exact ⟨.arrive, _, nofun, by simp only [step, here, fired]; rfl⟩
  | fetched => exact ⟨.install, _, nofun, by simp only [step, here]; rfl⟩
  | holding keys => exact ⟨.release, _, nofun, by simp only [step, here]; rfl⟩
  | started | queued | released | answered | cancelled =>
    rw [here] at inside
    cases inside

/-- As long as a caller has not been told anything, it can take a step, or the one can that has
the lock. -/
theorem Sound.exists_step (sound : desk.Sound callers start)
    (untold : (desk.phase c).result? = none) :
    ∃ b act after, act ≠ .fire ∧ (b = c ∨ desk.holder = some b) ∧
      desk.step callers ⟨b, act⟩ = some after := by
  cases here : desk.phase c with
  | admitted | fetching | fetched | holding =>
    have inside : (desk.phase c).isInside = true := by rw [here]; rfl
    obtain ⟨act, after, real, stepped⟩ := exists_step_of_isInside callers inside
    exact ⟨c, act, after, real, .inl rfl, stepped⟩
  | started =>
    cases fired : desk.fired c with
    | true => exact ⟨c, .giveUp, _, nofun, .inl rfl, by simp only [step, here, fired]; rfl⟩
    | false => exact ⟨c, .queue, _, nofun, .inl rfl, by simp only [step, here, fired]; rfl⟩
  | queued =>
    cases fired : desk.fired c with
    | true => exact ⟨c, .giveUp, _, nofun, .inl rfl, by simp only [step, here, fired]; rfl⟩
    | false =>
      cases holds : desk.holder with
      | none =>
        exact ⟨c, .acquire, _, nofun, .inl rfl, by simp only [step, here, fired, holds]; rfl⟩
      | some b =>
        obtain ⟨act, after, real, stepped⟩ :=
          exists_step_of_isInside callers ((sound.lock b).mpr holds)
        exact ⟨b, act, after, real, .inr rfl, stepped⟩
  | released keys => exact ⟨c, .lookup, _, nofun, .inl rfl, by simp only [step, here]; rfl⟩
  | answered | cancelled =>
    rw [here] at untold
    cases untold

/-! ## Requests -/

theorem Turned.asked_iff {caller : KeyCaller} {found : KeyManager} {asked : Prop}
    {phase : CallerPhase} (turned : Turned caller found asked phase) (looked : phase ≠ .admitted) :
    asked ↔ found.cache.Stale caller.turn.served := by
  rw [← KeyCache.fresh?_eq_none_iff]
  cases turned with
  | admitted unasked => exact (looked rfl).elim
  | fetching stale sent | fetched stale sent | cancelled stale sent =>
    exact ⟨fun _ => stale, fun _ => sent⟩
  | holding sent | released sent | answered sent => exact sent

theorem Turned.of_fresh {caller : KeyCaller} {found : KeyManager} {asked : Prop}
    {phase : CallerPhase} {keys : KeySet} (turned : Turned caller found asked phase)
    (fresh : found.cache.fresh? caller.turn.served = some keys) :
    ¬ asked ∧ ∀ key, phase = .answered key → key = keys.lookup caller.id := by
  have fresh' : (caller.meets found).cache.fresh? caller.turn.served = some keys := fresh
  have unasked : found.cache.fresh? caller.turn.served ≠ none := by
    rw [fresh]
    exact Option.some_ne_none keys
  cases turned with
  | admitted unasked => exact ⟨unasked, nofun⟩
  | fetching stale sent | fetched stale sent | cancelled stale sent => exact (unasked stale).elim
  | holding sent | released sent => exact ⟨fun asks => unasked (sent.mp asks), nofun⟩
  | answered sent =>
    refine ⟨fun asks => unasked (sent.mp asks), fun key told => ?_⟩
    cases told
    unfold KeyManager.resolve
    rw [KeyManager.currentKeys_of_fresh fresh']
    rfl

/-- The request of a caller, if it makes one. -/
def request (callers : Nat → KeyCaller) (desk : KeyDesk) (c : Nat) : KeyRequest :=
  (callers c).request (desk.gaveUp c)

/-- A caller asks if the cache was stale at the start and nobody before it has brought a set. -/
theorem Sound.count_asked (sound : desk.Sound callers start) {before later : List Nat}
    (split : desk.order = before ++ c :: later) (looked : desk.phase c ≠ .admitted)
    (failed : ∀ b ∈ before, (desk.request callers b).succeeds = false)
    (stale : start.cache.Stale (callers c).turn.served) : desk.asked.count c = 1 := by
  have kept : (desk.served callers start before).cache = start.cache :=
    KeyManager.serveAll_cache failed
  rw [← kept] at stale
  have sent := ((sound.turned before c later split).asked_iff looked).mpr stale
  exact List.count_eq_one_of_mem sound.askedOnce sent

/-- A caller whose turn comes while the set is fresh that a former caller has brought does not ask,
and its key is from that set. -/
theorem Sound.reuses (sound : desk.Sound callers start) {first : Nat}
    {before between later : List Nat} {keys : KeySet}
    (split : desk.order = before ++ first :: (between ++ c :: later))
    (failed : ∀ b ∈ before, (desk.request callers b).succeeds = false)
    (stale : start.cache.Stale (callers first).turn.served)
    (brought : (desk.request callers first).outcome = .ok keys)
    (early : ∀ b ∈ between ++ [c], (callers b).turn.served.before
      (KeyCache.staleTime (callers first).turn.ended start.ttl) = true) :
    c ∉ desk.asked ∧ ∀ key, desk.phase c = .answered key → key = keys.lookup (callers c).id := by
  have kept : (desk.served callers start before).cache = start.cache :=
    KeyManager.serveAll_cache failed
  have installed : (desk.served callers start (before ++ [first])).cache =
      .installed (callers first).turn.ended start.ttl keys := by
    rw [← kept, ← KeyCache.fresh?_eq_none_iff] at stale
    rw [served_concat, KeyCaller.run_events_of_stale stale]
    refine (KeyManager.settle_cache_of_ok brought).trans ?_
    exact congrArg (KeyCache.installed _ · keys) (KeyManager.run_ttl _ _)
  have fresh : ∀ b ∈ between ++ [c], (desk.served callers start (before ++ [first])).cache.fresh?
      (callers b).turn.served = some keys := by
    intro b member
    rw [installed]
    exact if_pos (early b member)
  have unchanged : (desk.served callers start (before ++ first :: between)).cache =
      (desk.served callers start (before ++ [first])).cache := by
    rw [List.append_cons, served, KeyManager.serveAll_append]
    exact KeyManager.serveAll_cache_of_fresh fun b member =>
      ⟨keys, fresh b (List.mem_append_left _ member)⟩
  have split' : desk.order = (before ++ first :: between) ++ c :: later := by
    rw [split, List.append_assoc, List.cons_append]
  refine (sound.turned _ c later split').of_fresh ?_
  rw [unchanged]
  exact fresh c (List.mem_append_right _ List.mem_cons_self)

/-! ## Turns -/

/-- At most one request is under way. -/
theorem Sound.eq_of_isFetching (sound : desk.Sound callers start) {b : Nat}
    (here : (desk.phase b).isFetching = true) (there : (desk.phase c).isFetching = true) :
    b = c := by
  have inside : ∀ phase : CallerPhase, phase.isFetching = true → phase.isInside = true := by
    intro phase fetches
    cases phase with
    | fetching | fetched => rfl
    | started | queued | admitted | holding | released | answered | cancelled => cases fetches
  have holds := sound.holds (inside _ here)
  rw [sound.holds (inside _ there)] at holds
  exact (Option.some.inj holds).symm

/-- A caller that has its answer has had its turn, and was told there what it was told. -/
theorem Sound.exists_turn (sound : desk.Sound callers start) {key : Except KeyFailure KeyEntry}
    (told : desk.phase c = .answered key) :
    ∃ before later, desk.order = before ++ c :: later ∧
      (((callers c).meets (desk.served callers start before)).resolveCancellable
        (callers c).turn (callers c).id .never).1 = key := by
  have member : c ∈ desk.order := by
    by_contra away
    have waiting := sound.outside c away
    rw [told] at waiting
    rcases waiting with no | no | no
    · cases no
    · cases no
    · cases no
  obtain ⟨before, later, split⟩ := List.append_of_mem member
  have turned := sound.turned before c later split
  rw [told] at turned
  refine ⟨before, later, split, ?_⟩
  cases turned with
  | answered sent => rfl

/-- The turn of a caller that has given up leaves the cache as it was. -/
theorem served_cache_of_cancelled (gone : desk.phase c = .cancelled) (before : List Nat) :
    (desk.served callers start (before ++ [c])).cache =
      (desk.served callers start before).cache := by
  have quits : desk.gaveUp c = true := by
    unfold gaveUp
    rw [gone]
    rfl
  rw [served_concat, quits]
  exact KeyCaller.run_events_cache rfl

/-! ## The account of callers side by side -/

/-- What callers side by side can rely on at any time, if the manager was `start` at first. -/
structure ServedInTurn (callers : Nat → KeyCaller) (start : KeyManager) (desk : KeyDesk) :
    Prop where
  oneRequest : ∀ b c, (desk.phase b).isFetching = true → (desk.phase c).isFetching = true → b = c
  order : desk.order.Nodup ∧ desk.asked.Nodup ∧ ∀ c ∈ desk.asked, c ∈ desk.order
  manager : desk.holder = none → desk.manager = desk.served callers start desk.order
  answers : ∀ c key, desk.phase c = .answered key →
    ∃ before later, desk.order = before ++ c :: later ∧
      (((callers c).meets (desk.served callers start before)).resolveCancellable
        (callers c).turn (callers c).id .never).1 = key
  /-- Who has given up has a token that has fired, and its turn, if it had one, has left the cache
  as it was. -/
  cancelled : ∀ c, desk.phase c = .cancelled →
    (callers c).cancellable = true ∧ desk.fired c = true ∧
      ∀ before later, desk.order = before ++ c :: later →
        (desk.served callers start (before ++ [c])).cache =
          (desk.served callers start before).cache
  leaves : ∀ c after, desk.step callers ⟨c, .giveUp⟩ = some after →
    after.manager.cache = desk.manager.cache ∧ (after.phase c).result? = some (.error .cancelled)
  /-- A token that fires while its caller waits ends the way of the caller: it does not get the
  lock any more, sends no more requests, and is told nothing but that it has given up. -/
  heeds : ∀ c, desk.fired c = true → (desk.phase c).heeds = true →
    ∀ moves after, desk.run callers moves = some after →
      (c ∈ after.order ↔ c ∈ desk.order) ∧ after.asked.count c = desk.asked.count c ∧
        ∀ key, (after.phase c).result? = some key → key = .error .cancelled
  /-- Who finds the cache as stale as it was at the start sends one request. -/
  asks : ∀ before c later, desk.order = before ++ c :: later →
    (∀ b ∈ before, (desk.request callers b).succeeds = false) →
    start.cache.Stale (callers c).turn.served → desk.phase c ≠ .admitted →
    desk.asked.count c = 1
  /-- Who comes after the first that has brought a key set sends none while the set is fresh. -/
  reuses : ∀ before first later keys, desk.order = before ++ first :: later →
    (∀ b ∈ before, (desk.request callers b).succeeds = false) →
    start.cache.Stale (callers first).turn.served →
    (desk.request callers first).outcome = .ok keys →
    (∀ b ∈ later, (callers b).turn.served.before
      (KeyCache.staleTime (callers first).turn.ended start.ttl) = true) →
    ∀ c ∈ later, c ∉ desk.asked ∧
      ∀ key, desk.phase c = .answered key → key = keys.lookup (callers c).id
  goesOn : ∀ c, (desk.phase c).result? = none →
    ∃ b act after, act ≠ .fire ∧ (b = c ∨ desk.holder = some b) ∧
      desk.step callers ⟨b, act⟩ = some after

/-- However the steps of callers are mixed, they are served in turn. -/
theorem run_servedInTurn {moves : List KeyMove}
    (ran : (opened start).run callers moves = some desk) : desk.ServedInTurn callers start := by
  have sound := run_sound (opened_sound callers start) ran
  refine ⟨fun b c here there => sound.eq_of_isFetching here there,
    ⟨sound.once, sound.askedOnce, sound.askers⟩, sound.idle,
    fun c key told => sound.exists_turn told, ?_, ?_, ?_,
    fun before c later split failed stale looked => sound.count_asked split looked failed stale,
    ?_, fun c untold => sound.exists_step untold⟩
  · intro c gone
    have fired := sound.tokens c gone
    exact ⟨sound.cancellable c fired, fired,
      fun before later split => served_cache_of_cancelled gone before⟩
  · intro c after stepped
    obtain ⟨cache, gone⟩ := (steps_of_step stepped).giveUp
    refine ⟨cache, ?_⟩
    rw [gone]
    rfl
  · intro c fired heeds moves after ran'
    obtain ⟨phase, order, asked⟩ := run_heeds heeds fired ran'
    refine ⟨order, asked, fun key told => ?_⟩
    rcases phase with same | gone
    · rw [same] at told
      exact CallerPhase.eq_cancelled_of_result? heeds told
    · rw [gone] at told
      exact CallerPhase.eq_cancelled_of_result? rfl told
  · intro before first later keys split failed stale brought early c member
    obtain ⟨between, rest, rfl⟩ := List.append_of_mem member
    refine sound.reuses split failed stale brought fun b earlier => early b ?_
    rw [List.append_cons]
    exact List.mem_append_left _ earlier

/-- The first caller gives up a request that nobody answers, the second fetches the set, the third
gives up in the queue, and the last finds the set of the second. -/
def sampleCallers : Nat → KeyCaller
  | 0 => ⟨"k", ⟨.ofSeconds 1, .ofSeconds 2⟩, .hangs, true⟩
  | 1 => ⟨"k", ⟨.ofSeconds 3, .ofSeconds 4⟩, .answers 200 sampleDocument, false⟩
  | 2 => ⟨"k", ⟨.ofSeconds 5, .ofSeconds 5⟩, .drops, true⟩
  | _ => ⟨"unknown", ⟨.ofSeconds 6, .ofSeconds 6⟩, .drops, false⟩

/-- Their steps, mixed. -/
def sampleMoves : List KeyMove :=
  [⟨0, .queue⟩, ⟨0, .acquire⟩, ⟨1, .queue⟩, ⟨0, .check⟩, ⟨2, .queue⟩, ⟨3, .queue⟩, ⟨0, .fire⟩,
    ⟨0, .giveUp⟩, ⟨1, .acquire⟩, ⟨2, .fire⟩, ⟨1, .check⟩, ⟨2, .giveUp⟩, ⟨1, .arrive⟩,
    ⟨1, .install⟩, ⟨1, .release⟩, ⟨3, .acquire⟩, ⟨3, .check⟩, ⟨1, .lookup⟩, ⟨3, .release⟩,
    ⟨3, .lookup⟩]

theorem run_servedInTurn_sampleMoves :
    ∃ desk, (opened (.new .drops (.ofSeconds 10))).run sampleCallers sampleMoves = some desk ∧
      desk.order = [0, 1, 3] ∧ desk.asked = [0, 1] ∧
      desk.ServedInTurn sampleCallers (.new .drops (.ofSeconds 10)) := by
  have asked : ((opened (.new .drops (.ofSeconds 10))).run sampleCallers sampleMoves).map
      (fun desk => (desk.order, desk.asked)) = some ([0, 1, 3], [0, 1]) := by decide +kernel
  obtain ⟨desk, ran, records⟩ := Option.map_eq_some_iff.mp asked
  obtain ⟨order, asked⟩ := Prod.mk.inj records
  exact ⟨desk, ran, order, asked, run_servedInTurn ran⟩

end KeyDesk

end BearerGate
