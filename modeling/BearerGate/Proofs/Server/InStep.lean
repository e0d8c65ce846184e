import BearerGate.Proofs.Hook.Nesting

/-!
# Metrics do not decide

Metrics and authentication as one hook, somewhere among the pipelines around a handler: what the
metrics answer when the route is known changes nothing in a call. Two runs of a call, with metrics
that differ in these answers, go in step (`InStep`). Their journals are the same but for the
answers, so the handler is asked as often and with the same contexts, the same errors are reported,
and the responses are the same.

In both runs the metrics come right behind authentication, once each time, and find the context that
authentication has left, whether it has failed or not (`Paired`).

The metrics may also leave different worlds behind, as long as the other hooks and the handler
cannot tell them apart. That is what a `Likeness` is for; with `Likeness.same` nothing is asked of
the others.
-/

namespace BearerGate

variable {σ τ : Type}

/-! ## Metrics that answer differently -/

/-- Two hooks that do the same in like worlds, but for what they answer when the route is known. -/
structure Hook.MatchesButVerdict (likeness : Likeness σ τ) (hook : Hook σ) (other : Hook τ) :
    Prop where
  received : ∀ context {world world'}, likeness.Holds world world' →
    (hook.received context world).Matches likeness (other.received context world')
  routed : ∀ context {world world'}, likeness.Holds world world' →
    (other.routed context world').context = (hook.routed context world).context ∧
      likeness.Holds (hook.routed context world).world (other.routed context world').world
  sent : ∀ context {world world'}, likeness.Holds world world' →
    likeness.Holds (hook.sent context world) (other.sent context world')
  failed : ∀ context error {world world'}, likeness.Holds world world' →
    likeness.Holds (hook.failed context error world) (other.failed context error world')

namespace Hook

variable {likeness : Likeness σ τ} {metrics auth : Hook σ} {metrics' auth' : Hook τ}

theorem Matches.butVerdict {hook : Hook σ} {other : Hook τ}
    (pair : hook.Matches likeness other) : hook.MatchesButVerdict likeness other where
  received := pair.received
  routed context _ _ alike :=
    ⟨(pair.routed context alike).context, (pair.routed context alike).world⟩
  sent := pair.sent
  failed := pair.failed

/-- Behind authentication it does not matter what the metrics answer. -/
theorem authMetrics_matches (counts : metrics.MatchesButVerdict likeness metrics')
    (pair : auth.Matches likeness auth') :
    (authMetrics metrics auth).Matches likeness (authMetrics metrics' auth') where
  received context _ _ alike :=
    (counts.received context alike).andThen fun context _ _ => pair.received context
  routed context world world' alike := by
    have outcome := pair.routed context alike
    unfold authMetrics
    dsimp only
    rw [outcome.context]
    obtain ⟨left, reached⟩ := counts.routed (auth.routed context world).context outcome.world
    exact ⟨left, reached, outcome.failure⟩
  sent context _ _ alike := pair.sent context (counts.sent context alike)
  failed context error _ _ alike := pair.failed context error (counts.failed context error alike)

end Hook

theorem HookTree.hook_matches {α : Type} {likeness : Likeness σ τ} {hookOf : α → Hook σ}
    {otherOf : α → Hook τ} (pairs : ∀ name, (hookOf name).Matches likeness (otherOf name))
    (tree : HookTree α) :
    (tree.hook hookOf).Matches likeness (tree.hook otherOf) := by
  rw [hook_eq_pipeline, hook_eq_pipeline]
  exact Hook.pipeline_matches pairs tree.leaves

/-! ## The guard among pipelines -/

namespace Guard

/-- The place under which the metrics are observed. -/
def metricsPlace : Nat := 0

/-- The place under which authentication is observed. -/
def authPlace : Nat := 1

/-- Nested pipelines with metrics and authentication as one hook at the leaves without a name. -/
def hook (tree : HookTree (Option Nat)) (others : Nat → Hook τ) (metrics auth : Hook τ) : Hook τ :=
  tree.hook fun name => name.elim (.authMetrics metrics auth) others

/-- The same pipelines with every hook observed. -/
def observed (tree : HookTree (Option Nat)) (others : Nat → Hook τ) (metrics auth : Hook τ) :
    Hook (τ × List CallEvent) :=
  hook tree (fun name => (others name).observed (name + 2)) (metrics.observed metricsPlace)
    (auth.observed authPlace)

theorem hook_matches {likeness : Likeness σ τ} {others : Nat → Hook σ} {others' : Nat → Hook τ}
    {metrics auth : Hook σ} {metrics' auth' : Hook τ}
    (pairs : ∀ name, (others name).Matches likeness (others' name))
    (guard : (Hook.authMetrics metrics auth).Matches likeness (.authMetrics metrics' auth'))
    (tree : HookTree (Option Nat)) :
    (hook tree others metrics auth).Matches likeness (hook tree others' metrics' auth') := by
  apply HookTree.hook_matches
  intro name
  cases name with
  | none => exact guard
  | some name => exact pairs name

theorem observed_matches (tree : HookTree (Option Nat)) (others : Nat → Hook τ)
    (metrics auth : Hook τ) :
    (hook tree others metrics auth).Matches (.observed τ)
      (observed tree others metrics auth) :=
  hook_matches (fun name => (others name).observed_matches (name + 2))
    (Hook.authMetrics_matches (metrics.observed_matches metricsPlace).butVerdict
      (auth.observed_matches authPlace)) tree

end Guard

open Guard (metricsPlace authPlace)

/-! ## Journals in step -/

namespace CallEvent

/-- An event other than that metrics or authentication were told the route. -/
def Elsewhere : CallEvent → Prop
  | .routed visit => visit.hook ≠ metricsPlace ∧ visit.hook ≠ authPlace
  | _ => True

/-- An event without what the metrics answer when the route is known. -/
def butVerdict : CallEvent → CallEvent
  | .routed visit =>
    .routed (if visit.hook = metricsPlace then { visit with failure := none } else visit)
  | event => event

/-- What the handler was asked, and its answer. -/
def handled? : CallEvent → Option (Request × Response)
  | .handled request response => some (request, response)
  | _ => none

/-- The report of an error. -/
def failed? : CallEvent → Option (Nat × Context × RpcError)
  | .failed hook context error => some (hook, context, error)
  | _ => none

theorem handled?_butVerdict (event : CallEvent) : event.butVerdict.handled? = event.handled? := by
  cases event <;> rfl

theorem failed?_butVerdict (event : CallEvent) : event.butVerdict.failed? = event.failed? := by
  cases event <;> rfl

end CallEvent

/-- A journal in which metrics and authentication are told the route in pairs: authentication first,
and right behind it the metrics, with the context that authentication has left. -/
inductive Paired : List CallEvent → Prop
  | start : Paired []
  | event {journal : List CallEvent} {event : CallEvent} (before : Paired journal)
    (elsewhere : event.Elsewhere) : Paired (journal ++ [event])
  | pair {journal : List CallEvent} (before : Paired journal) (found left counted : Context)
    (outcome verdict : Option RpcError) :
    Paired (journal ++ [.routed ⟨authPlace, found, left, outcome⟩,
      .routed ⟨metricsPlace, left, counted, verdict⟩])

/-- The journals of two runs that differ only in what the metrics answer when the route is known. -/
structure InStep (journal journal' : List CallEvent) : Prop where
  same : journal'.map CallEvent.butVerdict = journal.map CallEvent.butVerdict
  paired : Paired journal
  paired' : Paired journal'

namespace InStep

variable {journal journal' : List CallEvent}

theorem start : InStep [] [] := ⟨rfl, .start, .start⟩

theorem event (inStep : InStep journal journal') {event : CallEvent}
    (elsewhere : event.Elsewhere) : InStep (journal ++ [event]) (journal' ++ [event]) where
  same := by rw [List.map_append, List.map_append, inStep.same]
  paired := inStep.paired.event elsewhere
  paired' := inStep.paired'.event elsewhere

theorem pair (inStep : InStep journal journal') (found left counted : Context)
    (outcome verdict verdict' : Option RpcError) :
    InStep
      (journal ++ [.routed ⟨authPlace, found, left, outcome⟩,
        .routed ⟨metricsPlace, left, counted, verdict⟩])
      (journal' ++ [.routed ⟨authPlace, found, left, outcome⟩,
        .routed ⟨metricsPlace, left, counted, verdict'⟩]) where
  same := by
    rw [List.map_append, List.map_append, inStep.same]
    rfl
  paired := inStep.paired.pair found left counted outcome verdict
  paired' := inStep.paired'.pair found left counted outcome verdict'

/-- What does not depend on the answers of the metrics is the same in both runs. -/
theorem filterMap_eq {β : Type} {view : CallEvent → Option β} (inStep : InStep journal journal')
    (blind : ∀ event : CallEvent, view event.butVerdict = view event) :
    journal'.filterMap view = journal.filterMap view := by
  have through : ∀ events : List CallEvent,
      events.filterMap view = (events.map CallEvent.butVerdict).filterMap view := by
    intro events
    rw [List.filterMap_map]
    exact congrArg (List.filterMap · events) (funext fun event => (blind event).symm)
  rw [through, inStep.same, ← through]

end InStep

/-! ## Observed runs in step -/

/-- Worlds that are alike, with journals in step. -/
def Likeness.inStep (likeness : Likeness σ τ) :
    Likeness (σ × List CallEvent) (τ × List CallEvent) where
  Holds world other :=
    likeness.Holds world.plain other.plain ∧ InStep world.journal other.journal
  bags_eq alike := likeness.bags_eq alike.1
  withBags alike bags := ⟨likeness.withBags alike.1 bags, alike.2⟩

variable {likeness : Likeness σ τ} {world : World (σ × List CallEvent)}
  {world' : World (τ × List CallEvent)}

theorem Likeness.noting_inStep (alike : likeness.inStep.Holds world world') {after : World σ}
    {after' : World τ} (reached : likeness.Holds after after') {event : CallEvent}
    (elsewhere : event.Elsewhere) :
    likeness.inStep.Holds (world.noting after event) (world'.noting after' event) :=
  ⟨reached, alike.2.event elsewhere⟩

/-- Stages that match are noted with the same event. -/
theorem Progress.Matches.noting_inStep {progress : Progress σ} {other : Progress τ}
    (here : progress.Matches likeness other) (alike : likeness.inStep.Holds world world')
    (event : Visit → CallEvent) (place : Nat) (context : Context)
    (elsewhere : ∀ visit, visit.hook = place → (event visit).Elsewhere) :
    (progress.noting world (event (.of place context progress))).Matches likeness.inStep
      (other.noting world' (event (.of place context other))) := by
  have same : Visit.of place context other = Visit.of place context progress := by
    unfold Visit.of
    rw [here.context, here.failure]
  rw [same]
  exact ⟨here.context, likeness.noting_inStep alike here.world (elsewhere _ rfl), here.failure⟩

namespace Hook

theorem Matches.observed_inStep {hook : Hook σ} {other : Hook τ}
    (pair : hook.Matches likeness other) {place : Nat} (notMetrics : place ≠ metricsPlace)
    (notAuth : place ≠ authPlace) :
    (hook.observed place).Matches likeness.inStep (other.observed place) where
  received context _ _ alike := (pair.received context alike.1).noting_inStep alike .received place
    context fun _ _ => trivial
  routed context _ _ alike := (pair.routed context alike.1).noting_inStep alike .routed place
    context fun _ here => ⟨here ▸ notMetrics, here ▸ notAuth⟩
  sent context _ _ alike := likeness.noting_inStep alike (pair.sent context alike.1) trivial
  failed context error _ _ alike :=
    likeness.noting_inStep alike (pair.failed context error alike.1) trivial

/-- Observed, metrics and authentication as one hook are told the route in a pair of visits. -/
theorem authMetrics_observed_routed (metrics auth : Hook τ) (context : Context)
    (world : World (τ × List CallEvent)) :
    let outcome := auth.routed context world.plain
    let counted := metrics.routed outcome.context outcome.world
    (authMetrics (metrics.observed metricsPlace) (auth.observed authPlace)).routed context world =
      ⟨counted.context,
        counted.world.journaled (world.journal ++
          [.routed ⟨authPlace, context, outcome.context, outcome.failure⟩,
            .routed ⟨metricsPlace, outcome.context, counted.context, counted.failure⟩]),
        outcome.failure⟩ := by
  intro outcome counted
  rw [List.append_cons]
  rfl

/-- In two runs that match these visits differ only in what the metrics answer. -/
theorem authMetrics_observed_inStep {metrics auth : Hook σ} {metrics' auth' : Hook τ}
    (counts : metrics.MatchesButVerdict likeness metrics') (pair : auth.Matches likeness auth') :
    (authMetrics (metrics.observed metricsPlace) (auth.observed authPlace)).Matches
      likeness.inStep (authMetrics (metrics'.observed metricsPlace) (auth'.observed authPlace))
    where
  received context _ _ alike := by
    have counted := (counts.received context alike.1).noting_inStep alike .received metricsPlace
      context fun _ _ => trivial
    refine counted.andThen ?_
    intro context world world' alike
    exact (pair.received context alike.1).noting_inStep alike .received authPlace context
      fun _ _ => trivial
  routed context world world' alike := by
    have outcome := pair.routed context alike.1
    obtain ⟨left, reached⟩ :=
      counts.routed (auth.routed context world.plain).context outcome.world
    rw [authMetrics_observed_routed, authMetrics_observed_routed, outcome.context,
      outcome.failure, left]
    exact ⟨rfl, ⟨reached, alike.2.pair _ _ _ _ _ _⟩, rfl⟩
  sent context world world' alike := by
    have counted := counts.sent context alike.1
    refine likeness.noting_inStep ?_ (pair.sent context counted) trivial
    exact likeness.noting_inStep alike counted trivial
  failed context error world world' alike := by
    have counted := counts.failed context error alike.1
    refine likeness.noting_inStep ?_ (pair.failed context error counted) trivial
    exact likeness.noting_inStep alike counted trivial

end Hook

theorem Handler.Matches.observed_inStep {handler : Handler σ} {handler' : Handler τ}
    (answers : handler.Matches likeness handler') :
    Handler.Matches likeness.inStep handler.observed handler'.observed := by
  intro request world world' alike
  obtain ⟨same, reached⟩ := answers request alike.1
  unfold Handler.observed
  dsimp only
  rw [same]
  exact ⟨rfl, likeness.noting_inStep alike reached trivial⟩

theorem Guard.observed_inStep {others : Nat → Hook σ} {others' : Nat → Hook τ}
    {metrics auth : Hook σ} {metrics' auth' : Hook τ}
    (pairs : ∀ name, (others name).Matches likeness (others' name))
    (counts : metrics.MatchesButVerdict likeness metrics') (pair : auth.Matches likeness auth')
    (tree : HookTree (Option Nat)) :
    (observed tree others metrics auth).Matches likeness.inStep
      (observed tree others' metrics' auth') :=
  hook_matches
    (fun name => (pairs name).observed_inStep (Nat.succ_ne_zero _)
      (Nat.succ_ne_succ_iff.mpr (Nat.succ_ne_zero _)))
    (Hook.authMetrics_observed_inStep counts pair) tree

/-! ## Calls in step -/

/-- Hooks and a handler that cannot tell like worlds apart. -/
structure Likeness.Blind (likeness : Likeness τ τ) (others : Nat → Hook τ) (auth : Hook τ)
    (handler : Handler τ) : Prop where
  others : ∀ name, (others name).Matches likeness (others name)
  auth : auth.Matches likeness auth
  handler : Handler.Matches likeness handler handler

/-- Whatever hooks and handlers do, they do the same in the same world. -/
theorem Likeness.blind_same (others : Nat → Hook τ) (auth : Hook τ) (handler : Handler τ) :
    (Likeness.same τ).Blind others auth handler where
  others name := (others name).matches_same
  auth := auth.matches_same
  handler := handler.matches_same

/-- Two runs of a call with the same response. Their journals are in step, the handler is asked the
same and gives the same answers, and the same errors are reported. -/
def CallsInStep (likeness : Likeness τ τ) (layer layer' : CallLayer τ)
    (observed observed' : CallLayer (τ × List CallEvent)) (handler : Handler τ)
    (request : Request) (world world' : World τ) : Prop :=
  ∃ response after after' journal journal',
    layer.serve handler request world = (response, after) ∧
    layer'.serve handler request world' = (response, after') ∧
    likeness.Holds after after' ∧
    observed.serve handler.observed request (world.journaled []) =
      (response, after.journaled journal) ∧
    observed'.serve handler.observed request (world'.journaled []) =
      (response, after'.journaled journal') ∧
    InStep journal journal' ∧
    journal'.filterMap CallEvent.handled? = journal.filterMap CallEvent.handled? ∧
    journal'.filterMap CallEvent.failed? = journal.filterMap CallEvent.failed?

namespace Guard

/-- Metrics that differ only in what they answer when the route is known make for the same call, and
the stage fails just if authentication fails it, with the same error. -/
theorem verdict_immaterial {likeness : Likeness τ τ} {others : Nat → Hook τ} {auth : Hook τ}
    {handler : Handler τ} (blind : likeness.Blind others auth handler) {metrics metrics' : Hook τ}
    (counts : metrics.MatchesButVerdict likeness metrics') (tree : HookTree (Option Nat))
    (segmentOf : Context → Option Segment) (lead : String) (request : Request)
    {world world' : World τ} (alike : likeness.Holds world world') :
    CallsInStep likeness ⟨hook tree others metrics auth, segmentOf, lead⟩
        ⟨hook tree others metrics' auth, segmentOf, lead⟩
        ⟨observed tree others metrics auth, segmentOf, lead⟩
        ⟨observed tree others metrics' auth, segmentOf, lead⟩ handler request world world' ∧
      ∀ context world,
        ((Hook.authMetrics metrics auth).routed context world).failure =
            (auth.routed context world).failure ∧
          ((Hook.authMetrics metrics' auth).routed context world).failure =
            (auth.routed context world).failure := by
  refine ⟨?_, fun _ _ => ⟨rfl, rfl⟩⟩
  have pair : ∀ metrics, CallLayer.Matches (.observed τ)
      ⟨hook tree others metrics auth, segmentOf, lead⟩
      ⟨observed tree others metrics auth, segmentOf, lead⟩ :=
    fun metrics => ⟨observed_matches tree others metrics auth, rfl, rfl⟩
  have both : CallLayer.Matches likeness.inStep
      ⟨observed tree others metrics auth, segmentOf, lead⟩
      ⟨observed tree others metrics' auth, segmentOf, lead⟩ :=
    ⟨observed_inStep blind.others counts blind.auth tree, rfl, rfl⟩
  obtain ⟨journal, here⟩ := (pair metrics).exists_journal handler request world
  obtain ⟨journal', there⟩ := (pair metrics').exists_journal handler request world'
  have start : likeness.inStep.Holds (world.journaled []) (world'.journaled []) :=
    ⟨alike, .start⟩
  obtain ⟨response, reached, inStep⟩ := both.serve blind.handler.observed_inStep request start
  rw [here, there] at response reached inStep
  exact ⟨_, _, _, journal, journal', rfl, Prod.ext response rfl, reached, here,
    there.trans (Prod.ext response rfl), inStep, inStep.filterMap_eq CallEvent.handled?_butVerdict,
    inStep.filterMap_eq CallEvent.failed?_butVerdict⟩

/-- Taps that differ in what they answer when the route is known. -/
theorem tap_matchesButVerdict (note : StageEvent → Context → World τ → τ)
    (failReceived verdict verdict' : Option RpcError) :
    (Hook.tap note failReceived verdict).MatchesButVerdict (.same τ)
      (.tap note failReceived verdict') where
  received := (Hook.matches_same (.tap note failReceived verdict)).received
  routed context := by
    rintro world _ rfl
    exact ⟨rfl, rfl⟩
  sent := (Hook.matches_same (.tap note failReceived verdict)).sent
  failed := (Hook.matches_same (.tap note failReceived verdict)).failed

/-- Metrics and authentication between two other hooks, in pipelines of their own. -/
def sampleTree : HookTree (Option Nat) :=
  .pipeline [.leaf (some 0), .pipeline [.pipeline [], .leaf none], .leaf (some 1)]

/-- A hook that answers with the given when the route is known. -/
def sampleHook (verdict : Option RpcError) : Hook Unit :=
  .tap (fun _ _ world => world.trace) none verdict

/-- The error of the authentication that refuses. -/
def sampleRefusal : RpcError := .new .unauthenticated "no token"

/-- Metrics that answer with the given, and authentication that refuses, among other hooks. -/
def sampleLayer (verdict : Option RpcError) : CallLayer Unit :=
  .new (hook sampleTree (fun _ => .inert) (sampleHook verdict) (sampleHook (some sampleRefusal)))

/-- The same layer, observed. -/
def sampleObserved (verdict : Option RpcError) : CallLayer (Unit × List CallEvent) :=
  .new (observed sampleTree (fun _ => .inert) (sampleHook verdict)
    (sampleHook (some sampleRefusal)))

theorem verdict_immaterial_sampleRefusal :
    (sampleHook none).MatchesButVerdict (.same Unit)
        (sampleHook (some (.new .unavailable "closed"))) ∧
      CallsInStep (.same Unit) (sampleLayer none)
        (sampleLayer (some (.new .unavailable "closed"))) (sampleObserved none)
        (sampleObserved (some (.new .unavailable "closed"))) (fun _ world => (.bare 200, world))
        StandardHooks.bareRequest StandardHooks.blankWorld StandardHooks.blankWorld ∧
      ((sampleLayer (some (.new .unavailable "closed"))).serve
          (fun _ world => (.bare 200, world)) StandardHooks.bareRequest
          StandardHooks.blankWorld).1 = sampleRefusal.response := by
  have counts : (sampleHook none).MatchesButVerdict (.same Unit)
      (sampleHook (some (.new .unavailable "closed"))) := tap_matchesButVerdict _ _ _ _
  refine ⟨counts, ?_, rfl⟩
  exact (verdict_immaterial (Likeness.blind_same _ _ _) counts sampleTree (fun _ => none)
    Route.defaultPrefix StandardHooks.bareRequest rfl).1

end Guard

end BearerGate
