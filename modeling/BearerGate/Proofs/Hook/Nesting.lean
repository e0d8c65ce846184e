import BearerGate.Proofs.Server.Likeness

/-!
# Pipelines of pipelines

A pipeline is a hook, so it may stand in another pipeline, and so on to any depth. `HookTree` tells
how pipelines are nested. What counts is only which hooks stand at the leaves, from left to right:
the nested pipelines and the one pipeline of the leaves are the same hook.

Two laws of pipelines carry this. A pipeline of one hook is the hook, and a pipeline of pipelines is
the pipeline of all their hooks: a stage that has failed within a pipeline has failed for those
behind it, and a stage that looks on reaches the hooks of one pipeline after those of another.
-/

namespace BearerGate

variable {τ α : Type}

/-! ## Laws of pipelines -/

theorem Progress.andThen_assoc (progress : Progress τ)
    (next last : Context → World τ → Progress τ) :
    (progress.andThen next).andThen last =
      progress.andThen fun context world => (next context world).andThen last := by
  obtain ⟨context, world, failure⟩ := progress
  cases failure with
  | none => rfl
  | some error => rfl

namespace Hook

theorem inTurn_append (stage : Hook τ → Context → World τ → Progress τ)
    (hooks more : List (Hook τ)) :
    inTurn stage (hooks ++ more) =
      fun context world => (inTurn stage hooks context world).andThen (inTurn stage more) := by
  induction hooks with
  | nil => rfl
  | cons hook hooks ih =>
    funext context world
    calc (stage hook context world).andThen (inTurn stage (hooks ++ more))
      _ = (stage hook context world).andThen fun context world =>
            (inTurn stage hooks context world).andThen (inTurn stage more) := by rw [ih]
      _ = ((stage hook context world).andThen (inTurn stage hooks)).andThen
            (inTurn stage more) := (Progress.andThen_assoc _ _ _).symm

theorem inTurn_singleton (stage : Hook τ → Context → World τ → Progress τ) (hook : Hook τ) :
    inTurn stage [hook] = stage hook := by
  funext context world
  exact Progress.andThen_of_passes _ fun _ _ => rfl

/-- A stage goes on from one pipeline to the next as it does through all their hooks. -/
theorem inTurn_map_pipeline (stage : Hook τ → Context → World τ → Progress τ)
    (runs : ∀ hooks : List (Hook τ), stage (pipeline hooks) = inTurn stage hooks)
    (groups : List (List (Hook τ))) :
    inTurn stage (groups.map pipeline) = inTurn stage groups.flatten := by
  induction groups with
  | nil => rfl
  | cons hooks groups ih =>
    funext context world
    rw [List.flatten_cons, inTurn_append, List.map_cons, inTurn, runs, ih]

/-- A stage that looks on reaches the hooks of one pipeline after those of another. -/
theorem foldl_map_pipeline (act : Hook τ → World τ → World τ)
    (runs : ∀ (hooks : List (Hook τ)) (world : World τ),
      act (pipeline hooks) world = hooks.foldl (fun world hook => act hook world) world)
    (groups : List (List (Hook τ))) (world : World τ) :
    (groups.map pipeline).foldl (fun world hook => act hook world) world =
      groups.flatten.foldl (fun world hook => act hook world) world := by
  induction groups generalizing world with
  | nil => rfl
  | cons hooks groups ih =>
    rw [List.flatten_cons, List.foldl_append, List.map_cons, List.foldl_cons, runs, ih]

/-- A pipeline of one hook is the hook. -/
theorem pipeline_singleton (hook : Hook τ) : pipeline [hook] = hook := by
  unfold pipeline
  rw [inTurn_singleton, inTurn_singleton]
  rfl

/-- A pipeline of pipelines is the pipeline of all their hooks. -/
theorem pipeline_map_pipeline (groups : List (List (Hook τ))) :
    pipeline (groups.map pipeline) = pipeline groups.flatten := by
  unfold pipeline
  congr 1
  · exact inTurn_map_pipeline received (fun _ => rfl) groups
  · exact inTurn_map_pipeline routed (fun _ => rfl) groups
  · funext context world
    exact foldl_map_pipeline (fun hook => hook.sent context) (fun _ _ => rfl) groups world
  · funext context error world
    exact foldl_map_pipeline (fun hook => hook.failed context error) (fun _ _ => rfl) groups world

end Hook

/-! ## Trees -/

/-- How pipelines are nested, with names for the hooks. -/
inductive HookTree (α : Type)
  | leaf (name : α)
  | pipeline (trees : List (HookTree α))

namespace HookTree

mutual
/-- The nested pipelines as one hook. -/
def hook (hookOf : α → Hook τ) : HookTree α → Hook τ
  | .leaf name => hookOf name
  | .pipeline trees => .pipeline (hooks hookOf trees)
/-- The hooks of several trees. -/
def hooks (hookOf : α → Hook τ) : List (HookTree α) → List (Hook τ)
  | [] => []
  | tree :: trees => tree.hook hookOf :: hooks hookOf trees
end

mutual
/-- The names at the leaves, from left to right. -/
def leaves : HookTree α → List α
  | .leaf name => [name]
  | .pipeline trees => leavesOfAll trees
/-- The names at the leaves of several trees. -/
def leavesOfAll : List (HookTree α) → List α
  | [] => []
  | tree :: trees => tree.leaves ++ leavesOfAll trees
end

mutual
/-- The tree whose leaves are numbered from left to right, starting with the given place. -/
def placed : Nat → HookTree α → HookTree (α × Nat)
  | place, .leaf name => .leaf (name, place)
  | place, .pipeline trees => .pipeline (placedAll place trees)
/-- Several trees whose leaves are numbered. -/
def placedAll : Nat → List (HookTree α) → List (HookTree (α × Nat))
  | _, [] => []
  | place, tree :: trees => tree.placed place :: placedAll (place + tree.leaves.length) trees
end

/-- The nested pipelines, with each hook observed under its place. -/
def observed (hookOf : α → Hook τ) (tree : HookTree α) : Hook (τ × List CallEvent) :=
  (tree.placed 0).hook fun leaf => (hookOf leaf.1).observed leaf.2

/-- The hooks at the leaves, from left to right. -/
def leafHooks (hookOf : α → Hook τ) (tree : HookTree α) : List (Hook τ) :=
  tree.leaves.map hookOf

theorem leavesOfAll_eq_flatten (trees : List (HookTree α)) :
    leavesOfAll trees = (trees.map leaves).flatten := by
  induction trees with
  | nil => rfl
  | cons tree trees ih => rw [leavesOfAll, ih, List.map_cons, List.flatten_cons]

mutual
/-- Nested pipelines are the pipeline of the hooks at the leaves. -/
theorem hook_eq_pipeline (hookOf : α → Hook τ) :
    (tree : HookTree α) → tree.hook hookOf = .pipeline (tree.leafHooks hookOf)
  | .leaf name => (Hook.pipeline_singleton (hookOf name)).symm
  | .pipeline trees => by
    rw [hook, hooks_eq_map_pipeline hookOf trees, Hook.pipeline_map_pipeline, leafHooks, leaves,
      leavesOfAll_eq_flatten, List.map_flatten, List.map_map]
    rfl
/-- Each of several trees is the pipeline of the hooks at its leaves. -/
theorem hooks_eq_map_pipeline (hookOf : α → Hook τ) :
    (trees : List (HookTree α)) →
      hooks hookOf trees = (trees.map (leafHooks hookOf)).map .pipeline
  | [] => rfl
  | tree :: trees => by
    rw [hooks, hook_eq_pipeline hookOf tree, hooks_eq_map_pipeline hookOf trees]
    rfl
end

mutual
theorem leaves_placed (place : Nat) :
    (tree : HookTree α) → (tree.placed place).leaves = tree.leaves.zipIdx place
  | .leaf _ => rfl
  | .pipeline trees => leavesOfAll_placedAll place trees
theorem leavesOfAll_placedAll (place : Nat) :
    (trees : List (HookTree α)) →
      leavesOfAll (placedAll place trees) = (leavesOfAll trees).zipIdx place
  | [] => rfl
  | tree :: trees => by
    rw [placedAll, leavesOfAll, leavesOfAll, leaves_placed place tree,
      leavesOfAll_placedAll _ trees, List.zipIdx_append]
end

/-- Observed nested pipelines are the pipeline of the observed hooks at the leaves. -/
theorem observed_eq_pipeline (hookOf : α → Hook τ) (tree : HookTree α) :
    tree.observed hookOf = .pipeline (Hook.observedFrom 0 (tree.leafHooks hookOf)) := by
  rw [observed, hook_eq_pipeline, leafHooks, leafHooks, leaves_placed, Hook.observedFrom_eq_map,
    List.zipIdx_map, List.map_map]
  rfl

end HookTree

/-! ## Stages and calls -/

/-- Two hooks that go the same way through every stage. Observed, they visit the same `count` hooks
in the same order, each with the same context. -/
structure SameCourse (count : Nat) (hook other : Hook τ)
    (observed observed' : Hook (τ × List CallEvent)) : Prop where
  received : ∀ context world,
    other.received context world.plain = hook.received context world.plain ∧
      observed'.received context world = observed.received context world ∧
      ∃ visits last after failure,
        hook.received context world.plain = ⟨last, after, failure⟩ ∧
          observed.received context world =
            ⟨last, after.journaled (world.journal ++ visits.map .received), failure⟩ ∧
          Relay 0 count context visits last failure
  routed : ∀ context world,
    other.routed context world.plain = hook.routed context world.plain ∧
      observed'.routed context world = observed.routed context world ∧
      ∃ visits last after failure,
        hook.routed context world.plain = ⟨last, after, failure⟩ ∧
          observed.routed context world =
            ⟨last, after.journaled (world.journal ++ visits.map .routed), failure⟩ ∧
          Relay 0 count context visits last failure
  sent : ∀ context world,
    other.sent context world.plain = hook.sent context world.plain ∧
      observed'.sent context world = observed.sent context world ∧
      observed.sent context world = (hook.sent context world.plain).journaled
        (world.journal ++ (List.range count).map fun place => .sent place context)
  failed : ∀ context error world,
    other.failed context error world.plain = hook.failed context error world.plain ∧
      observed'.failed context error world = observed.failed context error world ∧
      observed.failed context error world = (hook.failed context error world.plain).journaled
        (world.journal ++ failedAll count context error)

theorem Hook.pipeline_sameCourse (hooks : List (Hook τ)) :
    SameCourse hooks.length (pipeline hooks) (pipeline hooks) (pipeline (observedFrom 0 hooks))
      (pipeline (observedFrom 0 hooks)) where
  received context world :=
    ⟨rfl, rfl, inTurn_observedFrom .received (fun _ _ _ _ => rfl) hooks 0 context world⟩
  routed context world :=
    ⟨rfl, rfl, inTurn_observedFrom .routed (fun _ _ _ _ => rfl) hooks 0 context world⟩
  sent context world := by
    rw [List.range_eq_range']
    exact ⟨rfl, rfl, foldl_observedFrom (fun place => .sent place context) (fun _ _ _ => rfl)
      hooks 0 world⟩
  failed context error world := by
    rw [failedAll, List.range_eq_range']
    exact ⟨rfl, rfl, foldl_observedFrom (fun place => .failed place context error)
      (fun _ _ _ => rfl) hooks 0 world⟩

namespace HookTree

/-- How pipelines are nested does not matter. The nested pipelines and the pipeline of the leaves go
the same way through each stage; a tree with the same leaves, such as one with more empty
pipelines, is the same hook; and calls have the same response and the same events. -/
theorem nesting_immaterial (tree : HookTree α) (hookOf : α → Hook τ) :
    SameCourse tree.leaves.length (tree.hook hookOf) (.pipeline (tree.leafHooks hookOf))
        (tree.observed hookOf) (.pipeline (Hook.observedFrom 0 (tree.leafHooks hookOf))) ∧
      (∀ other : HookTree α, other.leaves = tree.leaves →
        other.hook hookOf = tree.hook hookOf ∧ other.observed hookOf = tree.observed hookOf) ∧
      ∀ segmentOf lead (handler : Handler τ) request (world : World τ),
        ∃ response after journal,
          CallLayer.serve ⟨tree.hook hookOf, segmentOf, lead⟩ handler request world =
            (response, after) ∧
          (CallLayer.ofHooks (tree.leafHooks hookOf) segmentOf lead).serve handler request world =
            (response, after) ∧
          CallLayer.serve ⟨tree.observed hookOf, segmentOf, lead⟩ handler.observed request
            (world.journaled []) = (response, after.journaled journal) ∧
          (CallLayer.ofHooks (Hook.observedFrom 0 (tree.leafHooks hookOf)) segmentOf lead).serve
            handler.observed request (world.journaled []) =
              (response, after.journaled journal) := by
  refine ⟨?_, ?_, ?_⟩
  · have count : (tree.leafHooks hookOf).length = tree.leaves.length := List.length_map _
    rw [hook_eq_pipeline, observed_eq_pipeline, ← count]
    exact Hook.pipeline_sameCourse _
  · intro other same
    rw [hook_eq_pipeline, hook_eq_pipeline, observed_eq_pipeline, observed_eq_pipeline, leafHooks,
      leafHooks, same]
    exact ⟨rfl, rfl⟩
  · intro segmentOf lead handler request world
    rw [hook_eq_pipeline, observed_eq_pipeline]
    have pair : (CallLayer.ofHooks (tree.leafHooks hookOf) segmentOf lead).Matches (.observed τ)
        (.ofHooks (Hook.observedFrom 0 (tree.leafHooks hookOf)) segmentOf lead) :=
      ⟨Hook.pipeline_observedFrom_matches 0 _, rfl, rfl⟩
    obtain ⟨journal, observed⟩ := pair.exists_journal handler request world
    exact ⟨_, _, journal, rfl, rfl, observed, observed⟩

/-- Three hooks in pipelines of pipelines, with empty ones between them. -/
def sampleTree : HookTree Nat :=
  .pipeline [.pipeline [], .leaf 0, .pipeline [.leaf 1, .pipeline [.pipeline [], .leaf 2]]]

/-- Hooks of which the second refuses every route. -/
def sampleHook (name : Nat) : Hook Unit :=
  .tap (fun _ _ world => world.trace) none
    (if name = 1 then some (.new .unavailable "closed") else none)

theorem nesting_immaterial_sampleTree :
    sampleTree.leaves = [0, 1, 2] ∧
      SameCourse 3 (sampleTree.hook sampleHook)
        (.pipeline [sampleHook 0, sampleHook 1, sampleHook 2]) (sampleTree.observed sampleHook)
        (.pipeline (Hook.observedFrom 0 [sampleHook 0, sampleHook 1, sampleHook 2])) ∧
      (pipeline [.leaf 0, .leaf 1, .leaf 2]).hook sampleHook = sampleTree.hook sampleHook :=
  ⟨rfl, (nesting_immaterial sampleTree sampleHook).1,
    ((nesting_immaterial sampleTree sampleHook).2.1 (.pipeline [.leaf 0, .leaf 1, .leaf 2])
      rfl).1⟩

end HookTree

end BearerGate
