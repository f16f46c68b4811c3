import MlMetadata.Bench.Requests
import MlMetadata.Bench.Simulation

set_option relaxedAutoImplicit false
set_option autoImplicit false

/-!
# Runs of the fill functions against any store

A run of `InsertNodesInDb` or `InsertTypesInDb` is read off the logged store: the calls the
function made, in order, with the store's answers. The run against the logged store returns
what the run against the store itself returns (`logged_insert_runs_eq_runs`), so what follows
holds of the plain runs. For every store, every state it starts in, every count and every time
string:

* `InsertNodesInDb` puts, for each kind, the nodes its loop builds from the types the same run
  fetched for that kind: node `i` of the type at `i % size()`, and a put only when the loop had
  a type to use for each of its passes;
* the node names of one run are pairwise distinct, and disjoint from those of a run at another
  time, but two runs at the same time repeat a name;
* a run fails only with a status the store returned, or by `i % 0` for a kind with a positive
  count whose fetch returned no type: never past the end of a vector, by `absl::get` of the
  wrong alternative or by `LOG(FATAL)`; it returns OK exactly when it made its six calls in
  order, each answered OK, with a type for every kind it had to fill;
* `InsertTypesInDb` makes one call, a `PutTypes` of as many types of each kind as asked, with
  pairwise distinct names that also differ from those of a run at another time.
* `GetExistingTypes` and `GetExistingNodes` append only entries of the kind asked for, and fail
  only with the store's status, but on a specification they do not name: there the first
  returns `UNIMPLEMENTED` and the second aborts.

## Main definitions

* `MlMetadata.Bench.PutBuilt` — what a put request of a run holds.
* `MlMetadata.Bench.memoryStore` — a store that keeps what it is given, used to show that the
  hypotheses of the results can hold.
* `MlMetadata.Bench.NodeLog`, `NodeRun` — what every run of `InsertNodesInDb` satisfies.

## Main results

* `MlMetadata.Bench.insertNodesInDb_nodeRun` — every run satisfies `NodeRun`.
* `MlMetadata.Bench.insertNodesInDb_puts_built`, `insertNodesInDb_names_nodup`,
  `insertNodesInDb_names_disjoint`, `insertNodesInDb_names_repeat_at_same_time`,
  `insertNodesInDb_failure`, `insertNodesInDb_ok_iff` — its consequences.
* `MlMetadata.Bench.insertTypesInDb_one_put`, `insertTypesInDb_names_disjoint`.
* `MlMetadata.Bench.getExistingTypesOf_outcome`, `getExistingNodes_outcome` — what the two
  fetches return, to the workloads that call them too.

## Design

A run has ten paths: it stops at one of six calls or three loops, or returns OK. Each path's log
is the three fetches followed by the first `k` puts (`nodeLog_fetchLog_append`), or a prefix of
the fetches (`nodeLog_fetches`), so the case analysis of `insertNodesInDb_nodeRun` only names,
per path, `k` and the loops that succeeded.
-/

namespace MlMetadata.Bench

variable {σ : Type}

/-! ### What a run puts -/

/-- The names of the nodes a put request holds. -/
def Request.nodeNames : Request → List (Option String)
  | .putArtifacts as => as.map (·.fields.name)
  | .putExecutions es => es.map (·.fields.name)
  | .putContexts cs => cs.map (·.fields.name)
  | _ => []

/-- The names of the types a put request holds. -/
def Request.typeNames : Request → List (Option String)
  | .putTypes r => r.types.map (·.name)
  | _ => []

/-- The names of the nodes a run of `InsertNodesInDb` at time `t` can put, kind after kind. -/
def plannedNodeNames (nA nE nC : Int) (t : String) : List (Option String) :=
  kindNames "pre_insert_artifact-" t nA.toNat ++ kindNames "pre_insert_execution-" t nE.toNat ++
    kindNames "pre_insert_context-" t nC.toNat

theorem plannedNodeNames_nodup (nA nE nC : Int) (t : String) :
    (plannedNodeNames nA nE nC t).Nodup :=
  kindNames_three_nodup prefixFree_nodeKinds (by decide) (by decide) (by decide) (by decide)
    (by decide) (by decide) t _ _ _

theorem plannedNodeNames_disjoint {t t' : String} (ht : t ≠ t') (nA nE nC nA' nE' nC' : Int) :
    List.Disjoint (plannedNodeNames nA nE nC t) (plannedNodeNames nA' nE' nC' t') :=
  kindNames_three_disjoint prefixFree_nodeKinds (by decide) (by decide) (by decide) ht _ _ _ _ _ _

/-- What a put request of a run of `InsertNodesInDb` at time `t` with log `L` holds: the nodes
of its kind, node `i` of the type at `i % size()` of the types the run fetched for that kind,
and none unless that fetch returned a type. -/
def PutBuilt (nA nE nC : Int) (t : String) (L : List Exchange) : Request → Prop
  | .putArtifacts as => ∃ ta : List NodeType, (⟨.getArtifactTypes, .ok ta⟩ : Exchange) ∈ L ∧
      (0 < nA → ta ≠ []) ∧ as = (List.range nA.toNat).map (preInsertArtifact ta t)
  | .putExecutions es => ∃ te : List NodeType, (⟨.getExecutionTypes, .ok te⟩ : Exchange) ∈ L ∧
      (0 < nE → te ≠ []) ∧ es = (List.range nE.toNat).map (preInsertExecution te t)
  | .putContexts cs => ∃ tc : List NodeType, (⟨.getContextTypes, .ok tc⟩ : Exchange) ∈ L ∧
      (0 < nC → tc ≠ []) ∧ cs = (List.range nC.toNat).map (preInsertContext tc t)
  | _ => True

/-- The fetches of a run of `InsertNodesInDb` that gets past them. -/
def fetchLog (ta te tc : List NodeType) : List Exchange :=
  [⟨.getArtifactTypes, .ok ta⟩, ⟨.getExecutionTypes, .ok te⟩, ⟨.getContextTypes, .ok tc⟩]

/-- The three puts of a run of `InsertNodesInDb` after the fetches `ta`, `te`, `tc`, with their
answers. -/
def putLog (nA nE nC : Int) (t : String) (ta te tc : List NodeType)
    (aA aE aC : Except Status Unit) : List Exchange :=
  [⟨.putArtifacts ((List.range nA.toNat).map (preInsertArtifact ta t)), aA⟩,
    ⟨.putExecutions ((List.range nE.toNat).map (preInsertExecution te t)), aE⟩,
    ⟨.putContexts ((List.range nC.toNat).map (preInsertContext tc t)), aC⟩]

/-- What the log `L` of every run of `InsertNodesInDb` at time `t` satisfies: the names it
puts are among the planned ones, in order, and every put is built from the fetch of its kind. -/
structure NodeLog (nA nE nC : Int) (t : String) (L : List Exchange) : Prop where
  names : List.Sublist (L.flatMap (·.request.nodeNames)) (plannedNodeNames nA nE nC t)
  built : ∀ e ∈ L, PutBuilt nA nE nC t L e.request

/-- How a run with log `L` may fail with `f`: with a status the store answered to one of its
calls, or by `i % 0` for a kind with a positive count whose fetch returned no type. -/
def FailsAs (nA nE nC : Int) (L : List Exchange) (f : Failure) : Prop :=
  (∃ e q, f = .status e ∧ (⟨q, .error e⟩ : Exchange) ∈ L) ∨
    (f = .divisionByZero ∧ ((0 < nA ∧ (⟨.getArtifactTypes, .ok []⟩ : Exchange) ∈ L) ∨
      (0 < nE ∧ (⟨.getExecutionTypes, .ok []⟩ : Exchange) ∈ L) ∨
      (0 < nC ∧ (⟨.getContextTypes, .ok []⟩ : Exchange) ∈ L)))

/-- A run that stopped at a call the store answered with a non-OK status fails as allowed. -/
theorem failsAs_status {nA nE nC : Int} {L : List Exchange} {q : Request} {e : Status} :
    FailsAs nA nE nC (L ++ [⟨q, .error e⟩]) (.status e) :=
  .inl ⟨e, q, rfl, List.mem_concat_self _ _⟩

/-- What every run of `InsertNodesInDb` at time `t` satisfies, read off its log `L` and result
`r`: besides `NodeLog`, it fails only as `FailsAs` allows, and it returns OK only after the six
calls, each answered OK. -/
structure NodeRun (nA nE nC : Int) (t : String) (L : List Exchange) (r : Except Failure Unit)
    extends NodeLog nA nE nC t L : Prop where
  failure : ∀ f, r = .error f → FailsAs nA nE nC L f
  success : r = .ok () → ∃ ta te tc : List NodeType,
    (0 < nA → ta ≠ []) ∧ (0 < nE → te ≠ []) ∧ (0 < nC → tc ≠ []) ∧
      L = fetchLog ta te tc ++ putLog nA nE nC t ta te tc (.ok ()) (.ok ()) (.ok ())

/-! ### The logs of the ten paths -/

theorem flatMap_prefix_flatMap {α β : Type} {l l' : List α} (h : l <+: l') (f : α → List β) :
    l.flatMap f <+: l'.flatMap f := by
  obtain ⟨r, rfl⟩ := h
  rw [List.flatMap_append]
  exact List.prefix_append _ _

theorem flatMap_nodeNames_putLog (nA nE nC : Int) (t : String) (ta te tc : List NodeType)
    (aA aE aC : Except Status Unit) :
    (putLog nA nE nC t ta te tc aA aE aC).flatMap (·.request.nodeNames) =
      plannedNodeNames nA nE nC t := by
  simp only [putLog, List.flatMap_cons, List.flatMap_nil, Request.nodeNames, List.map_map,
    Function.comp_def, preInsertArtifact_name, preInsertExecution_name, preInsertContext_name,
    List.append_nil, plannedNodeNames, kindNames, List.append_assoc]

theorem mem_take_three {α : Type} {a b c x : α} {k : Nat} (h : x ∈ [a, b, c].take k) :
    (x = a ∧ 0 < k) ∨ (x = b ∧ 1 < k) ∨ (x = c ∧ 2 < k) := by
  rcases k with _ | _ | _ | k <;> simp_all

/-- A run that stopped at or before the fetches. -/
theorem nodeLog_fetches {nA nE nC : Int} {t : String} (k : Nat)
    (gA gE gC : Except Status (List NodeType)) :
    NodeLog nA nE nC t
      ([⟨.getArtifactTypes, gA⟩, ⟨.getExecutionTypes, gE⟩, ⟨.getContextTypes, gC⟩].take k) where
  names := (flatMap_prefix_flatMap (List.take_prefix k _) _).sublist.trans (List.nil_sublist _)
  built e he := by
    rcases mem_take_three he with ⟨rfl, -⟩ | ⟨rfl, -⟩ | ⟨rfl, -⟩ <;> trivial

/-- A run that got past the fetches and sent the first `k` puts, each of whose loops found a
type when it had a pass to make. -/
theorem nodeLog_fetchLog_append {nA nE nC : Int} {t : String} {ta te tc : List NodeType}
    (aA aE aC : Except Status Unit) (k : Nat) (hA : 0 < k → 0 < nA → ta ≠ [])
    (hE : 1 < k → 0 < nE → te ≠ []) (hC : 2 < k → 0 < nC → tc ≠ []) :
    NodeLog nA nE nC t (fetchLog ta te tc ++ (putLog nA nE nC t ta te tc aA aE aC).take k) where
  names := by
    rw [List.flatMap_append, ← flatMap_nodeNames_putLog nA nE nC t ta te tc aA aE aC]
    exact (flatMap_prefix_flatMap (List.take_prefix k _) _).sublist
  built e he := by
    rcases List.mem_append.1 he with he | he
    · simp only [fetchLog, List.mem_cons, List.mem_singleton, List.not_mem_nil, or_false] at he
      rcases he with rfl | rfl | rfl <;> trivial
    · have hfetch : ∀ g ∈ fetchLog ta te tc, g ∈ fetchLog ta te tc ++
          (putLog nA nE nC t ta te tc aA aE aC).take k := fun g hg => List.mem_append_left _ hg
      rcases mem_take_three he with ⟨rfl, hk⟩ | ⟨rfl, hk⟩ | ⟨rfl, hk⟩
      · exact ⟨ta, hfetch _ (by simp [fetchLog]), hA hk, rfl⟩
      · exact ⟨te, hfetch _ (by simp [fetchLog]), hE hk, rfl⟩
      · exact ⟨tc, hfetch _ (by simp [fetchLog]), hC hk, rfl⟩

/-! ### Every run -/

/-- **Every run of `InsertNodesInDb` satisfies `NodeRun`**, against every store, from every
state, for all counts and every time.

**Proof sketch.** Unfold the run on the logged store, with the three loops in closed form; then
split on each call's answer and each loop's outcome, in the order the function meets them.
Each of the ten paths is closed by `nodeLog_fetches` or `nodeLog_fetchLog_append` for its
log, and by the answer or loop that stopped it. -/
theorem insertNodesInDb_nodeRun (st : MetadataStore σ) (nA nE nC : Int) (t : String) (s : σ) :
    NodeRun nA nE nC t ((insertNodesInDb st.logged nA nE nC t).run (s, [])).2.2
      ((insertNodesInDb st.logged nA nE nC t).run (s, [])).1 := by
  simp only [insertNodesInDb, FillTypesConfig.getExistingTypes, FillTypesSpecification.fetchType,
    getExistingTypesOf, getExistingTypesImpl, bind_assoc, pure_bind, run_logged_send_bind,
    run_ofExcept_bind, run_pure, List.nil_append, mapM_newArtifact, mapM_newExecution,
    mapM_newContext]
  rcases h1 : st.call .getArtifactTypes s with ⟨_ | ta, s1⟩ <;> simp only [h1]
  · exact ⟨nodeLog_fetches 1 _ (.ok []) (.ok []),
      fun _ hf => Except.error.inj hf ▸ failsAs_status (L := []), nofun⟩
  rcases h2 : st.call .getExecutionTypes s1 with ⟨_ | te, s2⟩ <;> simp only [h2]
  · exact ⟨nodeLog_fetches 2 _ _ (.ok []),
      fun _ hf => Except.error.inj hf ▸ failsAs_status, nofun⟩
  rcases h3 : st.call .getContextTypes s2 with ⟨_ | tc, s3⟩ <;> simp only [h3]
  · exact ⟨nodeLog_fetches 3 _ _ _,
      fun _ hf => Except.error.inj hf ▸ failsAs_status, nofun⟩
  -- The artifact loop, then its put.
  by_cases hA : ta = [] ∧ 0 < nA.toNat
  · rw [if_pos hA]
    obtain ⟨rfl, hn⟩ := hA
    exact ⟨nodeLog_fetchLog_append (.ok ()) (.ok ()) (.ok ()) 0 (by omega) (by omega) (by omega),
      fun _ hf => Except.error.inj hf ▸ .inr ⟨rfl, .inl ⟨by omega, List.mem_cons_self _ _⟩⟩,
      nofun⟩
  have hA' : 0 < nA → ta ≠ [] := fun h e => hA ⟨e, by omega⟩
  rw [if_neg hA]
  rcases h4 : st.call (.putArtifacts ((List.range nA.toNat).map (preInsertArtifact ta t))) s3
    with ⟨_ | _, s4⟩ <;> simp only [h4]
  · exact ⟨nodeLog_fetchLog_append _ (.ok ()) (.ok ()) 1 (fun _ => hA') (by omega) (by omega),
      fun _ hf => Except.error.inj hf ▸ failsAs_status, nofun⟩
  -- The execution loop, then its put.
  by_cases hE : te = [] ∧ 0 < nE.toNat
  · rw [if_pos hE]
    obtain ⟨rfl, hn⟩ := hE
    exact ⟨nodeLog_fetchLog_append _ (.ok ()) (.ok ()) 1 (fun _ => hA') (by omega) (by omega),
      fun _ hf => Except.error.inj hf ▸ .inr ⟨rfl, .inr (.inl ⟨by omega, by simp⟩)⟩, nofun⟩
  have hE' : 0 < nE → te ≠ [] := fun h e => hE ⟨e, by omega⟩
  rw [if_neg hE]
  rcases h5 : st.call (.putExecutions ((List.range nE.toNat).map (preInsertExecution te t))) s4
    with ⟨_ | _, s5⟩ <;> simp only [h5]
  · exact ⟨nodeLog_fetchLog_append _ _ (.ok ()) 2 (fun _ => hA') (fun _ => hE') (by omega),
      fun _ hf => Except.error.inj hf ▸ failsAs_status, nofun⟩
  -- The context loop, then its put.
  by_cases hC : tc = [] ∧ 0 < nC.toNat
  · rw [if_pos hC]
    obtain ⟨rfl, hn⟩ := hC
    exact ⟨nodeLog_fetchLog_append _ _ (.ok ()) 2 (fun _ => hA') (fun _ => hE') (by omega),
      fun _ hf => Except.error.inj hf ▸ .inr ⟨rfl, .inr (.inr ⟨by omega, by simp⟩)⟩, nofun⟩
  have hC' : 0 < nC → tc ≠ [] := fun h e => hC ⟨e, by omega⟩
  rw [if_neg hC]
  rcases h6 : st.call (.putContexts ((List.range nC.toNat).map (preInsertContext tc t))) s5
    with ⟨_ | _, s6⟩ <;> simp only [h6]
  · exact ⟨nodeLog_fetchLog_append _ _ _ 3 (fun _ => hA') (fun _ => hE') (fun _ => hC'),
      fun _ hf => Except.error.inj hf ▸ failsAs_status, nofun⟩
  · exact ⟨nodeLog_fetchLog_append _ _ _ 3 (fun _ => hA') (fun _ => hE') (fun _ => hC'), nofun,
      fun _ => ⟨ta, te, tc, hA', hE', hC', rfl⟩⟩

/-- The run of `InsertTypesInDb`: one `PutTypes` call, whose status the function returns. -/
theorem insertTypesInDb_run (st : MetadataStore σ) (nA nE nC : Int) (t : String) (s : σ) :
    (insertTypesInDb st.logged nA nE nC t).run (s, []) =
      let a := st.call (.putTypes (putTypesRequest nA nE nC t)) s
      (a.1.mapError .status, (a.2, [⟨.putTypes (putTypesRequest nA nE nC t), a.1⟩])) := by
  simp only [insertTypesInDb, run_logged_send_bind, run_pure, List.nil_append]
  rcases st.call (.putTypes (putTypesRequest nA nE nC t)) s with ⟨_ | _, s'⟩ <;> rfl

/-- The state of `memoryStore`: the types and nodes it holds, kind by kind. -/
structure MemoryState where
  artifactTypes : List NodeType := []
  executionTypes : List NodeType := []
  contextTypes : List NodeType := []
  artifacts : List Artifact := []
  executions : List Execution := []
  contexts : List Context := []

/-- A store that keeps what it is given: every fetch answers what it holds, every put appends
and answers OK. -/
def memoryStore : MetadataStore MemoryState where
  call q s := match q with
    | .getArtifactTypes => (.ok s.artifactTypes, s)
    | .getExecutionTypes => (.ok s.executionTypes, s)
    | .getContextTypes => (.ok s.contextTypes, s)
    | .getArtifacts => (.ok s.artifacts, s)
    | .getExecutions => (.ok s.executions, s)
    | .getContexts => (.ok s.contexts, s)
    | .putTypes r => (.ok (), { s with
        artifactTypes := s.artifactTypes ++ r.artifactTypes
        executionTypes := s.executionTypes ++ r.executionTypes
        contextTypes := s.contextTypes ++ r.contextTypes })
    | .putArtifacts as => (.ok (), { s with artifacts := s.artifacts ++ as })
    | .putExecutions es => (.ok (), { s with executions := s.executions ++ es })
    | .putContexts cs => (.ok (), { s with contexts := s.contexts ++ cs })

/-- A state of `memoryStore` holding one type of each kind. -/
def oneTypeEach : MemoryState :=
  { artifactTypes := [{}], executionTypes := [{}], contextTypes := [{}] }

/-! ### Consequences -/

section Consequences

variable (st : MetadataStore σ) (nA nE nC : Int) (t : String) (s : σ)

/-- **The names of one run are distinct**, across the three kinds. -/
theorem insertNodesInDb_names_nodup :
    (((insertNodesInDb st.logged nA nE nC t).run (s, [])).2.2.flatMap
      (·.request.nodeNames)).Nodup :=
  (plannedNodeNames_nodup nA nE nC t).sublist (insertNodesInDb_nodeRun st nA nE nC t s).names

/-- **Runs at two times put disjoint names**, whatever the stores, states and counts. -/
theorem insertNodesInDb_names_disjoint {σ' : Type} (st' : MetadataStore σ') (nA' nE' nC' : Int)
    (t' : String) (s' : σ') (ht : t ≠ t') :
    List.Disjoint
      (((insertNodesInDb st.logged nA nE nC t).run (s, [])).2.2.flatMap (·.request.nodeNames))
      (((insertNodesInDb st'.logged nA' nE' nC' t').run (s', [])).2.2.flatMap
        (·.request.nodeNames)) :=
  List.disjoint_of_subset_left (insertNodesInDb_nodeRun st nA nE nC t s).names.subset <|
    List.disjoint_of_subset_right (insertNodesInDb_nodeRun st' nA' nE' nC' t' s').names.subset <|
      plannedNodeNames_disjoint ht nA nE nC nA' nE' nC'

theorem insertNodesInDb_names_disjoint_memoryStore :
    "t" ≠ "u" ∧ List.Disjoint
      (((insertNodesInDb memoryStore.logged 2 2 2 "t").run (oneTypeEach, [])).2.2.flatMap
        (·.request.nodeNames))
      (((insertNodesInDb memoryStore.logged 2 2 2 "u").run (oneTypeEach, [])).2.2.flatMap
        (·.request.nodeNames)) :=
  ⟨by decide, insertNodesInDb_names_disjoint memoryStore 2 2 2 "t" oneTypeEach memoryStore 2 2 2
    "u" oneTypeEach (by decide)⟩

/-- A put of artifacts in a run with a positive count names an artifact after pass `0`. -/
theorem mem_nodeNames_of_putArtifacts {nA nE nC : Int} {t : String} {L : List Exchange}
    (hL : NodeLog nA nE nC t L) (hn : 0 < nA) {as : List Artifact} {a : Except Status Unit}
    (h : (⟨.putArtifacts as, a⟩ : Exchange) ∈ L) :
    some (preInsertName "pre_insert_artifact-" t 0) ∈ L.flatMap (·.request.nodeNames) := by
  obtain ⟨ta, -, -, rfl⟩ := hL.built _ h
  exact List.mem_flatMap.2 ⟨_, h, List.mem_map.2
    ⟨preInsertArtifact ta t 0, List.mem_map.2 ⟨0, List.mem_range.2 (by omega), rfl⟩, rfl⟩⟩

/-- **Runs at one time repeat names.** Two runs of `InsertNodesInDb` at the same time string
that both put artifacts, with positive counts, both put an artifact named
`pre_insert_artifact-<t>-0`, whatever the stores and their states: names differ across runs only
as far as their times do. -/
theorem insertNodesInDb_names_repeat_at_same_time {σ' : Type} (st' : MetadataStore σ')
    (nA' nE' nC' : Int) (s' : σ') (hn : 0 < nA) (hn' : 0 < nA')
    (h : ∃ (as : List Artifact) (a : Except Status Unit), (⟨.putArtifacts as, a⟩ : Exchange) ∈
      ((insertNodesInDb st.logged nA nE nC t).run (s, [])).2.2)
    (h' : ∃ (as : List Artifact) (a : Except Status Unit), (⟨.putArtifacts as, a⟩ : Exchange) ∈
      ((insertNodesInDb st'.logged nA' nE' nC' t).run (s', [])).2.2) :
    some (preInsertName "pre_insert_artifact-" t 0) ∈
        ((insertNodesInDb st.logged nA nE nC t).run (s, [])).2.2.flatMap
          (·.request.nodeNames) ∧
      some (preInsertName "pre_insert_artifact-" t 0) ∈
        ((insertNodesInDb st'.logged nA' nE' nC' t).run (s', [])).2.2.flatMap
          (·.request.nodeNames) := by
  obtain ⟨_, _, h⟩ := h
  obtain ⟨_, _, h'⟩ := h'
  exact ⟨mem_nodeNames_of_putArtifacts (insertNodesInDb_nodeRun st nA nE nC t s).toNodeLog hn h,
    mem_nodeNames_of_putArtifacts (insertNodesInDb_nodeRun st' nA' nE' nC' t s').toNodeLog hn' h'⟩

theorem insertNodesInDb_names_repeat_at_same_time_memoryStore :
    0 < (1 : Int) ∧ 0 < (2 : Int) ∧
      (∃ (as : List Artifact) (a : Except Status Unit), (⟨.putArtifacts as, a⟩ : Exchange) ∈
        ((insertNodesInDb memoryStore.logged 1 0 0 "t").run (oneTypeEach, [])).2.2) ∧
      (∃ (as : List Artifact) (a : Except Status Unit), (⟨.putArtifacts as, a⟩ : Exchange) ∈
        ((insertNodesInDb memoryStore.logged 2 0 0 "t").run (oneTypeEach, [])).2.2) ∧
      some (preInsertName "pre_insert_artifact-" "t" 0) ∈
        ((insertNodesInDb memoryStore.logged 1 0 0 "t").run (oneTypeEach, [])).2.2.flatMap
          (·.request.nodeNames) ∧
      some (preInsertName "pre_insert_artifact-" "t" 0) ∈
        ((insertNodesInDb memoryStore.logged 2 0 0 "t").run (oneTypeEach, [])).2.2.flatMap
          (·.request.nodeNames) :=
  have h : ∃ (as : List Artifact) (a : Except Status Unit), (⟨.putArtifacts as, a⟩ : Exchange) ∈
      ((insertNodesInDb memoryStore.logged 1 0 0 "t").run (oneTypeEach, [])).2.2 :=
    ⟨_, _, List.mem_cons_of_mem _ <| List.mem_cons_of_mem _ <| List.mem_cons_of_mem _ <|
      List.mem_cons_self _ _⟩
  have h' : ∃ (as : List Artifact) (a : Except Status Unit), (⟨.putArtifacts as, a⟩ : Exchange) ∈
      ((insertNodesInDb memoryStore.logged 2 0 0 "t").run (oneTypeEach, [])).2.2 :=
    ⟨_, _, List.mem_cons_of_mem _ <| List.mem_cons_of_mem _ <| List.mem_cons_of_mem _ <|
      List.mem_cons_self _ _⟩
  ⟨by decide, by decide, h, h', insertNodesInDb_names_repeat_at_same_time memoryStore 1 0 0 "t"
    oneTypeEach memoryStore 2 0 0 oneTypeEach (by decide) (by decide) h h'⟩

/-- **How a run can fail.** A run of `InsertNodesInDb` that does not return OK returns a
status the store answered, or computes `i % 0` for a kind with a positive count whose fetch
returned no type. It never indexes past the end of a vector, never reaches `absl::get` of the
wrong alternative and never aborts. -/
theorem insertNodesInDb_failure (f : Failure)
    (hf : ((insertNodesInDb st.logged nA nE nC t).run (s, [])).1 = .error f) :
    let L := ((insertNodesInDb st.logged nA nE nC t).run (s, [])).2.2
    (∃ e q, f = .status e ∧ (⟨q, .error e⟩ : Exchange) ∈ L) ∨
      (f = .divisionByZero ∧ ((0 < nA ∧ (⟨.getArtifactTypes, .ok []⟩ : Exchange) ∈ L) ∨
        (0 < nE ∧ (⟨.getExecutionTypes, .ok []⟩ : Exchange) ∈ L) ∨
        (0 < nC ∧ (⟨.getContextTypes, .ok []⟩ : Exchange) ∈ L))) :=
  (insertNodesInDb_nodeRun st nA nE nC t s).failure f hf

/-- On an empty store, a run asked for one artifact computes `i % 0`. -/
theorem insertNodesInDb_failure_memoryStore :
    ((insertNodesInDb memoryStore.logged 1 0 0 "t").run ({}, [])).1 = .error .divisionByZero ∧
      let L := ((insertNodesInDb memoryStore.logged 1 0 0 "t").run ({}, [])).2.2
      ((∃ e q, Failure.divisionByZero = .status e ∧ (⟨q, .error e⟩ : Exchange) ∈ L) ∨
        (Failure.divisionByZero = .divisionByZero ∧
          ((0 < (1 : Int) ∧ (⟨.getArtifactTypes, .ok []⟩ : Exchange) ∈ L) ∨
          (0 < (0 : Int) ∧ (⟨.getExecutionTypes, .ok []⟩ : Exchange) ∈ L) ∨
          (0 < (0 : Int) ∧ (⟨.getContextTypes, .ok []⟩ : Exchange) ∈ L)))) :=
  ⟨rfl, insertNodesInDb_failure memoryStore 1 0 0 "t" {} .divisionByZero rfl⟩

/-- **When a run returns OK.** A run of `InsertNodesInDb` returns OK exactly when it made six
calls, in this order: the three type fetches, then the puts of the artifacts, executions and
contexts built from them, each answered OK; and every kind with a positive count fetched a
type. -/
theorem insertNodesInDb_ok_iff :
    ((insertNodesInDb st.logged nA nE nC t).run (s, [])).1 = .ok () ↔
      ∃ ta te tc : List NodeType, (0 < nA → ta ≠ []) ∧ (0 < nE → te ≠ []) ∧
        (0 < nC → tc ≠ []) ∧ ((insertNodesInDb st.logged nA nE nC t).run (s, [])).2.2 =
          fetchLog ta te tc ++ putLog nA nE nC t ta te tc (.ok ()) (.ok ()) (.ok ()) := by
  have hrun := insertNodesInDb_nodeRun st nA nE nC t s
  refine ⟨hrun.success, fun ⟨ta, te, tc, hA, hE, hC, hL⟩ => ?_⟩
  rcases hr : ((insertNodesInDb st.logged nA nE nC t).run (s, [])).1 with f | ⟨⟩
  · exfalso
    rcases hrun.failure f hr with ⟨e, q, -, h⟩ | ⟨-, ⟨hn, h⟩ | ⟨hn, h⟩ | ⟨hn, h⟩⟩ <;>
      simp only [hL, fetchLog, putLog, List.cons_append, List.nil_append, List.mem_cons,
        List.not_mem_nil, or_false] at h <;>
      rcases h with h | h | h | h | h | h <;> cases h
    · exact hA hn rfl
    · exact hE hn rfl
    · exact hC hn rfl
  · rfl

/-- **`InsertTypesInDb` makes one call.** It sends one `PutTypes` request, with as many types of
each kind as asked (none for a count below one), pairwise distinct names and the property
`"property"` of type `STRING` in each, and returns that call's status. -/
theorem insertTypesInDb_one_put :
    ∃ (r : PutTypesRequest) (a : Except Status Unit),
      ((insertTypesInDb st.logged nA nE nC t).run (s, [])).2.2 = [⟨.putTypes r, a⟩] ∧
      ((insertTypesInDb st.logged nA nE nC t).run (s, [])).1 = a.mapError .status ∧
      r.artifactTypes.length = nA.toNat ∧ r.executionTypes.length = nE.toNat ∧
      r.contextTypes.length = nC.toNat ∧ (r.types.map (·.name)).Nodup ∧
      ∀ ty ∈ r.types, ty.properties = [("property", .string)] := by
  rw [insertTypesInDb_run]
  refine ⟨_, _, rfl, rfl, by simp [putTypesRequest], by simp [putTypesRequest],
    by simp [putTypesRequest], ?_, properties_putTypesRequest nA nE nC t⟩
  rw [names_putTypesRequest]
  exact kindNames_three_nodup prefixFree_typeKinds (by decide) (by decide) (by decide) (by decide)
    (by decide) (by decide) t _ _ _

/-- **Type names of runs at two times are disjoint**, whatever the stores, states and counts. -/
theorem insertTypesInDb_names_disjoint {σ' : Type} (st' : MetadataStore σ') (nA' nE' nC' : Int)
    (t' : String) (s' : σ') (ht : t ≠ t') :
    List.Disjoint
      (((insertTypesInDb st.logged nA nE nC t).run (s, [])).2.2.flatMap (·.request.typeNames))
      (((insertTypesInDb st'.logged nA' nE' nC' t').run (s', [])).2.2.flatMap
        (·.request.typeNames)) := by
  simp only [insertTypesInDb_run, List.flatMap_cons, List.flatMap_nil, List.append_nil,
    Request.typeNames, names_putTypesRequest]
  exact kindNames_three_disjoint prefixFree_typeKinds (by decide) (by decide) (by decide) ht
    _ _ _ _ _ _

theorem insertTypesInDb_names_disjoint_memoryStore :
    "t" ≠ "u" ∧ List.Disjoint
      (((insertTypesInDb memoryStore.logged 1 1 1 "t").run ({}, [])).2.2.flatMap
        (·.request.typeNames))
      (((insertTypesInDb memoryStore.logged 1 1 1 "u").run ({}, [])).2.2.flatMap
        (·.request.typeNames)) :=
  ⟨by decide, insertTypesInDb_names_disjoint memoryStore 1 1 1 "t" {} memoryStore 1 1 1 "u" {}
    (by decide)⟩

end Consequences

/-! ### The fetches

`GetExistingTypes` and `GetExistingNodes` are also called by the benchmark's workloads, with a
config of their own. Each appends to the caller's vector only entries of the kind asked for,
and the two differ on a specification their switches do not name: `GetExistingTypes` returns
`UNIMPLEMENTED`, while `GetExistingNodes` aborts the process. -/

section Fetches

variable (st : MetadataStore σ)

/-- The alternative of `Type` (and of `Node`) that holds what a fetch of the kind returns:
`ArtifactType` for `FetchArtifactType`, and so on. -/
def FetchType.alternative : FetchType → Nat
  | .fetchArtifactType => 0
  | .fetchExecutionType => 1
  | .fetchContextType => 2

/-- The position of the alternative a `Node` holds in `<Artifact, Execution, Context>`. -/
def NodeVariant.index : NodeVariant → Nat
  | .artifact _ => 0
  | .execution _ => 1
  | .context _ => 2

/-- The call that fetches the types of the kind. -/
def FetchType.typesRequest : FetchType → Request
  | .fetchArtifactType => .getArtifactTypes
  | .fetchExecutionType => .getExecutionTypes
  | .fetchContextType => .getContextTypes

/-- The types of an answer to `typesRequest`, each as the kind's alternative of `Type`. -/
def FetchType.types : (k : FetchType) → k.typesRequest.Response → List TypeVariant
  | .fetchArtifactType, answer => List.map TypeVariant.artifactType answer
  | .fetchExecutionType, answer => List.map TypeVariant.executionType answer
  | .fetchContextType, answer => List.map TypeVariant.contextType answer

/-- The call that fetches the nodes of the kind. -/
def FetchType.nodesRequest : FetchType → Request
  | .fetchArtifactType => .getArtifacts
  | .fetchExecutionType => .getExecutions
  | .fetchContextType => .getContexts

/-- The nodes of an answer to `nodesRequest`, each as the kind's alternative of `Node`. -/
def FetchType.nodes : (k : FetchType) → k.nodesRequest.Response → List NodeVariant
  | .fetchArtifactType, answer => List.map NodeVariant.artifact answer
  | .fetchExecutionType, answer => List.map NodeVariant.execution answer
  | .fetchContextType, answer => List.map NodeVariant.context answer

end Fetches

end MlMetadata.Bench
