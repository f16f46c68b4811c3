import MlMetadata.Bench.Runs
import MlMetadata.Bench.Simulation

set_option relaxedAutoImplicit false
set_option autoImplicit false

/-!
# Filling types, then nodes

`InsertNodesInDb` computes `i % size()` over the types of each kind it fetched, which is
undefined when a kind it has nodes to put has no type. A caller puts types first with
`InsertTypesInDb`. This module shows that the two compose: on any store that keeps the types
it accepts, once `InsertTypesInDb` has returned OK with a positive count of each kind that
`InsertNodesInDb` is then asked to fill, `InsertNodesInDb` never divides by zero.

The run against the plain store is read off the run against the logged one: both return the
same result (`insertNodesInDb_simulates`), and every fetch in the log was answered from a state
that holds the types (`Logged`), so none of them returned an empty list.

## Main definitions

* `MlMetadata.Bench.KeepsTypes` — a store keeps the types it accepts and returns them.
* `MlMetadata.Bench.MemoryState.Has` — `memoryStore` holds a type of a kind; it keeps types.

## Main results

* `MlMetadata.Bench.insertNodesInDb_ne_divisionByZero` — from a state holding a type of each
  kind to fill, `InsertNodesInDb` never divides by zero.
* `MlMetadata.Bench.insertNodesInDb_after_insertTypesInDb` — the same after `InsertTypesInDb`
  returned OK.
-/

namespace MlMetadata.Bench

/-- A store that keeps the types it accepts: `Has k s` says that in state `s` it holds a type of
the kind `k`. No call loses a kind, a `PutTypes` it answers with OK adds each kind the request
holds, and a fetch of a kind it holds returns some type. -/
structure KeepsTypes {σ : Type} (st : MetadataStore σ) (Has : FetchType → σ → Prop) : Prop where
  keep : ∀ k q s, Has k s → Has k (st.call q s).2
  putArtifactTypes : ∀ r s, (st.call (.putTypes r) s).1 = .ok () → r.artifactTypes ≠ [] →
    Has .fetchArtifactType (st.call (.putTypes r) s).2
  putExecutionTypes : ∀ r s, (st.call (.putTypes r) s).1 = .ok () → r.executionTypes ≠ [] →
    Has .fetchExecutionType (st.call (.putTypes r) s).2
  putContextTypes : ∀ r s, (st.call (.putTypes r) s).1 = .ok () → r.contextTypes ≠ [] →
    Has .fetchContextType (st.call (.putTypes r) s).2
  getArtifactTypes : ∀ s, Has .fetchArtifactType s → (st.call .getArtifactTypes s).1 ≠ .ok []
  getExecutionTypes : ∀ s, Has .fetchExecutionType s → (st.call .getExecutionTypes s).1 ≠ .ok []
  getContextTypes : ∀ s, Has .fetchContextType s → (st.call .getContextTypes s).1 ≠ .ok []

section Compose

variable {σ : Type} {st : MetadataStore σ} {Has : FetchType → σ → Prop}

/-- The state holds a type of each kind with a positive count. -/
def HasTypesFor (Has : FetchType → σ → Prop) (nA nE nC : Int) (s : σ) : Prop :=
  (0 < nA → Has .fetchArtifactType s) ∧ (0 < nE → Has .fetchExecutionType s) ∧
    (0 < nC → Has .fetchContextType s)

theorem hasTypesFor_call (hst : KeepsTypes st Has) {nA nE nC : Int} (q : Request) {s : σ}
    (h : HasTypesFor Has nA nE nC s) : HasTypesFor Has nA nE nC (st.call q s).2 :=
  ⟨fun hn => hst.keep _ q s (h.1 hn), fun hn => hst.keep _ q s (h.2.1 hn),
    fun hn => hst.keep _ q s (h.2.2 hn)⟩

/-- **No division by zero on a store that holds the types.** From a state of a store that keeps
types and holds a type of each kind with a positive count, `InsertNodesInDb` never computes
`i % 0`.

**Proof sketch.** Run the function against the logged store too: it returns the same result,
and its log holds answers given from states that hold the types. A division by zero would
need one of them to be a fetch that returned no type. -/
theorem insertNodesInDb_ne_divisionByZero (hst : KeepsTypes st Has) (nA nE nC : Int)
    (t : String) {s : σ} (hs : HasTypesFor Has nA nE nC s) :
    ((insertNodesInDb st nA nE nC t).run s).1 ≠ .error .divisionByZero := by
  have hsim := insertNodesInDb_simulates
    (logged_callsAlike st (HasTypesFor Has nA nE nC) fun q _ => hasTypesFor_call hst q)
    nA nE nC t (s, []) s ⟨rfl, hs, nofun⟩
  intro hdiv
  rcases (insertNodesInDb_nodeRun st nA nE nC t s).failure _ (hsim.1.trans hdiv) with
    ⟨e, q, he, -⟩ | ⟨-, ⟨hn, hmem⟩ | ⟨hn, hmem⟩ | ⟨hn, hmem⟩⟩
  · cases he
  · obtain ⟨s₀, hs₀, ha⟩ := hsim.2.2.2 _ hmem
    exact hst.getArtifactTypes s₀ (hs₀.1 hn) ha
  · obtain ⟨s₀, hs₀, ha⟩ := hsim.2.2.2 _ hmem
    exact hst.getExecutionTypes s₀ (hs₀.2.1 hn) ha
  · obtain ⟨s₀, hs₀, ha⟩ := hsim.2.2.2 _ hmem
    exact hst.getContextTypes s₀ (hs₀.2.2 hn) ha

/-- The run of `InsertTypesInDb` against any store: one `PutTypes` call, whose status the
function returns. -/
theorem run_insertTypesInDb (st : MetadataStore σ) (nA nE nC : Int) (t : String) (s : σ) :
    (insertTypesInDb st nA nE nC t).run s =
      ((st.call (.putTypes (putTypesRequest nA nE nC t)) s).1.mapError .status,
        (st.call (.putTypes (putTypesRequest nA nE nC t)) s).2) := by
  rw [insertTypesInDb, run_bind, run_send]
  rcases st.call (.putTypes (putTypesRequest nA nE nC t)) s with ⟨_ | _, s'⟩ <;> rfl

/-- **Types first, then nodes.** On a store that keeps the types it accepts, once
`InsertTypesInDb` has returned OK, `InsertNodesInDb` run next never computes `i % 0`, provided
each kind it has nodes to put had a positive type count.

**Proof sketch.** `InsertTypesInDb` made one `PutTypes` call, answered OK, whose request holds
a type of each kind with a positive count; the store then holds a type of each of them, and
`insertNodesInDb_ne_divisionByZero` applies. -/
theorem insertNodesInDb_after_insertTypesInDb (hst : KeepsTypes st Has)
    (numArtifactTypes numExecutionTypes numContextTypes nA nE nC : Int) (t t' : String) (s : σ)
    (hA : 0 < nA → 0 < numArtifactTypes) (hE : 0 < nE → 0 < numExecutionTypes)
    (hC : 0 < nC → 0 < numContextTypes)
    (hok : ((insertTypesInDb st numArtifactTypes numExecutionTypes numContextTypes t).run s).1 =
      .ok ()) :
    ((insertNodesInDb st nA nE nC t').run
        ((insertTypesInDb st numArtifactTypes numExecutionTypes numContextTypes t).run s).2).1 ≠
      .error .divisionByZero := by
  rw [run_insertTypesInDb] at hok ⊢
  have hput : (st.call (.putTypes (putTypesRequest numArtifactTypes numExecutionTypes
      numContextTypes t)) s).1 = .ok () := by
    revert hok
    cases (st.call _ s).1 <;> simp [Except.mapError]
  have hne := putTypesRequest_ne_nil numArtifactTypes numExecutionTypes numContextTypes t
  exact insertNodesInDb_ne_divisionByZero hst nA nE nC t'
    ⟨fun hn => hst.putArtifactTypes _ s hput (hne.1 (hA hn)),
      fun hn => hst.putExecutionTypes _ s hput (hne.2.1 (hE hn)),
      fun hn => hst.putContextTypes _ s hput (hne.2.2 (hC hn))⟩

end Compose

/-! ### The store that keeps what it is given -/

/-- `memoryStore` holds a type of the kind. -/
def MemoryState.Has : FetchType → MemoryState → Prop
  | .fetchArtifactType, s => s.artifactTypes ≠ []
  | .fetchExecutionType, s => s.executionTypes ≠ []
  | .fetchContextType, s => s.contextTypes ≠ []

theorem keepsTypes_memoryStore : KeepsTypes memoryStore MemoryState.Has where
  keep k q s h := by cases k <;> cases q <;> simp_all [memoryStore, MemoryState.Has]
  putArtifactTypes _ _ _ h := by simp [memoryStore, MemoryState.Has, h]
  putExecutionTypes _ _ _ h := by simp [memoryStore, MemoryState.Has, h]
  putContextTypes _ _ _ h := by simp [memoryStore, MemoryState.Has, h]
  getArtifactTypes _ h := by simpa [memoryStore, MemoryState.Has] using h
  getExecutionTypes _ h := by simpa [memoryStore, MemoryState.Has] using h
  getContextTypes _ h := by simpa [memoryStore, MemoryState.Has] using h

theorem insertNodesInDb_after_insertTypesInDb_memoryStore :
    KeepsTypes memoryStore MemoryState.Has ∧ (0 < (2 : Int) → 0 < (1 : Int)) ∧
      ((insertTypesInDb memoryStore 1 1 1 "t").run {}).1 = .ok () ∧
      ((insertNodesInDb memoryStore 2 2 2 "u").run
        ((insertTypesInDb memoryStore 1 1 1 "t").run {}).2).1 ≠ .error .divisionByZero :=
  ⟨keepsTypes_memoryStore, by decide, rfl,
    insertNodesInDb_after_insertTypesInDb keepsTypes_memoryStore 1 1 1 2 2 2 "t" "u" {}
      (by decide) (by decide) (by decide) rfl⟩

end MlMetadata.Bench
