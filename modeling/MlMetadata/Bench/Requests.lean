import MlMetadata.Bench.Util
import MlMetadata.Absl

set_option relaxedAutoImplicit false
set_option autoImplicit false

/-!
# The requests `InsertTypesInDb` and `InsertNodesInDb` build

The loops of `InsertNodesInDb` build one node per pass, and a pass may fail in four ways: `i %
size()` with no types, an index past the end, `absl::get` of another alternative, or not at all.
This module computes each loop in closed form: it fails, with `i % 0`, exactly when its kind
has no types and the loop has a pass to make; otherwise node `i` is `PrepareNode` of the type
at `i % size()`. It then shows that the names the two functions give are pairwise distinct,
within one call and between calls at two different times.

## Main definitions

* `MlMetadata.Bench.roundRobin` — the type pass `i` uses.
* `MlMetadata.Bench.preInsertArtifact`, `preInsertExecution`, `preInsertContext` — the node
  pass `i` builds.
* `MlMetadata.Bench.kindNames` — the names passes `0 … n - 1` give.
* `MlMetadata.Bench.PrefixFree` — kinds none of which starts another.

## Main results

* `MlMetadata.Bench.mapM_range_prepareNth` — the closed form of the three node loops.
* `MlMetadata.Bench.preInsertName_inj` — a name gives back its time and its counter.
* `MlMetadata.Bench.kindNames_three_nodup`, `kindNames_three_disjoint` — the names of three
  kinds at one time are distinct, and those made at two times are disjoint.

## Design

`absl::StrCat(kind, curr_time, "-", i)` writes the counter in digits after the last `-`, so a
name determines its time and counter whatever the time string holds; two kinds give distinct
names when neither starts the other, which `decide` checks of the six prefixes the tool uses.
-/

namespace MlMetadata.Bench

/-! ### Loops -/

/-- A loop whose every pass succeeds returns the list of what the passes return. -/
theorem mapM_eq_ok_map {α β ε : Type} {f : α → Except ε β} {g : α → β} :
    ∀ {l : List α}, (∀ a ∈ l, f a = .ok (g a)) → l.mapM f = .ok (l.map g)
  | [], _ => rfl
  | a :: l, h => by
    rw [List.mapM_cons, h a (List.mem_cons_self a l),
      mapM_eq_ok_map fun b hb => h b (List.mem_cons_of_mem a hb)]
    rfl

/-- A loop of at least one pass, whose every pass fails with `e`, fails with `e`. -/
theorem mapM_eq_error {α β ε : Type} {f : α → Except ε β} {e : ε} {l : List α}
    (hl : l ≠ []) (h : ∀ a ∈ l, f a = .error e) : l.mapM f = .error e := by
  obtain ⟨a, l, rfl⟩ := List.exists_cons_of_ne_nil hl
  rw [List.mapM_cons, h a (List.mem_cons_self a l)]
  rfl

/-- The type pass `i` of a node loop uses: the one at `i % size()`. -/
def roundRobin (types : List NodeType) (i : Nat) : NodeType :=
  types.getD (i % types.length) {}

/-- One pass of a node loop over types of one alternative: it fails with `i % 0` when there
is no type, and otherwise prepares the node with the type at `i % size()`. -/
theorem prepareNth_map {alternative : Nat} {wrap : NodeType → TypeVariant}
    (hwrap : ∀ ty, (wrap ty).get alternative = .ok ty) (types : List NodeType)
    (nodeName : String) (i : Nat) :
    prepareNth alternative (types.map wrap) nodeName i =
      if types = [] then .error .divisionByZero
      else .ok (prepareNode nodeName (roundRobin types i) {}) := by
  cases types with
  | nil => rfl
  | cons ty tys =>
    have hk : i % (ty :: tys).length < (ty :: tys).length := Nat.mod_lt _ (Nat.succ_pos _)
    have hmod : moduloSize i ((ty :: tys).map wrap).length = .ok (i % (ty :: tys).length) := by
      simp [moduloSize]
    have hat : vectorAt ((ty :: tys).map wrap) (i % (ty :: tys).length) =
        .ok (wrap (roundRobin (ty :: tys) i)) := by
      rw [vectorAt, List.getElem?_map, roundRobin, List.getD_eq_getElem?_getD,
        List.getElem?_eq_getElem hk]
      rfl
    simp only [prepareNth, hmod, hat, hwrap, bind, Except.bind, pure, Except.pure,
      List.cons_ne_nil, if_false]

/-- **The closed form of a node loop.** A loop of `n` passes over types of one alternative
fails with `i % 0` exactly when there is no type and a pass to make; otherwise pass `i`
prepares its node with the type at `i % size()`, and no pass fails otherwise.

**Proof sketch.** Every pass behaves as `prepareNth_map` says, the same way for all `i`; so
either all passes fail alike or all succeed. -/
theorem mapM_range_prepareNth {α : Type} {alternative : Nat} {wrap : NodeType → TypeVariant}
    (hwrap : ∀ ty, (wrap ty).get alternative = .ok ty) (types : List NodeType)
    (nodeName : Nat → String) (mk : Nat → NodeFields → α) (n : Nat) :
    (List.range n).mapM
        (fun i => mk i <$> prepareNth alternative (types.map wrap) (nodeName i) i) =
      if types = [] ∧ 0 < n then .error .divisionByZero
      else .ok ((List.range n).map fun i =>
        mk i (prepareNode (nodeName i) (roundRobin types i) {})) := by
  by_cases h : types = [] ∧ 0 < n
  · rw [if_pos h]
    refine mapM_eq_error (List.ne_nil_of_length_pos (by simpa using h.2)) fun i _ => ?_
    rw [prepareNth_map hwrap, if_pos h.1]
    rfl
  · rw [if_neg h]
    refine mapM_eq_ok_map fun i hi => ?_
    have hty : types ≠ [] := fun e => h ⟨e, Nat.zero_lt_of_lt (List.mem_range.1 hi)⟩
    rw [prepareNth_map hwrap, if_neg hty]
    rfl

/-- The artifact pass `i` of `InsertNodesInDb` puts, given the artifact types `ta` it fetched. -/
def preInsertArtifact (ta : List NodeType) (currTime : String) (i : Nat) : Artifact :=
  let nodeName := preInsertName "pre_insert_artifact-" currTime i
  { fields := prepareNode nodeName (roundRobin ta i) {}, uri := some (nodeName ++ "_uri"),
    state := some .unknown }

/-- The execution pass `i` of `InsertNodesInDb` puts, given the execution types `te` it
fetched. -/
def preInsertExecution (te : List NodeType) (currTime : String) (i : Nat) : Execution :=
  { fields := prepareNode (preInsertName "pre_insert_execution-" currTime i) (roundRobin te i) {},
    lastKnownState := some .unknown }

/-- The context pass `i` of `InsertNodesInDb` puts, given the context types `tc` it fetched. -/
def preInsertContext (tc : List NodeType) (currTime : String) (i : Nat) : Context :=
  { fields := prepareNode (preInsertName "pre_insert_context-" currTime i) (roundRobin tc i) {} }

theorem mapM_newArtifact (ta : List NodeType) (currTime : String) (n : Nat) :
    (List.range n).mapM (newArtifact (ta.map .artifactType) currTime) =
      if ta = [] ∧ 0 < n then .error .divisionByZero
      else .ok ((List.range n).map (preInsertArtifact ta currTime)) :=
  @mapM_range_prepareNth _ 0 .artifactType (fun _ => rfl) ta _ _ n

theorem mapM_newExecution (te : List NodeType) (currTime : String) (n : Nat) :
    (List.range n).mapM (newExecution (te.map .executionType) currTime) =
      if te = [] ∧ 0 < n then .error .divisionByZero
      else .ok ((List.range n).map (preInsertExecution te currTime)) :=
  @mapM_range_prepareNth _ 1 .executionType (fun _ => rfl) te _ _ n

theorem mapM_newContext (tc : List NodeType) (currTime : String) (n : Nat) :
    (List.range n).mapM (newContext (tc.map .contextType) currTime) =
      if tc = [] ∧ 0 < n then .error .divisionByZero
      else .ok ((List.range n).map (preInsertContext tc currTime)) :=
  @mapM_range_prepareNth _ 2 .contextType (fun _ => rfl) tc _ _ n

@[simp] theorem preInsertArtifact_name (ta : List NodeType) (t : String) (i : Nat) :
    (preInsertArtifact ta t i).fields.name = some (preInsertName "pre_insert_artifact-" t i) := rfl

@[simp] theorem preInsertExecution_name (te : List NodeType) (t : String) (i : Nat) :
    (preInsertExecution te t i).fields.name = some (preInsertName "pre_insert_execution-" t i) :=
  rfl

@[simp] theorem preInsertContext_name (tc : List NodeType) (t : String) (i : Nat) :
    (preInsertContext tc t i).fields.name = some (preInsertName "pre_insert_context-" t i) := rfl

/-! ### Names -/

/-- Two lists that end in `c` followed by a tail without `c` agree before and after it. -/
theorem append_cons_eq_of_not_mem {α : Type} {c : α} :
    ∀ {a a' b b' : List α}, c ∉ b → c ∉ b' → a ++ c :: b = a' ++ c :: b' → a = a' ∧ b = b'
  | [], [], _, _, _, _, h => ⟨rfl, List.tail_eq_of_cons_eq h⟩
  | [], x :: a', b, b', hb, _, h => by
    rw [List.nil_append, List.cons_append, List.cons.injEq] at h
    exact absurd (h.2 ▸ List.mem_append_right a' (List.mem_cons_self c b')) hb
  | x :: a, [], b, b', _, hb', h => by
    rw [List.nil_append, List.cons_append, List.cons.injEq] at h
    exact absurd (h.2 ▸ List.mem_append_right a (List.mem_cons_self c b)) hb'
  | x :: a, x' :: a', b, b', hb, hb', h => by
    rw [List.cons_append, List.cons_append, List.cons.injEq] at h
    obtain ⟨rfl, h⟩ := h
    obtain ⟨rfl, rfl⟩ := append_cons_eq_of_not_mem hb hb' h
    exact ⟨rfl, rfl⟩

/-- A name `absl::StrCat(kind, curr_time, "-", i)` gives back the time and the counter: the
counter is written in digits, so the last `-` separates it from the time. -/
theorem preInsertName_inj {kind currTime currTime' : String} {i j : Nat}
    (h : preInsertName kind currTime i = preInsertName kind currTime' j) :
    currTime = currTime' ∧ i = j := by
  have e := congrArg String.toList h
  simp only [preInsertName, String.toList, String.data_append, List.append_assoc,
    List.append_cancel_left_eq] at e
  have hdash : ∀ k : Nat, '-' ∉ (toString k).data := fun k hk =>
    absurd (isDigit_of_mem_toString hk) (by decide)
  obtain ⟨ht, hij⟩ := append_cons_eq_of_not_mem (hdash i) (hdash j) e
  exact ⟨String.ext ht, toString_nat_injective (String.ext hij)⟩

/-- Of two kinds that give one name, one starts the other. -/
theorem preInsertName_kinds_comparable {kind kind' currTime currTime' : String} {i j : Nat}
    (e : preInsertName kind currTime i = preInsertName kind' currTime' j) :
    kind.toList <+: kind'.toList ∨ kind'.toList <+: kind.toList := by
  have e' := congrArg String.toList e
  simp only [preInsertName, String.toList, String.data_append, List.append_assoc] at e'
  exact List.prefix_or_prefix_of_prefix (List.prefix_append kind.data _)
    (e' ▸ List.prefix_append kind'.data _)

/-- The names of passes `0 … n - 1` of a loop over the kind `kind` at time `currTime`. -/
def kindNames (kind currTime : String) (n : Nat) : List (Option String) :=
  (List.range n).map fun i => some (preInsertName kind currTime i)

theorem kindNames_nodup (kind currTime : String) (n : Nat) :
    (kindNames kind currTime n).Nodup :=
  (List.nodup_range n).map fun _ _ h => (preInsertName_inj (Option.some_injective _ h)).2

/-- No kind of the list starts another: the names made with them tell the kind. -/
def PrefixFree (kinds : List String) : Prop :=
  ∀ k ∈ kinds, ∀ k' ∈ kinds, k.toList <+: k'.toList ∨ k'.toList <+: k.toList → k = k'

instance (kinds : List String) : Decidable (PrefixFree kinds) :=
  inferInstanceAs (Decidable (∀ k ∈ kinds, ∀ k' ∈ kinds, _))

/-- The kinds of the nodes `InsertNodesInDb` puts. -/
def nodeKinds : List String :=
  ["pre_insert_artifact-", "pre_insert_execution-", "pre_insert_context-"]

/-- The kinds of the types `InsertTypesInDb` puts. -/
def typeKinds : List String :=
  ["pre_insert_artifact_type-", "pre_insert_execution_type-", "pre_insert_context_type-"]

theorem prefixFree_nodeKinds : PrefixFree nodeKinds := by decide

theorem prefixFree_typeKinds : PrefixFree typeKinds := by decide

/-- Two kinds of a prefix-free list give disjoint names, and so does one kind at two times. -/
theorem kindNames_disjoint {kinds : List String} (hfree : PrefixFree kinds)
    {kind kind' currTime currTime' : String} (hk : kind ∈ kinds) (hk' : kind' ∈ kinds)
    (hne : kind ≠ kind' ∨ currTime ≠ currTime') (n n' : Nat) :
    List.Disjoint (kindNames kind currTime n) (kindNames kind' currTime' n') := by
  intro x hx hx'
  obtain ⟨i, -, rfl⟩ := List.mem_map.1 hx
  obtain ⟨j, -, e⟩ := List.mem_map.1 hx'
  obtain rfl := hfree _ hk' _ hk (preInsertName_kinds_comparable (Option.some_injective _ e))
  exact hne.elim (· rfl) fun ht => ht (preInsertName_inj (Option.some_injective _ e)).1.symm

/-- Three distinct kinds of a prefix-free list, at one time, give distinct names. -/
theorem kindNames_three_nodup {kinds : List String} (hfree : PrefixFree kinds)
    {k₁ k₂ k₃ : String} (h₁ : k₁ ∈ kinds) (h₂ : k₂ ∈ kinds) (h₃ : k₃ ∈ kinds) (h₁₂ : k₁ ≠ k₂)
    (h₁₃ : k₁ ≠ k₃) (h₂₃ : k₂ ≠ k₃) (t : String) (n₁ n₂ n₃ : Nat) :
    (kindNames k₁ t n₁ ++ kindNames k₂ t n₂ ++ kindNames k₃ t n₃).Nodup := by
  simp only [List.nodup_append, List.disjoint_append_left, kindNames_nodup, true_and]
  exact ⟨kindNames_disjoint hfree h₁ h₂ (.inl h₁₂) _ _,
    kindNames_disjoint hfree h₁ h₃ (.inl h₁₃) _ _, kindNames_disjoint hfree h₂ h₃ (.inl h₂₃) _ _⟩

/-- Kinds of a prefix-free list at two distinct times give disjoint names. -/
theorem kindNames_three_disjoint {kinds : List String} (hfree : PrefixFree kinds)
    {k₁ k₂ k₃ t t' : String} (h₁ : k₁ ∈ kinds) (h₂ : k₂ ∈ kinds) (h₃ : k₃ ∈ kinds) (ht : t ≠ t')
    (n₁ n₂ n₃ n₁' n₂' n₃' : Nat) :
    List.Disjoint (kindNames k₁ t n₁ ++ kindNames k₂ t n₂ ++ kindNames k₃ t n₃)
      (kindNames k₁ t' n₁' ++ kindNames k₂ t' n₂' ++ kindNames k₃ t' n₃') := by
  intro x hx hx'
  simp only [List.mem_append] at hx hx'
  have hk : ∀ k ∈ [k₁, k₂, k₃], k ∈ kinds := by simp [h₁, h₂, h₃]
  rcases hx with (hx | hx) | hx <;> rcases hx' with (hx' | hx') | hx' <;>
    exact kindNames_disjoint hfree (hk _ (by simp)) (hk _ (by simp)) (.inr ht) _ _ hx hx'

/-! ### The request of `InsertTypesInDb` -/

/-- All the types of a `PutTypesRequest`, kind after kind. -/
def PutTypesRequest.types (r : PutTypesRequest) : List NodeType :=
  r.artifactTypes ++ r.executionTypes ++ r.contextTypes

theorem names_putTypesRequest (nA nE nC : Int) (t : String) :
    (putTypesRequest nA nE nC t).types.map (·.name) =
      kindNames "pre_insert_artifact_type-" t nA.toNat ++
        kindNames "pre_insert_execution_type-" t nE.toNat ++
          kindNames "pre_insert_context_type-" t nC.toNat := by
  simp only [PutTypesRequest.types, putTypesRequest, List.map_append, List.map_map]
  rfl

theorem putTypesRequest_ne_nil (nA nE nC : Int) (t : String) :
    (0 < nA → (putTypesRequest nA nE nC t).artifactTypes ≠ []) ∧
      (0 < nE → (putTypesRequest nA nE nC t).executionTypes ≠ []) ∧
      (0 < nC → (putTypesRequest nA nE nC t).contextTypes ≠ []) := by
  simp only [putTypesRequest, ne_eq, List.map_eq_nil_iff, List.range_eq_nil]
  omega

theorem properties_putTypesRequest (nA nE nC : Int) (t : String) :
    ∀ ty ∈ (putTypesRequest nA nE nC t).types, ty.properties = [("property", .string)] := by
  simp only [PutTypesRequest.types, putTypesRequest, List.mem_append, List.mem_map]
  rintro ty ((⟨i, -, rfl⟩ | ⟨i, -, rfl⟩) | ⟨i, -, rfl⟩) <;> rfl

end MlMetadata.Bench
