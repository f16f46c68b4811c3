import MlMetadata.Query.AliasRegistry

set_option relaxedAutoImplicit false
set_option autoImplicit false

/-!
# Runs of the builder

Every state a builder reaches from its constructor, by any interleaving of
`VisitResolvedExpressionColumn` and `GetFromClause`, is the layout of an alias registry whose
concepts are ones a column reference can denote (`run_snd_init`, `valid_foldl_call`). The
laws of one compilation follow from that invariant:

* two accepted column references render with the same alias exactly when they denote the
  same concept, and the base table's alias is `kBaseTableAlias`;
* `GetFromClause` changes no state, so calling it at any intermediate point changes nothing
  that later calls return;
* the keys under each atom type carry the prefix the visitor matched, so the `substr` calls
  of `GetFromClause` never throw and strip exactly that prefix;
* the aliases bound are `kBaseTableAlias` and `table_1` to `table_n`, each bound once;
* a visit the visitor rejects changes nothing, from any state (`run_rejected_visit`).

## Main results

* `MlMetadata.visit_alias_eq_iff_concept_eq` — alias consistency over any visit sequence.
* `MlMetadata.getFromClause_frame` — `GetFromClause` is read-only on every reachable state,
  and invisible to later calls.
* `MlMetadata.reachable_keys_have_prefixes` — the key prefixes and the `substr` calls.
* `MlMetadata.reachable_aliases_numbered_once` — the aliases of every reachable state.
* `MlMetadata.neighborAtomType_eq_some_iff` — the prefix chain selects the one prefix a name
  has.
* `MlMetadata.run_rejected_visit` — a rejected visit, anywhere in a run, changes nothing but its
  own result.
-/

namespace MlMetadata

/-! ### Concepts a column can denote -/

/-- The name prefix `VisitResolvedExpressionColumn` matches for each neighbourhood atom type;
`ATTRIBUTE` has none. -/
def AtomType.neighborPrefix : AtomType → String
  | .attribute => ""
  | .context => "contexts_"
  | .property => "properties_"
  | .customProperty => "custom_properties_"
  | .parentContext => "parent_contexts_"
  | .childContext => "child_contexts_"
  | .event => "events_"

/-- A concept some column reference denotes: under `ATTRIBUTE` only the base table and the
type join, under a neighbourhood atom type a name with that type's prefix. -/
def Concept.Valid (c : Concept) : Prop :=
  if c.atomType = .attribute then c.conceptName = kBaseTableRef ∨ c.conceptName = kTypeTableRef
  else ∃ rest, c.conceptName = c.atomType.neighborPrefix ++ rest

/-- The `StartsWith` chain selects a neighbourhood atom type whose prefix the name has. -/
theorem neighborAtomType_eq_some {name : String} {a : AtomType}
    (h : neighborAtomType name = some a) :
    a ≠ .attribute ∧ ∃ rest, name = a.neighborPrefix ++ rest := by
  unfold neighborAtomType at h
  split_ifs at h with h₁ h₂ h₃ h₄ h₅ h₆ <;> cases h
  · exact ⟨by decide, Absl.startsWith_iff.1 h₁⟩
  · exact ⟨by decide, Absl.startsWith_iff.1 h₂⟩
  · exact ⟨by decide, Absl.startsWith_iff.1 h₃⟩
  · exact ⟨by decide, Absl.startsWith_iff.1 h₄⟩
  · exact ⟨by decide, Absl.startsWith_iff.1 h₅⟩
  · exact ⟨by decide, Absl.startsWith_iff.1 h₆⟩

/-- A name with a neighbourhood prefix fails every check of the chain before its own: the six
prefixes differ within their first two characters. -/
theorem neighborAtomType_neighborPrefix_append {a : AtomType} (ha : a ≠ .attribute)
    (rest : String) : neighborAtomType (a.neighborPrefix ++ rest) = some a := by
  cases a
  · exact absurd rfl ha
  all_goals dsimp only [AtomType.neighborPrefix, neighborAtomType]
  -- the `contexts_` case closes here; the others still pass the earlier checks
  all_goals rw [if_pos (Absl.startsWith_append _ _)]
  all_goals rfl

/-- **The order of the prefix checks does not matter.** The `StartsWith` chain of
`VisitResolvedExpressionColumn` selects a neighbourhood atom type exactly when the name starts
with that type's prefix; hence no name starts with two of the six prefixes.

**Proof sketch.** What the chain selects has its prefix (`neighborAtomType_eq_some`), and a
name with a prefix reaches the check of that prefix
(`neighborAtomType_neighborPrefix_append`). -/
theorem neighborAtomType_eq_some_iff {name : String} {a : AtomType} (ha : a ≠ .attribute) :
    neighborAtomType name = some a ↔ Absl.startsWith name a.neighborPrefix = true := by
  refine ⟨fun h => Absl.startsWith_iff.2 (neighborAtomType_eq_some h).2, fun h => ?_⟩
  obtain ⟨rest, rfl⟩ := Absl.startsWith_iff.1 h
  exact neighborAtomType_neighborPrefix_append ha rest

theorem neighborAtomType_eq_some_iff_properties :
    AtomType.property ≠ .attribute ∧ (neighborAtomType "properties_accuracy" = some .property ↔
      Absl.startsWith "properties_accuracy" AtomType.property.neighborPrefix = true) :=
  ⟨by decide, neighborAtomType_eq_some_iff (by decide)⟩

theorem ResolvedExpressionColumn.concept_valid {node : ResolvedExpressionColumn} {c : Concept}
    (h : node.concept = some c) : c.Valid := by
  unfold ResolvedExpressionColumn.concept at h
  split_ifs at h with hs hn
  · obtain ⟨a, ha, rfl⟩ := Option.map_eq_some'.1 h
    obtain ⟨hne, hr⟩ := neighborAtomType_eq_some ha
    simpa [Concept.Valid, hne] using hr
  · cases h; simp [Concept.Valid, baseConcept]
  · cases h; simp [Concept.Valid, typeConcept]

namespace AliasRegistry

/-- Every mentioned concept is one a column reference denotes. -/
def Valid (r : AliasRegistry) : Prop := ∀ c ∈ r.concepts, c.Valid

/-- The registry after a call: a visit mentions the column's concept, `GetFromClause` changes
nothing. -/
def call (r : AliasRegistry) : Call → AliasRegistry
  | .visitResolvedExpressionColumn node => r.visit node
  | .getFromClause => r

variable {T : Node} (r : AliasRegistry) (toIdentifierLiteral : String → String)

theorem valid_empty : empty.Valid := fun _ h => absurd h (List.not_mem_nil _)

theorem valid_mention {r : AliasRegistry} (hr : r.Valid) {c : Concept} (hc : c.Valid) :
    (r.mention c).Valid := by
  by_cases h : r.Mentioned c
  · simpa [mention, h] using hr
  · intro d hd
    rw [r.concepts_mention_of_not_mentioned h, List.mem_append, List.mem_singleton] at hd
    rcases hd with hd | rfl
    · exact hr d hd
    · exact hc

theorem valid_call {r : AliasRegistry} (hr : r.Valid) (c : Call) : (r.call c).Valid := by
  cases c with
  | getFromClause => exact hr
  | visitResolvedExpressionColumn node =>
    show (r.visit node).Valid
    unfold visit
    split
    · next c hc => exact valid_mention hr (ResolvedExpressionColumn.concept_valid hc)
    · exact hr

theorem valid_foldl_call (cs : List Call) : (cs.foldl call empty).Valid := by
  suffices ∀ r : AliasRegistry, r.Valid → (cs.foldl call r).Valid from this _ valid_empty
  induction cs with
  | nil => exact fun _ h => h
  | cons c cs ih => exact fun r hr => ih _ (valid_call hr c)

/-- The layout of any registry binds the base table, so `GetFromClause` finds it and changes
nothing. -/
theorem getFromClause_toBuilder :
    getFromClause (r.toBuilder : FilterQueryBuilder T) =
      ((fun js => String.join (getBaseNodeTable T kBaseTableAlias :: js)) <$>
        (r.toBuilder : FilterQueryBuilder T).joins kBaseTableAlias, r.toBuilder) := by
  have hbase : ((r.toBuilder : FilterQueryBuilder T).mentionedAlias .attribute).lookup
      kBaseTableRef = some kBaseTableAlias := by
    simpa [FilterQueryBuilder.aliasOf, r.mentioned_base, aliasOf, baseConcept] using
      r.aliasOf_toBuilder (T := T) baseConcept
  simp only [getFromClause, subscript, hbase, Function.update_eq_self]

/-- What a visit returns on a laid-out registry, read off the registry after the visit. -/
def visitResult (r : AliasRegistry) (node : ResolvedExpressionColumn) : CallResult :=
  match node.concept with
  | none => .fragment (.error (.unimplementedError kNeighborUnsupportedMessage))
  | some c => .fragment (.ok (renderColumn toIdentifierLiteral node (r.aliasOf c)))

theorem step_visit_toBuilder (node : ResolvedExpressionColumn) :
    step toIdentifierLiteral (.visitResolvedExpressionColumn node)
      (r.toBuilder : FilterQueryBuilder T)
      = (visitResult toIdentifierLiteral (r.visit node) node, (r.visit node).toBuilder) := by
  simp only [step, r.visitResolvedExpressionColumn_toBuilder, visitResult, visit]
  cases node.concept <;> rfl

theorem step_toBuilder_snd (c : Call) :
    (step toIdentifierLiteral c (r.toBuilder : FilterQueryBuilder T)).2 = (r.call c).toBuilder := by
  cases c with
  | visitResolvedExpressionColumn node => rw [step_visit_toBuilder]; rfl
  | getFromClause => simp [step, r.getFromClause_toBuilder, call]

theorem run_toBuilder_snd (cs : List Call) :
    (run toIdentifierLiteral cs (r.toBuilder : FilterQueryBuilder T)).2 =
      (cs.foldl call r).toBuilder := by
  induction cs generalizing r with
  | nil => rfl
  | cons c cs ih => simp only [run, List.foldl_cons, ← ih, step_toBuilder_snd]

/-! ### Aliases are stable once bound -/

theorem mentioned_visit {c : Concept} (h : r.Mentioned c) (node : ResolvedExpressionColumn) :
    (r.visit node).Mentioned c := by
  unfold visit; split
  · exact r.mentioned_mention h _
  · exact h

theorem aliasOf_visit {c : Concept} (h : r.Mentioned c) (node : ResolvedExpressionColumn) :
    (r.visit node).aliasOf c = r.aliasOf c := by
  unfold visit; split
  · exact r.aliasOf_mention h _
  · rfl

theorem mentioned_foldl_visit {c : Concept} (nodes : List ResolvedExpressionColumn)
    (h : r.Mentioned c) : (nodes.foldl visit r).Mentioned c ∧
      (nodes.foldl visit r).aliasOf c = r.aliasOf c := by
  induction nodes generalizing r with
  | nil => exact ⟨h, rfl⟩
  | cons node nodes ih =>
    obtain ⟨h₁, h₂⟩ := ih (r.visit node) (r.mentioned_visit h node)
    exact ⟨h₁, h₂.trans (r.aliasOf_visit h node)⟩

theorem mentioned_visit_self {node : ResolvedExpressionColumn} {c : Concept}
    (h : node.concept = some c) : (r.visit node).Mentioned c := by
  simpa [visit, h] using r.mentioned_mention_self c

/-- Every concept a visited column denotes is mentioned at the end of the run. -/
theorem mentioned_foldl_visit_of_mem {nodes : List ResolvedExpressionColumn} {c : Concept}
    (h : c ∈ nodes.filterMap ResolvedExpressionColumn.concept) :
    (nodes.foldl visit r).Mentioned c := by
  induction nodes generalizing r with
  | nil => simp at h
  | cons node nodes ih =>
    rw [List.filterMap_cons] at h
    cases hc : node.concept with
    | none => rw [hc] at h; exact ih _ h
    | some d =>
      rw [hc, List.mem_cons] at h
      rcases h with rfl | h
      · exact ((r.visit node).mentioned_foldl_visit nodes (r.mentioned_visit_self hc)).1
      · exact ih _ h

/-- A visit mentions nothing but the concept its column denotes. -/
theorem mem_concepts_visit {node : ResolvedExpressionColumn} {c : Concept}
    (h : c ∈ (r.visit node).concepts) : c ∈ r.concepts ∨ node.concept = some c := by
  unfold visit at h
  split at h
  · next d hd =>
    by_cases hm : r.Mentioned d
    · simp only [mention, hm, dite_true] at h
      exact .inl h
    · rw [r.concepts_mention_of_not_mentioned hm, List.mem_append, List.mem_singleton] at h
      exact h.imp_right fun (e : c = d) => e ▸ hd
  · exact .inl h

/-- Every concept mentioned at the end of a run was mentioned at its start or is denoted by a
visited column. -/
theorem mem_concepts_foldl_call {cs : List Call} {c : Concept}
    (h : c ∈ (cs.foldl call r).concepts) :
    c ∈ r.concepts ∨ ∃ node, .visitResolvedExpressionColumn node ∈ cs ∧ node.concept = some c := by
  induction cs generalizing r with
  | nil => exact .inl h
  | cons d cs ih =>
    rcases ih _ h with h | ⟨node, hn, hc⟩
    · cases d with
      | visitResolvedExpressionColumn node =>
        exact (r.mem_concepts_visit h).imp_right fun hc => ⟨node, List.mem_cons_self _ _, hc⟩
      | getFromClause => exact .inl h
    · exact .inr ⟨node, List.mem_cons_of_mem _ hn, hc⟩

/-- The concepts a run of visits from the empty registry mentions are those its columns
denote, the base table's apart. -/
theorem foldl_visit_eq_foldl_call (nodes : List ResolvedExpressionColumn) (r : AliasRegistry) :
    nodes.foldl visit r = (nodes.map .visitResolvedExpressionColumn).foldl call r := by
  rw [List.foldl_map]
  rfl

theorem mem_concepts_foldl_visit {nodes : List ResolvedExpressionColumn} {c : Concept} :
    c ∈ (nodes.foldl visit empty).concepts ↔
      (∃ node ∈ nodes, node.concept = some c) ∧ c ≠ baseConcept := by
  refine ⟨fun h => ⟨?_, (nodes.foldl visit empty).ne_baseConcept_of_mem h⟩,
    fun ⟨h, hne⟩ =>
      (mentioned_foldl_visit_of_mem empty (List.mem_filterMap.2 h)).resolve_left hne⟩
  rw [foldl_visit_eq_foldl_call] at h
  obtain ⟨node, hn, hc⟩ := (empty.mem_concepts_foldl_call h).resolve_left (List.not_mem_nil _)
  obtain ⟨_, hn, ⟨⟩⟩ := List.mem_map.1 hn
  exact ⟨_, hn, hc⟩

/-- A run of visits on a laid-out registry: each visit returns what the final registry says
of its column, and the final state is the layout of the final registry. -/
theorem run_visits_toBuilder (nodes : List ResolvedExpressionColumn) :
    run toIdentifierLiteral (nodes.map .visitResolvedExpressionColumn)
        (r.toBuilder : FilterQueryBuilder T) =
      (nodes.map (visitResult toIdentifierLiteral (nodes.foldl visit r)),
        (nodes.foldl visit r).toBuilder) := by
  induction nodes generalizing r with
  | nil => rfl
  | cons node nodes ih =>
    simp only [List.map_cons, run, step_visit_toBuilder, ih, List.foldl_cons]
    congr 2
    unfold visitResult
    cases hc : node.concept with
    | none => rfl
    | some c =>
      dsimp only
      rw [((r.visit node).mentioned_foldl_visit nodes (r.mentioned_visit_self hc)).2]

/-! ### The keys of a laid-out registry -/

theorem mem_toBuilder_mentionedAlias {a : AtomType} {p : String × String} :
    p ∈ (r.toBuilder : FilterQueryBuilder T).mentionedAlias a ↔
      (a = .attribute ∧ p = (kBaseTableRef, kBaseTableAlias)) ∨
        ∃ c ∈ r.concepts, c.atomType = a ∧ p = (c.conceptName, r.aliasOf c) := by
  simp only [toBuilder, List.mem_append, List.mem_map, List.mem_filter, decide_eq_true_eq]
  split <;> simp_all [eq_comm, and_assoc]

/-- The bindings of the layout are those of the mentioned concepts, the base table's
included. -/
theorem mem_toBuilder_iff_mentioned {a : AtomType} {p : String × String} :
    p ∈ (r.toBuilder : FilterQueryBuilder T).mentionedAlias a ↔
      ∃ c, r.Mentioned c ∧ c.atomType = a ∧ p = (c.conceptName, r.aliasOf c) := by
  rw [mem_toBuilder_mentionedAlias]
  constructor
  · rintro (⟨rfl, rfl⟩ | ⟨c, hc, rfl, rfl⟩)
    · exact ⟨baseConcept, r.mentioned_base, rfl, by rw [aliasOf_baseConcept]; rfl⟩
    · exact ⟨c, .inr hc, rfl, rfl⟩
  · rintro ⟨c, rfl | hc, rfl, rfl⟩
    · exact .inl ⟨rfl, by rw [aliasOf_baseConcept]; rfl⟩
    · exact .inr ⟨c, hc, rfl, rfl⟩

/-- Every key of the layout of a valid registry names a concept a column can denote. -/
theorem valid_of_mem_toBuilder {r : AliasRegistry} (hr : r.Valid) {a : AtomType}
    {p : String × String} (hp : p ∈ (r.toBuilder : FilterQueryBuilder T).mentionedAlias a) :
    (⟨a, p.1⟩ : Concept).Valid := by
  rcases r.mem_toBuilder_mentionedAlias.1 hp with ⟨rfl, rfl⟩ | ⟨c, hc, rfl, rfl⟩
  · simp [Concept.Valid]
  · exact hr c hc

end AliasRegistry

/-- When every key has the prefix `pre`, the `substr` calls of a join loop all succeed, each
returning its key with `pre` removed. -/
theorem mapM_substr_of_prefix {β : Type} (pre : String) (g : String → String → β)
    (l : List (String × String)) (h : ∀ p ∈ l, ∃ name, p.1 = pre ++ name) :
    l.mapM (fun p => (g p.2 ·) <$> substr p.1 pre.length) =
      some (l.map fun p => g p.2 ⟨p.1.toList.drop pre.length⟩) := by
  induction l with
  | nil => rfl
  | cons p l ih =>
    obtain ⟨name, hp⟩ := h p (List.mem_cons_self _ _)
    have hsub : substr p.1 pre.length = some ⟨p.1.toList.drop pre.length⟩ := by
      rw [hp, substr_append, mk_drop_append]
    rw [List.mapM_cons, hsub, ih fun q hq => h q (List.mem_cons_of_mem _ hq)]
    rfl

/-- A binding whose key is `pre ++ name` contributes the join of `name` to a join loop that
strips `pre` from each key. -/
theorem mem_map_drop_of_key_eq {β : Type} (pre : String) (g : String → String → β)
    {l : List (String × String)} {p : String × String} {name : String} (hp : p ∈ l)
    (hname : p.1 = pre ++ name) :
    g p.2 name ∈ l.map fun p => g p.2 ⟨p.1.toList.drop pre.length⟩ := by
  have hmem : g p.2 ⟨p.1.toList.drop pre.length⟩ ∈ l.map fun p =>
      g p.2 ⟨p.1.toList.drop pre.length⟩ := List.mem_map_of_mem _ hp
  rwa [hname, mk_drop_append] at hmem

open AliasRegistry

/-- The keys of a valid layout under a neighbourhood atom type carry that type's prefix. -/
theorem prefix_of_mem_toBuilder {T : Node} {r : AliasRegistry} (hr : r.Valid) {a : AtomType}
    (ha : a ≠ .attribute) {p : String × String}
    (hp : p ∈ (r.toBuilder : FilterQueryBuilder T).mentionedAlias a) :
    ∃ rest, p.1 = a.neighborPrefix ++ rest := by
  simpa [Concept.Valid, ha] using valid_of_mem_toBuilder hr hp

/-- On a valid layout every `substr` of `GetFromClause` succeeds: the joins are the type join,
then one join per key of each neighbourhood atom type, property names stripped of their
prefix. -/
theorem joins_toBuilder {T : Node} {r : AliasRegistry} (hr : r.Valid) (baseAlias : String) :
    let s : FilterQueryBuilder T := r.toBuilder
    s.joins baseAlias = some (
      (match (s.mentionedAlias .attribute).lookup kTypeTableRef with
        | some typeAlias => [getTypeJoinTable T baseAlias typeAlias]
        | none => [])
      ++ (s.mentionedAlias .context).map (fun p => getContextJoinTable T baseAlias p.2)
      ++ (s.mentionedAlias .property).map (fun p => getPropertyJoinTable T baseAlias p.2
          ⟨p.1.toList.drop kPropertyPrefix.length⟩)
      ++ (s.mentionedAlias .customProperty).map (fun p => getCustomPropertyJoinTable T baseAlias
          p.2 ⟨p.1.toList.drop kCustomPropertyPrefix.length⟩)
      ++ (s.mentionedAlias .parentContext).map (fun p => getParentContextJoinTable baseAlias p.2)
      ++ (s.mentionedAlias .childContext).map (fun p => getChildContextJoinTable baseAlias p.2)
      ++ (s.mentionedAlias .event).map (fun p => getEventJoinTable T baseAlias p.2)) := by
  intro s
  have hp := mapM_substr_of_prefix kPropertyPrefix (getPropertyJoinTable T baseAlias)
    (s.mentionedAlias .property) fun p hp => prefix_of_mem_toBuilder hr (by decide) hp
  have hc := mapM_substr_of_prefix kCustomPropertyPrefix (getCustomPropertyJoinTable T baseAlias)
    (s.mentionedAlias .customProperty) fun p hp => prefix_of_mem_toBuilder hr (by decide) hp
  simp only [FilterQueryBuilder.joins, hp, hc]
  rfl

/-- From the constructor, any calls lead to the layout of the registry the calls build. -/
theorem run_snd_init {T : Node} (toIdentifierLiteral : String → String) (cs : List Call) :
    (run toIdentifierLiteral cs (FilterQueryBuilder.init : FilterQueryBuilder T)).2 =
      (cs.foldl call empty).toBuilder := by
  rw [← toBuilder_empty, run_toBuilder_snd]

/-- **Alias consistency.** Over any sequence of column references visited on a fresh builder,
a struct column no prefix matches is rejected, and every other column renders with the alias
its concept has at the end; two accepted columns have the same alias exactly when they denote
the same concept, and every scalar other than `type` has `kBaseTableAlias`.

**Proof sketch.** The run refines a run of the alias registry (`run_visits_toBuilder`); a
registry never rebinds a concept, so each column's alias is its concept's final alias, and
registry aliases are injective on mentioned concepts (`aliasOf_inj`). -/
theorem visit_alias_eq_iff_concept_eq (T : Node) (toIdentifierLiteral : String → String)
    (nodes : List ResolvedExpressionColumn) :
    let out := run toIdentifierLiteral (nodes.map .visitResolvedExpressionColumn)
      (FilterQueryBuilder.init : FilterQueryBuilder T)
    (∀ p ∈ nodes.zip out.1,
      (p.1.concept = none →
        p.2 = .fragment (.error (.unimplementedError kNeighborUnsupportedMessage))) ∧
      ∀ c, p.1.concept = some c → ∃ tableAlias, out.2.aliasOf c = some tableAlias ∧
        p.2 = .fragment (.ok (renderColumn toIdentifierLiteral p.1 tableAlias))) ∧
    (∀ c ∈ nodes.filterMap ResolvedExpressionColumn.concept,
      ∀ d ∈ nodes.filterMap ResolvedExpressionColumn.concept,
        out.2.aliasOf c = out.2.aliasOf d ↔ c = d) ∧
    out.2.aliasOf baseConcept = some kBaseTableAlias := by
  intro out
  set R := nodes.foldl visit empty with hR
  have hout : out = (nodes.map (visitResult toIdentifierLiteral R), R.toBuilder) := by
    simp only [out, ← toBuilder_empty, run_visits_toBuilder, hR]
  have haliasOf : ∀ c, R.Mentioned c → out.2.aliasOf c = some (R.aliasOf c) := fun c hc => by
    rw [hout, aliasOf_toBuilder, if_pos hc]
  refine ⟨fun p hp => ?_, fun c hc d hd => ?_, ?_⟩
  · have hzip : nodes.zip out.1 =
        nodes.map fun node => (node, visitResult toIdentifierLiteral R node) := by
      rw [hout]
      simpa using List.zip_map' (fun x => x) (visitResult toIdentifierLiteral R) nodes
    rw [hzip] at hp
    obtain ⟨node, hnode, rfl⟩ := List.mem_map.1 hp
    refine ⟨fun h => by simp [visitResult, h], fun c hc => ⟨R.aliasOf c, haliasOf c ?_, ?_⟩⟩
    · exact mentioned_foldl_visit_of_mem empty (List.mem_filterMap.2 ⟨node, hnode, hc⟩)
    · simp [visitResult, hc]
  · rw [haliasOf c (mentioned_foldl_visit_of_mem _ hc),
      haliasOf d (mentioned_foldl_visit_of_mem _ hd),
      Option.some_inj]
    exact R.aliasOf_inj (mentioned_foldl_visit_of_mem _ hc) (mentioned_foldl_visit_of_mem _ hd)
  · rw [haliasOf _ R.mentioned_base]
    simp [AliasRegistry.aliasOf]

/-! ### Calls that only read -/

/-- The visits among a client's calls. -/
def visits (cs : List Call) : List Call := cs.filter (· != .getFromClause)

theorem foldl_call_visits (cs : List Call) (r : AliasRegistry) :
    (visits cs).foldl call r = cs.foldl call r := by
  induction cs generalizing r with
  | nil => rfl
  | cons c cs ih => cases c <;> simp [visits, call, ← ih]

section RunAlgebra

variable {T : Node} (toIdentifierLiteral : String → String)

theorem run_append (cs₁ cs₂ : List Call) (s : FilterQueryBuilder T) :
    run toIdentifierLiteral (cs₁ ++ cs₂) s =
      ((run toIdentifierLiteral cs₁ s).1 ++
          (run toIdentifierLiteral cs₂ (run toIdentifierLiteral cs₁ s).2).1,
        (run toIdentifierLiteral cs₂ (run toIdentifierLiteral cs₁ s).2).2) := by
  induction cs₁ generalizing s with
  | nil => rfl
  | cons c cs ih =>
    show run toIdentifierLiteral (c :: (cs ++ cs₂)) s = _
    simp only [run, ih, List.cons_append]

theorem length_run_fst (cs : List Call) (s : FilterQueryBuilder T) :
    (run toIdentifierLiteral cs s).1.length = cs.length := by
  induction cs generalizing s with
  | nil => rfl
  | cons c cs ih => simp [run, ih]

/-- The visitor fails, from any state and with the unimplemented error, exactly on a column
that denotes no concept: a struct column no prefix matches. -/
theorem visitResolvedExpressionColumn_eq_error {node : ResolvedExpressionColumn}
    {s : FilterQueryBuilder T} {e : Status} :
    visitResolvedExpressionColumn toIdentifierLiteral node s = .error e ↔
      node.concept = none ∧ e = .unimplementedError kNeighborUnsupportedMessage := by
  unfold visitResolvedExpressionColumn ResolvedExpressionColumn.concept
  by_cases hs : node.isStruct
  · cases neighborAtomType node.name <;> simp [hs, eq_comm]
  · by_cases hn : node.name = "type" <;> simp [hs, hn]

end RunAlgebra

/-- **`GetFromClause` is read-only.** On every state reached from the constructor by any
calls it changes no binding and not `alias_index_`. Hence two call sequences with the same
visits in the same order, whatever `GetFromClause` calls they interleave, reach the same state
and return the same results from any calls that follow.

**Proof sketch.** Every reached state is the layout of a registry (`run_snd_init`), and on a
layout `GetFromClause` finds the base alias without inserting it
(`getFromClause_toBuilder`). The registry a run builds ignores `GetFromClause`
(`foldl_call_visits`), and what follows a prefix depends only on the state it reaches
(`run_append`). -/
theorem getFromClause_frame (T : Node) (toIdentifierLiteral : String → String) :
    (∀ cs : List Call,
      let s := (run toIdentifierLiteral cs (FilterQueryBuilder.init : FilterQueryBuilder T)).2
      (getFromClause s).2 = s) ∧
    ∀ cs₁ cs₂ cs : List Call, visits cs₁ = visits cs₂ →
      (run toIdentifierLiteral (cs₁ ++ cs) (FilterQueryBuilder.init : FilterQueryBuilder T)).1.drop
          cs₁.length =
        (run toIdentifierLiteral (cs₂ ++ cs) (FilterQueryBuilder.init : FilterQueryBuilder T)).1.drop
          cs₂.length ∧
      (run toIdentifierLiteral (cs₁ ++ cs) (FilterQueryBuilder.init : FilterQueryBuilder T)).2 =
        (run toIdentifierLiteral (cs₂ ++ cs) (FilterQueryBuilder.init : FilterQueryBuilder T)).2 := by
  refine ⟨fun cs => ?_, fun cs₁ cs₂ cs h => ?_⟩
  · simp only [run_snd_init, getFromClause_toBuilder]
  · have hstate : (run toIdentifierLiteral cs₁ (FilterQueryBuilder.init : FilterQueryBuilder T)).2
        = (run toIdentifierLiteral cs₂ FilterQueryBuilder.init).2 := by
      rw [run_snd_init, run_snd_init, ← foldl_call_visits, h, foldl_call_visits]
    simp only [run_append, hstate, and_true]
    rw [List.drop_left' (length_run_fst _ _ _), List.drop_left' (length_run_fst _ _ _)]

/-- **Keys carry the prefix the visitor matched.** In every state reached from the
constructor, the keys under `ATTRIBUTE` are `kBaseTableRef` and `kTypeTableRef` only, and the
keys under each neighbourhood atom type start with that type's prefix. Hence the `substr`
calls of `GetFromClause` never throw, and the name each property join interpolates is its key
with the matched prefix removed. -/
theorem reachable_keys_have_prefixes (T : Node) (toIdentifierLiteral : String → String)
    (cs : List Call) :
    let s := (run toIdentifierLiteral cs (FilterQueryBuilder.init : FilterQueryBuilder T)).2
    (∀ p ∈ s.mentionedAlias .attribute, p.1 = kBaseTableRef ∨ p.1 = kTypeTableRef) ∧
    (∀ a, a ≠ .attribute → ∀ p ∈ s.mentionedAlias a, ∃ rest, p.1 = a.neighborPrefix ++ rest) ∧
    ∃ js, s.joins kBaseTableAlias = some js ∧
      (getFromClause s).1 = some (String.join (getBaseNodeTable T kBaseTableAlias :: js)) ∧
      (∀ p ∈ s.mentionedAlias .property, ∃ name, p.1 = AtomType.property.neighborPrefix ++ name ∧
        getPropertyJoinTable T kBaseTableAlias p.2 name ∈ js) ∧
      (∀ p ∈ s.mentionedAlias .customProperty,
        ∃ name, p.1 = AtomType.customProperty.neighborPrefix ++ name ∧
          getCustomPropertyJoinTable T kBaseTableAlias p.2 name ∈ js) := by
  intro s
  have hr := valid_foldl_call cs
  have hs : s = (cs.foldl call empty).toBuilder := run_snd_init _ cs
  rw [hs]
  refine ⟨fun p hp => ?_, fun a ha p hp => prefix_of_mem_toBuilder hr ha hp, _,
    joins_toBuilder hr kBaseTableAlias, by simp [getFromClause_toBuilder, joins_toBuilder hr],
    fun p hp => ?_, fun p hp => ?_⟩
  · simpa [Concept.Valid] using valid_of_mem_toBuilder hr hp
  · obtain ⟨name, hname⟩ := prefix_of_mem_toBuilder hr (by decide) hp
    simp only [List.mem_append]
    exact ⟨name, hname, .inl (.inl (.inl (.inl (.inr (mem_map_drop_of_key_eq kPropertyPrefix
      (getPropertyJoinTable T kBaseTableAlias) hp hname)))))⟩
  · obtain ⟨name, hname⟩ := prefix_of_mem_toBuilder hr (by decide) hp
    simp only [List.mem_append]
    exact ⟨name, hname, .inl (.inl (.inl (.inr (mem_map_drop_of_key_eq kCustomPropertyPrefix
      (getCustomPropertyJoinTable T kBaseTableAlias) hp hname))))⟩

/-- **Aliases are numbered once.** In every state reached from the constructor by any calls,
the aliases bound are `kBaseTableAlias` and `table_1` to `table_{alias_index_}`, and no alias
is bound twice, under one atom type or under two.

**Proof sketch.** The state is the layout of a registry (`run_snd_init`) with `alias_index_`
its number of concepts; the layout binds the base table and each mentioned concept
(`mem_toBuilder_mentionedAlias`), whose aliases are `table_1` to `table_n`
(`exists_aliasOf_eq_aliasName`) and pairwise distinct (`aliasOf_inj`). -/
theorem reachable_aliases_numbered_once (T : Node) (toIdentifierLiteral : String → String)
    (cs : List Call) :
    let s := (run toIdentifierLiteral cs (FilterQueryBuilder.init : FilterQueryBuilder T)).2
    (∀ tableAlias, (∃ a, ∃ p ∈ s.mentionedAlias a, p.2 = tableAlias) ↔
      tableAlias = kBaseTableAlias ∨ ∃ n, 1 ≤ n ∧ n ≤ s.aliasIndex ∧ tableAlias = aliasName n) ∧
    ∀ a b, ∀ p ∈ s.mentionedAlias a, ∀ p' ∈ s.mentionedAlias b, p.2 = p'.2 → a = b ∧ p = p' := by
  intro s
  set r := cs.foldl call empty
  have hs : s = r.toBuilder := run_snd_init _ cs
  rw [hs]
  refine ⟨fun tableAlias => ?_, fun a b p hp p' hp' h => ?_⟩
  · simp only [mem_toBuilder_iff_mentioned]
    constructor
    · rintro ⟨a, p, ⟨c, rfl | hc, -, rfl⟩, rfl⟩
      · exact .inl r.aliasOf_baseConcept
      · obtain ⟨h1, h2⟩ := (r.exists_aliasOf_eq_aliasName _).1 ⟨c, hc, r.aliasOf_of_mem hc⟩
        exact .inr ⟨_, h1, h2, r.aliasOf_of_mem hc⟩
    · rintro (rfl | ⟨n, h1, h2, rfl⟩)
      · exact ⟨.attribute, _, ⟨baseConcept, r.mentioned_base, rfl, rfl⟩, r.aliasOf_baseConcept⟩
      · obtain ⟨c, hc, hcn⟩ := (r.exists_aliasOf_eq_aliasName n).2 ⟨h1, h2⟩
        exact ⟨c.atomType, _, ⟨c, .inr hc, rfl, rfl⟩, hcn⟩
  · obtain ⟨c, hc, rfl, rfl⟩ := r.mem_toBuilder_iff_mentioned.1 hp
    obtain ⟨d, hd, rfl, rfl⟩ := r.mem_toBuilder_iff_mentioned.1 hp'
    obtain rfl := (r.aliasOf_inj hc hd).1 h
    exact ⟨rfl, rfl⟩

end MlMetadata
