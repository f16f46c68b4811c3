import Mathlib.Data.List.Nodup
import MlMetadata.Query.FilterQueryBuilder

set_option relaxedAutoImplicit false
set_option autoImplicit false

/-!
# The alias registry, and the builder as its refinement

The spec describes the alias bookkeeping abstractly: a binding is created at most once per
`(kind, key)` pair, a lookup of a bound pair returns the alias bound before, and aliases are a
fixed prefix followed by a strictly increasing counter. `AliasRegistry` is that description:
the concepts mentioned so far, other than the base table, each once and in first-mention
order. The `i`-th concept's alias is `table_{i+1}` and the base table's is `kBaseTableAlias`.

`AliasRegistry.toBuilder` lays a registry out as the builder's `mentioned_alias_` and
`alias_index_`. `GetTableAlias` and the visitor on a laid-out registry return what the
registry says and leave the laid-out registry with the concept mentioned
(`getTableAlias_toBuilder`, `visitResolvedExpressionColumn_toBuilder`): the builder refines
the registry.

## Main definitions

* `MlMetadata.ResolvedExpressionColumn.concept` — the concept a column reference denotes.
* `MlMetadata.AliasRegistry` — the registry, with `mention`, `visit` and `aliasOf`.
* `MlMetadata.AliasRegistry.toBuilder` — its layout as a builder state.

## Main results

* `MlMetadata.AliasRegistry.aliasOf_inj` — distinct mentioned concepts have distinct aliases.
* `MlMetadata.AliasRegistry.aliasOf_toBuilder` — the layout binds exactly the mentioned
  concepts, each to its registry alias.
* `MlMetadata.AliasRegistry.getTableAlias_toBuilder`,
  `MlMetadata.AliasRegistry.visitResolvedExpressionColumn_toBuilder` — the refinement steps.
-/

namespace MlMetadata

/-! ### Concepts -/

/-- The concept of the base table, `(ATTRIBUTE, kBaseTableRef)`. -/
def baseConcept : Concept := ⟨.attribute, kBaseTableRef⟩

/-- The concept of the type join, `(ATTRIBUTE, kTypeTableRef)`. -/
def typeConcept : Concept := ⟨.attribute, kTypeTableRef⟩

/-- The concept a column reference denotes: for a struct column the atom type its name's
prefix selects, keyed by the whole name; for the scalar `type` the type join; for any other
scalar the base table. `none` for a struct column no prefix matches. -/
def ResolvedExpressionColumn.concept (node : ResolvedExpressionColumn) :
    Option Concept :=
  if node.isStruct then (neighborAtomType node.name).map fun a => ⟨a, node.name⟩
  else if node.name ≠ "type" then some baseConcept
  else some typeConcept

/-- The text the visitor pushes for a column whose concept has alias `tableAlias`. -/
def renderColumn (toIdentifierLiteral : String → String) (node : ResolvedExpressionColumn)
    (tableAlias : String) : String :=
  if node.isStruct then toIdentifierLiteral tableAlias
  else toIdentifierLiteral tableAlias ++ "." ++ toIdentifierLiteral node.name

/-- `table_0` is no minted alias. -/
theorem kBaseTableAlias_ne_aliasName (n : Nat) : kBaseTableAlias ≠ aliasName (n + 1) := by
  intro h
  have h0 : toString 0 = toString (n + 1) := by
    simpa [kBaseTableAlias, aliasName, kTableAliasPrefix, String.ext_iff] using h
  exact absurd (toString_nat_injective h0) (by omega)

theorem aliasName_injective : Function.Injective aliasName := fun m n h =>
  toString_nat_injective (by simpa [aliasName, String.ext_iff] using h)

/-! ### The registry -/

/-- The alias registry of one compilation: the concepts mentioned so far other than the base
table, each once, in first-mention order. -/
structure AliasRegistry where
  /-- The mentioned concepts in first-mention order. -/
  concepts : List Concept
  nodup : concepts.Nodup
  base_not_mem : baseConcept ∉ concepts

namespace AliasRegistry

/-- The registry of a fresh builder. -/
def empty : AliasRegistry := ⟨[], List.nodup_nil, List.not_mem_nil _⟩

/-- A concept has an alias: the base table always, any other once mentioned. -/
def Mentioned (r : AliasRegistry) (c : Concept) : Prop :=
  c = baseConcept ∨ c ∈ r.concepts

instance (r : AliasRegistry) (c : Concept) : Decidable (r.Mentioned c) :=
  inferInstanceAs (Decidable (_ ∨ _))

/-- The alias of a concept: `kBaseTableAlias` for the base table, `table_{i+1}` for the
`i`-th mentioned concept. -/
def aliasOf (r : AliasRegistry) (c : Concept) : String :=
  if c = baseConcept then kBaseTableAlias else aliasName (r.concepts.indexOf c + 1)

/-- Mentioning a concept binds it if it was not bound. -/
def mention (r : AliasRegistry) (c : Concept) : AliasRegistry :=
  if h : r.Mentioned c then r
  else
    { concepts := r.concepts ++ [c]
      nodup := List.nodup_append.2
        ⟨r.nodup, List.nodup_singleton c, List.disjoint_singleton.2 fun e => h (.inr e)⟩
      base_not_mem := by
        simpa [r.base_not_mem, eq_comm] using fun e : c = baseConcept => h (.inl e) }

/-- The registry after a visit: the column's concept mentioned, if it has one. -/
def visit (r : AliasRegistry) (node : ResolvedExpressionColumn) : AliasRegistry :=
  match node.concept with
  | some c => r.mention c
  | none => r

/-- The registry laid out as a builder state: under each atom type, the base binding (for
`ATTRIBUTE`) and then that type's concepts in first-mention order. -/
def toBuilder {T : Node} (r : AliasRegistry) : FilterQueryBuilder T where
  mentionedAlias a := (if a = .attribute then [(kBaseTableRef, kBaseTableAlias)] else []) ++
    (r.concepts.filter fun c => c.atomType = a).map fun c => (c.conceptName, r.aliasOf c)
  aliasIndex := r.concepts.length

variable {T : Node} (r : AliasRegistry)

theorem mentioned_base : r.Mentioned baseConcept := .inl rfl

@[simp] theorem aliasOf_baseConcept : r.aliasOf baseConcept = kBaseTableAlias := if_pos rfl

theorem ne_baseConcept_of_mem {c : Concept} (hc : c ∈ r.concepts) : c ≠ baseConcept :=
  fun e => r.base_not_mem (e ▸ hc)

theorem aliasOf_of_mem {c : Concept} (hc : c ∈ r.concepts) :
    r.aliasOf c = aliasName (r.concepts.indexOf c + 1) :=
  if_neg (r.ne_baseConcept_of_mem hc)

/-- A mentioned concept other than the base table is not under the base alias. -/
theorem aliasOf_ne_kBaseTableAlias {c : Concept} (hc : c ∈ r.concepts) :
    r.aliasOf c ≠ kBaseTableAlias :=
  r.aliasOf_of_mem hc ▸ (kBaseTableAlias_ne_aliasName _).symm

theorem mentioned_mention_self (c : Concept) : (r.mention c).Mentioned c := by
  unfold mention
  split
  · assumption
  · exact .inr (List.mem_append_right _ (List.mem_singleton_self c))

theorem mentioned_mention {c : Concept} (h : r.Mentioned c) (d : Concept) :
    (r.mention d).Mentioned c := by
  unfold mention
  split
  · exact h
  · exact h.imp_right fun hc => List.mem_append_left _ hc

theorem aliasOf_mention {c : Concept} (h : r.Mentioned c) (d : Concept) :
    (r.mention d).aliasOf c = r.aliasOf c := by
  unfold mention
  split
  · rfl
  · rcases h with rfl | hc
    · simp [aliasOf]
    · simp [aliasOf, List.indexOf_append_of_mem hc]

theorem aliasOf_mention_self_of_not_mentioned {c : Concept} (h : ¬ r.Mentioned c) :
    (r.mention c).aliasOf c = aliasName (r.concepts.length + 1) := by
  have hb : c ≠ baseConcept := fun e => h (.inl e)
  have hm : c ∉ r.concepts := fun e => h (.inr e)
  simp [mention, h, aliasOf, hb, List.indexOf_append_of_not_mem hm]

/-- Distinct mentioned concepts have distinct aliases. -/
theorem aliasOf_inj {c d : Concept} (hc : r.Mentioned c) (hd : r.Mentioned d) :
    r.aliasOf c = r.aliasOf d ↔ c = d := by
  refine ⟨fun h => ?_, fun h => h ▸ rfl⟩
  rcases hc with rfl | hc <;> rcases hd with rfl | hd
  · rfl
  · exact absurd (h.symm.trans r.aliasOf_baseConcept) (r.aliasOf_ne_kBaseTableAlias hd)
  · exact absurd (h.trans r.aliasOf_baseConcept) (r.aliasOf_ne_kBaseTableAlias hc)
  · rw [r.aliasOf_of_mem hc, r.aliasOf_of_mem hd] at h
    exact (List.indexOf_inj hc hd).1 (by simpa using aliasName_injective h)

/-- The aliases of the mentioned concepts are `table_1` to `table_n`, `n` the number of
mentioned concepts. -/
theorem exists_aliasOf_eq_aliasName (n : Nat) :
    (∃ c ∈ r.concepts, r.aliasOf c = aliasName n) ↔ 1 ≤ n ∧ n ≤ r.concepts.length := by
  constructor
  · rintro ⟨c, hc, h⟩
    rw [r.aliasOf_of_mem hc] at h
    have hn := aliasName_injective h
    have hlt := List.indexOf_lt_length.2 hc
    omega
  · rintro ⟨h1, h2⟩
    obtain ⟨i, rfl⟩ : ∃ i, n = i + 1 := ⟨n - 1, by omega⟩
    have hi : i < r.concepts.length := by omega
    have hmem : r.concepts[i] ∈ r.concepts := List.getElem_mem hi
    refine ⟨r.concepts[i], hmem, ?_⟩
    rw [r.aliasOf_of_mem hmem, List.indexOf_getElem r.nodup]

/-! ### The layout as a builder state -/

theorem lookup_map_filter (cs : List Concept) (f : Concept → String) (a : AtomType)
    (k : String) :
    ((cs.filter fun c => c.atomType = a).map fun c => (c.conceptName, f c)).lookup k =
      if ⟨a, k⟩ ∈ cs then some (f ⟨a, k⟩) else none := by
  induction cs with
  | nil => simp
  | cons c cs ih =>
    obtain ⟨a', k'⟩ := c
    by_cases ha : a' = a
    · subst ha
      by_cases hk : k = k'
      · subst hk
        simp [List.filter_cons]
      · have hk' : (k == k') = false := by simpa using hk
        simp [List.filter_cons, List.lookup_cons, hk', ih, hk]
    · have ha' : a ≠ a' := fun e => ha e.symm
      simp [List.filter_cons, ha, ih, ha']

theorem concepts_mention_of_not_mentioned {c : Concept} (h : ¬ r.Mentioned c) :
    (r.mention c).concepts = r.concepts ++ [c] := by
  simp [mention, h]

/-- The layout binds exactly the mentioned concepts, each to its registry alias. -/
theorem aliasOf_toBuilder (c : Concept) :
    (r.toBuilder : FilterQueryBuilder T).aliasOf c =
      if r.Mentioned c then some (r.aliasOf c) else none := by
  obtain ⟨a, k⟩ := c
  simp only [FilterQueryBuilder.aliasOf, toBuilder, List.lookup_append, lookup_map_filter]
  by_cases hb : (⟨a, k⟩ : Concept) = baseConcept
  · cases hb
    simp [Mentioned, aliasOf, baseConcept, kBaseTableRef]
  · have hnil : List.lookup k (if a = .attribute then [(kBaseTableRef, kBaseTableAlias)] else [])
        = none := by
      split
      · subst a
        have hk : (k == kBaseTableRef) = false := by simpa [baseConcept] using hb
        simp [List.lookup_cons, hk]
      · rfl
    simp [hnil, Mentioned, hb]

theorem toBuilder_empty : (empty.toBuilder : FilterQueryBuilder T) = FilterQueryBuilder.init := by
  ext a <;> simp [toBuilder, empty, FilterQueryBuilder.init]

theorem toBuilder_mention_of_not_mentioned {c : Concept} (h : ¬ r.Mentioned c) :
    ((r.mention c).toBuilder : FilterQueryBuilder T) =
      r.toBuilder.mint c.atomType c.conceptName := by
  have hsame : ∀ d ∈ r.concepts, (r.mention c).aliasOf d = r.aliasOf d :=
    fun d hd => r.aliasOf_mention (.inr hd) c
  have hmap : ∀ a : AtomType,
      ((r.concepts.filter fun d => d.atomType = a).map fun d =>
        (d.conceptName, (r.mention c).aliasOf d)) =
      (r.concepts.filter fun d => d.atomType = a).map fun d => (d.conceptName, r.aliasOf d) :=
    fun a => List.map_congr_left fun d hd => by rw [hsame d (List.mem_filter.1 hd).1]
  ext a
  · simp only [toBuilder, r.concepts_mention_of_not_mentioned h, List.filter_append,
      List.map_append, FilterQueryBuilder.mint, hmap]
    by_cases ha : a = c.atomType
    · subst ha
      simp [r.aliasOf_mention_self_of_not_mentioned h]
    · simp [Function.update_noteq ha, Ne.symm ha]
  · simp [toBuilder, r.concepts_mention_of_not_mentioned h, FilterQueryBuilder.mint]

/-! ### Refinement -/

variable (toIdentifierLiteral : String → String)

/-- `GetTableAlias` on a laid-out registry returns the registry alias and leaves the layout of
the registry with the concept mentioned. -/
theorem getTableAlias_toBuilder (c : Concept) :
    getTableAlias toIdentifierLiteral c.atomType c.conceptName (r.toBuilder : FilterQueryBuilder T)
      = (toIdentifierLiteral ((r.mention c).aliasOf c), (r.mention c).toBuilder) := by
  have hl : ((r.toBuilder : FilterQueryBuilder T).mentionedAlias c.atomType).lookup c.conceptName
      = if r.Mentioned c then some (r.aliasOf c) else none := r.aliasOf_toBuilder c
  unfold getTableAlias
  rw [hl]
  by_cases h : r.Mentioned c
  · simp [h, mention]
  · simp only [h, if_false, r.aliasOf_mention_self_of_not_mentioned h,
      r.toBuilder_mention_of_not_mentioned h]
    rfl

/-- The visitor on a laid-out registry: an unsupported struct column fails and changes
nothing; any other column renders with the alias of its concept once mentioned. -/
theorem visitResolvedExpressionColumn_toBuilder (node : ResolvedExpressionColumn) :
    visitResolvedExpressionColumn toIdentifierLiteral node (r.toBuilder : FilterQueryBuilder T) =
      match node.concept with
      | none => .error (.unimplementedError kNeighborUnsupportedMessage)
      | some c => .ok (renderColumn toIdentifierLiteral node ((r.mention c).aliasOf c),
          (r.mention c).toBuilder) := by
  unfold visitResolvedExpressionColumn ResolvedExpressionColumn.concept renderColumn
  by_cases hs : node.isStruct
  · cases h : neighborAtomType node.name with
    | none => simp [hs, h]
    | some a =>
      have := r.getTableAlias_toBuilder (T := T) toIdentifierLiteral ⟨a, node.name⟩
      simp_all
  · by_cases hn : node.name = "type"
    · have := r.getTableAlias_toBuilder (T := T) toIdentifierLiteral typeConcept
      simp_all [typeConcept, kTypeTableRef]
    · have := r.getTableAlias_toBuilder (T := T) toIdentifierLiteral baseConcept
      simp_all [baseConcept]

end AliasRegistry

end MlMetadata
