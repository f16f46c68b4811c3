import Mathlib.Data.List.Infix
import Mathlib.Data.String.Basic
import MlMetadata.Query.JoinSyntax
import MlMetadata.Query.Runs

set_option relaxedAutoImplicit false
set_option autoImplicit false

/-!
# The FROM clause as SQL

On every state a builder reaches, `GetFromClause` writes the base table and then the fragment
of each mentioned concept, grouped by atom type in the order of its loops
(`getFromClause_toBuilder_eq`). When no property name holds a character that ends or escapes
in its string literal, that text lexes and parses to the base table followed by the parse
trees of the fragments, in the same order; the fragments that are empty drop out
(`getFromClause_parses`).

What follows for the aliases a compilation introduces. When every mentioned concept has a
join for the node type, the FROM clause introduces each alias once, and its aliases are
exactly `kBaseTableAlias` and the aliases the visits rendered
(`fromClause_aliases_eq_rendered`); when every column is a plain attribute, there is no join
at all (`attribute_columns_need_no_join`). For `T = Context` a `contexts_` or `events_` column is
accepted and rendered with a fresh alias, but its template is empty, so no join introduces
that alias (`context_reference_has_no_join`). A property name holding a double quote ends the
string literal early and adds its own tokens to the SQL
(`property_name_quote_injects_tokens`).

## Main definitions

* `MlMetadata.joinOrder` — the order `GetFromClause` emits the joins of concepts in.
* `MlMetadata.FilterQueryBuilder.joinTrees` — the parse trees of the joins a builder state
  calls for.

## Main results

* `MlMetadata.getFromClause_toBuilder_eq` — `GetFromClause` as one fragment per concept.
* `MlMetadata.getFromClause_parses` — the FROM clause of every reachable state parses to the
  base table and `joinTrees`.
* `MlMetadata.fromClause_aliases_eq_rendered` — the aliases the FROM clause introduces.
-/

namespace MlMetadata

open Sql AliasRegistry

/-! ### The order of the joins -/

/-- The atom types in the order of `GetFromClause`'s loops; `ATTRIBUTE` stands for the type
join. -/
def joinAtomTypes : List AtomType :=
  [.attribute, .context, .property, .customProperty, .parentContext, .childContext, .event]

/-- Concepts in the order `GetFromClause` emits their joins: grouped by atom type, each group
in first-mention order. -/
def joinOrder (cs : List Concept) : List Concept :=
  joinAtomTypes.flatMap fun a => cs.filter fun c => c.atomType = a

theorem mem_joinOrder {cs : List Concept} {c : Concept} : c ∈ joinOrder cs ↔ c ∈ cs := by
  have hc : c.atomType ∈ joinAtomTypes := by cases c.atomType <;> decide
  simp only [joinOrder, List.mem_flatMap, List.mem_filter, decide_eq_true_eq]
  exact ⟨fun ⟨_, _, h, _⟩ => h, fun h => ⟨_, hc, h, rfl⟩⟩

theorem nodup_joinOrder {cs : List Concept} (h : cs.Nodup) : (joinOrder cs).Nodup := by
  have hd : joinAtomTypes.Nodup := by decide
  refine List.nodup_flatMap.2 ⟨fun a _ => h.filter _, hd.imp fun hab c hca hcb => hab ?_⟩
  simp only [List.mem_filter, decide_eq_true_eq] at hca hcb
  exact hca.2.symm.trans hcb.2

/-- The parse trees of the joins a builder state calls for: for each atom type in the order
of `GetFromClause`'s loops and each binding other than the base table's, in insertion order,
the tree of the concept's template under its alias. -/
def FilterQueryBuilder.joinTrees {T : Node} (s : FilterQueryBuilder T) : List Join :=
  joinAtomTypes.flatMap fun a => (s.mentionedAlias a).filterMap fun p =>
    if (⟨a, p.1⟩ : Concept) = baseConcept then none
    else conceptJoin T kBaseTableAlias ⟨a, p.1⟩ p.2

/-! ### `GetFromClause` on a laid-out registry -/

section Layout

variable {T : Node} {r : AliasRegistry}

/-- In a valid registry the only `ATTRIBUTE` concept is the type join's. -/
theorem filter_attribute_of_valid (hr : r.Valid) :
    r.concepts.filter (fun c => c.atomType = .attribute) =
      if typeConcept ∈ r.concepts then [typeConcept] else [] := by
  have hall : ∀ c ∈ r.concepts.filter (fun c => c.atomType = .attribute), c = typeConcept := by
    rintro ⟨a, k⟩ hc
    obtain ⟨hc, ha⟩ := List.mem_filter.1 hc
    obtain rfl : a = .attribute := of_decide_eq_true ha
    have hk : k = kBaseTableRef ∨ k = kTypeTableRef := by simpa [Concept.Valid] using hr _ hc
    rcases hk with rfl | rfl
    · exact absurd hc r.base_not_mem
    · rfl
  have hmem : typeConcept ∈ r.concepts ↔
      typeConcept ∈ r.concepts.filter (fun c => c.atomType = .attribute) := by
    simp [typeConcept]
  have hnodup := r.nodup.filter (fun c => c.atomType = .attribute)
  simp only [hmem]
  generalize r.concepts.filter (fun c => c.atomType = .attribute) = l at hall hnodup ⊢
  match l, hall, hnodup with
  | [], _, _ => rfl
  | [c], hall, _ => simp [hall c (List.mem_singleton_self c)]
  | c :: d :: _, hall, hnodup =>
    have hcd : c = d := (hall c (by simp)).trans (hall d (by simp)).symm
    exact absurd (hcd ▸ List.mem_cons_self d _) (List.nodup_cons.1 hnodup).1

/-- One atom type's loop of `GetFromClause` on a layout emits the fragments of that type's
concepts. -/
theorem map_mentionedAlias_toBuilder {a : AtomType} (ha : a ≠ .attribute) (baseAlias : String)
    (g : String × String → String)
    (hg : ∀ name tableAlias,
      g (name, tableAlias) = conceptJoinTable T baseAlias ⟨a, name⟩ tableAlias) :
    ((r.toBuilder : FilterQueryBuilder T).mentionedAlias a).map g =
      (r.concepts.filter fun c => c.atomType = a).map
        fun c => conceptJoinTable T baseAlias c (r.aliasOf c) := by
  simp only [toBuilder, if_neg ha, List.nil_append, List.map_map]
  refine List.map_congr_left fun c hc => ?_
  obtain rfl := of_decide_eq_true (List.mem_filter.1 hc).2
  exact hg _ _

/-- **`GetFromClause` on a reachable state.** The FROM clause is the base table, then one
fragment per mentioned concept in `joinOrder`. -/
theorem getFromClause_toBuilder_eq (hr : r.Valid) :
    (getFromClause (r.toBuilder : FilterQueryBuilder T)).1 =
      some (String.join (getBaseNodeTable T kBaseTableAlias ::
        (joinOrder r.concepts).map fun c =>
          conceptJoinTable T kBaseTableAlias c (r.aliasOf c))) := by
  have htype : (match ((r.toBuilder : FilterQueryBuilder T).mentionedAlias .attribute).lookup
      kTypeTableRef with
      | some typeAlias => [getTypeJoinTable T kBaseTableAlias typeAlias]
      | none => []) =
      (r.concepts.filter fun c => c.atomType = .attribute).map
        fun c => conceptJoinTable T kBaseTableAlias c (r.aliasOf c) := by
    have hlookup : ((r.toBuilder : FilterQueryBuilder T).mentionedAlias .attribute).lookup
        kTypeTableRef = if r.Mentioned typeConcept then some (r.aliasOf typeConcept) else none :=
      r.aliasOf_toBuilder typeConcept
    have hm : r.Mentioned typeConcept ↔ typeConcept ∈ r.concepts := or_iff_right (by decide)
    rw [hlookup, filter_attribute_of_valid hr]
    simp only [hm]
    split_ifs <;> rfl
  have hseg := fun (a : AtomType) (ha : a ≠ .attribute) =>
    map_mentionedAlias_toBuilder (T := T) (r := r) ha kBaseTableAlias
  rw [getFromClause_toBuilder, joins_toBuilder hr]
  simp only [joinOrder, joinAtomTypes, List.flatMap_cons, List.flatMap_nil, List.map_append,
    List.append_nil, List.append_assoc,
    hseg .context (by decide) (fun p => getContextJoinTable T kBaseTableAlias p.2)
      fun _ _ => rfl,
    hseg .property (by decide) (fun p => getPropertyJoinTable T kBaseTableAlias p.2
      ⟨p.1.toList.drop kPropertyPrefix.length⟩) fun _ _ => rfl,
    hseg .customProperty (by decide) (fun p => getCustomPropertyJoinTable T kBaseTableAlias p.2
      ⟨p.1.toList.drop kCustomPropertyPrefix.length⟩) fun _ _ => rfl,
    hseg .parentContext (by decide) (fun p => getParentContextJoinTable kBaseTableAlias p.2)
      fun _ _ => rfl,
    hseg .childContext (by decide) (fun p => getChildContextJoinTable kBaseTableAlias p.2)
      fun _ _ => rfl,
    hseg .event (by decide) (fun p => getEventJoinTable T kBaseTableAlias p.2)
      fun _ _ => rfl]
  rw [← htype]
  rfl

/-- The joins a layout calls for are the parse trees of its concepts' fragments. -/
theorem joinTrees_toBuilder :
    (r.toBuilder : FilterQueryBuilder T).joinTrees =
      (joinOrder r.concepts).filterMap fun c => conceptJoin T kBaseTableAlias c (r.aliasOf c) := by
  simp only [FilterQueryBuilder.joinTrees, joinOrder, List.filterMap_flatMap]
  congr 1
  funext a
  simp only [toBuilder, List.filterMap_append, List.filterMap_map]
  have hbase : (List.filterMap (fun p : String × String =>
      if (⟨a, p.1⟩ : Concept) = baseConcept then none
      else conceptJoin T kBaseTableAlias ⟨a, p.1⟩ p.2)
      (if a = .attribute then [(kBaseTableRef, kBaseTableAlias)] else [])) = [] := by
    split
    · subst a; rfl
    · rfl
  rw [hbase, List.nil_append]
  refine List.filterMap_congr fun c hc => ?_
  obtain ⟨hmem, ha⟩ := List.mem_filter.1 hc
  obtain rfl : c.atomType = a := of_decide_eq_true ha
  show (if c = baseConcept then none else conceptJoin T kBaseTableAlias c (r.aliasOf c)) = _
  rw [if_neg (r.ne_baseConcept_of_mem hmem)]

end Layout

/-! ### Lexing and parsing the FROM clause -/

section Parse

variable (backslashEscapes : Bool) {T : Node} {r : AliasRegistry}

theorem lexRun_getBaseNodeTable (T : Node) :
    lexRun backslashEscapes .idle (getBaseNodeTable T kBaseTableAlias).toList =
      (.idle, [.word T.table, .word "AS", .word kBaseTableAlias]) := by
  cases T <;> rfl

/-- The aliases of mentioned concepts are words. -/
theorem isWord_aliasOf {c : Concept} (hc : c ∈ r.concepts) : IsWord (r.aliasOf c) := by
  rw [r.aliasOf_of_mem hc]
  exact isWord_aliasName _

/-- A mentioned concept's fragment lexes as its pieces do, back to between tokens. -/
theorem lexRun_conceptJoinTable {c : Concept} (hc : c ∈ r.concepts)
    (hplain : c.PlainName backslashEscapes) :
    lexRun backslashEscapes .idle (conceptJoinTable T kBaseTableAlias c (r.aliasOf c)).toList =
      (.idle, (lexPieces backslashEscapes .idle
        (conceptJoinPieces T kBaseTableAlias c (r.aliasOf c))).2) := by
  rw [conceptJoinTable_eq]
  refine (lexPieces_eq _ _ _ (fits_conceptJoinPieces backslashEscapes isWord_kBaseTableAlias
    (isWord_aliasOf hc) T hplain)).symm.trans (Prod.ext ?_ rfl)
  exact (joinTokens_conceptJoinPieces backslashEscapes T kBaseTableAlias c (r.aliasOf c)).lex.1

/-- The tokens of the FROM clause of a layout: the base table's, then each fragment's. -/
theorem tokenize_getFromClause_toBuilder (hr : r.Valid)
    (hplain : ∀ c ∈ r.concepts, c.PlainName backslashEscapes) :
    ∃ text, (getFromClause (r.toBuilder : FilterQueryBuilder T)).1 = some text ∧
      tokenize backslashEscapes text =
        some (.word T.table :: .word "AS" :: .word kBaseTableAlias ::
          ((joinOrder r.concepts).map fun c => (lexPieces backslashEscapes .idle
            (conceptJoinPieces T kBaseTableAlias c (r.aliasOf c))).2).flatten) := by
  refine ⟨_, getFromClause_toBuilder_eq hr, ?_⟩
  have hfrag : ∀ c ∈ joinOrder r.concepts,
      lexRun backslashEscapes .idle (conceptJoinTable T kBaseTableAlias c (r.aliasOf c)).toList =
        (.idle, (lexPieces backslashEscapes .idle
          (conceptJoinPieces T kBaseTableAlias c (r.aliasOf c))).2) := fun c hc =>
    lexRun_conceptJoinTable backslashEscapes (mem_joinOrder.1 hc) (hplain c (mem_joinOrder.1 hc))
  have hrun := lexRun_flatten backslashEscapes ((getBaseNodeTable T kBaseTableAlias).toList ::
      (joinOrder r.concepts).map fun c =>
        (conceptJoinTable T kBaseTableAlias c (r.aliasOf c)).toList)
    (by
      simp only [List.mem_cons, List.mem_map]
      rintro cs (rfl | ⟨c, hc, rfl⟩)
      · rw [lexRun_getBaseNodeTable]
      · rw [hfrag c hc])
  simp only [List.map_cons, List.map_map, List.flatten_cons, lexRun_getBaseNodeTable] at hrun
  rw [List.map_congr_left (g := fun c => (lexPieces backslashEscapes .idle
    (conceptJoinPieces T kBaseTableAlias c (r.aliasOf c))).2)
    fun c hc => by simp only [Function.comp_apply, hfrag c hc]] at hrun
  have htext : (String.join (getBaseNodeTable T kBaseTableAlias ::
      (joinOrder r.concepts).map fun c =>
        conceptJoinTable T kBaseTableAlias c (r.aliasOf c))).toList
      = (getBaseNodeTable T kBaseTableAlias).toList ++ ((joinOrder r.concepts).map fun c =>
        (conceptJoinTable T kBaseTableAlias c (r.aliasOf c)).toList).flatten := by
    simp only [String.toList, String.data_join, List.map_cons, List.map_map, List.flatten_cons]
    rfl
  rw [tokenize_of_idle _ (by rw [htext, hrun]), htext, hrun]
  rfl

/-- The FROM clause of a layout parses to the base table and the parse trees of the
fragments. -/
theorem parse_getFromClause_toBuilder (hr : r.Valid)
    (hplain : ∀ c ∈ r.concepts, c.PlainName backslashEscapes) :
    ∃ text ts, (getFromClause (r.toBuilder : FilterQueryBuilder T)).1 = some text ∧
      tokenize backslashEscapes text = some ts ∧
      parseFromClause ts = some ⟨T.table, kBaseTableAlias,
        (joinOrder r.concepts).filterMap fun c =>
          conceptJoin T kBaseTableAlias c (r.aliasOf c)⟩ := by
  obtain ⟨text, htext, hts⟩ := tokenize_getFromClause_toBuilder backslashEscapes hr hplain
  exact ⟨text, _, htext, hts, parseFromClause_flatten (fun c _ =>
    (joinTokens_conceptJoinPieces backslashEscapes T kBaseTableAlias c (r.aliasOf c)).lex.2) _ _⟩

end Parse

/-! ### Runs of the builder -/

/-- A property of the concepts of the visited columns, checked on the list of those
concepts. -/
theorem forall_concept_of_mem_filterMap {P : Concept → Prop}
    {nodes : List ResolvedExpressionColumn}
    (h : ∀ c ∈ nodes.filterMap ResolvedExpressionColumn.concept, P c) :
    ∀ node ∈ nodes, ∀ c, node.concept = some c → P c :=
  fun node hn c hc => h c (List.mem_filterMap.2 ⟨node, hn, hc⟩)

/-- **The FROM clause parses.** On every state reached from the constructor, provided no
visited property name holds a double quote (nor, where a backslash escapes, a backslash),
`GetFromClause` returns text that lexes and parses to the base table of `T` under
`kBaseTableAlias` followed by `joinTrees`: for each mentioned concept, in the order of
`GetFromClause`'s loops, the parse tree of its template under its alias.

**Proof sketch.** The state is the layout of a valid registry (`run_snd_init`); on it the text
is the base table and one fragment per concept (`getFromClause_toBuilder_eq`). Each fragment
lexes back to between tokens (`joinTokens_conceptJoinPieces`), so the tokens of the text are
the fragments' in turn, and `many join` reads them one fragment at a time
(`parseFromClause_flatten`). -/
theorem getFromClause_parses (T : Node) (toIdentifierLiteral : String → String)
    (backslashEscapes : Bool) (cs : List Call)
    (hplain : ∀ node, .visitResolvedExpressionColumn node ∈ cs →
      ∀ c, node.concept = some c → c.PlainName backslashEscapes) :
    let s := (run toIdentifierLiteral cs (FilterQueryBuilder.init : FilterQueryBuilder T)).2
    ∃ text ts, (getFromClause s).1 = some text ∧ tokenize backslashEscapes text = some ts ∧
      parseFromClause ts = some ⟨T.table, kBaseTableAlias, s.joinTrees⟩ := by
  intro s
  have hs : s = (cs.foldl call empty).toBuilder := run_snd_init _ cs
  have hplain' : ∀ c ∈ (cs.foldl call empty).concepts, c.PlainName backslashEscapes :=
    fun c hc => match (empty.mem_concepts_foldl_call hc).resolve_left (List.not_mem_nil _) with
      | ⟨node, hn, hc⟩ => hplain node hn c hc
  rw [hs, joinTrees_toBuilder]
  exact parse_getFromClause_toBuilder backslashEscapes (valid_foldl_call cs) hplain'

theorem getFromClause_parses_accuracy :
    let s := (run id [.visitResolvedExpressionColumn ⟨true, "properties_accuracy"⟩,
      .getFromClause] (FilterQueryBuilder.init : FilterQueryBuilder .artifact)).2
    ∃ text ts, (getFromClause s).1 = some text ∧ tokenize true text = some ts ∧
      parseFromClause ts = some ⟨Node.artifact.table, kBaseTableAlias, s.joinTrees⟩ :=
  getFromClause_parses .artifact id true _ fun node hn => by
    simp only [List.mem_cons, List.mem_nil_iff, reduceCtorEq, or_false,
      Call.visitResolvedExpressionColumn.injEq] at hn
    subst hn
    exact forall_concept_of_mem_filterMap (by decide) _ (List.mem_singleton_self _)

/-- The columns of `properties_accuracy.double_value > 0.9 AND
custom_properties_owner.string_value = "alice"` on artifacts: two property joins, keyed by the
names without their prefixes, under two aliases. -/
example :
    let out := run id [.visitResolvedExpressionColumn ⟨true, "properties_accuracy"⟩,
      .visitResolvedExpressionColumn ⟨true, "custom_properties_owner"⟩]
      (FilterQueryBuilder.init : FilterQueryBuilder .artifact)
    out.1 = [.fragment (.ok "table_1"), .fragment (.ok "table_2")] ∧
      out.2.joinTrees = [propertyJoin .artifact kBaseTableAlias "table_1" "accuracy" false,
        propertyJoin .artifact kBaseTableAlias "table_2" "owner" true] := ⟨rfl, rfl⟩

/-- The contexts of an execution are joined through `Association`. -/
example :
    (run id [.visitResolvedExpressionColumn ⟨true, "contexts_pipeline"⟩]
      (FilterQueryBuilder.init : FilterQueryBuilder .execution)).2.joinTrees =
      [contextJoin "Association" "execution_id" kBaseTableAlias "table_1"] := rfl

/-- A run of visits on a fresh builder leaves the layout of the registry of its visits. When
the visited property names are plain, its FROM clause parses to the base table and the join of
each concept the visited columns denote. -/
theorem parse_getFromClause_visits (T : Node) (toIdentifierLiteral : String → String)
    (backslashEscapes : Bool) {nodes : List ResolvedExpressionColumn}
    (hplain : ∀ node ∈ nodes, ∀ c, node.concept = some c → c.PlainName backslashEscapes) :
    (run toIdentifierLiteral (nodes.map .visitResolvedExpressionColumn)
      (FilterQueryBuilder.init : FilterQueryBuilder T)).2 = (nodes.foldl visit empty).toBuilder ∧
    ∃ text ts, (getFromClause ((nodes.foldl visit empty).toBuilder : FilterQueryBuilder T)).1 =
        some text ∧ tokenize backslashEscapes text = some ts ∧
      parseFromClause ts = some ⟨T.table, kBaseTableAlias,
        (joinOrder (nodes.foldl visit empty).concepts).filterMap
          fun c => conceptJoin T kBaseTableAlias c ((nodes.foldl visit empty).aliasOf c)⟩ := by
  refine ⟨by rw [← toBuilder_empty, run_visits_toBuilder], parse_getFromClause_toBuilder
    backslashEscapes (foldl_visit_eq_foldl_call nodes empty ▸ valid_foldl_call _) fun c h => ?_⟩
  obtain ⟨node, hn, hcn⟩ := (mem_concepts_foldl_visit.1 h).1
  exact hplain node hn c hcn

/-- **The aliases of the FROM clause.** Over any sequence of column references visited on a
fresh builder, if every concept they denote has a join for `T` and every property name is
plain, the FROM clause lexes and parses, the aliases it introduces (the base table's and one
per join) are pairwise distinct, and they are exactly `kBaseTableAlias` and the aliases the
visits rendered.

**Proof sketch.** The FROM clause parses to one join per mentioned concept
(`parse_getFromClause_toBuilder`), and each join introduces its concept's alias
(`tableAlias_of_conceptJoin`). The concepts are those of the visited columns
(`mem_concepts_foldl_call`), each once (`nodup_joinOrder`), and registry aliases are
injective (`aliasOf_inj`). -/
theorem fromClause_aliases_eq_rendered (T : Node) (toIdentifierLiteral : String → String)
    (backslashEscapes : Bool) (nodes : List ResolvedExpressionColumn)
    (hnodes : ∀ node ∈ nodes, ∀ c, node.concept = some c →
      c.HasJoin T ∧ c.PlainName backslashEscapes) :
    let s := (run toIdentifierLiteral (nodes.map .visitResolvedExpressionColumn)
      (FilterQueryBuilder.init : FilterQueryBuilder T)).2
    ∃ text ts f, (getFromClause s).1 = some text ∧ tokenize backslashEscapes text = some ts ∧
      parseFromClause ts = some f ∧ f.aliases.Nodup ∧
      ∀ a, a ∈ f.aliases ↔ a = kBaseTableAlias ∨
        ∃ node ∈ nodes, ∃ c, node.concept = some c ∧ s.aliasOf c = some a := by
  intro s
  obtain ⟨hs, text, ts, htext, hts, hparse⟩ := parse_getFromClause_visits T toIdentifierLiteral
    backslashEscapes fun node hn c hc => (hnodes node hn c hc).2
  change s = _ at hs
  set r := nodes.foldl visit empty
  have hfrom : ∀ c ∈ r.concepts, ∃ node ∈ nodes, node.concept = some c := fun c hc =>
    (mem_concepts_foldl_visit.1 hc).1
  have hc : ∀ c ∈ r.concepts, c.HasJoin T := fun c hc =>
    match hfrom c hc with | ⟨node, hn, hc⟩ => (hnodes node hn c hc).1
  have haliases : ((joinOrder r.concepts).filterMap fun c =>
      conceptJoin T kBaseTableAlias c (r.aliasOf c)).map (fun j => j.tableAlias) =
        (joinOrder r.concepts).map r.aliasOf := by
    rw [List.map_filterMap, ← List.filterMap_eq_map]
    refine List.filterMap_congr fun c h => ?_
    obtain ⟨j, hj⟩ :=
      Option.isSome_iff_exists.1 (isSome_conceptJoin_iff.2 (hc c (mem_joinOrder.1 h)))
    rw [hj, Option.map_some', tableAlias_of_conceptJoin hj]
    rfl
  have hbase : ∀ c ∈ r.concepts, kBaseTableAlias ≠ r.aliasOf c := fun c h e =>
    r.aliasOf_ne_kBaseTableAlias h e.symm
  refine ⟨text, ts, _, hs ▸ htext, hts, hparse, ?_, fun a => ?_⟩
  · simp only [FromClause.aliases, haliases]
    refine List.nodup_cons.2 ⟨fun h => ?_, (nodup_joinOrder r.nodup).map_on
      fun c h d h' e => (r.aliasOf_inj (.inr (mem_joinOrder.1 h)) (.inr (mem_joinOrder.1 h'))).1 e⟩
    obtain ⟨c, h, e⟩ := List.mem_map.1 h
    exact hbase c (mem_joinOrder.1 h) e.symm
  · simp only [FromClause.aliases, haliases, List.mem_cons, List.mem_map, mem_joinOrder, hs,
      aliasOf_toBuilder]
    constructor
    · rintro (rfl | ⟨c, h, rfl⟩)
      · exact .inl rfl
      · obtain ⟨node, hn, hcn⟩ := hfrom c h
        exact .inr ⟨node, hn, c, hcn, by simp [Mentioned, h]⟩
    · rintro (rfl | ⟨node, -, c, -, h⟩)
      · exact .inl rfl
      · split_ifs at h with hm
        cases h
        rcases hm with rfl | hm
        · exact .inl rfl
        · exact .inr ⟨c, hm, rfl⟩

theorem fromClause_aliases_eq_rendered_accuracy_type_uri :
    let nodes : List ResolvedExpressionColumn :=
      [⟨true, "properties_accuracy"⟩, ⟨false, "type"⟩, ⟨false, "uri"⟩]
    let s := (run id (nodes.map .visitResolvedExpressionColumn)
      (FilterQueryBuilder.init : FilterQueryBuilder .artifact)).2
    ∃ text ts f, (getFromClause s).1 = some text ∧ tokenize true text = some ts ∧
      parseFromClause ts = some f ∧ f.aliases.Nodup ∧
      ∀ a, a ∈ f.aliases ↔ a = kBaseTableAlias ∨
        ∃ node ∈ nodes, ∃ c, node.concept = some c ∧ s.aliasOf c = some a :=
  fromClause_aliases_eq_rendered .artifact id true _
    (forall_concept_of_mem_filterMap (by decide))

/-- Why `fromClause_aliases_eq_rendered` asks for a join: for `T = Context` the visitor accepts
a `contexts_` column and renders it with the fresh alias `table_1`, but the context template of
a context is empty, so the FROM clause is the base table alone and no join introduces
`table_1`. -/
theorem context_reference_has_no_join :
    let out := run id [.visitResolvedExpressionColumn ⟨true, "contexts_c"⟩]
      (FilterQueryBuilder.init : FilterQueryBuilder .context)
    out.1 = [.fragment (.ok "table_1")] ∧
      out.2.aliasOf ⟨.context, "contexts_c"⟩ = some "table_1" ∧
      (getFromClause out.2).1 = some "Context AS table_0 " ∧
      tokenize true "Context AS table_0 " = some [.word "Context", .word "AS", .word "table_0"] ∧
      parseFromClause [.word "Context", .word "AS", .word "table_0"] =
        some ⟨"Context", "table_0", []⟩ :=
  ⟨rfl, rfl, rfl, rfl, rfl⟩

/-- **Attribute columns need no join.** When every visited column is a plain attribute (not a
struct and not `type`), each is rendered as the base alias followed by its name, and the FROM
clause is the base table alone.

**Proof sketch.** Such a column denotes `baseConcept`, which every registry has mentioned, so
each visit leaves the empty registry as it is; on the empty registry `GetFromClause` emits no
fragment after the base table (`getFromClause_toBuilder_eq`). -/
theorem attribute_columns_need_no_join (T : Node) (toIdentifierLiteral : String → String)
    (nodes : List ResolvedExpressionColumn)
    (hnodes : ∀ node ∈ nodes, node.isStruct = false ∧ node.name ≠ "type") :
    let out := run toIdentifierLiteral (nodes.map .visitResolvedExpressionColumn)
      (FilterQueryBuilder.init : FilterQueryBuilder T)
    out.1 = nodes.map (fun node => .fragment (.ok
      (toIdentifierLiteral kBaseTableAlias ++ "." ++ toIdentifierLiteral node.name))) ∧
    (getFromClause out.2).1 = some (getBaseNodeTable T kBaseTableAlias) := by
  intro out
  have hbase : ∀ node ∈ nodes, node.concept = some baseConcept := fun node hn => by
    simp [ResolvedExpressionColumn.concept, (hnodes node hn).1, (hnodes node hn).2]
  have hempty : nodes.foldl visit empty = empty := by
    induction nodes with
    | nil => rfl
    | cons node nodes ih =>
      simp only [List.foldl_cons, visit, hbase node (List.mem_cons_self _ _), mention,
        dif_pos empty.mentioned_base]
      exact ih (fun n hn => hnodes n (List.mem_cons_of_mem _ hn))
        (fun n hn => hbase n (List.mem_cons_of_mem _ hn))
  have hout : out = (nodes.map (visitResult toIdentifierLiteral empty), empty.toBuilder) := by
    simp only [out, ← toBuilder_empty, run_visits_toBuilder, hempty]
  refine ⟨?_, ?_⟩
  · rw [hout]
    refine List.map_congr_left fun node hn => ?_
    simp [visitResult, hbase node hn, renderColumn, (hnodes node hn).1]
  · rw [hout, getFromClause_toBuilder_eq valid_empty]
    simp [empty, joinOrder, joinAtomTypes, String.join]

theorem attribute_columns_need_no_join_uri :
    let out := run id [.visitResolvedExpressionColumn ⟨false, "uri"⟩]
      (FilterQueryBuilder.init : FilterQueryBuilder .artifact)
    out.1 = [.fragment (.ok "table_0.uri")] ∧
    (getFromClause out.2).1 = some (getBaseNodeTable .artifact kBaseTableAlias) :=
  attribute_columns_need_no_join .artifact id [⟨false, "uri"⟩] (by decide)

set_option maxRecDepth 20000 in
/-- A property name holding double quotes ends the string literal of its join early. For
`T = Artifact` and the column `custom_properties_x" OR name = "y`, the property subquery of
the FROM clause reads `WHERE name = "x" OR name = "y" AND ...`: the literal's value is `x`, not
the name, and the tokens `OR name = "y"` are added to the SQL. -/
theorem property_name_quote_injects_tokens (toIdentifierLiteral : String → String)
    (backslashEscapes : Bool) :
    ∃ text ts, (getFromClause (run toIdentifierLiteral
        [.visitResolvedExpressionColumn ⟨true, "custom_properties_x\" OR name = \"y"⟩]
        (FilterQueryBuilder.init : FilterQueryBuilder .artifact)).2).1 = some text ∧
      tokenize backslashEscapes text = some ts ∧ Token.quoted "x\" OR name = \"y" ∉ ts ∧
      [.word "name", .symbol '=', .quoted "x", .word "OR", .word "name", .symbol '=',
        .quoted "y", .word "AND"] <:+: ts := by
  rw [run_snd_init]
  cases backslashEscapes <;> exact ⟨_, _, rfl, rfl, by decide, by decide⟩

end MlMetadata
