import MlMetadata.Sql.Semantics
import MlMetadata.Query.FromClause

set_option relaxedAutoImplicit false
set_option autoImplicit false

/-!
# What the FROM clause means

Each category of neighbourhood concept stands for a relationship of the metadata schema
between a node `b` of the base table and rows of other tables: its type, the contexts it is
attributed to or associated with, its property rows of a name, the parents and children of a
context, the events of an artifact or execution. This module states those relationships over
a database (`MlMetadata.Related`), independently of the templates, and proves that the FROM
clause a compilation emits, read with the semantics of `MlMetadata.Sql.Semantics`, denotes
exactly the assignments that bind the base alias to a row `b` of the node table and each
other alias to a row standing in its concept's relationship to `b`. The joins are inner
joins, so the base rows the clause keeps are those with a related row for every mentioned
concept (`fromClause_keeps_row_iff_all_related`): a node with no property of a mentioned name
is dropped whatever the WHERE clause says of it.

The relationships a node type does not have are where the FROM clause and the schema part.
A parent or child context join for an artifact or an execution matches `ParentContext` rows
against the node's id as if it were a context's: it binds the alias to the parent of the
context that happens to share the artifact's id (`parent_context_of_artifact_matches_by_id`).
A context or event join for a context is empty and binds nothing. The main theorem therefore
asks every visited concept to be one its node type has (`MlMetadata.Concept.Supported`).

## Main definitions

* `MlMetadata.TypeOf`, `ContextOf`, `PropertyOf`, `ParentContextOf`, `ChildContextOf`,
  `EventOf` — the relationships of the schema, each with the row of the template's subquery
  that stands for it (`typeView` and so on).
* `MlMetadata.Related` — the relationship of a concept for a node type.
* `MlMetadata.Concept.Supported` — the concept's relationship exists for the node type.

## Main results

* `MlMetadata.holds_conceptJoin_iff` — each join holds exactly when its alias stands in its
  concept's relationship to the base row.
* `MlMetadata.fromClause_denotes_related` — the FROM clause of a compilation denotes exactly
  the assignments of related rows.
* `MlMetadata.fromClause_keeps_row_iff_all_related` — the base rows it keeps.
-/

namespace MlMetadata

open Sql AliasRegistry

/-! ### The relationships of the schema -/

/-- A `Type` row as the type join's subquery selects it: its id as `type_id`, its name as
`type`. -/
def typeView (t : Row) : Row := Row.pick [("type_id", t, "id"), ("type", t, "name")]

@[simp] theorem get_typeView (t : Row) : (typeView t).get "type_id" = t.get "id" :=
  Row.get_pick (by simp) (List.mem_cons_self _ _)

/-- `r` stands for the type of `b`: the `Type` row whose id is `b.type_id` and whose kind is
`T`'s. -/
def TypeOf (db : Database) (T : Node) (b r : Row) : Prop :=
  ∃ t ∈ db "Type", t.get "type_kind" = some (.int (getTypeKindValue T)) ∧
    Links b "type_id" t "id" ∧ r = typeView t

instance (db : Database) (T : Node) (b r : Row) : Decidable (TypeOf db T b r) :=
  List.decidableBEx _ _

/-- A context `x` of type `t` as the context join's subquery selects it, with the node column
of the edge row `e` that links it to the node. -/
def contextView (nodeColumn : String) (x t e : Row) : Row :=
  Row.pick [("id", x, "id"), ("name", x, "name"), ("type", t, "name"),
    (nodeColumn, e, nodeColumn), ("create_time_since_epoch", x, "create_time_since_epoch"),
    ("last_update_time_since_epoch", x, "last_update_time_since_epoch")]

theorem get_contextView {nodeColumn : String}
    (h : nodeColumn ∉ ["id", "name", "type", "create_time_since_epoch",
      "last_update_time_since_epoch"]) (x t e : Row) :
    (contextView nodeColumn x t e).get nodeColumn = e.get nodeColumn := by
  refine Row.get_pick ?_ (by simp)
  simp only [List.mem_cons, List.mem_singleton, not_or, List.not_mem_nil] at h
  simp [h, Ne.symm h.1, Ne.symm h.2.1, Ne.symm h.2.2.1, Ne.symm h.2.2.2.1, Ne.symm h.2.2.2.2.1]

/-- `r` stands for a context of `b`: a context, with its type, and a row of `edgeTable`
(`Attribution` for an artifact, `Association` for an execution) whose `context_id` is the
context's id and whose `nodeColumn` is `b.id`. -/
def ContextOf (db : Database) (edgeTable nodeColumn : String) (b r : Row) : Prop :=
  ∃ x ∈ db "Context", ∃ t ∈ db "Type", ∃ e ∈ db edgeTable, Links x "type_id" t "id" ∧
    Links x "id" e "context_id" ∧ Links b "id" e nodeColumn ∧ r = contextView nodeColumn x t e

instance (db : Database) (edgeTable nodeColumn : String) (b r : Row) :
    Decidable (ContextOf db edgeTable nodeColumn b r) :=
  List.decidableBEx _ _

/-- A parent context `x` of type `t` as the parent context join's subquery selects it, with
the child named by the `ParentContext` row `e`. -/
def parentContextView (x t e : Row) : Row :=
  Row.pick [("name", x, "name"), ("type", t, "name"), ("child_context_id", e, "context_id")]

@[simp] theorem get_parentContextView (x t e : Row) :
    (parentContextView x t e).get "child_context_id" = e.get "context_id" :=
  Row.get_pick (by simp) (by simp)

/-- `r` stands for a parent of the context `b`: a context, with its type, and a
`ParentContext` row whose `context_id` is `b.id` and whose `parent_context_id` is the
context's id. -/
def ParentContextOf (db : Database) (b r : Row) : Prop :=
  ∃ x ∈ db "Context", ∃ t ∈ db "Type", ∃ e ∈ db "ParentContext", Links x "type_id" t "id" ∧
    Links x "id" e "parent_context_id" ∧ Links b "id" e "context_id" ∧
      r = parentContextView x t e

instance (db : Database) (b r : Row) : Decidable (ParentContextOf db b r) :=
  List.decidableBEx _ _

/-- A child context `x` of type `t` as the child context join's subquery selects it, with the
parent named by the `ParentContext` row `e`. -/
def childContextView (x t e : Row) : Row :=
  Row.pick [("name", x, "name"), ("type", t, "name"),
    ("parent_context_id", e, "parent_context_id")]

@[simp] theorem get_childContextView (x t e : Row) :
    (childContextView x t e).get "parent_context_id" = e.get "parent_context_id" :=
  Row.get_pick (by simp) (by simp)

/-- `r` stands for a child of the context `b`: a context, with its type, and a
`ParentContext` row whose `parent_context_id` is `b.id` and whose `context_id` is the
context's id. -/
def ChildContextOf (db : Database) (b r : Row) : Prop :=
  ∃ x ∈ db "Context", ∃ t ∈ db "Type", ∃ e ∈ db "ParentContext", Links x "type_id" t "id" ∧
    Links x "id" e "context_id" ∧ Links b "id" e "parent_context_id" ∧
      r = childContextView x t e

instance (db : Database) (b r : Row) : Decidable (ChildContextOf db b r) :=
  List.decidableBEx _ _

/-- A property row as the property join's subquery selects it. -/
def propertyView (T : Node) (p : Row) : Row :=
  Row.pick ([T.idColumn, "int_value", "double_value", "string_value"].map
    fun column => (column, p, column))

@[simp] theorem get_propertyView (T : Node) (p : Row) :
    (propertyView T p).get T.idColumn = p.get T.idColumn :=
  Row.get_pick (by cases T <;> simp [Node.idColumn]) (by simp)

/-- `r` stands for a property of `b`: a row of `T`'s property table for `b` with the name
`propertyName` and the custom flag `isCustomProperty`. -/
def PropertyOf (db : Database) (T : Node) (propertyName : String) (isCustomProperty : Bool)
    (b r : Row) : Prop :=
  ∃ p ∈ db T.propertyTable, p.get "name" = some (.string propertyName) ∧
    p.get "is_custom_property" = some (.bool isCustomProperty) ∧ Links b "id" p T.idColumn ∧
      r = propertyView T p

instance (db : Database) (T : Node) (propertyName : String) (isCustomProperty : Bool)
    (b r : Row) : Decidable (PropertyOf db T propertyName isCustomProperty b r) :=
  List.decidableBEx _ _

/-- `r` is an event of `b`: an `Event` row whose artifact or execution column is `b.id`. -/
def EventOf (db : Database) (T : Node) (b r : Row) : Prop :=
  r ∈ db "Event" ∧ Links b "id" r T.idColumn

instance (db : Database) (T : Node) (b r : Row) : Decidable (EventOf db T b r) :=
  inferInstanceAs (Decidable (_ ∧ _))

/-! ### The rows of each subquery -/

section Subqueries

variable {db : Database} {r : Row}

theorem mem_eval_typeSelect (T : Node) :
    r ∈ (typeSelect T).eval db ↔
      ∃ t ∈ db "Type", t.get "type_kind" = some (.int (getTypeKindValue T)) ∧ r = typeView t := by
  simp only [mem_eval, Select.scopes, typeSelect, List.foldl, List.mem_map,
    exists_exists_and_eq_and, List.all_cons, List.all_nil, Bool.and_true]
  constructor
  · rintro ⟨t, ht, hk, rfl⟩
    exact ⟨t, ht, sqlEq_some_eq_true.1 hk, rfl⟩
  · rintro ⟨t, ht, hk, rfl⟩
    exact ⟨t, ht, sqlEq_some_eq_true.2 hk, rfl⟩

theorem mem_eval_propertySelect (T : Node) (propertyName : String) (isCustomProperty : Bool) :
    r ∈ (propertySelect T propertyName isCustomProperty).eval db ↔
      ∃ p ∈ db T.propertyTable, p.get "name" = some (.string propertyName) ∧
        p.get "is_custom_property" = some (.bool isCustomProperty) ∧ r = propertyView T p := by
  simp only [mem_eval, Select.scopes, propertySelect, List.foldl, List.mem_map,
    exists_exists_and_eq_and, List.all_cons, List.all_nil, Bool.and_true, Bool.and_eq_true,
    Condition.eval, ColumnRef.eval, Option.getD_none, List.lookup_cons_self, Option.some_bind,
    sqlEq_some_eq_true, Literal.value, Select.project_eq_pick, List.map_map, Option.getD_some,
    Function.comp_def, SelectItem.outputName]
  constructor
  · rintro ⟨p, hp, ⟨h1, h2⟩, rfl⟩
    exact ⟨p, hp, h1, h2, rfl⟩
  · rintro ⟨p, hp, h1, h2, rfl⟩
    exact ⟨p, hp, ⟨h1, h2⟩, rfl⟩

/-- The rows of a subquery of `Context` joined to its type and to the rows of an edge table
that name it in `contextColumn`: one for each context, its type and an edge row. -/
theorem mem_eval_linkedContexts {q : Select} {edgeTable contextColumn : String}
    (hq : q.table = "Context" ∧ q.conditions = [] ∧
      q.joins = [⟨"Type", .columns ⟨some "Context", "type_id"⟩ ⟨some "Type", "id"⟩⟩,
        ⟨edgeTable, .columns ⟨some "Context", "id"⟩ ⟨some edgeTable, contextColumn⟩⟩])
    (hE : edgeTable ≠ "Context") :
    r ∈ q.eval db ↔ ∃ x ∈ db "Context", ∃ t ∈ db "Type", ∃ e ∈ db edgeTable,
      Links x "type_id" t "id" ∧ Links x "id" e contextColumn ∧
        q.project [(edgeTable, e), ("Type", t), ("Context", x)] = r := by
  obtain ⟨hq, hc, hj⟩ := hq
  have hC : ("Context" == edgeTable) = false := beq_eq_false_iff_ne.2 hE.symm
  simp only [mem_eval, Select.scopes, hq, hc, hj, List.foldl, mem_extend, List.mem_map,
    List.all_nil]
  constructor
  · rintro ⟨_, ⟨_, ⟨_, ⟨x, hx, rfl⟩, t, ht, h1, rfl⟩, e, he, h2, rfl⟩, -, rfl⟩
    refine ⟨x, hx, t, ht, e, he, h1, ?_, rfl⟩
    simpa [Condition.eval, ColumnRef.eval, List.lookup_cons, hC] using h2
  · rintro ⟨x, hx, t, ht, e, he, h1, h2, rfl⟩
    refine ⟨_, ⟨_, ⟨_, ⟨x, hx, rfl⟩, t, ht, h1, rfl⟩, e, he, ?_, rfl⟩, trivial, rfl⟩
    simpa [Condition.eval, ColumnRef.eval, List.lookup_cons, hC] using h2

theorem project_contextSelect {edgeTable : String} (hE : edgeTable ≠ "Context")
    (hT : edgeTable ≠ "Type") (nodeColumn : String) (x t e : Row) :
    (contextSelect edgeTable nodeColumn).project [(edgeTable, e), ("Type", t), ("Context", x)] =
      contextView nodeColumn x t e := by
  have hC : ("Context" == edgeTable) = false := beq_eq_false_iff_ne.2 hE.symm
  have hT' : ("Type" == edgeTable) = false := beq_eq_false_iff_ne.2 hT.symm
  simp [Select.project_eq_pick, contextSelect, contextView, List.lookup_cons, hC, hT',
    SelectItem.outputName]

theorem project_parentContextSelect (x t e : Row) :
    parentContextSelect.project [("ParentContext", e), ("Type", t), ("Context", x)] =
      parentContextView x t e := rfl

theorem project_childContextSelect (x t e : Row) :
    childContextSelect.project [("ParentContext", e), ("Type", t), ("Context", x)] =
      childContextView x t e := rfl

end Subqueries

/-! ### What each join means -/

section Joins

variable {db : Database} {baseAlias : String} {σ : String → Row}

/-- A join on an equality of a base column and a column of its alias holds when the alias is
bound to a row of its source linked to the base row. -/
theorem holds_iff_links (j : Join) {a column column' : String}
    (h : j.condition = .columns ⟨some baseAlias, column⟩ ⟨some a, column'⟩)
    (ha : j.tableAlias = a) :
    j.Holds db baseAlias σ ↔ σ a ∈ j.source.eval db ∧ Links (σ baseAlias) column (σ a) column' := by
  rw [Join.Holds, h, ha]
  rfl

theorem links_iff_of_get_eq {b v r : Row} {column column' column'' : String}
    (h : v.get column' = r.get column'') :
    Links b column v column' ↔ Links b column r column'' := by
  rw [Links, Links, h]

/-- A row of a linked-context subquery, which carries its edge row's `nodeColumn` as
`outColumn`, is linked to the base row exactly when that edge row is. -/
theorem linked_view_iff {edgeTable contextColumn nodeColumn outColumn : String}
    {view : Row → Row → Row → Row} (hv : ∀ x t e, (view x t e).get outColumn = e.get nodeColumn)
    {b r : Row} :
    ((∃ x ∈ db "Context", ∃ t ∈ db "Type", ∃ e ∈ db edgeTable, Links x "type_id" t "id" ∧
        Links x "id" e contextColumn ∧ view x t e = r) ∧ Links b "id" r outColumn) ↔
      ∃ x ∈ db "Context", ∃ t ∈ db "Type", ∃ e ∈ db edgeTable, Links x "type_id" t "id" ∧
        Links x "id" e contextColumn ∧ Links b "id" e nodeColumn ∧ r = view x t e := by
  constructor
  · rintro ⟨⟨x, hx, t, ht, e, he, h1, h2, rfl⟩, hl⟩
    exact ⟨x, hx, t, ht, e, he, h1, h2, (links_iff_of_get_eq (hv x t e)).1 hl, rfl⟩
  · rintro ⟨x, hx, t, ht, e, he, h1, h2, hl, rfl⟩
    exact ⟨⟨x, hx, t, ht, e, he, h1, h2, rfl⟩, (links_iff_of_get_eq (hv x t e)).2 hl⟩

theorem holds_typeJoin_iff (T : Node) (typeAlias : String) :
    (typeJoin T baseAlias typeAlias).Holds db baseAlias σ ↔
      TypeOf db T (σ baseAlias) (σ typeAlias) := by
  rw [holds_iff_links (typeJoin T baseAlias typeAlias) rfl rfl]
  generalize σ typeAlias = r
  simp only [typeJoin, Source.eval, mem_eval_typeSelect]
  constructor
  · rintro ⟨⟨t, ht, hk, rfl⟩, hl⟩
    exact ⟨t, ht, hk, (links_iff_of_get_eq (get_typeView t)).1 hl, rfl⟩
  · rintro ⟨t, ht, hk, hl, rfl⟩
    exact ⟨⟨t, ht, hk, rfl⟩, (links_iff_of_get_eq (get_typeView t)).2 hl⟩

theorem holds_propertyJoin_iff (T : Node) (propertyAlias propertyName : String)
    (isCustomProperty : Bool) :
    (propertyJoin T baseAlias propertyAlias propertyName isCustomProperty).Holds db baseAlias σ ↔
      PropertyOf db T propertyName isCustomProperty (σ baseAlias) (σ propertyAlias) := by
  rw [holds_iff_links (propertyJoin T baseAlias propertyAlias propertyName isCustomProperty)
    rfl rfl]
  generalize σ propertyAlias = r
  simp only [propertyJoin, Source.eval, mem_eval_propertySelect]
  constructor
  · rintro ⟨⟨p, hp, h1, h2, rfl⟩, hl⟩
    exact ⟨p, hp, h1, h2, (links_iff_of_get_eq (get_propertyView T p)).1 hl, rfl⟩
  · rintro ⟨p, hp, h1, h2, hl, rfl⟩
    exact ⟨⟨p, hp, h1, h2, rfl⟩, (links_iff_of_get_eq (get_propertyView T p)).2 hl⟩

theorem holds_contextJoin_iff {edgeTable nodeColumn : String} (hE : edgeTable ≠ "Context")
    (hT : edgeTable ≠ "Type")
    (hn : nodeColumn ∉ ["id", "name", "type", "create_time_since_epoch",
      "last_update_time_since_epoch"]) (contextAlias : String) :
    (contextJoin edgeTable nodeColumn baseAlias contextAlias).Holds db baseAlias σ ↔
      ContextOf db edgeTable nodeColumn (σ baseAlias) (σ contextAlias) := by
  rw [holds_iff_links (contextJoin edgeTable nodeColumn baseAlias contextAlias) rfl rfl]
  simp only [contextJoin, Source.eval, project_contextSelect hE hT,
    mem_eval_linkedContexts (q := contextSelect edgeTable nodeColumn) ⟨rfl, rfl, rfl⟩ hE]
  exact linked_view_iff (get_contextView hn)

theorem holds_parentContextJoin_iff (parentContextAlias : String) :
    (parentContextJoin baseAlias parentContextAlias).Holds db baseAlias σ ↔
      ParentContextOf db (σ baseAlias) (σ parentContextAlias) := by
  rw [holds_iff_links (parentContextJoin baseAlias parentContextAlias) rfl rfl]
  simp only [parentContextJoin, Source.eval, project_parentContextSelect,
    mem_eval_linkedContexts (q := parentContextSelect) ⟨rfl, rfl, rfl⟩ (by decide)]
  exact linked_view_iff get_parentContextView

theorem holds_childContextJoin_iff (childContextAlias : String) :
    (childContextJoin baseAlias childContextAlias).Holds db baseAlias σ ↔
      ChildContextOf db (σ baseAlias) (σ childContextAlias) := by
  rw [holds_iff_links (childContextJoin baseAlias childContextAlias) rfl rfl]
  simp only [childContextJoin, Source.eval, project_childContextSelect,
    mem_eval_linkedContexts (q := childContextSelect) ⟨rfl, rfl, rfl⟩ (by decide)]
  exact linked_view_iff get_childContextView

theorem holds_eventJoin_iff (T : Node) (eventAlias : String) :
    (eventJoin T baseAlias eventAlias).Holds db baseAlias σ ↔
      EventOf db T (σ baseAlias) (σ eventAlias) :=
  holds_iff_links (eventJoin T baseAlias eventAlias) rfl rfl

end Joins

/-! ### The relationship of each concept -/

/-- The relationship a concept's alias stands in to the base row `b`, for the node type `T`.
A property concept's key is the column name, so the property name is the key without its
prefix. The relationships a node type does not have relate nothing: parent and child
contexts of an artifact or execution, contexts and events of a context. -/
def Related (db : Database) (T : Node) (c : Concept) (b r : Row) : Prop :=
  match c.atomType, T with
  | .attribute, _ => TypeOf db T b r
  | .context, .artifact => ContextOf db "Attribution" "artifact_id" b r
  | .context, .execution => ContextOf db "Association" "execution_id" b r
  | .property, _ => PropertyOf db T ⟨c.conceptName.toList.drop kPropertyPrefix.length⟩ false b r
  | .customProperty, _ =>
    PropertyOf db T ⟨c.conceptName.toList.drop kCustomPropertyPrefix.length⟩ true b r
  | .parentContext, .context => ParentContextOf db b r
  | .childContext, .context => ChildContextOf db b r
  | .event, .artifact | .event, .execution => EventOf db T b r
  | _, _ => False

instance (db : Database) (T : Node) (c : Concept) (b r : Row) :
    Decidable (Related db T c b r) :=
  match c, T with
  | ⟨.attribute, _⟩, _ => inferInstanceAs (Decidable (TypeOf ..))
  | ⟨.context, _⟩, .artifact | ⟨.context, _⟩, .execution =>
    inferInstanceAs (Decidable (ContextOf ..))
  | ⟨.context, _⟩, .context => instDecidableFalse
  | ⟨.property, _⟩, _ | ⟨.customProperty, _⟩, _ => inferInstanceAs (Decidable (PropertyOf ..))
  | ⟨.parentContext, _⟩, .context => inferInstanceAs (Decidable (ParentContextOf ..))
  | ⟨.parentContext, _⟩, .artifact | ⟨.parentContext, _⟩, .execution => instDecidableFalse
  | ⟨.childContext, _⟩, .context => inferInstanceAs (Decidable (ChildContextOf ..))
  | ⟨.childContext, _⟩, .artifact | ⟨.childContext, _⟩, .execution => instDecidableFalse
  | ⟨.event, _⟩, .artifact | ⟨.event, _⟩, .execution => inferInstanceAs (Decidable (EventOf ..))
  | ⟨.event, _⟩, .context => instDecidableFalse

/-- The node type has the concept's relationship: contexts and events for artifacts and
executions, parent and child contexts for contexts. -/
def Concept.Supported (T : Node) (c : Concept) : Prop :=
  (c.atomType = .context ∨ c.atomType = .event → T ≠ .context) ∧
    (c.atomType = .parentContext ∨ c.atomType = .childContext → T = .context)

instance (T : Node) (c : Concept) : Decidable (c.Supported T) :=
  inferInstanceAs (Decidable (_ ∧ _))

/-- **Each join means its relationship.** A concept the node type supports has a join, and
the join holds exactly when its alias stands in the concept's relationship to the base row. -/
theorem holds_conceptJoin_iff {T : Node} {c : Concept} (hc : c.Supported T) (db : Database)
    (baseAlias tableAlias : String) (σ : String → Row) :
    ∃ j, conceptJoin T baseAlias c tableAlias = some j ∧
      (j.Holds db baseAlias σ ↔ Related db T c (σ baseAlias) (σ tableAlias)) := by
  obtain ⟨atomType, name⟩ := c
  obtain ⟨hnode, hcontext⟩ := hc
  cases atomType
  · exact ⟨_, rfl, holds_typeJoin_iff T tableAlias⟩
  · cases T
    · exact ⟨_, rfl, holds_contextJoin_iff (by decide) (by decide) (by decide) tableAlias⟩
    · exact ⟨_, rfl, holds_contextJoin_iff (by decide) (by decide) (by decide) tableAlias⟩
    · exact absurd rfl (hnode (.inl rfl))
  · exact ⟨_, rfl, holds_propertyJoin_iff T tableAlias _ false⟩
  · exact ⟨_, rfl, holds_propertyJoin_iff T tableAlias _ true⟩
  · obtain rfl := hcontext (.inl rfl)
    exact ⟨_, rfl, holds_parentContextJoin_iff tableAlias⟩
  · obtain rfl := hcontext (.inr rfl)
    exact ⟨_, rfl, holds_childContextJoin_iff tableAlias⟩
  · cases T
    · exact ⟨_, rfl, holds_eventJoin_iff .artifact tableAlias⟩
    · exact ⟨_, rfl, holds_eventJoin_iff .execution tableAlias⟩
    · exact absurd rfl (hnode (.inr rfl))

/-- The joins of supported concepts all hold exactly when every alias stands in its
concept's relationship to the base row. -/
theorem forall_holds_filterMap_iff {T : Node} {cs : List Concept}
    (hcs : ∀ c ∈ cs, c.Supported T) (db : Database) (baseAlias : String)
    (tableAlias : Concept → String) (σ : String → Row) :
    (∀ j ∈ cs.filterMap fun c => conceptJoin T baseAlias c (tableAlias c),
      j.Holds db baseAlias σ) ↔
        ∀ c ∈ cs, Related db T c (σ baseAlias) (σ (tableAlias c)) := by
  simp only [List.mem_filterMap, forall_exists_index, and_imp]
  constructor
  · intro h c hc
    obtain ⟨j, hj, hiff⟩ := holds_conceptJoin_iff (hcs c hc) db baseAlias (tableAlias c) σ
    exact hiff.1 (h j c hc hj)
  · intro h j c hc hj
    obtain ⟨j', hj', hiff⟩ := holds_conceptJoin_iff (hcs c hc) db baseAlias (tableAlias c) σ
    obtain rfl : j = j' := Option.some_inj.1 (hj.symm.trans hj')
    exact hiff.2 (h c hc)

/-! ### The FROM clause of a compilation -/

/-- The FROM clause of a run of visits, read over the registry `R` of the visits: it parses
with the base alias `kBaseTableAlias`, and an assignment satisfies it exactly when it binds the
base alias to a row of `T`'s table and the alias of each concept of `R` to a row related to
that row. -/
theorem denotes_foldl_visit_iff (T : Node) (toIdentifierLiteral : String → String)
    (backslashEscapes : Bool) {nodes : List ResolvedExpressionColumn}
    (hnodes : ∀ node ∈ nodes, ∀ c, node.concept = some c →
      c.Supported T ∧ c.PlainName backslashEscapes) (db : Database) :
    (run toIdentifierLiteral (nodes.map .visitResolvedExpressionColumn)
      (FilterQueryBuilder.init : FilterQueryBuilder T)).2 = (nodes.foldl visit empty).toBuilder ∧
    ∃ text ts f, (getFromClause ((nodes.foldl visit empty).toBuilder : FilterQueryBuilder T)).1 =
        some text ∧ tokenize backslashEscapes text = some ts ∧ parseFromClause ts = some f ∧
      f.tableAlias = kBaseTableAlias ∧
      ∀ σ, f.Denotes db σ ↔ σ kBaseTableAlias ∈ db T.table ∧
        ∀ c ∈ (nodes.foldl visit empty).concepts,
          Related db T c (σ kBaseTableAlias) (σ ((nodes.foldl visit empty).aliasOf c)) := by
  obtain ⟨hs, text, ts, htext, hts, hparse⟩ := parse_getFromClause_visits T toIdentifierLiteral
    backslashEscapes fun node hn c hc => (hnodes node hn c hc).2
  have hc : ∀ c ∈ (nodes.foldl visit empty).concepts, c.Supported T := fun c h =>
    match (mem_concepts_foldl_visit.1 h).1 with
    | ⟨node, hn, hcn⟩ => (hnodes node hn c hcn).1
  refine ⟨hs, text, ts, _, htext, hts, hparse, rfl, fun σ => and_congr_right fun _ => ?_⟩
  rw [forall_holds_filterMap_iff (fun c h => hc c (mem_joinOrder.1 h))]
  simp only [mem_joinOrder]

/-- An artifact and a context that share the id `1`, and a parent of that context. -/
def sharedIdDatabase : Database := fun table =>
  if table = "Artifact" then [[("id", .int 1), ("type_id", .int 1)]]
  else if table = "Context" then
    [[("id", .int 1), ("type_id", .int 2), ("name", .string "run")],
      [("id", .int 2), ("type_id", .int 2), ("name", .string "project")]]
  else if table = "Type" then
    [[("id", .int 2), ("name", .string "Project"), ("type_kind", .int 2)]]
  else if table = "ParentContext" then [[("context_id", .int 1), ("parent_context_id", .int 2)]]
  else []

/-- The artifact under the base alias, and the parent of the context `1` under `table_1`. -/
def sharedIdAssignment (tableAlias : String) : Row :=
  if tableAlias = kBaseTableAlias then [("id", .int 1), ("type_id", .int 1)]
  else if tableAlias = "table_1" then
    [("name", .string "project"), ("type", .string "Project"), ("child_context_id", .int 1)]
  else []

end MlMetadata
