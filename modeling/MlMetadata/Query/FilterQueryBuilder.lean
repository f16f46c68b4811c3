import MlMetadata.Query.JoinTemplates

set_option relaxedAutoImplicit false
set_option autoImplicit false

/-!
# `FilterQueryBuilder<T>`: alias bookkeeping, the column visitor and the FROM clause

The filter query builder walks a resolved predicate once. Each column reference it meets is
rewritten to SQL text over table aliases, and the alias of every neighbourhood concept it
mentions is recorded in `mentioned_alias_`. Afterwards `GetFromClause` reads the recorded
aliases and emits the base table and one join per alias. This module is the builder as a
state machine: the state is `mentioned_alias_` with `alias_index_`, and the client calls are
`VisitResolvedExpressionColumn` and `GetFromClause`.

## Main definitions

* `MlMetadata.FilterQueryBuilder` — the state, and `FilterQueryBuilder.init` the constructor.
* `MlMetadata.getTableAlias` — `GetTableAlias(atom_type, concept_name)`.
* `MlMetadata.visitResolvedExpressionColumn` — `VisitResolvedExpressionColumn(node)`.
* `MlMetadata.getFromClause` — `GetFromClause()`.
* `MlMetadata.Call`, `MlMetadata.run` — a client's calls on one builder, run in order.

## Implementation notes

* `zetasql::ToIdentifierLiteral` is a parameter `toIdentifierLiteral` of the visitor. Table
  aliases reach the WHERE text through it and the FROM text without it.
* `PushQueryFragment(node, text)` hands `text` to the SQL builder; the visitor returns it.
* `mentioned_alias_` maps each `AtomType` to a map from concept names to aliases. The outer
  map is a function here, so `operator[]` on it, which inserts an empty inner map, changes
  nothing. The inner maps are lists in insertion order, the order the spec gives for the
  joins. `operator[]` on an inner map inserts the empty string for a missing key; `subscript`
  models that, since `GetFromClause` reads the base alias this way.
* `alias_index_` is an `int` in the source. It is a `Nat` here: a compilation would have to
  mention `2^31 - 1` distinct concepts before the source's counter overflowed.
-/

namespace MlMetadata

/-- `AtomType`: the kinds of concept `mentioned_alias_` keeps aliases for. -/
inductive AtomType
  | attribute
  | context
  | property
  | customProperty
  | parentContext
  | childContext
  | event
  deriving DecidableEq, Repr

/-- `kTableAliasPrefix`. -/
def kTableAliasPrefix : String := "table_"

/-- `kBaseTableRef`, the concept name of the base table under `ATTRIBUTE`. -/
def kBaseTableRef : String := ""

/-- `kTypeTableRef`, the concept name of the type join under `ATTRIBUTE`. -/
def kTypeTableRef : String := "type"

/-- Modelled from the spec: `kBaseTableAlias`, declared in `filter_query_builder.h`, which
this development does not have. Its value there is `table_0`, the alias the counter would
give as its zeroth. -/
def kBaseTableAlias : String := "table_0"

/-- A concept: an atom type and a concept name, the arguments of `GetTableAlias`. -/
structure Concept where
  atomType : AtomType
  conceptName : String
  deriving DecidableEq, Repr

/-- The alias `StrCat(kTableAliasPrefix, n)`. -/
def aliasName (n : Nat) : String := kTableAliasPrefix ++ toString n

/-- The state of one `FilterQueryBuilder<T>`. -/
@[ext] structure FilterQueryBuilder (T : Node) where
  /-- `mentioned_alias_`: for each atom type, its concept names and their aliases. Modelled
  from the spec: its declaration, in `filter_query_builder.h`, is not in this development; the
  inner maps keep insertion order, the order the spec gives for the joins. -/
  mentionedAlias : AtomType → List (String × String)
  /-- `alias_index_`: how many aliases `GetTableAlias` has minted. -/
  aliasIndex : Nat

namespace FilterQueryBuilder

variable {T : Node}

/-- `FilterQueryBuilder<T>::FilterQueryBuilder()`: the base table is mentioned from the start,
under `(ATTRIBUTE, kBaseTableRef)` with alias `kBaseTableAlias`, and `alias_index_` is `0`. -/
def init : FilterQueryBuilder T where
  mentionedAlias a := if a = .attribute then [(kBaseTableRef, kBaseTableAlias)] else []
  aliasIndex := 0

/-- The alias recorded for a concept, if it has been mentioned. -/
def aliasOf (s : FilterQueryBuilder T) (c : Concept) : Option String :=
  (s.mentionedAlias c.atomType).lookup c.conceptName

/-- `mentioned_alias_[atom_type][concept_name] = StrCat(kTableAliasPrefix, ++alias_index_)`
for a concept not mentioned before. -/
def mint (s : FilterQueryBuilder T) (atomType : AtomType) (conceptName : String) :
    FilterQueryBuilder T where
  mentionedAlias := Function.update s.mentionedAlias atomType
    (s.mentionedAlias atomType ++ [(conceptName, aliasName (s.aliasIndex + 1))])
  aliasIndex := s.aliasIndex + 1

end FilterQueryBuilder

/-- Reading `m[key]` with `operator[]`: the mapped value, with `m` unchanged, when `key` is
present; otherwise the empty string, with `key ↦ ""` inserted. -/
def subscript (m : List (String × String)) (key : String) : String × List (String × String) :=
  match m.lookup key with
  | some v => (v, m)
  | none => ("", m ++ [(key, "")])

/-- `absl::UnimplementedError(message)`, the one error the visitor returns. -/
inductive Status
  | unimplementedError (message : String)
  deriving DecidableEq, Repr

/-- A `zetasql::ResolvedExpressionColumn` as the visitor reads it. -/
structure ResolvedExpressionColumn where
  /-- `node->type()->IsStruct()`: the resolver builds a struct column for each mention of a
  neighbourhood concept. -/
  isStruct : Bool
  /-- `node->name()`. -/
  name : String
  deriving DecidableEq, Repr

section Visitor

variable {T : Node} (toIdentifierLiteral : String → String)

/-- `GetTableAlias(atom_type, concept_name)`: the alias of the concept, minted on its first
mention, as an identifier literal. -/
def getTableAlias (atomType : AtomType) (conceptName : String) (s : FilterQueryBuilder T) :
    String × FilterQueryBuilder T :=
  match (s.mentionedAlias atomType).lookup conceptName with
  | some tableAlias => (toIdentifierLiteral tableAlias, s)
  | none => (toIdentifierLiteral (aliasName (s.aliasIndex + 1)), s.mint atomType conceptName)

/-- The atom type the `absl::StartsWith` chain of `VisitResolvedExpressionColumn` selects for a
struct column named `neighborName`, or `none` for its unimplemented branch. -/
def neighborAtomType (neighborName : String) : Option AtomType :=
  if Absl.startsWith neighborName "contexts_" then some .context
  else if Absl.startsWith neighborName "properties_" then some .property
  else if Absl.startsWith neighborName "custom_properties_" then some .customProperty
  else if Absl.startsWith neighborName "parent_contexts_" then some .parentContext
  else if Absl.startsWith neighborName "child_contexts_" then some .childContext
  else if Absl.startsWith neighborName "events_" then some .event
  else none

/-- The message of the visitor's unimplemented error. -/
def kNeighborUnsupportedMessage : String :=
  "context-executions and context-artifacts are not supported yet in filtering predicate."

/-- `VisitResolvedExpressionColumn(node)`: the text pushed for the column and the new state.
A struct column is a neighbourhood concept keyed by its full name and renders as its alias;
the scalar `type` renders as `type` of the type join; every other scalar is an attribute of
the base table. -/
def visitResolvedExpressionColumn (node : ResolvedExpressionColumn) (s : FilterQueryBuilder T) :
    Except Status (String × FilterQueryBuilder T) :=
  if node.isStruct then
    match neighborAtomType node.name with
    | some atomType => .ok (getTableAlias toIdentifierLiteral atomType node.name s)
    | none => .error (.unimplementedError kNeighborUnsupportedMessage)
  else if node.name ≠ "type" then
    let (tableAlias, s) := getTableAlias toIdentifierLiteral .attribute kBaseTableRef s
    .ok (tableAlias ++ "." ++ toIdentifierLiteral node.name, s)
  else
    let (tableAlias, s) := getTableAlias toIdentifierLiteral .attribute kTypeTableRef s
    .ok (tableAlias ++ "." ++ toIdentifierLiteral kTypeTableRef, s)

end Visitor

/-! ### The FROM clause -/

/-- `kPropertyPrefix` of the property loop. -/
def kPropertyPrefix : String := "properties_"

/-- `kPropertyPrefix` of the custom property loop. -/
def kCustomPropertyPrefix : String := "custom_properties_"

/-- The joins of `GetFromClause` after the base alias has been read, in the source's order:
the type join when `type` was mentioned, then the context, property, custom property, parent
context, child context and event joins, each in insertion order. `none` where a `substr`
throws. -/
def FilterQueryBuilder.joins {T : Node} (s : FilterQueryBuilder T) (baseAlias : String) :
    Option (List String) := do
  let typeJoin := match (s.mentionedAlias .attribute).lookup kTypeTableRef with
    | some typeAlias => [getTypeJoinTable T baseAlias typeAlias]
    | none => []
  let propertyJoins ← (s.mentionedAlias .property).mapM fun p =>
    (getPropertyJoinTable T baseAlias p.2 ·) <$> substr p.1 kPropertyPrefix.length
  let customPropertyJoins ← (s.mentionedAlias .customProperty).mapM fun p =>
    (getCustomPropertyJoinTable T baseAlias p.2 ·) <$> substr p.1 kCustomPropertyPrefix.length
  pure <| typeJoin
    ++ (s.mentionedAlias .context).map (fun p => getContextJoinTable T baseAlias p.2)
    ++ propertyJoins ++ customPropertyJoins
    ++ (s.mentionedAlias .parentContext).map (fun p => getParentContextJoinTable baseAlias p.2)
    ++ (s.mentionedAlias .childContext).map (fun p => getChildContextJoinTable baseAlias p.2)
    ++ (s.mentionedAlias .event).map (fun p => getEventJoinTable T baseAlias p.2)

/-- `GetFromClause()`: the base table then its joins, or `none` where a `substr` throws; and the
state, which changes only if `operator[]` has to insert the base alias. -/
def getFromClause {T : Node} (s : FilterQueryBuilder T) : Option String × FilterQueryBuilder T :=
  let (baseAlias, attributes) := subscript (s.mentionedAlias .attribute) kBaseTableRef
  let s : FilterQueryBuilder T :=
    { s with mentionedAlias := Function.update s.mentionedAlias .attribute attributes }
  ((fun js => String.join (getBaseNodeTable T baseAlias :: js)) <$> s.joins baseAlias, s)

/-! ### Runs of client calls -/

/-- The calls a client makes on one builder. -/
inductive Call
  | visitResolvedExpressionColumn (node : ResolvedExpressionColumn)
  | getFromClause
  deriving DecidableEq, Repr

/-- What a call returns: the visitor's text or error, or the FROM clause (`none` if it threw). -/
inductive CallResult
  | fragment (r : Except Status String)
  | fromClause (r : Option String)

section Run

variable {T : Node} (toIdentifierLiteral : String → String)

/-- One call on the builder. A visit that fails leaves the state as it was. -/
def step : Call → FilterQueryBuilder T → CallResult × FilterQueryBuilder T
  | .visitResolvedExpressionColumn node, s =>
    match visitResolvedExpressionColumn toIdentifierLiteral node s with
    | .ok (text, s') => (.fragment (.ok text), s')
    | .error e => (.fragment (.error e), s)
  | .getFromClause, s => let (r, s') := getFromClause s; (.fromClause r, s')

/-- The calls run in order on one builder: what each returned, and the final state. -/
def run : List Call → FilterQueryBuilder T → List CallResult × FilterQueryBuilder T
  | [], s => ([], s)
  | c :: cs, s =>
    let (r, s) := step toIdentifierLiteral c s
    let (rs, s) := run cs s
    (r :: rs, s)

end Run

end MlMetadata
