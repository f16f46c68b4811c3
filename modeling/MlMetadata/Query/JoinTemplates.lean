import MlMetadata.Absl

set_option relaxedAutoImplicit false
set_option autoImplicit false

/-!
# The join template catalog

The FROM clause of a filter query is the base node table followed by one join per mentioned
neighbourhood concept. `filter_query_builder.cc` keeps each join as a constant SQL text with
positional holes (`$0` the base table alias, `$1` the neighbour's alias, and for properties
`$2` the property name and `$3` the custom flag) and fills it with `absl::Substitute`. This
module transcribes the ten templates character for character and the functions that pick
and fill them for each node type.

## Main definitions

* `MlMetadata.Node` — the node types `FilterQueryBuilder<T>` is instantiated at.
* `MlMetadata.getBaseNodeTable`, `getTypeJoinTable`, `getContextJoinTable`,
  `getParentContextJoinTable`, `getChildContextJoinTable`, `getPropertyJoinTable`,
  `getCustomPropertyJoinTable`, `getEventJoinTable` — the join fragments.

## Design

The C++ dispatches on the template parameter with `if constexpr`; here the node type is a
value of `Node` and each dispatch is a `match`. For `T = Context` the context and event
templates are the empty string (the source logs an error and returns `""`), so the
corresponding join functions return `""` as well.
-/

namespace MlMetadata

/-- The node types the query builder is instantiated at (`template class
FilterQueryBuilder<Artifact>` and so on). -/
inductive Node
  | artifact
  | execution
  | context
  deriving DecidableEq, Repr

/-- Modelled from the spec: `TypeKind` of `metadata_store.proto`, which this development does
not have; the spec only asks for the discriminant that matches the node type. The numbers
are the enum's values, which the `Type` table stores in `type_kind`. -/
inductive TypeKind
  | executionType
  | artifactType
  | contextType
  deriving DecidableEq, Repr

/-- The value `static_cast<int>` gives each `TypeKind`. -/
def TypeKind.value : TypeKind → Nat
  | .executionType => 0
  | .artifactType => 1
  | .contextType => 2

/-- The type kind of each node type's types. -/
def Node.typeKind : Node → TypeKind
  | .artifact => .artifactType
  | .execution => .executionType
  | .context => .contextType

/-- `GetTypeKindValue<T>()`. -/
def getTypeKindValue (T : Node) : Nat := T.typeKind.value

/-! ### The templates -/

/-- `kTypeJoinTable`: `$0` the base table, `$1` the type table, `$2` the type kind. -/
def kTypeJoinTable : String := "
JOIN (
  SELECT Type.id as type_id, Type.name as type
  FROM Type
  WHERE Type.type_kind = $2
) AS $1 ON $0.type_id = $1.type_id "

/-- `kContextJoinTableViaAttribution`. -/
def kContextJoinTableViaAttribution : String := "
JOIN (
  SELECT Context.id, Context.name,
         Type.name as type,
         Attribution.artifact_id,
         Context.create_time_since_epoch,
         Context.last_update_time_since_epoch
  FROM Context
       JOIN Type ON Context.type_id = Type.id
       JOIN Attribution ON Context.id = Attribution.context_id
) AS $1 ON $0.id = $1.artifact_id "

/-- `kContextJoinTableViaAssociation` (its blank line is in the source). -/
def kContextJoinTableViaAssociation : String := "
JOIN (
  SELECT Context.id, Context.name,
         Type.name as type,
         Association.execution_id,
         Context.create_time_since_epoch,
         Context.last_update_time_since_epoch

  FROM Context
       JOIN Type ON Context.type_id = Type.id
       JOIN Association ON Context.id = Association.context_id
) AS $1 ON $0.id = $1.execution_id "

/-- `kParentContextJoinTableViaParentContext`. -/
def kParentContextJoinTableViaParentContext : String := "
JOIN (
  SELECT Context.name,
         Type.name as type,
         ParentContext.context_id as child_context_id
  FROM Context
       JOIN Type ON Context.type_id = Type.id
       JOIN ParentContext ON Context.id = ParentContext.parent_context_id
) AS $1 ON $0.id = $1.child_context_id "

/-- `kChildContextJoinTableViaParentContext`. -/
def kChildContextJoinTableViaParentContext : String := "
JOIN (
  SELECT Context.name,
         Type.name as type,
         ParentContext.parent_context_id as parent_context_id
  FROM Context
       JOIN Type ON Context.type_id = Type.id
       JOIN ParentContext ON Context.id = ParentContext.context_id
) AS $1 ON $0.id = $1.parent_context_id "

/-- `kArtifactPropertyJoinTable`: `$2` the property name, `$3` `is_custom_property`. -/
def kArtifactPropertyJoinTable : String := "
JOIN (
  SELECT artifact_id, int_value, double_value, string_value
  FROM ArtifactProperty WHERE name = \"$2\" AND is_custom_property = $3
) AS $1 ON $0.id = $1.artifact_id "

/-- `kExecutionPropertyJoinTable`. -/
def kExecutionPropertyJoinTable : String := "
JOIN (
  SELECT execution_id, int_value, double_value, string_value
  FROM ExecutionProperty WHERE name = \"$2\" AND is_custom_property = $3
) AS $1 ON $0.id = $1.execution_id "

/-- `kContextPropertyJoinTable`. -/
def kContextPropertyJoinTable : String := "
JOIN (
  SELECT context_id, int_value, double_value, string_value
  FROM ContextProperty WHERE name = \"$2\" AND is_custom_property = $3
) AS $1 ON $0.id = $1.context_id "

/-- `kArtifactEventJoinTable`. -/
def kArtifactEventJoinTable : String := "
JOIN Event AS $1 ON $0.id = $1.artifact_id "

/-- `kExecutionEventJoinTable`. -/
def kExecutionEventJoinTable : String := "
JOIN Event AS $1 ON $0.id = $1.execution_id "

/-! ### Choosing and filling a template -/

/-- `GetContextJoinTemplate<T>()`: for `T = Context` the source logs
`Context Join does not apply to T = Context.` and returns the empty template. -/
def getContextJoinTemplate : Node → String
  | .artifact => kContextJoinTableViaAttribution
  | .execution => kContextJoinTableViaAssociation
  | .context => ""

/-- `GetEventJoinTemplate<T>()`: for `T = Context` the source logs
`Event Join does not apply to T = Context.` and returns the empty template. -/
def getEventJoinTemplate : Node → String
  | .artifact => kArtifactEventJoinTable
  | .execution => kExecutionEventJoinTable
  | .context => ""

/-- `GetPropertyJoinTableImpl<T>(base_alias, property_alias, property_name,
is_custom_property)`. -/
def getPropertyJoinTableImpl (T : Node) (baseAlias propertyAlias propertyName : String)
    (isCustomProperty : Bool) : String :=
  let args := [baseAlias, propertyAlias, propertyName, Absl.boolArg isCustomProperty]
  match T with
  | .artifact => Absl.substitute kArtifactPropertyJoinTable args
  | .execution => Absl.substitute kExecutionPropertyJoinTable args
  | .context => Absl.substitute kContextPropertyJoinTable args

/-- `GetBaseNodeTable(base_alias)`. -/
def getBaseNodeTable (T : Node) (baseAlias : String) : String :=
  match T with
  | .artifact => "Artifact AS " ++ baseAlias ++ " "
  | .execution => "Execution AS " ++ baseAlias ++ " "
  | .context => "Context AS " ++ baseAlias ++ " "

/-- `GetTypeJoinTable(base_alias, type_alias)`. -/
def getTypeJoinTable (T : Node) (baseAlias typeAlias : String) : String :=
  Absl.substitute kTypeJoinTable [baseAlias, typeAlias, toString (getTypeKindValue T)]

/-- `GetContextJoinTable(base_alias, context_alias)`. -/
def getContextJoinTable (T : Node) (baseAlias contextAlias : String) : String :=
  Absl.substitute (getContextJoinTemplate T) [baseAlias, contextAlias]

/-- `GetParentContextJoinTable(base_alias, parent_context_alias)`; the same for every `T`. -/
def getParentContextJoinTable (baseAlias parentContextAlias : String) : String :=
  Absl.substitute kParentContextJoinTableViaParentContext [baseAlias, parentContextAlias]

/-- `GetChildContextJoinTable(base_alias, child_context_alias)`; the same for every `T`. -/
def getChildContextJoinTable (baseAlias childContextAlias : String) : String :=
  Absl.substitute kChildContextJoinTableViaParentContext [baseAlias, childContextAlias]

/-- `GetPropertyJoinTable(base_alias, property_alias, property_name)`. -/
def getPropertyJoinTable (T : Node) (baseAlias propertyAlias propertyName : String) : String :=
  getPropertyJoinTableImpl T baseAlias propertyAlias propertyName false

/-- `GetCustomPropertyJoinTable(base_alias, property_alias, property_name)`. -/
def getCustomPropertyJoinTable (T : Node) (baseAlias propertyAlias propertyName : String) :
    String :=
  getPropertyJoinTableImpl T baseAlias propertyAlias propertyName true

/-- `GetEventJoinTable(base_alias, event_alias)`. -/
def getEventJoinTable (T : Node) (baseAlias eventAlias : String) : String :=
  Absl.substitute (getEventJoinTemplate T) [baseAlias, eventAlias]

end MlMetadata
