import MlMetadata.Bench.Store

set_option relaxedAutoImplicit false
set_option autoImplicit false

/-!
# The benchmark's store utilities

`mlmd_bench/util.cc` reads what a store already holds and fills it before a benchmark runs:
`GetExistingTypes` and `GetExistingNodes` append the types or nodes of one kind to a vector,
`InsertTypesInDb` puts a number of new types of each kind in one call, and `InsertNodesInDb`
fetches the types of each kind and puts a number of new nodes of each kind, node `i` of the
type at `i % size()` of its kind's types. This module translates each function; the store is
any `MetadataStore` and the current time, which the functions read from the clock, is an
argument.

## Main definitions

* `MlMetadata.Bench.getExistingTypesImpl`, and the two overloads of `GetExistingTypes`,
  `FillTypesConfig.getExistingTypes` and `FillNodesConfig.getExistingTypes`, both
  `getExistingTypesOf` with their own specification and message.
* `MlMetadata.Bench.FillNodesConfig.getExistingNodes`.
* `MlMetadata.Bench.insertTypesInDb`, with the request it sends, `putTypesRequest`.
* `MlMetadata.Bench.insertNodesInDb`, with one pass of each of its loops: `newArtifact`,
  `newExecution`, `newContext`.

## Implementation notes

A C++ function that returns a `Status` and appends to a vector passed by reference is a
`BenchM` computation returning the new vector: every path that fails does so before the first
`push_back`, so a caller's vector is the one it passed whenever the call fails. Undefined
behaviour and exceptions (`i % 0`, an index past the end, `absl::get` of the wrong
alternative, `LOG(FATAL)`) end the computation with their own `Failure`, so that the results
can say they do not happen. A loop `for (int64 i = 0; i < n; i++)` runs over
`List.range n.toNat`, and each pass that may fail is one call of `mapM`.
-/

namespace MlMetadata.Bench

variable {σ : Type} (st : MetadataStore σ)

/-! ### Fetching what the store holds -/

/-- `FetchType`: which node types `GetExistingTypesImpl` fetches. -/
inductive FetchType
  | fetchArtifactType
  | fetchExecutionType
  | fetchContextType
  deriving DecidableEq, Repr

/-- `GetExistingTypesImpl(fetch_type, store, existing_types)`: the fetched types of the kind,
each as its alternative of `Type`, appended to `existing_types`. The `default` branch of the
source's switch is unreachable: `FetchType` has these three values. -/
def getExistingTypesImpl (fetchType : FetchType) (existingTypes : List TypeVariant) :
    BenchM σ (List TypeVariant) :=
  match fetchType with
  | .fetchArtifactType => do
    let getResponse : List NodeType ← st.send .getArtifactTypes
    pure (existingTypes ++ getResponse.map .artifactType)
  | .fetchExecutionType => do
    let getResponse : List NodeType ← st.send .getExecutionTypes
    pure (existingTypes ++ getResponse.map .executionType)
  | .fetchContextType => do
    let getResponse : List NodeType ← st.send .getContextTypes
    pure (existingTypes ++ getResponse.map .contextType)

/-- `FillTypesConfig::Specification`; `other` is any value the switches do not name. -/
inductive FillTypesSpecification
  | artifactType
  | executionType
  | contextType
  | other (value : Int)
  deriving DecidableEq, Repr

/-- A `FillTypesConfig`, with the field the tool reads. -/
structure FillTypesConfig where
  specification : FillTypesSpecification
  deriving DecidableEq, Repr

/-- `FillNodesConfig::Specification`; `other` is any value the switches do not name. -/
inductive FillNodesSpecification
  | artifact
  | execution
  | context
  | other (value : Int)
  deriving DecidableEq, Repr

/-- A `FillNodesConfig`, with the field the tool reads. -/
structure FillNodesConfig where
  specification : FillNodesSpecification
  deriving DecidableEq, Repr

/-- The fetch a `FillTypesConfig` specification names; `none` for one the switch does not
name. -/
def FillTypesSpecification.fetchType : FillTypesSpecification → Option FetchType
  | .artifactType => some .fetchArtifactType
  | .executionType => some .fetchExecutionType
  | .contextType => some .fetchContextType
  | .other _ => none

/-- The fetch a `FillNodesConfig` specification names; `none` for one the switch does not
name. -/
def FillNodesSpecification.fetchType : FillNodesSpecification → Option FetchType
  | .artifact => some .fetchArtifactType
  | .execution => some .fetchExecutionType
  | .context => some .fetchContextType
  | .other _ => none

/-- The body both overloads of `GetExistingTypes` share: `GetExistingTypesImpl` of the fetch
the specification names, or `UNIMPLEMENTED` with the overload's message. -/
def getExistingTypesOf (fetchType : Option FetchType) (unknownMessage : String)
    (existingTypes : List TypeVariant) : BenchM σ (List TypeVariant) :=
  match fetchType with
  | some fetchType => getExistingTypesImpl st fetchType existingTypes
  | none => throw (.status ⟨kUnimplemented, unknownMessage⟩)

/-- `GetExistingTypes(fill_types_config, store, existing_types)`. -/
def FillTypesConfig.getExistingTypes (fillTypesConfig : FillTypesConfig)
    (existingTypes : List TypeVariant) : BenchM σ (List TypeVariant) :=
  getExistingTypesOf st fillTypesConfig.specification.fetchType
    "Unknown FillTypesConfig specification." existingTypes

/-- `GetExistingTypes(fill_nodes_config, store, existing_types)`. -/
def FillNodesConfig.getExistingTypes (fillNodesConfig : FillNodesConfig)
    (existingTypes : List TypeVariant) : BenchM σ (List TypeVariant) :=
  getExistingTypesOf st fillNodesConfig.specification.fetchType
    "Unknown FillNodesConfig specification." existingTypes

/-- `GetExistingNodes(fill_nodes_config, store, existing_nodes)`: the fetched nodes of the
kind appended to `existing_nodes`; any other specification reaches `LOG(FATAL)`. -/
def FillNodesConfig.getExistingNodes (fillNodesConfig : FillNodesConfig)
    (existingNodes : List NodeVariant) : BenchM σ (List NodeVariant) :=
  match fillNodesConfig.specification with
  | .artifact => do
    let getResponse : List Artifact ← st.send .getArtifacts
    pure (existingNodes ++ getResponse.map .artifact)
  | .execution => do
    let getResponse : List Execution ← st.send .getExecutions
    pure (existingNodes ++ getResponse.map .execution)
  | .context => do
    let getResponse : List Context ← st.send .getContexts
    pure (existingNodes ++ getResponse.map .context)
  | .other _ => throw (.fatal "Wrong specification for getting nodes in db!")

/-! ### Inserting types -/

/-- `absl::StrCat(kind, curr_time, "-", i)`: the name of the `i`-th type or node of a kind. -/
def preInsertName (kind currTime : String) (i : Nat) : String :=
  kind ++ currTime ++ "-" ++ toString i

/-- A type `InsertTypesInDb` adds: its name and the property `"property"` of type `STRING`. -/
def newType (name : String) : NodeType :=
  { name := some name, properties := mapSet [] "property" .string }

/-- The request `InsertTypesInDb` sends: `num_*_types` types of each kind, the `i`-th named
after its kind, the time and `i`. A count below one adds none. -/
def putTypesRequest (numArtifactTypes numExecutionTypes numContextTypes : Int)
    (currTime : String) : PutTypesRequest where
  artifactTypes := (List.range numArtifactTypes.toNat).map fun i =>
    newType (preInsertName "pre_insert_artifact_type-" currTime i)
  executionTypes := (List.range numExecutionTypes.toNat).map fun i =>
    newType (preInsertName "pre_insert_execution_type-" currTime i)
  contextTypes := (List.range numContextTypes.toNat).map fun i =>
    newType (preInsertName "pre_insert_context_type-" currTime i)

/-- `InsertTypesInDb(num_artifact_types, num_execution_types, num_context_types, store)`, at
the time `currTime`: the status of one `PutTypes` call. -/
def insertTypesInDb (numArtifactTypes numExecutionTypes numContextTypes : Int)
    (currTime : String) : BenchM σ Unit := do
  let _ ← st.send (.putTypes
    (putTypesRequest numArtifactTypes numExecutionTypes numContextTypes currTime))

/-! ### Inserting nodes -/

/-- `i % size` of an `int64` by a `size_t`; undefined when `size` is zero. -/
def moduloSize (i size : Nat) : Except Failure Nat :=
  if size = 0 then .error .divisionByZero else .ok (i % size)

/-- `vector[index]`; undefined past the end. -/
def vectorAt {α : Type} (v : List α) (index : Nat) : Except Failure α :=
  match v[index]? with
  | some a => .ok a
  | none => .error .indexOutOfRange

/-- The position of the alternative a `Type` holds in `<ArtifactType, ExecutionType,
ContextType>`. -/
def TypeVariant.index : TypeVariant → Nat
  | .artifactType _ => 0
  | .executionType _ => 1
  | .contextType _ => 2

/-- The message a `Type` holds. -/
def TypeVariant.value : TypeVariant → NodeType
  | .artifactType t | .executionType t | .contextType t => t

/-- `absl::get<T>(v)`, with `T` the alternative at position `alternative`: the message `v`
holds, or `bad_variant_access` when it holds another alternative. -/
def TypeVariant.get (alternative : Nat) (v : TypeVariant) : Except Failure NodeType :=
  if v.index = alternative then .ok v.value else .error .badVariantAccess

/-- `PrepareNode<T, NT>(node_name, node_type, node)`. -/
def prepareNode (nodeName : String) (nodeType : NodeType) (node : NodeFields) : NodeFields :=
  { node with
    typeId := some (nodeType.id.getD 0)
    name := some nodeName
    properties := mapSet node.properties "property" (.stringValue "foo")
    customProperties := mapSet node.customProperties "custom-property" (.stringValue "bar") }

/-- What the three node loops of `InsertNodesInDb` do alike in pass `i`: the type index
`i % size()`, the type there taken as the alternative `alternative` of `Type`, and
`PrepareNode` of a new node with the name `nodeName`. -/
def prepareNth (alternative : Nat) (existingTypes : List TypeVariant) (nodeName : String)
    (i : Nat) : Except Failure NodeFields := do
  let typeIndex ← moduloSize i existingTypes.length
  let nodeType ← (← vectorAt existingTypes typeIndex).get alternative
  pure (prepareNode nodeName nodeType {})

/-- Pass `i` of the artifact loop of `InsertNodesInDb`. -/
def newArtifact (existingArtifactTypes : List TypeVariant) (currTime : String) (i : Nat) :
    Except Failure Artifact :=
  let nodeName := preInsertName "pre_insert_artifact-" currTime i
  (fun fields => { fields, uri := some (nodeName ++ "_uri"), state := some .unknown }) <$>
    prepareNth 0 existingArtifactTypes nodeName i

/-- Pass `i` of the execution loop of `InsertNodesInDb`. -/
def newExecution (existingExecutionTypes : List TypeVariant) (currTime : String) (i : Nat) :
    Except Failure Execution :=
  (fun fields => { fields, lastKnownState := some .unknown }) <$>
    prepareNth 1 existingExecutionTypes (preInsertName "pre_insert_execution-" currTime i) i

/-- Pass `i` of the context loop of `InsertNodesInDb`. -/
def newContext (existingContextTypes : List TypeVariant) (currTime : String) (i : Nat) :
    Except Failure Context :=
  (fun fields => { fields }) <$>
    prepareNth 2 existingContextTypes (preInsertName "pre_insert_context-" currTime i) i

/-- `InsertNodesInDb(num_artifact_nodes, num_execution_nodes, num_context_nodes, store)`, at
the time `currTime`: the types of each kind fetched, then one put call per kind. -/
def insertNodesInDb (numArtifactNodes numExecutionNodes numContextNodes : Int)
    (currTime : String) : BenchM σ Unit := do
  let existingArtifactTypes ← FillTypesConfig.getExistingTypes st ⟨.artifactType⟩ []
  let existingExecutionTypes ← FillTypesConfig.getExistingTypes st ⟨.executionType⟩ []
  let existingContextTypes ← FillTypesConfig.getExistingTypes st ⟨.contextType⟩ []
  let artifacts ← BenchM.ofExcept ((List.range numArtifactNodes.toNat).mapM
    (newArtifact existingArtifactTypes currTime))
  let _ ← st.send (.putArtifacts artifacts)
  let executions ← BenchM.ofExcept ((List.range numExecutionNodes.toNat).mapM
    (newExecution existingExecutionTypes currTime))
  let _ ← st.send (.putExecutions executions)
  let contexts ← BenchM.ofExcept ((List.range numContextNodes.toNat).mapM
    (newContext existingContextTypes currTime))
  let _ ← st.send (.putContexts contexts)
  pure ()

end MlMetadata.Bench
