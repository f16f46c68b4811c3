import Mathlib.Data.List.Basic

set_option relaxedAutoImplicit false
set_option autoImplicit false

/-!
# The metadata store as the benchmark tool sees it

`mlmd_bench/util.cc` fills a metadata store before a benchmark runs: it reads the types and
nodes already there and puts new ones. It talks to the store only through `MetadataStore`
calls, each with a request message, a response message and a `tensorflow::Status`. This module
models the messages the tool builds or reads, with the fields it touches, and the store as a
parameter: any function from a request and a store state to a status, a response and a new
state.

## Main definitions

* `MlMetadata.Bench.NodeType`, `Artifact`, `Execution`, `Context` — the messages, with the
  fields the tool reads or sets.
* `MlMetadata.Bench.TypeVariant`, `NodeVariant` — the variants `Type` and `Node` of
  `util.h`.
* `MlMetadata.Bench.Request` — the store calls the tool makes, with their responses.
* `MlMetadata.Bench.MetadataStore` — a store: how it answers each call.
* `MlMetadata.Bench.BenchM` — a tool function run against a store.
* `MlMetadata.Bench.MetadataStore.logged` — the store that also records every call it
  answers, which the results about runs read.

## Design

Optional `proto2` fields are `Option`s, so that a field the tool sets is told apart from one
left unset; a getter of an unset field returns the default, as `id()` does. A map field is a
list of entries with distinct keys, and `operator[]` followed by a set is `mapSet`. The store
is a parameter: nothing is assumed of how it answers, so every result holds for every store
and every state it can be in, unless it states a law of the store as a hypothesis. The responses of the put calls carry only the new ids, which the
tool never reads; they are left out.
-/

namespace MlMetadata.Bench

/-! ### Messages -/

/-- `PropertyType`: the type a node type declares for one of its properties. -/
inductive PropertyType
  | unknown
  | int
  | double
  | string
  deriving DecidableEq, Repr

/-- `Value`: the value of a property of a node; a double is kept as its bits. -/
inductive Value
  | intValue (i : Int)
  | doubleValue (bits : UInt64)
  | stringValue (s : String)
  deriving DecidableEq, Repr

/-- `(*map)[key]` followed by a set: the entry of `key` gets `value`, and an entry is added
where there is none. -/
def mapSet {β : Type} (m : List (String × β)) (key : String) (value : β) :
    List (String × β) :=
  if m.any (·.1 == key) then m.map fun e => if e.1 = key then (key, value) else e
  else m ++ [(key, value)]

@[simp] theorem mapSet_nil {β : Type} (key : String) (value : β) :
    mapSet [] key value = [(key, value)] := rfl

/-- An `ArtifactType`, `ExecutionType` or `ContextType` message: its id, its name and the
types of its properties. -/
structure NodeType where
  id : Option Int := none
  name : Option String := none
  properties : List (String × PropertyType) := []
  deriving DecidableEq, Repr

/-- The fields `Artifact`, `Execution` and `Context` have in common and `PrepareNode` sets. -/
structure NodeFields where
  typeId : Option Int := none
  name : Option String := none
  properties : List (String × Value) := []
  customProperties : List (String × Value) := []
  deriving DecidableEq, Repr

/-- `Artifact::State`. -/
inductive ArtifactState
  | unknown
  | pending
  | live
  | markedForDeletion
  | deleted
  deriving DecidableEq, Repr

/-- `Execution::State`. -/
inductive ExecutionState
  | unknown
  | new
  | running
  | complete
  | failed
  | cached
  | canceled
  deriving DecidableEq, Repr

/-- An `Artifact` message. -/
structure Artifact where
  fields : NodeFields := {}
  uri : Option String := none
  state : Option ArtifactState := none
  deriving DecidableEq, Repr

/-- An `Execution` message. -/
structure Execution where
  fields : NodeFields := {}
  lastKnownState : Option ExecutionState := none
  deriving DecidableEq, Repr

/-- A `Context` message. -/
structure Context where
  fields : NodeFields := {}
  deriving DecidableEq, Repr

/-- `Type` of `util.h`: `absl::variant<ArtifactType, ExecutionType, ContextType>`. -/
inductive TypeVariant
  | artifactType (t : NodeType)
  | executionType (t : NodeType)
  | contextType (t : NodeType)
  deriving DecidableEq, Repr

/-- `Node` of `util.h`: `absl::variant<Artifact, Execution, Context>`. -/
inductive NodeVariant
  | artifact (a : Artifact)
  | execution (e : Execution)
  | context (c : Context)
  deriving DecidableEq, Repr

/-- `PutTypesRequest`, with the three lists the tool fills. -/
structure PutTypesRequest where
  artifactTypes : List NodeType := []
  executionTypes : List NodeType := []
  contextTypes : List NodeType := []
  deriving DecidableEq, Repr

/-! ### The store -/

/-- The store calls the tool makes, each with its request. The get requests the tool sends
are empty. -/
inductive Request
  | getArtifactTypes
  | getExecutionTypes
  | getContextTypes
  | getArtifacts
  | getExecutions
  | getContexts
  | putTypes (request : PutTypesRequest)
  | putArtifacts (artifacts : List Artifact)
  | putExecutions (executions : List Execution)
  | putContexts (contexts : List Context)

/-- The part of a call's response the tool reads. -/
def Request.Response : Request → Type
  | .getArtifactTypes | .getExecutionTypes | .getContextTypes => List NodeType
  | .getArtifacts => List Artifact
  | .getExecutions => List Execution
  | .getContexts => List Context
  | .putTypes _ | .putArtifacts _ | .putExecutions _ | .putContexts _ => Unit

/-- A non-OK `tensorflow::Status`: its code, numbered as `tensorflow::error::Code` numbers
them, and its message. -/
structure Status where
  code : Nat
  message : String
  deriving DecidableEq, Repr

/-- `tensorflow::error::UNIMPLEMENTED`. -/
def kUnimplemented : Nat := 12

/-- A `MetadataStore` with states `σ`: on each call, OK with the response or a non-OK status,
and the state after the call. -/
structure MetadataStore (σ : Type) where
  call : (q : Request) → σ → Except Status q.Response × σ

/-- How a tool function ends when it does not return OK. -/
inductive Failure
  /-- It returns a non-OK status. -/
  | status (s : Status)
  /-- It computes `i % size()` with `size()` zero: undefined behaviour. -/
  | divisionByZero
  /-- `vector::operator[]` past the end: undefined behaviour. -/
  | indexOutOfRange
  /-- `absl::get` of an alternative the variant does not hold throws
  `absl::bad_variant_access`. -/
  | badVariantAccess
  /-- `LOG(FATAL)` aborts the process. -/
  | fatal (message : String)
  deriving DecidableEq, Repr

/-- A tool function run against a store with states `σ`. -/
abbrev BenchM (σ : Type) := ExceptT Failure (StateM σ)

variable {σ : Type}

/-- One store call; a non-OK status ends the function with that status
(`TF_RETURN_IF_ERROR`). -/
def MetadataStore.send (st : MetadataStore σ) (q : Request) : BenchM σ q.Response :=
  ExceptT.mk fun s => ((st.call q s).1.mapError .status, (st.call q s).2)

/-- A computation of the tool that may fail but calls no store. -/
def BenchM.ofExcept {α : Type} (x : Except Failure α) : BenchM σ α := ExceptT.mk (pure x)

/-! ### Runs and their calls -/

/-- A call the store answered: the request and the answer. -/
structure Exchange where
  request : Request
  answer : Except Status request.Response

/-- The store `st`, which also appends each call it answers to a log. -/
def MetadataStore.logged (st : MetadataStore σ) : MetadataStore (σ × List Exchange) where
  call q p := ((st.call q p.1).1, ((st.call q p.1).2, p.2 ++ [⟨q, (st.call q p.1).1⟩]))

theorem run_send (st : MetadataStore σ) (q : Request) (s : σ) :
    (st.send q).run s = ((st.call q s).1.mapError .status, (st.call q s).2) := rfl

theorem run_pure {α : Type} (a : α) (s : σ) : (pure a : BenchM σ α).run s = (.ok a, s) := rfl

/-- A computation, then the rest of the function, which runs only when the first returns. -/
theorem run_bind {α β : Type} (x : BenchM σ α) (f : α → BenchM σ β) (s : σ) :
    (x >>= f).run s = match x.run s with
      | (.ok a, s') => (f a).run s'
      | (.error e, s') => (.error e, s') := by
  change (match x.run s with | (a, s') => ExceptT.bindCont f a s') = _
  rcases x.run s with ⟨_ | a, s'⟩ <;> rfl

/-- A call to the logged store, then the rest of the function: the call is logged with its
answer, and a non-OK answer ends the function. -/
theorem run_logged_send_bind {β : Type} (st : MetadataStore σ) (q : Request)
    (f : q.Response → BenchM (σ × List Exchange) β) (s : σ) (log : List Exchange) :
    (st.logged.send q >>= f).run (s, log) = match st.call q s with
      | (.ok a, s') => (f a).run (s', log ++ [⟨q, .ok a⟩])
      | (.error e, s') => (.error (.status e), (s', log ++ [⟨q, .error e⟩])) := by
  change (match ((st.call q s).1.mapError .status,
    ((st.call q s).2, log ++ [⟨q, (st.call q s).1⟩])) with
    | (a, s') => ExceptT.bindCont f a s') = _
  rcases st.call q s with ⟨_ | a, s'⟩ <;> rfl

theorem run_ofExcept_bind {α β : Type} (x : Except Failure α) (f : α → BenchM σ β) (s : σ) :
    (BenchM.ofExcept x >>= f).run s = match x with
      | .ok a => (f a).run s
      | .error e => (.error e, s) := by
  cases x <;> rfl

end MlMetadata.Bench
