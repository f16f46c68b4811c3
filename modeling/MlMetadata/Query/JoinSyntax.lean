import MlMetadata.Query.FilterQueryBuilder
import MlMetadata.Sql.Parser

set_option relaxedAutoImplicit false
set_option autoImplicit false

/-!
# The join fragments as SQL

`GetFromClause` glues join fragments together as text. This module reads each fragment as
the store's SQL engine does: it lexes the filled template and parses it, for every base
alias, every neighbour alias and every property name, and names the parse tree the fragment
yields. The trees are written out from the templates of `MlMetadata.Query.JoinTemplates`;
the lemmas here show that the text the builder emits parses to them.

A filled template is seen as pieces (`MlMetadata.Sql.Piece`): the template's own characters
and the substituted arguments. The lexer passes over an argument where the pieces say what
its characters do (an alias where a word is read, a property name inside a string literal),
so one evaluation of the lexer and the parser covers all arguments.

## Main definitions

* `MlMetadata.substitutePieces`, `MlMetadata.templatePieces` — `absl::Substitute` on pieces.
* `MlMetadata.typeJoin`, `contextJoin`, `propertyJoin`, `parentContextJoin`,
  `childContextJoin`, `eventJoin` — the parse trees of the join templates, and `typeSelect`,
  `contextSelect`, `propertySelect`, `parentContextSelect`, `childContextSelect` those of
  their subqueries.
* `MlMetadata.conceptJoinTable` — the fragment `GetFromClause` emits for a concept, and
  `MlMetadata.conceptJoin` its parse tree (`none` where the fragment is empty).

## Main results

* `MlMetadata.substituteChars_map_str` — substituting pieces writes their characters.
* `MlMetadata.conceptJoinTable_eq` — each fragment is the characters of its pieces.
* `MlMetadata.joinTokens_conceptJoinPieces` — each fragment lexes back to between tokens,
  and `join` reads its tokens as its parse tree; an empty fragment has no tokens.
* `MlMetadata.propertyJoin_reads_name` — a property name with no double quote (and, where a
  backslash escapes, no backslash) reaches the SQL as one string literal whose value is the
  name.
-/

namespace MlMetadata

open Sql

/-! ### Filling templates with pieces -/

/-- `absl::Substitute` over pieces: the format's characters become text pieces and each `$n`
the `n`-th argument; `none` exactly where `Absl.substituteChars` fails. -/
def substitutePieces (args : List Piece) : List Char → Option (List Piece)
  | [] => some []
  | ['$'] => none
  | '$' :: c :: rest =>
    if c = '$' then (.text "$" :: ·) <$> substitutePieces args rest
    else if c.isDigit then
      match args[c.toNat - '0'.toNat]? with
      | some arg => (arg :: ·) <$> substitutePieces args rest
      | none => none
    else none
  | c :: rest => (.text (String.singleton c) :: ·) <$> substitutePieces args rest

/-- The pieces of a filled template. -/
def templatePieces (format : String) (args : List Piece) : List Piece :=
  (substitutePieces args format.toList).getD []

theorem substituteChars_map_str (args : List Piece) (format : List Char) :
    Absl.substituteChars (args.map Piece.str) format =
      (substitutePieces args format).map fun ps => ps.flatMap Piece.chars := by
  induction format using substitutePieces.induct args with
  | case1 => rfl
  | case2 => rfl
  | case3 rest ih =>
    rw [Absl.substituteChars, substitutePieces, if_pos rfl, if_pos rfl, ih]
    cases substitutePieces args rest <;> rfl
  | case4 c rest hc hd arg harg ih =>
    rw [Absl.substituteChars, substitutePieces, if_neg hc, if_neg hc, if_pos hd, if_pos hd,
      List.getElem?_map, harg, ih]
    cases substitutePieces args rest <;> rfl
  | case5 c rest hc hd harg =>
    rw [Absl.substituteChars, substitutePieces, if_neg hc, if_neg hc, if_pos hd, if_pos hd,
      List.getElem?_map, harg]
    rfl
  | case6 c rest hc hd =>
    rw [Absl.substituteChars, substitutePieces, if_neg hc, if_neg hc, if_neg hd, if_neg hd]
    rfl
  | case7 c rest h₁ h₂ ih =>
    rw [Absl.substituteChars, substitutePieces, ih]
    · cases substitutePieces args rest <;> rfl
    all_goals assumption

/-- A well-formed template filled with the texts of pieces is the characters of its pieces. -/
theorem substitute_eq_templatePieces (format : String) (args : List Piece)
    (h : (substitutePieces args format.toList).isSome) :
    Absl.substitute format (args.map Piece.str) =
      String.mk ((templatePieces format args).flatMap Piece.chars) := by
  obtain ⟨ps, hps⟩ := Option.isSome_iff_exists.1 h
  simp only [Absl.substitute, substituteChars_map_str, hps, templatePieces, Option.map_some',
    Option.getD_some]

section Fits

variable (backslashEscapes : Bool)

theorem fits_of_substitutePieces {args : List Piece}
    (hargs : ∀ a ∈ args, a.Fits backslashEscapes) (format : List Char) :
    ∀ ps, substitutePieces args format = some ps → ∀ p ∈ ps, p.Fits backslashEscapes := by
  induction format using substitutePieces.induct args with
  | case1 => rintro ps ⟨⟩ p ⟨⟩
  | case2 => rintro ps ⟨⟩
  | case3 rest ih =>
    intro ps h
    rw [substitutePieces, if_pos rfl] at h
    obtain ⟨ps, hps, rfl⟩ := Option.map_eq_some'.1 h
    exact List.forall_mem_cons.2 ⟨trivial, ih ps hps⟩
  | case4 c rest hc hd arg harg ih =>
    intro ps h
    rw [substitutePieces, if_neg hc, if_pos hd, harg] at h
    obtain ⟨ps, hps, rfl⟩ := Option.map_eq_some'.1 h
    exact List.forall_mem_cons.2 ⟨hargs arg (List.getElem?_mem harg), ih ps hps⟩
  | case5 c rest hc hd harg =>
    intro ps h
    rw [substitutePieces, if_neg hc, if_pos hd, harg] at h
    cases h
  | case6 c rest hc hd =>
    intro ps h
    rw [substitutePieces, if_neg hc, if_neg hd] at h
    cases h
  | case7 c rest h₁ h₂ ih =>
    intro ps h
    rw [substitutePieces] at h
    · obtain ⟨ps, hps, rfl⟩ := Option.map_eq_some'.1 h
      exact List.forall_mem_cons.2 ⟨trivial, ih ps hps⟩
    all_goals assumption

/-- Every piece of a template filled with fitting arguments fits. -/
theorem fits_templatePieces {args : List Piece} (hargs : ∀ a ∈ args, a.Fits backslashEscapes)
    (format : String) : ∀ p ∈ templatePieces format args, p.Fits backslashEscapes := by
  unfold templatePieces
  cases h : substitutePieces args format.toList with
  | none => rintro p ⟨⟩
  | some ps => exact fits_of_substitutePieces backslashEscapes hargs _ ps h

end Fits

/-- Aliases are words: `table_` and the decimal digits of the counter. -/
theorem isWord_aliasName (n : Nat) : IsWord (aliasName n) := by
  have hpre : kTableAliasPrefix.toList ≠ [] := by decide
  refine ⟨fun h => hpre (List.append_eq_nil.1 (congrArg String.toList h)).1, fun c hc => ?_⟩
  simp only [aliasName, kTableAliasPrefix, String.toList, String.data_append, List.mem_append]
    at hc
  rcases hc with hc | hc
  · revert c; decide
  · simp [isWordChar, Char.isAlphanum, isDigit_of_mem_toString hc]

theorem isWord_kBaseTableAlias : IsWord kBaseTableAlias := by decide

/-! ### The parse trees of the templates -/

/-- The table of `T`'s nodes. -/
def Node.table : Node → String
  | .artifact => "Artifact"
  | .execution => "Execution"
  | .context => "Context"

/-- The table of `T`'s properties. -/
def Node.propertyTable : Node → String
  | .artifact => "ArtifactProperty"
  | .execution => "ExecutionProperty"
  | .context => "ContextProperty"

/-- The column naming a node of `T` in the rows of its property table, and for artifacts and
executions in their event and attribution or association rows. -/
def Node.idColumn : Node → String
  | .artifact => "artifact_id"
  | .execution => "execution_id"
  | .context => "context_id"

/-- The subquery of `kTypeJoinTable`: the types of `T`'s kind. -/
def typeSelect (T : Node) : Select where
  items := [⟨⟨some "Type", "id"⟩, some "type_id"⟩, ⟨⟨some "Type", "name"⟩, some "type"⟩]
  table := "Type"
  joins := []
  conditions := [.literal ⟨some "Type", "type_kind"⟩ (.number (getTypeKindValue T))]

/-- The parse tree of `kTypeJoinTable`. -/
def typeJoin (T : Node) (baseAlias typeAlias : String) : Join where
  source := .select (typeSelect T)
  tableAlias := typeAlias
  condition := .columns ⟨some baseAlias, "type_id"⟩ ⟨some typeAlias, "type_id"⟩

/-- The subquery of `kContextJoinTableViaAttribution` (`edgeTable` `Attribution`, `nodeColumn`
`artifact_id`) and of `kContextJoinTableViaAssociation` (`Association`, `execution_id`). -/
def contextSelect (edgeTable nodeColumn : String) : Select where
  items := [⟨⟨some "Context", "id"⟩, none⟩, ⟨⟨some "Context", "name"⟩, none⟩,
    ⟨⟨some "Type", "name"⟩, some "type"⟩, ⟨⟨some edgeTable, nodeColumn⟩, none⟩,
    ⟨⟨some "Context", "create_time_since_epoch"⟩, none⟩,
    ⟨⟨some "Context", "last_update_time_since_epoch"⟩, none⟩]
  table := "Context"
  joins := [⟨"Type", .columns ⟨some "Context", "type_id"⟩ ⟨some "Type", "id"⟩⟩,
    ⟨edgeTable, .columns ⟨some "Context", "id"⟩ ⟨some edgeTable, "context_id"⟩⟩]
  conditions := []

/-- The parse tree of `kContextJoinTableViaAttribution` and `kContextJoinTableViaAssociation`. -/
def contextJoin (edgeTable nodeColumn baseAlias contextAlias : String) : Join where
  source := .select (contextSelect edgeTable nodeColumn)
  tableAlias := contextAlias
  condition := .columns ⟨some baseAlias, "id"⟩ ⟨some contextAlias, nodeColumn⟩

/-- The subquery of `kParentContextJoinTableViaParentContext`. -/
def parentContextSelect : Select where
  items := [⟨⟨some "Context", "name"⟩, none⟩, ⟨⟨some "Type", "name"⟩, some "type"⟩,
    ⟨⟨some "ParentContext", "context_id"⟩, some "child_context_id"⟩]
  table := "Context"
  joins := [⟨"Type", .columns ⟨some "Context", "type_id"⟩ ⟨some "Type", "id"⟩⟩,
    ⟨"ParentContext", .columns ⟨some "Context", "id"⟩ ⟨some "ParentContext", "parent_context_id"⟩⟩]
  conditions := []

/-- The parse tree of `kParentContextJoinTableViaParentContext`. -/
def parentContextJoin (baseAlias parentContextAlias : String) : Join where
  source := .select parentContextSelect
  tableAlias := parentContextAlias
  condition := .columns ⟨some baseAlias, "id"⟩ ⟨some parentContextAlias, "child_context_id"⟩

/-- The subquery of `kChildContextJoinTableViaParentContext`. -/
def childContextSelect : Select where
  items := [⟨⟨some "Context", "name"⟩, none⟩, ⟨⟨some "Type", "name"⟩, some "type"⟩,
    ⟨⟨some "ParentContext", "parent_context_id"⟩, some "parent_context_id"⟩]
  table := "Context"
  joins := [⟨"Type", .columns ⟨some "Context", "type_id"⟩ ⟨some "Type", "id"⟩⟩,
    ⟨"ParentContext", .columns ⟨some "Context", "id"⟩ ⟨some "ParentContext", "context_id"⟩⟩]
  conditions := []

/-- The parse tree of `kChildContextJoinTableViaParentContext`. -/
def childContextJoin (baseAlias childContextAlias : String) : Join where
  source := .select childContextSelect
  tableAlias := childContextAlias
  condition := .columns ⟨some baseAlias, "id"⟩ ⟨some childContextAlias, "parent_context_id"⟩

/-- The subquery of `kArtifactPropertyJoinTable`, `kExecutionPropertyJoinTable` and
`kContextPropertyJoinTable`. -/
def propertySelect (T : Node) (propertyName : String) (isCustomProperty : Bool) : Select where
  items := [T.idColumn, "int_value", "double_value", "string_value"].map
    fun column => ⟨⟨none, column⟩, none⟩
  table := T.propertyTable
  joins := []
  conditions := [.literal ⟨none, "name"⟩ (.string propertyName),
    .literal ⟨none, "is_custom_property"⟩ (.bool isCustomProperty)]

/-- The parse tree of the property join templates. -/
def propertyJoin (T : Node) (baseAlias propertyAlias propertyName : String)
    (isCustomProperty : Bool) : Join where
  source := .select (propertySelect T propertyName isCustomProperty)
  tableAlias := propertyAlias
  condition := .columns ⟨some baseAlias, "id"⟩ ⟨some propertyAlias, T.idColumn⟩

/-- The parse tree of `kArtifactEventJoinTable` and `kExecutionEventJoinTable`. -/
def eventJoin (T : Node) (baseAlias eventAlias : String) : Join where
  source := .table "Event"
  tableAlias := eventAlias
  condition := .columns ⟨some baseAlias, "id"⟩ ⟨some eventAlias, T.idColumn⟩

/-! ### Each template lexes and parses to its tree -/

/-- The pieces lex from between tokens back to between tokens, and `join` reads the tokens
they complete as `j`. -/
def LexesAsJoin (backslashEscapes : Bool) (ps : List Piece) (j : Join) : Prop :=
  ∃ ts, lexPieces backslashEscapes .idle ps = (.idle, ts) ∧ Reads join ts j

/-- The pieces of `GetTypeJoinTable`. -/
def typeJoinPieces (T : Node) (baseAlias typeAlias : String) : List Piece :=
  templatePieces kTypeJoinTable
    [.word baseAlias, .word typeAlias, .word (toString (getTypeKindValue T))]

/-- The pieces of `GetContextJoinTable`. -/
def contextJoinPieces (T : Node) (baseAlias contextAlias : String) : List Piece :=
  templatePieces (getContextJoinTemplate T) [.word baseAlias, .word contextAlias]

/-- The pieces of `GetPropertyJoinTableImpl`: the property name inside a string literal. -/
def propertyJoinPieces (T : Node) (baseAlias propertyAlias propertyName : String)
    (isCustomProperty : Bool) : List Piece :=
  let args := [.word baseAlias, .word propertyAlias, .content propertyName,
    .word (Absl.boolArg isCustomProperty)]
  match T with
  | .artifact => templatePieces kArtifactPropertyJoinTable args
  | .execution => templatePieces kExecutionPropertyJoinTable args
  | .context => templatePieces kContextPropertyJoinTable args

/-- The pieces of `GetParentContextJoinTable`. -/
def parentContextJoinPieces (baseAlias parentContextAlias : String) : List Piece :=
  templatePieces kParentContextJoinTableViaParentContext
    [.word baseAlias, .word parentContextAlias]

/-- The pieces of `GetChildContextJoinTable`. -/
def childContextJoinPieces (baseAlias childContextAlias : String) : List Piece :=
  templatePieces kChildContextJoinTableViaParentContext [.word baseAlias, .word childContextAlias]

/-- The pieces of `GetEventJoinTable`. -/
def eventJoinPieces (T : Node) (baseAlias eventAlias : String) : List Piece :=
  templatePieces (getEventJoinTemplate T) [.word baseAlias, .word eventAlias]

section Lexing

variable (backslashEscapes : Bool) (baseAlias tableAlias : String)

set_option maxRecDepth 20000

theorem lexesAsJoin_typeJoinPieces (T : Node) :
    LexesAsJoin backslashEscapes (typeJoinPieces T baseAlias tableAlias)
      (typeJoin T baseAlias tableAlias) := by
  refine ⟨_, rfl, ?_⟩
  cases T <;> exact fun _ => rfl

theorem lexesAsJoin_contextJoinPieces_artifact :
    LexesAsJoin backslashEscapes (contextJoinPieces .artifact baseAlias tableAlias)
      (contextJoin "Attribution" "artifact_id" baseAlias tableAlias) :=
  ⟨_, rfl, fun _ => rfl⟩

theorem lexesAsJoin_contextJoinPieces_execution :
    LexesAsJoin backslashEscapes (contextJoinPieces .execution baseAlias tableAlias)
      (contextJoin "Association" "execution_id" baseAlias tableAlias) :=
  ⟨_, rfl, fun _ => rfl⟩

theorem lexesAsJoin_propertyJoinPieces (T : Node) (propertyName : String)
    (isCustomProperty : Bool) :
    LexesAsJoin backslashEscapes
      (propertyJoinPieces T baseAlias tableAlias propertyName isCustomProperty)
      (propertyJoin T baseAlias tableAlias propertyName isCustomProperty) := by
  cases T <;> refine ⟨_, rfl, ?_⟩ <;> cases isCustomProperty <;> exact fun _ => rfl

theorem lexesAsJoin_parentContextJoinPieces :
    LexesAsJoin backslashEscapes (parentContextJoinPieces baseAlias tableAlias)
      (parentContextJoin baseAlias tableAlias) :=
  ⟨_, rfl, fun _ => rfl⟩

theorem lexesAsJoin_childContextJoinPieces :
    LexesAsJoin backslashEscapes (childContextJoinPieces baseAlias tableAlias)
      (childContextJoin baseAlias tableAlias) :=
  ⟨_, rfl, fun _ => rfl⟩

theorem lexesAsJoin_eventJoinPieces (T : Node) (hT : T ≠ .context) :
    LexesAsJoin backslashEscapes (eventJoinPieces T baseAlias tableAlias)
      (eventJoin T baseAlias tableAlias) := by
  cases T
  · exact ⟨_, rfl, fun _ => rfl⟩
  · exact ⟨_, rfl, fun _ => rfl⟩
  · exact absurd rfl hT

end Lexing

/-! ### The text of each template is the characters of its pieces -/

section Text

variable (baseAlias tableAlias : String)

set_option maxRecDepth 20000

theorem getTypeJoinTable_eq (T : Node) :
    getTypeJoinTable T baseAlias tableAlias =
      String.mk ((typeJoinPieces T baseAlias tableAlias).flatMap Piece.chars) :=
  substitute_eq_templatePieces kTypeJoinTable
    [.word baseAlias, .word tableAlias, .word (toString (getTypeKindValue T))] rfl

theorem getContextJoinTable_eq (T : Node) :
    getContextJoinTable T baseAlias tableAlias =
      String.mk ((contextJoinPieces T baseAlias tableAlias).flatMap Piece.chars) :=
  substitute_eq_templatePieces (getContextJoinTemplate T) [.word baseAlias, .word tableAlias]
    (by cases T <;> rfl)

theorem getPropertyJoinTableImpl_eq (T : Node) (propertyName : String)
    (isCustomProperty : Bool) :
    getPropertyJoinTableImpl T baseAlias tableAlias propertyName isCustomProperty =
      String.mk ((propertyJoinPieces T baseAlias tableAlias propertyName
        isCustomProperty).flatMap Piece.chars) := by
  have h := fun format => substitute_eq_templatePieces format [.word baseAlias,
    .word tableAlias, .content propertyName, .word (Absl.boolArg isCustomProperty)]
  cases T
  · exact h kArtifactPropertyJoinTable rfl
  · exact h kExecutionPropertyJoinTable rfl
  · exact h kContextPropertyJoinTable rfl

theorem getParentContextJoinTable_eq :
    getParentContextJoinTable baseAlias tableAlias =
      String.mk ((parentContextJoinPieces baseAlias tableAlias).flatMap Piece.chars) :=
  substitute_eq_templatePieces kParentContextJoinTableViaParentContext
    [.word baseAlias, .word tableAlias] rfl

theorem getChildContextJoinTable_eq :
    getChildContextJoinTable baseAlias tableAlias =
      String.mk ((childContextJoinPieces baseAlias tableAlias).flatMap Piece.chars) :=
  substitute_eq_templatePieces kChildContextJoinTableViaParentContext
    [.word baseAlias, .word tableAlias] rfl

theorem getEventJoinTable_eq (T : Node) :
    getEventJoinTable T baseAlias tableAlias =
      String.mk ((eventJoinPieces T baseAlias tableAlias).flatMap Piece.chars) :=
  substitute_eq_templatePieces (getEventJoinTemplate T) [.word baseAlias, .word tableAlias]
    (by cases T <;> rfl)

end Text

/-! ### The fragment of each concept -/

/-- The fragment `GetFromClause` emits for a mentioned concept under `tableAlias`: the type
join for the `ATTRIBUTE` concept `type`, and for a neighbourhood concept the join of its atom
type, a property name being the key without its loop's prefix. -/
def conceptJoinTable (T : Node) (baseAlias : String) (c : Concept) (tableAlias : String) :
    String :=
  match c.atomType with
  | .attribute => getTypeJoinTable T baseAlias tableAlias
  | .context => getContextJoinTable T baseAlias tableAlias
  | .property => getPropertyJoinTable T baseAlias tableAlias
      ⟨c.conceptName.toList.drop kPropertyPrefix.length⟩
  | .customProperty => getCustomPropertyJoinTable T baseAlias tableAlias
      ⟨c.conceptName.toList.drop kCustomPropertyPrefix.length⟩
  | .parentContext => getParentContextJoinTable baseAlias tableAlias
  | .childContext => getChildContextJoinTable baseAlias tableAlias
  | .event => getEventJoinTable T baseAlias tableAlias

/-- The pieces of `conceptJoinTable`. -/
def conceptJoinPieces (T : Node) (baseAlias : String) (c : Concept) (tableAlias : String) :
    List Piece :=
  match c.atomType with
  | .attribute => typeJoinPieces T baseAlias tableAlias
  | .context => contextJoinPieces T baseAlias tableAlias
  | .property => propertyJoinPieces T baseAlias tableAlias
      ⟨c.conceptName.toList.drop kPropertyPrefix.length⟩ false
  | .customProperty => propertyJoinPieces T baseAlias tableAlias
      ⟨c.conceptName.toList.drop kCustomPropertyPrefix.length⟩ true
  | .parentContext => parentContextJoinPieces baseAlias tableAlias
  | .childContext => childContextJoinPieces baseAlias tableAlias
  | .event => eventJoinPieces T baseAlias tableAlias

/-- The parse tree of `conceptJoinTable`: `none` for the context and event joins of a
context, whose templates are empty. -/
def conceptJoin (T : Node) (baseAlias : String) (c : Concept) (tableAlias : String) :
    Option Join :=
  match c.atomType, T with
  | .attribute, _ => some (typeJoin T baseAlias tableAlias)
  | .context, .artifact => some (contextJoin "Attribution" "artifact_id" baseAlias tableAlias)
  | .context, .execution => some (contextJoin "Association" "execution_id" baseAlias tableAlias)
  | .context, .context => none
  | .property, _ => some (propertyJoin T baseAlias tableAlias
      ⟨c.conceptName.toList.drop kPropertyPrefix.length⟩ false)
  | .customProperty, _ => some (propertyJoin T baseAlias tableAlias
      ⟨c.conceptName.toList.drop kCustomPropertyPrefix.length⟩ true)
  | .parentContext, _ => some (parentContextJoin baseAlias tableAlias)
  | .childContext, _ => some (childContextJoin baseAlias tableAlias)
  | .event, .context => none
  | .event, _ => some (eventJoin T baseAlias tableAlias)

theorem conceptJoinTable_eq (T : Node) (baseAlias : String) (c : Concept) (tableAlias : String) :
    conceptJoinTable T baseAlias c tableAlias =
      String.mk ((conceptJoinPieces T baseAlias c tableAlias).flatMap Piece.chars) := by
  obtain ⟨atomType, name⟩ := c
  cases atomType
  · exact getTypeJoinTable_eq _ _ T
  · exact getContextJoinTable_eq _ _ T
  · exact getPropertyJoinTableImpl_eq _ _ T _ false
  · exact getPropertyJoinTableImpl_eq _ _ T _ true
  · exact getParentContextJoinTable_eq _ _
  · exact getChildContextJoinTable_eq _ _
  · exact getEventJoinTable_eq _ _ T

/-- What the pieces of a fragment lex to, given its parse tree: tokens `join` reads as the
tree, or no tokens at all where there is no tree. -/
def JoinTokens (backslashEscapes : Bool) (ps : List Piece) : Option Join → Prop
  | some j => LexesAsJoin backslashEscapes ps j
  | none => lexPieces backslashEscapes .idle ps = (.idle, [])

theorem JoinTokens.lex {backslashEscapes : Bool} {ps : List Piece} :
    ∀ {o : Option Join}, JoinTokens backslashEscapes ps o →
      (lexPieces backslashEscapes .idle ps).1 = .idle ∧
        ((o = none ∧ (lexPieces backslashEscapes .idle ps).2 = []) ∨
          ∃ j, o = some j ∧ Reads join (lexPieces backslashEscapes .idle ps).2 j)
  | none, h => by rw [h]; exact ⟨rfl, .inl ⟨rfl, rfl⟩⟩
  | some j, ⟨_, h, hj⟩ => by rw [h]; exact ⟨rfl, .inr ⟨j, rfl, hj⟩⟩

/-- Every concept's fragment lexes back to between tokens, to tokens `join` reads as its
parse tree, or to no tokens where it has none. -/
theorem joinTokens_conceptJoinPieces (backslashEscapes : Bool) (T : Node) (baseAlias : String)
    (c : Concept) (tableAlias : String) :
    JoinTokens backslashEscapes (conceptJoinPieces T baseAlias c tableAlias)
      (conceptJoin T baseAlias c tableAlias) := by
  obtain ⟨atomType, name⟩ := c
  cases atomType
  · exact lexesAsJoin_typeJoinPieces _ _ _ T
  · cases T
    · exact lexesAsJoin_contextJoinPieces_artifact _ _ _
    · exact lexesAsJoin_contextJoinPieces_execution _ _ _
    · rfl
  · exact lexesAsJoin_propertyJoinPieces _ _ _ T _ false
  · exact lexesAsJoin_propertyJoinPieces _ _ _ T _ true
  · exact lexesAsJoin_parentContextJoinPieces _ _ _
  · exact lexesAsJoin_childContextJoinPieces _ _ _
  · cases T
    · exact lexesAsJoin_eventJoinPieces _ _ _ .artifact (by decide)
    · exact lexesAsJoin_eventJoinPieces _ _ _ .execution (by decide)
    · rfl

/-- The concept's template is not empty for `T`: context and event joins exist only for
artifacts and executions. -/
def Concept.HasJoin (T : Node) (c : Concept) : Prop :=
  T = .context → c.atomType ≠ .context ∧ c.atomType ≠ .event

instance (T : Node) (c : Concept) : Decidable (c.HasJoin T) :=
  inferInstanceAs (Decidable (_ → _))

theorem isSome_conceptJoin_iff {T : Node} {baseAlias tableAlias : String} {c : Concept} :
    (conceptJoin T baseAlias c tableAlias).isSome ↔ c.HasJoin T := by
  obtain ⟨atomType, name⟩ := c
  cases atomType <;> cases T <;> simp [conceptJoin, Concept.HasJoin]

/-- Each join introduces the alias it is emitted under. -/
theorem tableAlias_of_conceptJoin {T : Node} {baseAlias tableAlias : String} {c : Concept}
    {j : Join} (h : conceptJoin T baseAlias c tableAlias = some j) : j.tableAlias = tableAlias := by
  obtain ⟨atomType, name⟩ := c
  cases atomType <;> cases T <;> simp only [conceptJoin, Option.some.injEq, reduceCtorEq] at h <;>
    subst h <;> rfl

/-! ### Which arguments fit their places -/

/-- The key of a property or custom property concept has no character that would end, or
start an escape in, the string literal its join writes the property name into. -/
def Concept.PlainName (backslashEscapes : Bool) (c : Concept) : Prop :=
  c.atomType = .property ∨ c.atomType = .customProperty →
    ∀ ch ∈ c.conceptName.toList, IsPlainContent backslashEscapes ch

instance (backslashEscapes : Bool) (c : Concept) : Decidable (c.PlainName backslashEscapes) :=
  inferInstanceAs (Decidable (_ → _))

section Fits

variable (backslashEscapes : Bool) {baseAlias tableAlias : String} (hb : IsWord baseAlias)
  (ha : IsWord tableAlias)
include hb ha

theorem fits_propertyJoinPieces (T : Node) {propertyName : String}
    (hname : ∀ c ∈ propertyName.toList, IsPlainContent backslashEscapes c)
    (isCustomProperty : Bool) :
    ∀ p ∈ propertyJoinPieces T baseAlias tableAlias propertyName isCustomProperty,
      p.Fits backslashEscapes := by
  have hargs : ∀ p ∈ [Piece.word baseAlias, .word tableAlias, .content propertyName,
      .word (Absl.boolArg isCustomProperty)], p.Fits backslashEscapes := by
    simp only [List.forall_mem_cons, Piece.Fits, List.not_mem_nil, false_imp_iff,
      implies_true, and_true]
    exact ⟨hb, ha, hname, by cases isCustomProperty <;> decide⟩
  cases T <;> exact fits_templatePieces _ hargs _

theorem fits_conceptJoinPieces (T : Node) {c : Concept} (hc : c.PlainName backslashEscapes) :
    ∀ p ∈ conceptJoinPieces T baseAlias c tableAlias, p.Fits backslashEscapes := by
  have hwords : ∀ p ∈ [Piece.word baseAlias, .word tableAlias], p.Fits backslashEscapes := by
    simpa [Piece.Fits] using ⟨hb, ha⟩
  obtain ⟨atomType, name⟩ := c
  have hstrip : atomType = .property ∨ atomType = .customProperty → ∀ k,
      ∀ ch ∈ (⟨name.toList.drop k⟩ : String).toList, IsPlainContent backslashEscapes ch :=
    fun h k ch hch => hc h ch (List.mem_of_mem_drop hch)
  cases atomType
  · have hargs : ∀ p ∈ [Piece.word baseAlias, .word tableAlias,
        .word (toString (getTypeKindValue T))], p.Fits backslashEscapes := by
      simpa [Piece.Fits] using ⟨hb, ha, by cases T <;> decide⟩
    exact fits_templatePieces _ hargs kTypeJoinTable
  · exact fits_templatePieces _ hwords (getContextJoinTemplate T)
  · exact fits_propertyJoinPieces _ hb ha T (hstrip (.inl rfl) _) false
  · exact fits_propertyJoinPieces _ hb ha T (hstrip (.inr rfl) _) true
  · exact fits_templatePieces _ hwords kParentContextJoinTableViaParentContext
  · exact fits_templatePieces _ hwords kChildContextJoinTableViaParentContext
  · exact fits_templatePieces _ hwords (getEventJoinTemplate T)

end Fits

/-- **A plain property name is one string literal.** When the property name has no double
quote (nor, in a dialect where a backslash escapes, a backslash), the fragment
`GetPropertyJoinTableImpl` writes lexes, and `join` reads all of its tokens as the property
join: its subquery keeps the rows whose `name` is the string literal `propertyName`. -/
theorem propertyJoin_reads_name (T : Node) (backslashEscapes : Bool)
    {baseAlias propertyAlias : String} (hb : IsWord baseAlias) (ha : IsWord propertyAlias)
    (propertyName : String)
    (hname : ∀ c ∈ propertyName.toList, IsPlainContent backslashEscapes c)
    (isCustomProperty : Bool) :
    ∃ ts, tokenize backslashEscapes
        (getPropertyJoinTableImpl T baseAlias propertyAlias propertyName isCustomProperty) =
          some ts ∧
      Reads join ts (propertyJoin T baseAlias propertyAlias propertyName isCustomProperty) := by
  obtain ⟨ts, hlex, hread⟩ :=
    lexesAsJoin_propertyJoinPieces backslashEscapes baseAlias propertyAlias T propertyName
      isCustomProperty
  have hrun : lexRun backslashEscapes .idle
      (getPropertyJoinTableImpl T baseAlias propertyAlias propertyName isCustomProperty).toList =
        (.idle, ts) := by
    rw [getPropertyJoinTableImpl_eq, ← hlex]
    exact (lexPieces_eq _ _ _ (fits_propertyJoinPieces _ hb ha T hname _)).symm
  exact ⟨ts, by rw [tokenize_of_idle _ (by rw [hrun]), hrun], hread⟩

theorem propertyJoin_reads_name_accuracy :
    ∃ ts, tokenize true (getPropertyJoinTableImpl .artifact "table_0" "table_1" "accuracy" false) =
        some ts ∧ Reads join ts (propertyJoin .artifact "table_0" "table_1" "accuracy" false) :=
  propertyJoin_reads_name .artifact true (by decide) (by decide) "accuracy" (by decide) false

end MlMetadata
