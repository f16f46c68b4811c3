import MlMetadata.Sql.Parser

set_option relaxedAutoImplicit false
set_option autoImplicit false

/-!
# What a FROM clause means

A database maps each table name to its rows, and a row maps column names to values. A FROM
clause denotes assignments of rows to its table aliases: the base alias is bound to a row of
the base table, each join's alias to a row its source yields, and every ON condition holds. A
subquery yields the rows of its select list, one for each choice of a row per table in its
FROM clause that satisfies its ON and WHERE conditions.

## Main definitions

* `MlMetadata.Sql.Value`, `MlMetadata.Sql.Row`, `MlMetadata.Sql.Database`.
* `MlMetadata.Sql.Condition.eval` — a condition read in a scope.
* `MlMetadata.Sql.Select.eval` — the rows a subquery yields.
* `MlMetadata.Sql.FromClause.Denotes` — the assignments a FROM clause denotes.

## Main results

* `MlMetadata.Sql.sqlEq_eq_true` — an equality holds exactly when both sides are the same
  non-NULL value.
* `MlMetadata.Sql.Row.get_pick` — a column of a picked row is the column it was picked from.
* `MlMetadata.Sql.mem_eval`, `MlMetadata.Sql.mem_extend` — the rows a subquery yields, one
  choice of rows at a time.

## Design and narrowings

* Set semantics: a FROM clause denotes a set of assignments, and what a subquery yields counts
  by membership, not multiplicity.
* A missing column is NULL; an equality with NULL is not true, so the row drops out, as in
  SQL.
* An unqualified column is read from the select's own FROM table. The generated SQL qualifies
  every column of a select over more than one table, so nothing else is ever meant.
* A number literal is an integer, `TRUE` and `FALSE` are booleans, and every double-quoted
  token is a string: MySQL's reading in its default mode. SQLite reads a double-quoted token
  that names a column in scope as that column, and only one that names no column as a string;
  the results built on this semantics are therefore about MySQL's reading, and about SQLite's
  only where no property name is also a column name of the joined tables.
* Doubles are kept as their bits; no condition of the generated SQL compares them.
-/

namespace MlMetadata.Sql

/-- A value stored in a column. -/
inductive Value
  | int (i : Int)
  | double (bits : UInt64)
  | string (s : String)
  | bool (b : Bool)
  deriving DecidableEq, Repr

/-- A row: its columns and their values; a column it does not have is NULL. -/
abbrev Row := List (String × Value)

/-- The value of a column, `none` for NULL. -/
def Row.get (r : Row) (column : String) : Option Value := r.lookup column

/-- A database: the rows of each table. -/
abbrev Database := String → List Row

/-- The value a literal stands for. -/
def Literal.value : Literal → Value
  | .number n => .int n
  | .string s => .string s
  | .bool b => .bool b

/-- The row each table name or alias in scope stands for. -/
abbrev Scope := String → Option Row

/-- The value of a column reference; an unqualified column is read from `fromTable`. -/
def ColumnRef.eval (scope : Scope) (fromTable : String) (c : ColumnRef) : Option Value :=
  (scope (c.qualifier.getD fromTable)).bind fun r => r.get c.column

/-- SQL equality: true exactly when both sides are the same non-NULL value. -/
def sqlEq : Option Value → Option Value → Bool
  | some x, some y => x == y
  | _, _ => false

theorem sqlEq_eq_true {x y : Option Value} : sqlEq x y = true ↔ x = y ∧ x.isSome := by
  cases x <;> cases y <;> simp [sqlEq]

@[simp] theorem sqlEq_some_eq_true {x : Option Value} {v : Value} :
    sqlEq x (some v) = true ↔ x = some v :=
  sqlEq_eq_true.trans ⟨And.left, fun h => ⟨h, by simp [h]⟩⟩

/-- `r.column = r'.column'` holds: the two columns hold the same value, neither NULL. -/
def Links (r : Row) (column : String) (r' : Row) (column' : String) : Prop :=
  sqlEq (r.get column) (r'.get column') = true

instance (r : Row) (column : String) (r' : Row) (column' : String) :
    Decidable (Links r column r' column') :=
  inferInstanceAs (Decidable (_ = true))

/-- Whether a condition holds in a scope. -/
def Condition.eval (scope : Scope) (fromTable : String) : Condition → Bool
  | .columns l r => sqlEq (l.eval scope fromTable) (r.eval scope fromTable)
  | .literal l v => sqlEq (l.eval scope fromTable) (some v.value)

/-! ### Rows picked from rows -/

/-- The row whose column `name` is the column `column` of `r`, for each `(name, r, column)`;
a NULL column is left out. -/
def Row.pick (columns : List (String × Row × String)) : Row :=
  columns.filterMap fun (name, r, column) => (name, ·) <$> r.get column

/-- A column of a picked row: the first pick of that name whose column is not NULL. -/
theorem Row.get_pick_cons (n : String) (r : Row) (c : String) (cs : List (String × Row × String))
    (name : String) :
    (Row.pick ((n, r, c) :: cs)).get name =
      if name = n ∧ (r.get c).isSome then r.get c else (Row.pick cs).get name := by
  simp only [Row.pick, List.filterMap_cons]
  cases h : r.get c with
  | none => simp
  | some v =>
    by_cases e : name = n
    · simp [e, Row.get, List.lookup_cons]
    · simp [e, Row.get, List.lookup_cons, beq_eq_false_iff_ne.2 e]

theorem Row.get_pick_of_not_mem {columns : List (String × Row × String)} {name : String}
    (h : name ∉ columns.map Prod.fst) : (Row.pick columns).get name = none := by
  induction columns with
  | nil => rfl
  | cons c columns ih =>
    obtain ⟨n, r, column⟩ := c
    simp only [List.map_cons, List.mem_cons, not_or] at h
    rw [get_pick_cons, if_neg fun e => h.1 e.1, ih h.2]

/-- A column of a picked row, its names distinct, is the column it was picked from. -/
theorem Row.get_pick {columns : List (String × Row × String)}
    (hnodup : (columns.map Prod.fst).Nodup) {name : String} {r : Row} {column : String}
    (h : (name, r, column) ∈ columns) : (Row.pick columns).get name = r.get column := by
  induction columns with
  | nil => exact absurd h (List.not_mem_nil _)
  | cons c columns ih =>
    obtain ⟨n, r', column'⟩ := c
    rw [List.map_cons, List.nodup_cons] at hnodup
    rw [get_pick_cons]
    rcases List.mem_cons.1 h with e | h
    · cases e
      split_ifs with hs
      · rfl
      · rw [get_pick_of_not_mem hnodup.1]
        exact (by simpa using hs : r.get column = none).symm
    · have hn : name ≠ n := fun e => hnodup.1 (List.mem_map.2 ⟨_, h, e⟩)
      rw [if_neg fun e => hn e.1, ih hnodup.2 h]

/-! ### Subqueries -/

/-- The choices of rows, each extended by a row of a joined table that satisfies its ON
condition. A choice is the list of its tables and rows, the last joined first. -/
def InnerJoin.extend (db : Database) (fromTable : String) (j : InnerJoin)
    (ρs : List (List (String × Row))) : List (List (String × Row)) :=
  ρs.flatMap fun ρ => ((db j.table).map fun r => (j.table, r) :: ρ).filter fun ρ' =>
    j.condition.eval (fun t => ρ'.lookup t) fromTable

theorem mem_extend {db : Database} {fromTable : String} {j : InnerJoin}
    {ρs : List (List (String × Row))} {ρ' : List (String × Row)} :
    ρ' ∈ j.extend db fromTable ρs ↔ ∃ ρ ∈ ρs, ∃ r ∈ db j.table,
      j.condition.eval (fun t => ((j.table, r) :: ρ).lookup t) fromTable = true ∧
        (j.table, r) :: ρ = ρ' := by
  simp only [InnerJoin.extend, List.mem_flatMap, List.mem_filter, List.mem_map]
  constructor
  · rintro ⟨ρ, hρ, ⟨r, hr, rfl⟩, h⟩
    exact ⟨ρ, hρ, r, hr, h, rfl⟩
  · rintro ⟨ρ, hρ, r, hr, h, rfl⟩
    exact ⟨ρ, hρ, ⟨r, hr, rfl⟩, h⟩

/-- The choices of one row per table of a select's FROM clause that satisfy its ON
conditions. -/
def Select.scopes (db : Database) (q : Select) : List (List (String × Row)) :=
  q.joins.foldl (fun ρs j => j.extend db q.table ρs) ((db q.table).map fun r => [(q.table, r)])

/-- The name a select item gives its column. -/
def SelectItem.outputName (it : SelectItem) : String := it.name.getD it.column.column

/-- The row of the select list for one choice of rows; NULL columns are left out. -/
def Select.project (q : Select) (ρ : List (String × Row)) : Row :=
  q.items.filterMap fun it =>
    (it.outputName, ·) <$> it.column.eval (fun t => ρ.lookup t) q.table

/-- The rows a subquery yields. -/
def Select.eval (db : Database) (q : Select) : List Row :=
  ((q.scopes db).filter fun ρ =>
    q.conditions.all fun c => c.eval (fun t => ρ.lookup t) q.table).map q.project

/-- The row of the select list for a choice of rows picks each item's column from the row of
its table. -/
theorem Select.project_eq_pick (q : Select) (ρ : List (String × Row)) :
    q.project ρ = Row.pick (q.items.map fun it =>
      (it.outputName, (ρ.lookup (it.column.qualifier.getD q.table)).getD [],
        it.column.column)) := by
  rw [Select.project, Row.pick, List.filterMap_map]
  refine List.filterMap_congr fun it _ => ?_
  simp only [Function.comp, ColumnRef.eval]
  cases ρ.lookup (it.column.qualifier.getD q.table) <;> rfl

theorem mem_eval {db : Database} {q : Select} {r : Row} :
    r ∈ q.eval db ↔ ∃ ρ ∈ q.scopes db,
      (q.conditions.all fun c => c.eval (fun t => ρ.lookup t) q.table) = true ∧
        q.project ρ = r := by
  simp only [Select.eval, List.mem_map, List.mem_filter, and_assoc]

/-- The rows a join's source yields. -/
def Source.eval (db : Database) : Source → List Row
  | .table t => db t
  | .select q => q.eval db

/-! ### FROM clauses -/

/-- A join's alias is bound to a row its source yields, and its ON condition holds. -/
def Join.Holds (db : Database) (j : Join) (fromTable : String) (σ : String → Row) : Prop :=
  σ j.tableAlias ∈ j.source.eval db ∧ j.condition.eval (fun a => some (σ a)) fromTable = true

instance (db : Database) (j : Join) (fromTable : String) (σ : String → Row) :
    Decidable (j.Holds db fromTable σ) :=
  inferInstanceAs (Decidable (_ ∧ _))

/-- The assignments of rows to table aliases a FROM clause denotes: the base alias bound to a
row of the base table, and every join holding. -/
def FromClause.Denotes (db : Database) (f : FromClause) (σ : String → Row) : Prop :=
  σ f.tableAlias ∈ db f.table ∧ ∀ j ∈ f.joins, j.Holds db f.tableAlias σ

instance (db : Database) (f : FromClause) (σ : String → Row) : Decidable (f.Denotes db σ) :=
  inferInstanceAs (Decidable (_ ∧ _))

end MlMetadata.Sql
