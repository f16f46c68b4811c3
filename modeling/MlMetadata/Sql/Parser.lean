import MlMetadata.Sql.Lexer

set_option relaxedAutoImplicit false
set_option autoImplicit false

/-!
# The FROM clause grammar

The FROM clauses the builder emits are a base table under an alias followed by joins. A join
brings in a table or a parenthesised `SELECT` under a new alias, on an equality between two
columns. A `SELECT` lists columns, optionally renamed with `as`, from one table joined to
others on column equalities, optionally filtered by a conjunction of equalities between a
column and a literal. This module is the abstract syntax of that fragment of SQL and a
recursive-descent parser for it over the tokens of `MlMetadata.Sql.Lexer`.

## Main definitions

* `MlMetadata.Sql.FromClause`, `Join`, `Source`, `Select`, `Condition` — the syntax.
* `MlMetadata.Sql.parseFromClause` — the parser.
* `MlMetadata.Sql.Reads` — a parser reads exactly a given token list, whatever follows.

## Main results

* `MlMetadata.Sql.many_flatten` — `many p` reads a concatenation of token lists `p` reads.
* `MlMetadata.Sql.parseFromClause_flatten` — a FROM clause made of a base table and joins
  `join` reads parses to them.

## Implementation notes

Keywords are words compared without regard to case. The list parsers take a fuel argument,
the number of tokens left, so that they are structurally recursive and can be evaluated; an
element always consumes a token, so the fuel never runs out first.
-/

namespace MlMetadata.Sql

/-- A column `qualifier.column`, or an unqualified `column`. -/
structure ColumnRef where
  qualifier : Option String
  column : String
  deriving DecidableEq, Repr

/-- A literal: a number, a double-quoted string, or `TRUE` / `FALSE`. -/
inductive Literal
  | number (n : Nat)
  | string (s : String)
  | bool (b : Bool)
  deriving DecidableEq, Repr

/-- An equality between two columns or between a column and a literal. -/
inductive Condition
  | columns (l r : ColumnRef)
  | literal (l : ColumnRef) (v : Literal)
  deriving DecidableEq, Repr

/-- A select item `column`, or `column AS name`. -/
structure SelectItem where
  column : ColumnRef
  name : Option String
  deriving DecidableEq, Repr

/-- `JOIN table ON condition` inside a subquery. -/
structure InnerJoin where
  table : String
  condition : Condition
  deriving DecidableEq, Repr

/-- `SELECT items FROM table joins [WHERE conditions]`. -/
structure Select where
  items : List SelectItem
  table : String
  joins : List InnerJoin
  conditions : List Condition
  deriving DecidableEq, Repr

/-- What a join brings in: a table or a subquery. -/
inductive Source
  | table (name : String)
  | select (q : Select)
  deriving DecidableEq, Repr

/-- `JOIN source AS tableAlias ON condition`. -/
structure Join where
  source : Source
  tableAlias : String
  condition : Condition
  deriving DecidableEq, Repr

/-- `table AS tableAlias joins`. -/
structure FromClause where
  table : String
  tableAlias : String
  joins : List Join
  deriving DecidableEq, Repr

/-- The table aliases a FROM clause introduces: the base table's, then one per join. -/
def FromClause.aliases (f : FromClause) : List String :=
  f.tableAlias :: f.joins.map fun j => j.tableAlias

/-! ### The parser -/

/-- A parser: what it read from the front of the tokens, and the rest. -/
abbrev Parser (α : Type) := List Token → Option (α × List Token)

/-- The token is the keyword `kw`, in any case. -/
def Token.isKeyword (t : Token) (kw : String) : Bool :=
  match t with
  | .word w => w.toList.map Char.toUpper == kw.toList
  | _ => false

/-- The keyword `kw`. -/
def keyword (kw : String) : Parser Unit
  | t :: rest => if t.isKeyword kw then some ((), rest) else none
  | [] => none

/-- The symbol `c`. -/
def symbol (c : Char) : Parser Unit
  | .symbol d :: rest => if d = c then some ((), rest) else none
  | _ => none

/-- An identifier. -/
def identifier : Parser String
  | .word w :: rest => some (w, rest)
  | _ => none

/-- A column reference. -/
def columnRef : Parser ColumnRef
  | .word t :: .symbol '.' :: .word c :: rest => some (⟨some t, c⟩, rest)
  | .word c :: rest => some (⟨none, c⟩, rest)
  | _ => none

/-- The value of a word of decimal digits. -/
def decimalValue? (w : String) : Option Nat :=
  if w.toList ≠ [] ∧ w.toList.all Char.isDigit then some (w.toList.foldl decimalStep 0) else none

/-- A literal. -/
def literal : Parser Literal
  | .quoted s :: rest => some (.string s, rest)
  | .word w :: rest =>
    if w.toList.map Char.toUpper = "TRUE".toList then some (.bool true, rest)
    else if w.toList.map Char.toUpper = "FALSE".toList then some (.bool false, rest)
    else (fun n => (.number n, rest)) <$> decimalValue? w
  | _ => none

/-- A condition. A qualified column on the right is a column; otherwise a literal is tried
before an unqualified column. -/
def condition : Parser Condition := fun ts =>
  match columnRef ts with
  | some (l, .symbol '=' :: .word t :: .symbol '.' :: .word c :: rest) =>
    some (.columns l ⟨some t, c⟩, rest)
  | some (l, .symbol '=' :: rest) =>
    match literal rest with
    | some (v, rest) => some (.literal l v, rest)
    | none => (fun r => (.columns l r.1, r.2)) <$> columnRef rest
  | _ => none

/-- A select item. -/
def selectItem : Parser SelectItem := fun ts =>
  match columnRef ts with
  | some (c, t :: .word n :: rest) =>
    if t.isKeyword "AS" then some (⟨c, some n⟩, rest) else some (⟨c, none⟩, t :: .word n :: rest)
  | some (c, rest) => some (⟨c, none⟩, rest)
  | none => none

/-- One or more `p`, separated by `sep`. -/
def sepBy1 {α : Type} (p : Parser α) (sep : Parser Unit) : Nat → Parser (List α)
  | 0 => fun _ => none
  | fuel + 1 => fun ts =>
    match p ts with
    | some (a, rest) =>
      match sep rest with
      | some ((), rest') => (fun r => (a :: r.1, r.2)) <$> sepBy1 p sep fuel rest'
      | none => some ([a], rest)
    | none => none

/-- Zero or more `p`. -/
def many {α : Type} (p : Parser α) : Nat → Parser (List α)
  | 0 => fun ts => some ([], ts)
  | fuel + 1 => fun ts =>
    match p ts with
    | some (a, rest) => (fun r => (a :: r.1, r.2)) <$> many p fuel rest
    | none => some ([], ts)

/-- `JOIN table ON condition` inside a subquery. -/
def innerJoin : Parser InnerJoin := fun ts =>
  match keyword "JOIN" ts with
  | some ((), .word t :: rest) =>
    match keyword "ON" rest with
    | some ((), rest) => (fun r => (⟨t, r.1⟩, r.2)) <$> condition rest
    | none => none
  | _ => none

/-- A `SELECT`. -/
def select : Parser Select := fun ts =>
  match keyword "SELECT" ts with
  | some ((), rest) =>
    match sepBy1 selectItem (symbol ',') rest.length rest with
    | some (items, rest) =>
      match keyword "FROM" rest with
      | some ((), .word t :: rest) =>
        match many innerJoin rest.length rest with
        | some (joins, rest) =>
          match keyword "WHERE" rest with
          | some ((), rest) =>
            (fun r => (⟨items, t, joins, r.1⟩, r.2)) <$>
              sepBy1 condition (keyword "AND") rest.length rest
          | none => some (⟨items, t, joins, []⟩, rest)
        | none => none
      | _ => none
    | none => none
  | none => none

/-- What a join brings in. -/
def source : Parser Source
  | .symbol '(' :: rest =>
    match select rest with
    | some (q, .symbol ')' :: rest) => some (.select q, rest)
    | _ => none
  | .word t :: rest => some (.table t, rest)
  | _ => none

/-- `JOIN source AS alias ON condition`. -/
def join : Parser Join := fun ts =>
  match keyword "JOIN" ts with
  | some ((), rest) =>
    match source rest with
    | some (src, rest) =>
      match keyword "AS" rest with
      | some ((), .word a :: rest) =>
        match keyword "ON" rest with
        | some ((), rest) => (fun r => (⟨src, a, r.1⟩, r.2)) <$> condition rest
        | none => none
      | _ => none
    | none => none
  | none => none

/-- A whole FROM clause: every token must be read. -/
def parseFromClause (ts : List Token) : Option FromClause :=
  match ts with
  | .word t :: rest =>
    match keyword "AS" rest with
    | some ((), .word a :: rest) =>
      match many join rest.length rest with
      | some (joins, []) => some ⟨t, a, joins⟩
      | _ => none
    | _ => none
  | _ => none

/-! ### Reading concatenated tokens -/

/-- `p` reads exactly the tokens `ts` and returns `x`, whatever tokens follow. -/
def Reads {α : Type} (p : Parser α) (ts : List Token) (x : α) : Prop :=
  ∀ rest, p (ts ++ rest) = some (x, rest)

/-- A parser that fails on no tokens reads something only from some tokens. -/
theorem Reads.ne_nil {α : Type} {p : Parser α} {ts : List Token} {x : α} (h : Reads p ts x)
    (hnil : p [] = none) : ts ≠ [] := by
  rintro rfl
  simpa [hnil] using h []

section Many

variable {α β : Type} (p : Parser α) {l : List β} {toks : β → List Token} {f : β → Option α}

/-- Items each of which either contributes no tokens or has tokens `p` reads: `many p`, given
as much fuel as there are tokens, reads their tokens in turn as what `p` reads of each. -/
theorem many_flatten
    (h : ∀ b ∈ l, (f b = none ∧ toks b = []) ∨ ∃ x, f b = some x ∧ Reads p (toks b) x)
    (hnil : p [] = none) (fuel : Nat) (hfuel : (l.map toks).flatten.length ≤ fuel) :
    many p fuel (l.map toks).flatten = some (l.filterMap f, []) := by
  induction l generalizing fuel with
  | nil => cases fuel <;> simp [many, hnil]
  | cons b l ih =>
    have ih' := ih fun b' hb' => h b' (List.mem_cons_of_mem _ hb')
    simp only [List.map_cons, List.flatten_cons, List.length_append] at hfuel ⊢
    rcases h b (List.mem_cons_self _ _) with ⟨hf, ht⟩ | ⟨x, hf, hx⟩
    · simp only [ht, List.nil_append, List.filterMap_cons, hf]
      exact ih' fuel (by simpa [ht] using hfuel)
    · have hne : (toks b).length ≠ 0 := by simpa using hx.ne_nil hnil
      obtain ⟨fuel, rfl⟩ : ∃ k, fuel = k + 1 := ⟨fuel - 1, by omega⟩
      simp only [many, hx _, ih' fuel (by omega), List.filterMap_cons, hf]
      rfl

end Many

/-- The text of a base table under an alias followed by joins parses to them: items that
contribute no tokens contribute no join. -/
theorem parseFromClause_flatten {β : Type} {l : List β} {toks : β → List Token}
    {f : β → Option Join}
    (h : ∀ b ∈ l, (f b = none ∧ toks b = []) ∨ ∃ x, f b = some x ∧ Reads join (toks b) x)
    (table tableAlias : String) :
    parseFromClause (.word table :: .word "AS" :: .word tableAlias :: (l.map toks).flatten) =
      some ⟨table, tableAlias, l.filterMap f⟩ := by
  show (match many join _ (l.map toks).flatten with
    | some (joins, []) => some (FromClause.mk table tableAlias joins)
    | _ => none) = _
  rw [many_flatten join h rfl _ le_rfl]

end MlMetadata.Sql
