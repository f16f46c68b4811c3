import MlMetadata.Absl

set_option relaxedAutoImplicit false
set_option autoImplicit false

/-!
# Lexing the generated SQL

The FROM clause the builder emits is read by the store's SQL engine. To say what that text
means, and whether a property name survives as one string literal, this module gives the
token level of that reading: words (identifiers, keywords and numbers), double-quoted
tokens, and single-character symbols, separated by white space.

The lexer is a state machine over characters (`lexStep`), run over a text by `lexRun`.
Inside a double-quoted token a doubled `""` stands for one `"`; whether a backslash starts
an escape sequence depends on the dialect: MySQL reads `\n`, `\"` and the like, SQLite (and
MySQL with `NO_BACKSLASH_ESCAPES`) reads a backslash as itself. The parameter
`backslashEscapes` selects between the two backslash rules, and only them: with either value a
double-quoted token is read as MySQL reads it (see the implementation notes).

## Main definitions

* `MlMetadata.Sql.Token`, `MlMetadata.Sql.lexStep`, `MlMetadata.Sql.lexRun`,
  `MlMetadata.Sql.tokenize`.
* `MlMetadata.Sql.Piece`, `MlMetadata.Sql.lexPieces` — lexing a text made of fixed
  template characters and substituted arguments, without reading the arguments.

## Main results

* `MlMetadata.Sql.lexRun_append` — lexing a concatenation lexes the parts in turn.
* `MlMetadata.Sql.lexPieces_eq` — when every argument fits its place (word characters where a
  word is expected, no quote or escape character inside a quoted token), lexing the pieces
  is lexing their text.

## Implementation notes

Words are ASCII letters, digits and `_`; the generated text has no other identifier
characters. Every double-quoted token is a `Token.quoted`, which `Sql.Semantics` reads as a
string literal: MySQL's reading in its default mode (without `ANSI_QUOTES`). SQLite lexes the
same characters but reads a double-quoted token as a quoted identifier first: one that names a
column in scope is that column, and only one that names none falls back to a string literal.
So under `backslashEscapes = false` the tokens are SQLite's, but the results that read what
the joins mean (`fromClause_denotes_related`, `fromClause_keeps_row_iff_all_related`,
`propertyJoin_reads_name`) hold under MySQL's reading of quoted tokens; under SQLite's they
hold for property names that name no column of the tables the join reads.
-/

namespace MlMetadata.Sql

/-- A token of the generated SQL. -/
inductive Token
  | word (w : String)
  | quoted (s : String)
  | symbol (c : Char)
  deriving DecidableEq, Repr

/-- Where the lexer is: between tokens, inside a word, inside a double-quoted token, just
after a `"` inside one (which either ends it or, doubled, stands for a quote), or just after
a backslash inside one. -/
inductive LexState
  | idle
  | word (chars : List Char)
  | quoted (chars : List Char)
  | quotedEnd (chars : List Char)
  | quotedEscape (chars : List Char)
  deriving DecidableEq, Repr

/-- The characters of words. -/
def isWordChar (c : Char) : Bool := c.isAlphanum || c = '_'

/-- The characters MySQL reads for the escape sequence of a backslash and `c`. -/
def unescape (c : Char) : List Char :=
  match c with
  | '0' => ['\x00']
  | 'b' => ['\x08']
  | 'n' => ['\n']
  | 'r' => ['\r']
  | 't' => ['\t']
  | 'Z' => ['\x1a']
  | '%' => ['\\', '%']
  | '_' => ['\\', '_']
  | c => [c]

/-- Reading `c` between tokens. -/
def startToken (c : Char) : LexState × List Token :=
  if c.isWhitespace then (.idle, [])
  else if isWordChar c then (.word [c], [])
  else if c = '"' then (.quoted [], [])
  else (.idle, [.symbol c])

/-- One character: the next state and the tokens it completes. -/
def lexStep (backslashEscapes : Bool) : LexState → Char → LexState × List Token
  | .idle, c => startToken c
  | .word w, c =>
    if isWordChar c then (.word (w ++ [c]), [])
    else ((startToken c).1, .word ⟨w⟩ :: (startToken c).2)
  | .quoted s, c =>
    if c = '"' then (.quotedEnd s, [])
    else if backslashEscapes && c = '\\' then (.quotedEscape s, [])
    else (.quoted (s ++ [c]), [])
  | .quotedEscape s, c => (.quoted (s ++ unescape c), [])
  | .quotedEnd s, c =>
    if c = '"' then (.quoted (s ++ ['"']), [])
    else ((startToken c).1, .quoted ⟨s⟩ :: (startToken c).2)

/-- The lexer run over characters from a state: the final state and the tokens completed. -/
def lexRun (backslashEscapes : Bool) : LexState → List Char → LexState × List Token
  | s, [] => (s, [])
  | s, c :: cs =>
    match lexStep backslashEscapes s c with
    | (s', ts) =>
      match lexRun backslashEscapes s' cs with
      | (s'', ts') => (s'', ts ++ ts')

/-- The tokens of a text, or `none` when it ends inside a double-quoted token. -/
def tokenize (backslashEscapes : Bool) (text : String) : Option (List Token) :=
  let r := lexRun backslashEscapes .idle text.toList
  match r.1 with
  | .idle => some r.2
  | .word w => some (r.2 ++ [.word ⟨w⟩])
  | .quotedEnd s => some (r.2 ++ [.quoted ⟨s⟩])
  | .quoted _ | .quotedEscape _ => none

variable (backslashEscapes : Bool)

theorem lexRun_cons (s : LexState) (c : Char) (cs : List Char) :
    lexRun backslashEscapes s (c :: cs) =
      ((lexRun backslashEscapes (lexStep backslashEscapes s c).1 cs).1,
        (lexStep backslashEscapes s c).2 ++
          (lexRun backslashEscapes (lexStep backslashEscapes s c).1 cs).2) := rfl

theorem lexRun_append (s : LexState) (xs ys : List Char) :
    lexRun backslashEscapes s (xs ++ ys) =
      ((lexRun backslashEscapes (lexRun backslashEscapes s xs).1 ys).1,
        (lexRun backslashEscapes s xs).2 ++
          (lexRun backslashEscapes (lexRun backslashEscapes s xs).1 ys).2) := by
  induction xs generalizing s with
  | nil => rfl
  | cons c cs ih =>
    show lexRun backslashEscapes s (c :: (cs ++ ys)) = _
    simp only [lexRun_cons, ih, List.append_assoc]

/-- Texts that each lex from between tokens back to between tokens lex, one after another,
to their tokens in turn. -/
theorem lexRun_flatten (css : List (List Char))
    (h : ∀ cs ∈ css, (lexRun backslashEscapes .idle cs).1 = .idle) :
    lexRun backslashEscapes .idle css.flatten =
      (.idle, (css.map fun cs => (lexRun backslashEscapes .idle cs).2).flatten) := by
  induction css with
  | nil => rfl
  | cons cs css ih =>
    rw [List.flatten_cons, lexRun_append, h cs (List.mem_cons_self _ _),
      ih fun d hd => h d (List.mem_cons_of_mem _ hd)]
    rfl

/-- A text that lexes back to between tokens is read as the tokens it completes. -/
theorem tokenize_of_idle {text : String}
    (h : (lexRun backslashEscapes .idle text.toList).1 = .idle) :
    tokenize backslashEscapes text = some (lexRun backslashEscapes .idle text.toList).2 := by
  simp only [tokenize, h]

/-- Word characters extend the word being read. -/
theorem lexRun_word (w cs : List Char) (h : ∀ c ∈ cs, isWordChar c) :
    lexRun backslashEscapes (.word w) cs = (.word (w ++ cs), []) := by
  induction cs generalizing w with
  | nil => simp [lexRun]
  | cons c cs ih =>
    have hc := h c (List.mem_cons_self _ _)
    simp only [lexRun_cons, lexStep, hc, if_true,
      ih (w ++ [c]) fun d hd => h d (List.mem_cons_of_mem _ hd), List.append_assoc,
      List.singleton_append, List.nil_append]

/-- A character that is neither a quote nor, in an escaping dialect, a backslash. -/
def IsPlainContent (c : Char) : Prop := c ≠ '"' ∧ (backslashEscapes = true → c ≠ '\\')

instance (c : Char) : Decidable (IsPlainContent backslashEscapes c) :=
  inferInstanceAs (Decidable (_ ∧ _))

/-- Plain characters extend a double-quoted token. -/
theorem lexRun_quoted (s cs : List Char) (h : ∀ c ∈ cs, IsPlainContent backslashEscapes c) :
    lexRun backslashEscapes (.quoted s) cs = (.quoted (s ++ cs), []) := by
  induction cs generalizing s with
  | nil => simp [lexRun]
  | cons c cs ih =>
    obtain ⟨hq, hb⟩ := h c (List.mem_cons_self _ _)
    have hb' : (backslashEscapes && c = '\\') = false := by
      cases backslashEscapes <;> simp_all
    simp only [lexRun_cons, lexStep, hq, hb', if_false, Bool.false_eq_true,
      ih (s ++ [c]) fun d hd => h d (List.mem_cons_of_mem _ hd), List.append_assoc,
      List.singleton_append, List.nil_append]

theorem isPlainContent_of_isWordChar {c : Char} (h : isWordChar c) :
    IsPlainContent backslashEscapes c := by
  refine ⟨?_, fun _ => ?_⟩ <;> rintro rfl <;> simp [isWordChar] at h

theorem startToken_of_isWordChar {c : Char} (h : isWordChar c) :
    startToken c = (.word [c], []) := by
  have hw : c.isWhitespace = false := by
    cases hc : c.isWhitespace
    · rfl
    · simp only [Char.isWhitespace, Bool.or_eq_true, decide_eq_true_eq] at hc
      rcases hc with ((rfl | rfl) | rfl) | rfl <;> simp [isWordChar] at h
  simp [startToken, hw, h]

/-! ### Texts made of template characters and arguments -/

/-- A piece of a filled template: template characters, an argument that stands where a word
is read, or an argument inside a double-quoted token. -/
inductive Piece
  | text (s : String)
  | word (s : String)
  | content (s : String)

/-- The text of a piece. -/
def Piece.str : Piece → String
  | .text s => s
  | .word s => s
  | .content s => s

/-- The characters of a piece. -/
def Piece.chars (p : Piece) : List Char := p.str.toList

/-- A non-empty text of word characters: it lexes as one word wherever a word may start. -/
def IsWord (s : String) : Prop := s ≠ "" ∧ ∀ c ∈ s.toList, isWordChar c

instance (s : String) : Decidable (IsWord s) := inferInstanceAs (Decidable (_ ∧ _))

/-- What an argument piece promises about its characters. -/
def Piece.Fits : Piece → Prop
  | .text _ => True
  | .word s => IsWord s
  | .content s => ∀ c ∈ s.toList, IsPlainContent backslashEscapes c

/-- Lexing one piece, without reading the characters of a word or content argument where
the state says what they do. -/
def lexPiece : LexState → Piece → LexState × List Token
  | .idle, .word a => (.word a.toList, [])
  | .word w, .word a => (.word (w ++ a.toList), [])
  | .quoted s, .word a => (.quoted (s ++ a.toList), [])
  | .quoted s, .content a => (.quoted (s ++ a.toList), [])
  | s, p => lexRun backslashEscapes s p.chars

/-- Lexing pieces in turn. -/
def lexPieces : LexState → List Piece → LexState × List Token
  | s, [] => (s, [])
  | s, p :: ps =>
    match lexPiece backslashEscapes s p with
    | (s', ts) =>
      match lexPieces s' ps with
      | (s'', ts') => (s'', ts ++ ts')

theorem lexPieces_cons (s : LexState) (p : Piece) (ps : List Piece) :
    lexPieces backslashEscapes s (p :: ps) =
      ((lexPieces backslashEscapes (lexPiece backslashEscapes s p).1 ps).1,
        (lexPiece backslashEscapes s p).2 ++
          (lexPieces backslashEscapes (lexPiece backslashEscapes s p).1 ps).2) := rfl

theorem lexPiece_eq (s : LexState) (p : Piece) (hp : p.Fits backslashEscapes) :
    lexPiece backslashEscapes s p = lexRun backslashEscapes s p.chars := by
  cases p with
  | text t => cases s <;> rfl
  | word a =>
    obtain ⟨hne, hw⟩ := hp
    cases s with
    | idle =>
      obtain ⟨c, cs, hcs⟩ : ∃ c cs, a.toList = c :: cs :=
        List.exists_cons_of_ne_nil fun e => hne (String.ext e)
      rw [hcs] at hw
      show (LexState.word a.toList, []) = lexRun backslashEscapes .idle a.toList
      simp only [hcs, lexRun_cons, lexStep,
        startToken_of_isWordChar (hw c (List.mem_cons_self _ _)),
        lexRun_word _ _ _ fun d hd => hw d (List.mem_cons_of_mem _ hd)]
      rfl
    | word w => exact (lexRun_word _ _ _ hw).symm
    | quoted s =>
      exact (lexRun_quoted _ _ _ fun c hc => isPlainContent_of_isWordChar _ (hw c hc)).symm
    | quotedEnd s => rfl
    | quotedEscape s => rfl
  | content a =>
    cases s with
    | quoted s => exact (lexRun_quoted _ _ _ hp).symm
    | _ => rfl

/-- When every piece fits, lexing the pieces is lexing their text. -/
theorem lexPieces_eq (s : LexState) (ps : List Piece) (hps : ∀ p ∈ ps, p.Fits backslashEscapes) :
    lexPieces backslashEscapes s ps = lexRun backslashEscapes s (ps.flatMap Piece.chars) := by
  induction ps generalizing s with
  | nil => rfl
  | cons p ps ih =>
    simp only [lexPieces_cons, List.flatMap_cons, lexRun_append,
      lexPiece_eq _ _ _ (hps p (List.mem_cons_self _ _)),
      ih _ fun q hq => hps q (List.mem_cons_of_mem _ hq)]

end MlMetadata.Sql
