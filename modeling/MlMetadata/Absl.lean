import Mathlib.Data.List.Basic
import Mathlib.Data.Nat.Digits

set_option relaxedAutoImplicit false
set_option autoImplicit false

/-!
# The string utilities the query builder calls

`filter_query_builder.cc` builds its SQL text with four library calls: `absl::StrCat` (which
writes an `int` in decimal), `absl::StartsWith`, `std::string::substr` and
`absl::Substitute`. This module models each of them on Lean strings and proves the facts the
builder's proofs use: decimal rendering is injective, a prefix test holds exactly of the
strings that extend the prefix, and `substr` past a prefix returns the rest.

## Main definitions

* `MlMetadata.Absl.startsWith` — `absl::StartsWith`.
* `MlMetadata.substr` — `std::string::substr(pos)`, `none` where the call throws
  `std::out_of_range`.
* `MlMetadata.Absl.substitute` — `absl::Substitute` with positional `$0` … `$9`.

## Main results

* `MlMetadata.toString_nat_injective` — distinct counters give distinct decimal strings.
* `MlMetadata.Absl.startsWith_iff` — `StartsWith(s, p)` iff `s = p ++ r` for some `r`.
* `MlMetadata.substr_append` — `(p ++ r).substr(p.length)` is `r` and does not throw.

## Implementation notes

Strings are sequences of characters; the source's are of bytes. Every prefix the builder
tests or strips is ASCII, so the byte and the character readings of `StartsWith` and
`substr` agree on them.
-/

namespace MlMetadata

/-! ### Decimal formatting -/

/-- One step of reading a decimal digit string back as a number. -/
def decimalStep (acc : Nat) (c : Char) : Nat := 10 * acc + (c.toNat - '0'.toNat)

theorem digitChar_toNat_sub : ∀ d < 10, (Nat.digitChar d).toNat - '0'.toNat = d := by
  decide

/-- Reading back the digits `Nat.toDigitsCore` prepends to `ds` restores the number in front
of `ds`, given enough fuel. -/
theorem foldl_decimalStep_toDigitsCore (f n : Nat) (ds : List Char) (h : n < f) :
    (Nat.toDigitsCore 10 f n ds).foldl decimalStep 0 = ds.foldl decimalStep n := by
  induction f generalizing n ds with
  | zero => omega
  | succ f ih =>
    have hd := digitChar_toNat_sub (n % 10) (Nat.mod_lt _ (by decide))
    simp only [Nat.toDigitsCore]
    split
    · simp only [List.foldl_cons, decimalStep, hd]
      congr 1
      omega
    · rw [ih (n / 10) _ (by omega)]
      simp only [List.foldl_cons, decimalStep, hd]
      congr 1
      omega

/-- Reading back the decimal rendering of `n` gives `n`. -/
theorem foldl_decimalStep_toString (n : Nat) : (toString n).toList.foldl decimalStep 0 = n :=
  foldl_decimalStep_toDigitsCore (n + 1) n [] (Nat.lt_succ_self n)

/-- `absl::StrCat` writes distinct counters as distinct strings. -/
theorem toString_nat_injective : Function.Injective (toString : Nat → String) :=
  fun m n h => by rw [← foldl_decimalStep_toString m, ← foldl_decimalStep_toString n, h]

theorem isDigit_digitChar : ∀ d < 10, (Nat.digitChar d).isDigit := by
  decide

/-- The characters `Nat.toDigitsCore` prepends to `ds` are digits. -/
theorem isDigit_of_mem_toDigitsCore (f n : Nat) (ds : List Char) {c : Char}
    (h : c ∈ Nat.toDigitsCore 10 f n ds) : c.isDigit ∨ c ∈ ds := by
  induction f generalizing n ds with
  | zero => exact .inr h
  | succ f ih =>
    have hd := isDigit_digitChar (n % 10) (Nat.mod_lt _ (by decide))
    have hcons : c ∈ Nat.digitChar (n % 10) :: ds → c.isDigit ∨ c ∈ ds :=
      fun h => (List.mem_cons.1 h).imp (fun (e : c = _) => e ▸ hd) id
    simp only [Nat.toDigitsCore] at h
    split at h
    · exact hcons h
    · exact (ih _ _ h).elim .inl hcons

/-- `absl::StrCat` writes a counter with decimal digits only. -/
theorem isDigit_of_mem_toString {n : Nat} {c : Char} (h : c ∈ (toString n).toList) :
    c.isDigit :=
  (isDigit_of_mem_toDigitsCore (n + 1) n [] h).resolve_right (List.not_mem_nil _)

/-! ### Prefixes and substrings -/

namespace Absl

/-- `absl::StartsWith(s, prefix)`. -/
def startsWith (s pre : String) : Bool := pre.toList.isPrefixOf s.toList

theorem startsWith_iff {s pre : String} : startsWith s pre = true ↔ ∃ r, s = pre ++ r := by
  simp only [startsWith, List.isPrefixOf_iff_prefix, List.IsPrefix, String.ext_iff,
    String.data_append]
  exact ⟨fun ⟨r, h⟩ => ⟨⟨r⟩, h.symm⟩, fun ⟨r, h⟩ => ⟨r.data, h.symm⟩⟩

@[simp] theorem startsWith_append (pre r : String) : startsWith (pre ++ r) pre = true :=
  startsWith_iff.2 ⟨r, rfl⟩

end Absl

/-- `s.substr(pos)`: the characters of `s` from `pos` on, or `none` where the call throws
`std::out_of_range` because `pos` is past the end. -/
def substr (s : String) (pos : Nat) : Option String :=
  if pos ≤ s.length then some ⟨s.toList.drop pos⟩ else none

/-- Dropping the characters of a prefix leaves the rest. -/
theorem mk_drop_append (pre r : String) : String.mk ((pre ++ r).toList.drop pre.length) = r := by
  simp only [String.toList, String.data_append, String.length, List.drop_left]

theorem substr_append (pre r : String) : substr (pre ++ r) pre.length = some r := by
  have hlen : pre.length ≤ (pre ++ r).length := by
    rw [String.length_append]; omega
  simp only [substr, hlen, if_true, mk_drop_append]

/-! ### Positional substitution -/

namespace Absl

/-- The characters `absl::Substitute(format, args...)` writes, or `none` when `format` is
malformed: a `$` at its end, a `$` before a character that is neither a digit nor `$`, or a
`$n` past the last argument. -/
def substituteChars (args : List String) : List Char → Option (List Char)
  | [] => some []
  | ['$'] => none
  | '$' :: c :: rest =>
    if c = '$' then ('$' :: ·) <$> substituteChars args rest
    else if c.isDigit then
      match args[c.toNat - '0'.toNat]? with
      | some arg => (arg.toList ++ ·) <$> substituteChars args rest
      | none => none
    else none
  | c :: rest => (c :: ·) <$> substituteChars args rest

/-- `absl::Substitute(format, args...)`: `$n` is replaced by the `n`-th argument and `$$` by
`$`. On a malformed format the release build appends nothing, so the result is empty. -/
def substitute (format : String) (args : List String) : String :=
  match substituteChars args format.toList with
  | some cs => String.mk cs
  | none => ""

/-- `absl::Substitute` formats a `bool` argument as `true` or `false`. -/
def boolArg (b : Bool) : String := if b then "true" else "false"

end Absl

end MlMetadata
