import Mathlib.Algebra.Ring.Nat
import Mathlib.Data.List.Lex
import Mathlib.Order.Fin.Basic

/-!
# Python text

A Python `str` is a sequence of code points.  Lone surrogates are ordinary
members of that sequence, so the development uses lists of code points instead
of Lean strings.  The order on lists is the lexicographic code-point order that
Python uses to compare strings.
-/

namespace DataLifecycle.Python

/-- One Unicode code point, surrogates included. -/
abbrev CodePoint := Fin 0x110000

instance (priority := 2000) codePoints_neZero : NeZero 0x110000 := ⟨by decide⟩

/-- A Python `str`. -/
abbrev Str := List CodePoint

instance (priority := 2000) Str.lawfulBEq : LawfulBEq Str := inferInstance

/-- A Python `bytes` value. -/
abbrev Bytes := List UInt8

/-- The Python string with the code points of a Lean string literal. -/
def str (text : String) : Str :=
  text.toList.map fun character => Fin.ofNat 0x110000 character.toNat

/-- `str.isspace` on one code point, which is also what `\s` matches. -/
def isSpace (point : CodePoint) : Bool :=
  let code := point.val
  (9 ≤ code && code ≤ 13) || (0x1c ≤ code && code ≤ 0x20) || code == 0x85 || code == 0xa0 ||
    code == 0x1680 || (0x2000 ≤ code && code ≤ 0x200a) || code == 0x2028 || code == 0x2029 ||
    code == 0x202f || code == 0x205f || code == 0x3000

/-- `str.strip()` with no argument. -/
def strip (text : Str) : Str :=
  ((text.dropWhile isSpace).reverse.dropWhile isSpace).reverse

end DataLifecycle.Python
