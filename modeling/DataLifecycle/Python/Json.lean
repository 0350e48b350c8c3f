import DataLifecycle.Python.Text
import Mathlib.Data.Nat.Digits.Defs
import Mathlib.Data.List.Sort

/-!
# JSON values and their compact text

`Json` is the value universe of `json.dumps`.  Object members keep their
insertion order; `sortKeys` is the rearrangement made by `sort_keys=True`, and
`print` writes a value with the compact separators and `ensure_ascii=False`.

Finite floats stay abstract.  `FloatText` records what the printer and the
parser use of them: a `repr` that is a JSON number token with a fraction or an
exponent, and a conversion that reads it back.
-/

namespace DataLifecycle.Python

/-- An ASCII digit. -/
def isDigit (point : CodePoint) : Bool := 48 ≤ point.val && point.val ≤ 57

/-- The integer part of a JSON number: `0`, or digits without a leading zero. -/
def IsWhole (text : Str) : Prop :=
  text = [48] ∨ ∃ first rest, text = first :: rest ∧
    49 ≤ first.val ∧ first.val ≤ 57 ∧ ∀ digit ∈ rest, isDigit digit = true

/-- An absent fraction, or a point followed by at least one digit. -/
def IsFraction (text : Str) : Prop :=
  text = [] ∨ ∃ digits, text = 46 :: digits ∧ digits ≠ [] ∧ ∀ digit ∈ digits, isDigit digit = true

/-- An absent exponent, or `e`, a sign and at least one digit. -/
def IsExponent (text : Str) : Prop :=
  text = [] ∨ ∃ sign digits, text = 101 :: sign :: digits ∧ (sign = 43 ∨ sign = 45) ∧
    digits ≠ [] ∧ ∀ digit ∈ digits, isDigit digit = true

/-- The number tokens that `json` reads as a float. -/
def IsFloatToken (token : Str) : Prop :=
  ∃ sign whole fraction exponent, token = sign ++ whole ++ fraction ++ exponent ∧
    (sign = [] ∨ sign = [45]) ∧ IsWhole whole ∧ IsFraction fraction ∧ IsExponent exponent ∧
    (fraction ≠ [] ∨ exponent ≠ [])

/-- The text interface of finite floats: `float.__repr__`, and `float(token)`
on number tokens, which is `none` when the value overflows to an infinity. -/
class FloatText (F : Type) where
  repr : F → Str
  parse : Str → Option F
  parse_repr : ∀ value, parse (repr value) = some value
  isFloatToken_repr : ∀ value, IsFloatToken (repr value)

/-- No floats at all, for closed examples whose values hold none. -/
instance : FloatText Empty where
  repr := Empty.elim
  parse := fun _ => none
  parse_repr := fun value => value.elim
  isFloatToken_repr := fun value => value.elim

/-- A value that `json.dumps` accepts. -/
inductive Json (F : Type)
  | null
  | bool (value : Bool)
  | int (value : Int)
  | float (value : F)
  | str (value : Str)
  | array (items : List (Json F))
  | object (members : List (Str × Json F))

namespace Json

variable {F : Type}

/-! ## Numbers -/

/-- The digit of a number below ten. -/
def digitPoint (digit : Nat) : CodePoint := Fin.ofNat 0x110000 (48 + digit)

/-- Decimal text of a natural number. -/
def natText (n : Nat) : Str :=
  if n = 0 then [48] else ((Nat.digits 10 n).map digitPoint).reverse

/-- `str(value)` for an integer. -/
def intText (value : Int) : Str :=
  if value < 0 then 45 :: natText value.natAbs else natText value.natAbs

/-- The number written by a sequence of digits. -/
def natOfText (digits : Str) : Nat :=
  digits.foldl (fun value digit => value * 10 + (digit.val - 48)) 0

/-- Python's default bound on the digits of an integer in decimal text. -/
def maxStrDigits : Nat := 4300

/-! ## Strings -/

/-- One character between the quotes, escaped as `ensure_ascii=False` requires. -/
def escape (point : CodePoint) : Str :=
  if point = 34 then [92, 34]
  else if point = 92 then [92, 92]
  else if point = 8 then [92, 98]
  else if point = 12 then [92, 102]
  else if point = 10 then [92, 110]
  else if point = 13 then [92, 114]
  else if point = 9 then [92, 116]
  else if point.val < 32 then
    [92, 117, 48, 48, Fin.ofNat 0x110000 (48 + point.val / 16),
      Fin.ofNat 0x110000 (if point.val % 16 < 10 then 48 + point.val % 16 else 87 + point.val % 16)]
  else [point]

/-- A quoted string. -/
def quote (text : Str) : Str := 34 :: text.flatMap escape ++ [34]

/-! ## Values -/

variable [FloatText F]

mutual

/-- Compact text of a value, members in their stored order. -/
def print : Json F → Str
  | .null => [110, 117, 108, 108]
  | .bool true => [116, 114, 117, 101]
  | .bool false => [102, 97, 108, 115, 101]
  | .int value => intText value
  | .float value => FloatText.repr value
  | .str value => quote value
  | .array [] => [91, 93]
  | .array (item :: rest) => 91 :: print item ++ printItems rest
  | .object [] => [123, 125]
  | .object ((key, value) :: rest) => 123 :: quote key ++ 58 :: print value ++ printMembers rest

/-- The remaining items of an array, each after a comma, and the bracket. -/
def printItems : List (Json F) → Str
  | [] => [93]
  | item :: rest => 44 :: print item ++ printItems rest

/-- The remaining members of an object, each after a comma, and the brace. -/
def printMembers : List (Str × Json F) → Str
  | [] => [125]
  | (key, value) :: rest => 44 :: quote key ++ 58 :: print value ++ printMembers rest

end

omit [FloatText F]

/-- Comparison of object members by key. -/
abbrev keyLE (first second : Str × Json F) : Prop := first.1 ≤ second.1

mutual

/-- Order the members of every object by key. -/
def sortKeys : Json F → Json F
  | .null => .null
  | .bool value => .bool value
  | .int value => .int value
  | .float value => .float value
  | .str value => .str value
  | .array items => .array (sortItems items)
  | .object members => .object ((sortMembers members).insertionSort keyLE)

def sortItems : List (Json F) → List (Json F)
  | [] => []
  | item :: rest => sortKeys item :: sortItems rest

def sortMembers : List (Str × Json F) → List (Str × Json F)
  | [] => []
  | (key, value) :: rest => (key, sortKeys value) :: sortMembers rest

end

mutual

/-- The keys of every object are distinct, as in every Python `dict`. -/
def DistinctKeys : Json F → Prop
  | .array items => DistinctKeysItems items
  | .object members => (members.map Prod.fst).Nodup ∧ DistinctKeysMembers members
  | _ => True

def DistinctKeysItems : List (Json F) → Prop
  | [] => True
  | item :: rest => DistinctKeys item ∧ DistinctKeysItems rest

def DistinctKeysMembers : List (Str × Json F) → Prop
  | [] => True
  | (_, value) :: rest => DistinctKeys value ∧ DistinctKeysMembers rest

end

mutual

/-- Every integer is short enough to be converted to text. -/
def intsPrintable : Json F → Bool
  | .int value => (Nat.digits 10 value.natAbs).length ≤ maxStrDigits
  | .array items => intsPrintableItems items
  | .object members => intsPrintableMembers members
  | _ => true

def intsPrintableItems : List (Json F) → Bool
  | [] => true
  | item :: rest => intsPrintable item && intsPrintableItems rest

def intsPrintableMembers : List (Str × Json F) → Bool
  | [] => true
  | (_, value) :: rest => intsPrintable value && intsPrintableMembers rest

end

theorem sortMembers_keys (members : List (Str × Json F)) :
    (sortMembers members).map Prod.fst = members.map Prod.fst := by
  induction members with
  | nil => rfl
  | cons member rest ih => simp [sortMembers, ih]

theorem mem_sortMembers {key : Str} {value : Json F} {members : List (Str × Json F)}
    (member : (key, value) ∈ members) : (key, sortKeys value) ∈ sortMembers members := by
  induction members with
  | nil => cases member
  | cons first rest ih =>
      rw [sortMembers]
      rcases List.mem_cons.mp member with rfl | later
      · exact List.mem_cons_self
      · exact List.mem_cons_of_mem _ (ih later)

/-- Sorting permutes the members of an object after sorting their values. -/
theorem perm_insertionSort_sortMembers (members : List (Str × Json F)) :
    ((sortMembers members).insertionSort keyLE).Perm (sortMembers members) :=
  List.perm_insertionSort keyLE (sortMembers members)

theorem distinctKeysMembers_iff {members : List (Str × Json F)} :
    DistinctKeysMembers members ↔ ∀ member ∈ members, DistinctKeys member.2 := by
  induction members with
  | nil => simp [DistinctKeysMembers]
  | cons member rest ih => simp [DistinctKeysMembers, ih]

theorem intsPrintableMembers_iff {members : List (Str × Json F)} :
    intsPrintableMembers members = true ↔ ∀ member ∈ members, intsPrintable member.2 = true := by
  induction members with
  | nil => simp [intsPrintableMembers]
  | cons member rest ih => simp [intsPrintableMembers, ih]

mutual

/-- Sorting keeps the keys of every object distinct. -/
theorem distinctKeys_sortKeys : ∀ (value : Json F), DistinctKeys value → DistinctKeys (sortKeys value)
  | .null, _ => by simp [sortKeys, DistinctKeys]
  | .bool _, _ => by simp [sortKeys, DistinctKeys]
  | .int _, _ => by simp [sortKeys, DistinctKeys]
  | .float _, _ => by simp [sortKeys, DistinctKeys]
  | .str _, _ => by simp [sortKeys, DistinctKeys]
  | .array items, distinct => by
      simp only [sortKeys, DistinctKeys] at distinct ⊢
      exact distinctKeysItems_sortItems items distinct
  | .object members, distinct => by
      simp only [sortKeys, DistinctKeys] at distinct ⊢
      have perm := perm_insertionSort_sortMembers members
      constructor
      · rw [(perm.map Prod.fst).nodup_iff, sortMembers_keys]
        exact distinct.1
      · rw [distinctKeysMembers_iff]
        intro member memberMem
        exact distinctKeysMembers_iff.mp (distinctKeysMembers_sortMembers members distinct.2)
          member (perm.mem_iff.mp memberMem)

theorem distinctKeysItems_sortItems : ∀ (items : List (Json F)),
    DistinctKeysItems items → DistinctKeysItems (sortItems items)
  | [], _ => by simp [sortItems, DistinctKeysItems]
  | item :: rest, distinct => by
      simp only [sortItems, DistinctKeysItems] at distinct ⊢
      exact ⟨distinctKeys_sortKeys item distinct.1, distinctKeysItems_sortItems rest distinct.2⟩

theorem distinctKeysMembers_sortMembers : ∀ (members : List (Str × Json F)),
    DistinctKeysMembers members → DistinctKeysMembers (sortMembers members)
  | [], _ => by simp [sortMembers, DistinctKeysMembers]
  | (_, value) :: rest, distinct => by
      simp only [sortMembers, DistinctKeysMembers] at distinct ⊢
      exact ⟨distinctKeys_sortKeys value distinct.1, distinctKeysMembers_sortMembers rest distinct.2⟩

end

mutual

@[simp]
theorem intsPrintable_sortKeys : ∀ (value : Json F), intsPrintable (sortKeys value) = intsPrintable value
  | .null => by simp [sortKeys]
  | .bool _ => by simp [sortKeys]
  | .int _ => by simp [sortKeys]
  | .float _ => by simp [sortKeys]
  | .str _ => by simp [sortKeys]
  | .array items => by
      simp only [sortKeys, intsPrintable]
      exact intsPrintableItems_sortItems items
  | .object members => by
      simp only [sortKeys, intsPrintable]
      rw [← intsPrintableMembers_sortMembers members, Bool.eq_iff_iff,
        intsPrintableMembers_iff, intsPrintableMembers_iff]
      simp only [(perm_insertionSort_sortMembers members).mem_iff]

theorem intsPrintableItems_sortItems : ∀ (items : List (Json F)),
    intsPrintableItems (sortItems items) = intsPrintableItems items
  | [] => by simp [sortItems]
  | item :: rest => by
      simp only [sortItems, intsPrintableItems]
      rw [intsPrintable_sortKeys item, intsPrintableItems_sortItems rest]

theorem intsPrintableMembers_sortMembers : ∀ (members : List (Str × Json F)),
    intsPrintableMembers (sortMembers members) = intsPrintableMembers members
  | [] => by simp [sortMembers]
  | (_, value) :: rest => by
      simp only [sortMembers, intsPrintableMembers]
      rw [intsPrintable_sortKeys value, intsPrintableMembers_sortMembers rest]

end

instance : Std.Total (keyLE (F := F)) := ⟨fun first second => le_total first.1 second.1⟩

instance : IsTrans (Str × Json F) keyLE := ⟨fun _ _ _ first second => le_trans first second⟩

theorem sortMembers_eq_self {members : List (Str × Json F)}
    (sorted : ∀ member ∈ members, sortKeys member.2 = member.2) : sortMembers members = members := by
  induction members with
  | nil => rfl
  | cons member rest ih =>
      rw [sortMembers, sorted member (by simp), ih fun other otherMem => sorted other (by simp [otherMem])]

mutual

/-- Sorting the keys twice is sorting them once. -/
@[simp]
theorem sortKeys_sortKeys : ∀ (value : Json F), sortKeys (sortKeys value) = sortKeys value
  | .null => rfl
  | .bool _ => rfl
  | .int _ => rfl
  | .float _ => rfl
  | .str _ => rfl
  | .array items => by
      rw [sortKeys, sortKeys, sortItems_sortItems items]
  | .object members => by
      have sorted : ∀ member ∈ (sortMembers members).insertionSort keyLE,
          sortKeys member.2 = member.2 := by
        intro member memberMem
        exact sortKeys_of_mem_sortMembers members member
          ((perm_insertionSort_sortMembers members).mem_iff.mp memberMem)
      rw [sortKeys, sortKeys, sortMembers_eq_self sorted,
        (List.pairwise_insertionSort keyLE (sortMembers members)).insertionSort_eq]

theorem sortItems_sortItems : ∀ (items : List (Json F)), sortItems (sortItems items) = sortItems items
  | [] => rfl
  | item :: rest => by
      rw [sortItems, sortItems, sortKeys_sortKeys item, sortItems_sortItems rest]

theorem sortKeys_of_mem_sortMembers : ∀ (members : List (Str × Json F)),
    ∀ member ∈ sortMembers members, sortKeys member.2 = member.2
  | [], _, member => by cases member
  | (_, value) :: rest, other, member => by
      rw [sortMembers] at member
      rcases List.mem_cons.mp member with rfl | later
      · exact sortKeys_sortKeys value
      · exact sortKeys_of_mem_sortMembers rest other later

end

end Json

end DataLifecycle.Python
