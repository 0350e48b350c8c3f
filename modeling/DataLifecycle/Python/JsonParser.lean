import DataLifecycle.Python.Dict
import DataLifecycle.Python.Json
import DataLifecycle.Python.Time

/-!
# Reading JSON text

`PyValue` is the part of the Python object universe that the canonical encoder
distinguishes.  `loads` models `json.loads` on text: whitespace, string escapes
with surrogate pairs, number tokens, the non-finite constants, and objects whose
repeated keys keep the last value.

The scanner is structurally recursive on a depth allowance.  Every nested value
starts at least one character further, so the length of the text is enough.
-/

namespace DataLifecycle.Python

/-- A Python `float`. -/
inductive PyFloat (F : Type)
  | finite (value : F)
  | infinity (negative : Bool)
  | nan

/-- A Python object, as far as the canonical encoder and the callers of its results tell
objects apart.  A `sequence` is a list; the tuples of frozen JSON data, which no modelled
function tells from lists, are written as sequences, too. -/
inductive PyValue (F : Type)
  | none
  | bool (value : Bool)
  | int (value : Int)
  | float (value : PyFloat F)
  | str (value : Str)
  | datetime (value : DateTime)
  | enum (value : PyValue F)
  | dataclass (fields : List (Str × PyValue F))
  | mapping (items : List (PyValue F × PyValue F))
  | sequence (items : List (PyValue F))
  | tuple (items : List (PyValue F))
  | other (typeName : Str)

/-- How reading JSON text fails: a syntax error, or an integer with more digits
than Python converts. -/
inductive JsonError
  | decode
  | intLimit
  deriving DecidableEq

namespace Json

variable {F : Type}

mutual

/-- The Python object that holds a JSON value. -/
def toPy : Json F → PyValue F
  | .null => .none
  | .bool value => .bool value
  | .int value => .int value
  | .float value => .float (.finite value)
  | .str value => .str value
  | .array items => .sequence (toPyItems items)
  | .object members => .mapping (toPyMembers members)

def toPyItems : List (Json F) → List (PyValue F)
  | [] => []
  | item :: rest => toPy item :: toPyItems rest

def toPyMembers : List (Str × Json F) → List (PyValue F × PyValue F)
  | [] => []
  | (key, value) :: rest => (.str key, toPy value) :: toPyMembers rest

end

/-! ## Tokens -/

/-- JSON whitespace. -/
def isWhitespace (point : CodePoint) : Bool :=
  point == 32 || point == 9 || point == 10 || point == 13

def skipWhitespace (text : Str) : Str := text.dropWhile isWhitespace

/-- The value of a hexadecimal digit of either case. -/
def hexValue (point : CodePoint) : Option Nat :=
  if 48 ≤ point.val ∧ point.val ≤ 57 then some (point.val - 48)
  else if 97 ≤ point.val ∧ point.val ≤ 102 then some (point.val - 87)
  else if 65 ≤ point.val ∧ point.val ≤ 70 then some (point.val - 55)
  else none

/-- The meaning of a one-letter escape. -/
def unescape (letter : CodePoint) : Option CodePoint :=
  if letter = 34 then some 34
  else if letter = 92 then some 92
  else if letter = 47 then some 47
  else if letter = 98 then some 8
  else if letter = 102 then some 12
  else if letter = 110 then some 10
  else if letter = 114 then some 13
  else if letter = 116 then some 9
  else none

/-- One scanned character: whether it came from a `\u` escape, and its code. -/
abbrev StringUnit := Bool × CodePoint

/-- Put one unit in front of a scanned string. -/
def consUnit (unit : StringUnit) :
    Except JsonError (List StringUnit × Str) → Except JsonError (List StringUnit × Str)
  | .ok (units, rest) => .ok (unit :: units, rest)
  | .error error => .error error

/-- Where the scanner stands inside a string: between characters, after a
backslash, or after some of the four digits of a `\u` escape. -/
inductive StringState
  | plain
  | escape
  | unicode (count value : Nat)

/-- The units of a string up to its closing quote, and what follows. -/
def scanUnits : StringState → Str → Except JsonError (List StringUnit × Str)
  | _, [] => .error .decode
  | .plain, point :: rest =>
      if point = 34 then .ok ([], rest)
      else if point = 92 then scanUnits .escape rest
      else if point.val < 32 then .error .decode
      else consUnit (false, point) (scanUnits .plain rest)
  | .escape, letter :: rest =>
      if letter = 117 then scanUnits (.unicode 0 0) rest
      else
        match unescape letter with
        | none => .error .decode
        | some point => consUnit (false, point) (scanUnits .plain rest)
  | .unicode count value, point :: rest =>
      match hexValue point with
      | none => .error .decode
      | some digit =>
          if count = 3 then
            consUnit (true, Fin.ofNat 0x110000 (value * 16 + digit)) (scanUnits .plain rest)
          else scanUnits (.unicode (count + 1) (value * 16 + digit)) rest

def isHighSurrogate (point : CodePoint) : Bool := 0xd800 ≤ point.val && point.val ≤ 0xdbff

def isLowSurrogate (point : CodePoint) : Bool := 0xdc00 ≤ point.val && point.val ≤ 0xdfff

/-- The supplementary character of a surrogate pair. -/
def joinPair (high low : CodePoint) : CodePoint :=
  Fin.ofNat 0x110000 (0x10000 + (high.val - 0xd800) * 0x400 + (low.val - 0xdc00))

/-- An escaped high surrogate absorbs an escaped low surrogate directly behind
it; every other unit stands for itself.  The first argument is a high surrogate
still waiting for its partner. -/
def joinUnits : Option CodePoint → List StringUnit → Str
  | none, [] => []
  | some high, [] => [high]
  | none, (escaped, point) :: rest =>
      if escaped && isHighSurrogate point then joinUnits (some point) rest
      else point :: joinUnits none rest
  | some high, (escaped, point) :: rest =>
      if escaped && isLowSurrogate point then joinPair high point :: joinUnits none rest
      else if escaped && isHighSurrogate point then high :: joinUnits (some point) rest
      else high :: point :: joinUnits none rest

/-- The characters of a string after its opening quote, and what follows. -/
def scanString (text : Str) : Except JsonError (Str × Str) :=
  match scanUnits .plain text with
  | .error error => .error error
  | .ok (units, rest) => .ok (joinUnits none units, rest)

/-! ## Numbers -/

/-- The integer part of a number. -/
def scanWhole : Str → Option (Str × Str)
  | [] => none
  | first :: rest =>
      if first = 48 then some ([first], rest)
      else if 49 ≤ first.val ∧ first.val ≤ 57 then
        some (first :: rest.takeWhile isDigit, rest.dropWhile isDigit)
      else none

/-- An optional fraction; a point without a digit is left alone. -/
def scanFraction (text : Str) : Str × Str :=
  match text with
  | 46 :: rest =>
      if (rest.takeWhile isDigit).isEmpty then ([], text)
      else (46 :: rest.takeWhile isDigit, rest.dropWhile isDigit)
  | _ => ([], text)

/-- An optional sign in front of exponent digits. -/
def scanSign : Str → Str × Str
  | sign :: rest => if sign = 43 ∨ sign = 45 then ([sign], rest) else ([], sign :: rest)
  | [] => ([], [])

/-- An optional exponent; a letter without digits is left alone. -/
def scanExponent (text : Str) : Str × Str :=
  match text with
  | letter :: rest =>
      if letter = 101 ∨ letter = 69 then
        let (sign, rest) := scanSign rest
        if (rest.takeWhile isDigit).isEmpty then ([], text)
        else (letter :: sign ++ rest.takeWhile isDigit, rest.dropWhile isDigit)
      else ([], text)
  | [] => ([], [])

variable [FloatText F]

/-- The number whose sign has been read already. -/
def scanMagnitude (sign : Str) (text : Str) : Except JsonError (PyValue F × Str) :=
  match scanWhole text with
  | none => .error .decode
  | some (whole, rest) =>
      let (fraction, rest) := scanFraction rest
      let (exponent, rest) := scanExponent rest
      if fraction.isEmpty && exponent.isEmpty then
        if whole.length ≤ maxStrDigits then
          .ok (.int (if sign.isEmpty then natOfText whole else -natOfText whole), rest)
        else .error .intLimit
      else
        match FloatText.parse (F := F) (sign ++ whole ++ fraction ++ exponent) with
        | some value => .ok (.float (.finite value), rest)
        | none => .ok (.float (.infinity (!sign.isEmpty)), rest)

/-- Remove an expected word from the front of a text. -/
def dropWord : Str → Str → Option Str
  | [], text => some text
  | _ :: _, [] => none
  | expected :: word, point :: text => if expected = point then dropWord word text else none

/-- A value that is one word. -/
def scanWord (word : Str) (value : PyValue F) (text : Str) : Except JsonError (PyValue F × Str) :=
  match dropWord word text with
  | some rest => .ok (value, rest)
  | none => .error .decode

/-- A number, or the constant `-Infinity`. -/
def scanNumber (text : Str) : Except JsonError (PyValue F × Str) :=
  match text with
  | [] => .error .decode
  | sign :: rest =>
      if sign = 45 then
        match dropWord [73, 110, 102, 105, 110, 105, 116, 121] rest with
        | some rest => .ok (.float (.infinity true), rest)
        | none => scanMagnitude [45] rest
      else scanMagnitude [] text

/-! ## Values -/

/-- The dictionary built from scanned pairs: a repeated key keeps its place and
takes the last value. -/
def buildObject (pairs : List (Str × PyValue F)) : PyValue F :=
  .mapping ((pairs.foldl (fun members pair => Dict.assign pair.1 pair.2 members) []).map
    fun member => (.str member.1, member.2))

mutual

/-- One value at the front of a text, and what follows. -/
def scanOnce : Nat → Str → Except JsonError (PyValue F × Str)
  | 0, _ => .error .decode
  | _ + 1, [] => .error .decode
  | fuel + 1, point :: rest =>
      if point = 34 then
        match scanString rest with
        | .error error => .error error
        | .ok (text, rest) => .ok (.str text, rest)
      else if point = 123 then
        match skipWhitespace rest with
        | 125 :: rest => .ok (.mapping [], rest)
        | rest =>
            match scanMembers fuel rest with
            | .error error => .error error
            | .ok (members, rest) => .ok (buildObject members, rest)
      else if point = 91 then
        match skipWhitespace rest with
        | 93 :: rest => .ok (.sequence [], rest)
        | rest =>
            match scanItems fuel rest with
            | .error error => .error error
            | .ok (items, rest) => .ok (.sequence items, rest)
      else if point = 110 then scanWord [117, 108, 108] .none rest
      else if point = 116 then scanWord [114, 117, 101] (.bool true) rest
      else if point = 102 then scanWord [97, 108, 115, 101] (.bool false) rest
      else if point = 78 then scanWord [97, 78] (.float .nan) rest
      else if point = 73 then
        scanWord [110, 102, 105, 110, 105, 116, 121] (.float (.infinity false)) rest
      else scanNumber (point :: rest)

/-- The items of an array from its first value to its bracket. -/
def scanItems : Nat → Str → Except JsonError (List (PyValue F) × Str)
  | 0, _ => .error .decode
  | fuel + 1, text =>
      match scanOnce fuel text with
      | .error error => .error error
      | .ok (item, rest) =>
          match skipWhitespace rest with
          | 93 :: rest => .ok ([item], rest)
          | 44 :: rest =>
              match scanItems fuel (skipWhitespace rest) with
              | .error error => .error error
              | .ok (items, rest) => .ok (item :: items, rest)
          | _ => .error .decode

/-- The members of an object from the quote of its first key to its brace. -/
def scanMembers : Nat → Str → Except JsonError (List (Str × PyValue F) × Str)
  | 0, _ => .error .decode
  | fuel + 1, text =>
      match text with
      | 34 :: rest =>
          match scanString rest with
          | .error error => .error error
          | .ok (key, rest) =>
              match skipWhitespace rest with
              | 58 :: rest =>
                  match scanOnce fuel (skipWhitespace rest) with
                  | .error error => .error error
                  | .ok (value, rest) =>
                      match skipWhitespace rest with
                      | 125 :: rest => .ok ([(key, value)], rest)
                      | 44 :: rest =>
                          match scanMembers fuel (skipWhitespace rest) with
                          | .error error => .error error
                          | .ok (members, rest) => .ok ((key, value) :: members, rest)
                      | _ => .error .decode
              | _ => .error .decode
      | _ => .error .decode

end

/-- `json.loads` on text. -/
def loads (text : Str) : Except JsonError (PyValue F) :=
  match text with
  | 0xfeff :: _ => .error .decode
  | _ =>
      match scanOnce (text.length + 1) (skipWhitespace text) with
      | .error error => .error error
      | .ok (value, rest) => if (skipWhitespace rest).isEmpty then .ok value else .error .decode

end Json

end DataLifecycle.Python
