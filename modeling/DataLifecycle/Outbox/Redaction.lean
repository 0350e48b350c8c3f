import DataLifecycle.Outbox.Model

/-!
# Failure redaction

The substitution `(?i)(password|secret|token|credential|endpoint)\s*[:=]\s*[^\s,;]+`
and the failure value that a release stores.  The classes on both sides of the
separator are disjoint from whitespace, so greedy matching never backtracks.
-/

namespace DataLifecycle.Outbox

open Python

/-- Whether a character matches a lowercase ASCII letter under `re.IGNORECASE`.
Besides the two ASCII cases this admits the Unicode characters that Python's
matcher identifies with `i`, `k` and `s`. -/
def matchesLetter (letter point : CodePoint) : Bool :=
  point == letter || point.val + 32 == letter.val ||
    (letter == 105 && (point == 0x130 || point == 0x131)) ||
    (letter == 107 && point == 0x212a) || (letter == 115 && point == 0x17f)

/-- Match a keyword at the front of a text: the characters matched and the rest. -/
def matchKeyword : Str → Str → Option (Str × Str)
  | [], text => some ([], text)
  | _ :: _, [] => none
  | letter :: keyword, point :: text =>
      if matchesLetter letter point then
        (matchKeyword keyword text).map fun matched => (point :: matched.1, matched.2)
      else none

/-- The sensitive keywords, in the order of the alternation. -/
def sensitiveKeywords : List Str :=
  [str "password", str "secret", str "token", str "credential", str "endpoint"]

/-- A character of a redacted value. -/
def isValueChar (point : CodePoint) : Bool := !isSpace point && point != 44 && point != 59

/-- The separator and the value behind a keyword: what follows the match. -/
def matchAssignment (text : Str) : Option Str :=
  match text.dropWhile isSpace with
  | separator :: rest =>
      if separator = 58 ∨ separator = 61 then
        let value := rest.dropWhile isSpace
        if (value.takeWhile isValueChar).isEmpty then none else some (value.dropWhile isValueChar)
      else none
  | [] => none

/-- A match of the whole pattern at the front of a text: the matched keyword and
the number of characters consumed. -/
def matchSensitive (text : Str) : Option (Str × Nat) :=
  sensitiveKeywords.findSome? fun keyword =>
    (matchKeyword keyword text).bind fun matched =>
      (matchAssignment matched.2).map fun rest => (matched.1, text.length - rest.length)

/-- `_SENSITIVE_VALUE.sub(r"\1=<redacted>", text)`.  The first argument counts
characters of the current match that are still to be dropped. -/
def redact : Nat → Str → Str
  | _, [] => []
  | skip + 1, _ :: rest => redact skip rest
  | 0, point :: rest =>
      match matchSensitive (point :: rest) with
      | some (keyword, consumed) => keyword ++ str "=<redacted>" ++ redact (consumed - 1) rest
      | none => point :: redact 0 rest

/-- What a release reads of the exception it is given: the code of a
`MeridianError`, the qualified and the plain class name, and `str(error)`. -/
structure ErrorView where
  meridianCode : Option Str
  qualifiedName : Str
  typeName : Str
  text : Str
  deriving DecidableEq

/-- `_redacted_failure`. -/
def redactedFailure (error : ErrorView) (failedAt : Utc) : Except Exc OutboxFailure :=
  let code := error.meridianCode.getD error.qualifiedName
  let cause := strip (redact 0 error.text)
  OutboxFailure.make code ((if cause = [] then error.typeName else cause).take 512) failedAt

end DataLifecycle.Outbox
