import DataLifecycle.Outbox.Lease

/-!
# What the failure redaction hides

A message carries a secret behind a sensitive keyword and a separator.  The substitution finds the
leftmost matches one after another, so a match that begins before the keyword can take the keyword
into its own value.  Its value then stops at the first whitespace of the separator, and the secret
stays in the text.  The module determines the contexts in which two secrets cannot be told apart.
-/

namespace DataLifecycle.Outbox

open Python

/-! ## The parts of a message -/

/-- A sensitive keyword in any letter case. -/
def IsKeyword (text : Str) : Prop :=
  ∃ keyword ∈ sensitiveKeywords, matchKeyword keyword text = some (text, [])

/-- Optional whitespace around one colon or equals sign. -/
def IsSeparator (text : Str) : Prop :=
  ∃ left mark right, text = left ++ mark :: right ∧ (mark = 58 ∨ mark = 61) ∧
    (∀ point ∈ left, isSpace point) ∧ ∀ point ∈ right, isSpace point

/-- A non-empty text without whitespace, comma or semicolon. -/
def IsSecret (text : Str) : Prop := text ≠ [] ∧ ∀ point ∈ text, isValueChar point

/-- An empty text, or one that starts with whitespace, a comma or a semicolon. -/
def EndsValue (text : Str) : Prop := ∀ point ∈ text.head?, ¬ isValueChar point

/-- Whether the scan over `text ++ keyword` is inside a match when it comes to the keyword.  The
count is that of `redact`. -/
def endsInside (keyword : Str) : Nat → Str → Bool
  | skip, [] => decide (0 < skip)
  | skip + 1, _ :: rest => endsInside keyword skip rest
  | 0, point :: rest =>
      match matchSensitive (point :: rest ++ keyword) with
      | some (_, consumed) => endsInside keyword (consumed - 1) rest
      | none => endsInside keyword 0 rest

/-! ## Letters -/

/-- A lowercase ASCII letter. -/
def IsLetter (point : CodePoint) : Prop := 97 ≤ point.val ∧ point.val ≤ 122

/-- The keywords are made of letters. -/
theorem isLetter_of_mem {keyword : Str} {letter : CodePoint} (known : keyword ∈ sensitiveKeywords)
    (member : letter ∈ keyword) : IsLetter letter := by
  have all : ∀ keyword ∈ sensitiveKeywords, ∀ letter ∈ keyword, IsLetter letter := by
    simp [sensitiveKeywords, str, IsLetter]
  exact all keyword known letter member

/-- The characters that match a letter. -/
theorem matchesLetter_iff (letter point : CodePoint) :
    matchesLetter letter point = true ↔ point.val = letter.val ∨ point.val + 32 = letter.val ∨
      (letter.val = 105 ∧ (point.val = 0x130 ∨ point.val = 0x131)) ∨
      (letter.val = 107 ∧ point.val = 0x212a) ∨ (letter.val = 115 ∧ point.val = 0x17f) := by
  simp only [matchesLetter, Bool.or_eq_true, Bool.and_eq_true, beq_iff_eq, Fin.ext_iff, or_assoc]
  rfl

/-- A character matches at most one letter. -/
theorem matchesLetter_unique {first second point : CodePoint} (firstLetter : IsLetter first)
    (secondLetter : IsLetter second) (matchesFirst : matchesLetter first point)
    (matchesSecond : matchesLetter second point) : first = second := by
  rw [matchesLetter_iff] at matchesFirst matchesSecond
  obtain ⟨firstLower, firstUpper⟩ := firstLetter
  obtain ⟨secondLower, secondUpper⟩ := secondLetter
  apply Fin.ext
  omega

/-- A character that matches a letter can stand in a value and is above the ASCII punctuation of
the pattern. -/
theorem matchesLetter_value {letter point : CodePoint} (isLetter : IsLetter letter)
    (matched : matchesLetter letter point) : 65 ≤ point.val ∧ isSpace point = false := by
  rw [matchesLetter_iff] at matched
  obtain ⟨lower, upper⟩ := isLetter
  refine ⟨by omega, ?_⟩
  simp only [isSpace, Bool.or_eq_false_iff, Bool.and_eq_false_iff, decide_eq_false_iff_not,
    beq_eq_false_iff_ne]
  omega

/-! ## Keywords -/

/-- A text that spells a keyword in some letter case. -/
abbrev Spells (keyword text : Str) : Prop :=
  List.Forall₂ (fun letter point => matchesLetter letter point = true) keyword text

/-- A keyword is matched at the front of a text exactly if a first part of the text spells it. -/
theorem matchKeyword_eq_some_iff {keyword text matched rest : Str} :
    matchKeyword keyword text = some (matched, rest) ↔
      text = matched ++ rest ∧ Spells keyword matched := by
  induction keyword generalizing text matched with
  | nil =>
      simp only [matchKeyword, Option.some.injEq, Prod.mk.injEq, List.forall₂_nil_left_iff]
      constructor
      · rintro ⟨rfl, rfl⟩
        exact ⟨rfl, rfl⟩
      · rintro ⟨rfl, rfl⟩
        exact ⟨rfl, rfl⟩
  | cons letter keyword inductionHypothesis =>
      cases text with
      | nil =>
          simp only [matchKeyword, reduceCtorEq, false_iff]
          rintro ⟨empty, spells⟩
          obtain ⟨rfl, -⟩ := List.append_eq_nil_iff.mp empty.symm
          cases spells
      | cons point text =>
          rw [matchKeyword]
          split
          next same =>
            simp only [Option.map_eq_some_iff, Prod.exists, Prod.mk.injEq]
            constructor
            · rintro ⟨tail, left, found, rfl, rfl⟩
              obtain ⟨rfl, spells⟩ := inductionHypothesis.mp found
              exact ⟨rfl, .cons same spells⟩
            · rintro ⟨split, spells⟩
              cases spells with
              | cons _ tail =>
                  obtain ⟨rfl, rfl⟩ := List.cons.inj split
                  exact ⟨_, _, inductionHypothesis.mpr ⟨rfl, tail⟩, rfl, rfl⟩
          next different =>
            simp only [reduceCtorEq, false_iff]
            rintro ⟨split, spells⟩
            cases spells with
            | cons same _ =>
                obtain ⟨rfl, -⟩ := List.cons.inj split
                exact different same

theorem isKeyword_iff {text : Str} :
    IsKeyword text ↔ ∃ keyword ∈ sensitiveKeywords, Spells keyword text := by
  simp [IsKeyword, matchKeyword_eq_some_iff]

/-- The characters of a spelled keyword stand above the punctuation and are no whitespace. -/
theorem Spells.value {keyword text : Str} (known : keyword ∈ sensitiveKeywords)
    (spells : Spells keyword text) : ∀ point ∈ text, 65 ≤ point.val ∧ isSpace point = false := by
  intro point member
  have letters : ∀ letter ∈ keyword, IsLetter letter := fun _ => isLetter_of_mem known
  clear known
  induction spells with
  | nil => cases member
  | cons same _ inductionHypothesis =>
      rcases List.mem_cons.mp member with rfl | later
      · exact matchesLetter_value (letters _ List.mem_cons_self) same
      · exact inductionHypothesis later fun letter inKeyword =>
          letters letter (List.mem_cons_of_mem _ inKeyword)

/-- A text spells at most one word of letters. -/
theorem Spells.unique {first second text : Str} (firstLetters : ∀ letter ∈ first, IsLetter letter)
    (secondLetters : ∀ letter ∈ second, IsLetter letter) (spellsFirst : Spells first text)
    (spellsSecond : Spells second text) : first = second := by
  induction spellsFirst generalizing second with
  | nil =>
      cases spellsSecond
      rfl
  | cons same _ inductionHypothesis =>
      cases spellsSecond with
      | cons sameSecond tail =>
          rw [matchesLetter_unique (firstLetters _ List.mem_cons_self)
            (secondLetters _ List.mem_cons_self) same sameSecond]
          congr 1
          exact inductionHypothesis
            (fun letter member => firstLetters letter (List.mem_cons_of_mem _ member))
            (fun letter member => secondLetters letter (List.mem_cons_of_mem _ member)) tail

/-- The keywords are short, begin with different letters, and none ends in another one. -/
theorem sensitiveKeywords_apart :
    (∀ keyword ∈ sensitiveKeywords, keyword ≠ [] ∧ keyword.length ≤ 10) ∧
    (∀ keyword ∈ sensitiveKeywords, ∀ other ∈ sensitiveKeywords,
      keyword.head? = other.head? → keyword = other) ∧
    ∀ keyword ∈ sensitiveKeywords, ∀ other ∈ sensitiveKeywords,
      ∀ count < 11, 0 < count → keyword.drop count ≠ other := by
  decide +kernel

theorem keyword_ne_nil {keyword : Str} (known : keyword ∈ sensitiveKeywords) : keyword ≠ [] :=
  (sensitiveKeywords_apart.1 keyword known).1

/-- No keyword ends in another one. -/
theorem not_suffix_of_keyword {keyword other : Str} {count : Nat}
    (known : keyword ∈ sensitiveKeywords) (otherKnown : other ∈ sensitiveKeywords)
    (positive : 0 < count) : keyword.drop count ≠ other := by
  rcases Nat.lt_or_ge count 11 with small | large
  · exact sensitiveKeywords_apart.2.2 keyword known other otherKnown count small positive
  · intro same
    have length := (sensitiveKeywords_apart.1 keyword known).2
    rw [List.drop_of_length_le (by omega)] at same
    exact keyword_ne_nil otherKnown same.symm

/-- At most one keyword is found at the front of a text. -/
theorem keyword_unique {keyword other text first second : Str} {rest otherRest : Str}
    (known : keyword ∈ sensitiveKeywords) (otherKnown : other ∈ sensitiveKeywords)
    (found : matchKeyword keyword text = some (first, rest))
    (otherFound : matchKeyword other text = some (second, otherRest)) : keyword = other := by
  obtain ⟨rfl, spells⟩ := matchKeyword_eq_some_iff.mp found
  obtain ⟨split, otherSpells⟩ := matchKeyword_eq_some_iff.mp otherFound
  apply sensitiveKeywords_apart.2.1 keyword known other otherKnown
  cases spells with
  | nil => exact absurd rfl (keyword_ne_nil known)
  | cons same _ =>
      cases otherSpells with
      | nil => exact absurd rfl (keyword_ne_nil otherKnown)
      | cons otherSame _ =>
          obtain ⟨rfl, -⟩ := List.cons.inj split
          rw [List.head?_cons, List.head?_cons, matchesLetter_unique
            (isLetter_of_mem known List.mem_cons_self)
            (isLetter_of_mem otherKnown List.mem_cons_self) same otherSame]

/-! ## Matches that begin before the keyword -/

/-- What stands between a keyword and its value: whitespace, or one of the two marks. -/
def IsGap (point : CodePoint) : Prop := isSpace point ∨ point = 58 ∨ point = 61

theorem not_gap_of_value {point : CodePoint} (value : 65 ≤ point.val ∧ isSpace point = false) :
    ¬ IsGap point := by
  rintro (space | rfl | rfl)
  · rw [value.2] at space
    cases space
  · exact absurd value.1 (by decide)
  · exact absurd value.1 (by decide)

theorem isValueChar_of_value {point : CodePoint} (value : 65 ≤ point.val ∧ isSpace point = false) :
    isValueChar point = true := by
  have notComma : point ≠ 44 := by
    rintro rfl
    exact absurd value.1 (by decide)
  have notSemicolon : point ≠ 59 := by
    rintro rfl
    exact absurd value.1 (by decide)
  simp [isValueChar, value.2, notComma, notSemicolon]

/-- Dropping stops at the latest at a character to keep. -/
theorem dropWhile_append_cons {drops : CodePoint → Bool} {point : CodePoint}
    (kept : drops point = false) (text behind : Str) :
    (text ++ point :: behind).dropWhile drops = text.dropWhile drops ++ point :: behind := by
  rw [List.dropWhile_append]
  split
  next empty =>
    rw [List.isEmpty_iff.mp empty, List.dropWhile_cons_of_neg (by simp [kept]), List.nil_append]
  next => rfl

/-- What follows an assignment is an end of the text and starts outside the value. -/
theorem matchAssignment_rest {text rest : Str} (assigned : matchAssignment text = some rest) :
    rest <:+ text ∧ EndsValue rest := by
  unfold matchAssignment at assigned
  split at assigned
  next mark tail dropped =>
    split at assigned
    next =>
      dsimp only at assigned
      split at assigned
      next => cases assigned
      next =>
        obtain rfl := Option.some.inj assigned
        constructor
        · have tailOf : mark :: tail <:+ text := by
            rw [← dropped]
            exact List.dropWhile_suffix _
          have valueOf : tail.dropWhile isSpace <:+ text :=
            ((List.dropWhile_suffix _).trans (List.suffix_cons mark tail)).trans tailOf
          exact (List.dropWhile_suffix _).trans valueOf
        · intro point first
          have stopped := List.head?_dropWhile_not isValueChar (tail.dropWhile isSpace)
          rw [Option.mem_def.mp first] at stopped
          simpa using stopped
    next => cases assigned
  next => cases assigned

/-- What follows the value depends on what is behind a text only if the text ends in the value. -/
theorem matchAssignment_append {last : CodePoint} (value : 65 ≤ last.val ∧ isSpace last = false)
    (text behind : Str) :
    matchAssignment (text ++ last :: behind) = (matchAssignment (text ++ [last])).map fun rest =>
      if rest = [] then behind.dropWhile isValueChar else rest ++ behind := by
  have noMark : ¬ (last = 58 ∨ last = 61) := fun mark => not_gap_of_value value (.inr mark)
  have taken : isValueChar last = true := isValueChar_of_value value
  unfold matchAssignment
  rw [dropWhile_append_cons value.2, dropWhile_append_cons value.2]
  cases text.dropWhile isSpace with
  | nil => simp only [List.nil_append, if_neg noMark, Option.map_none]
  | cons mark rest =>
      simp only [List.cons_append]
      by_cases isMark : mark = 58 ∨ mark = 61
      · rw [if_pos isMark, if_pos isMark, dropWhile_append_cons value.2,
          dropWhile_append_cons value.2]
        generalize rest.dropWhile isSpace = start
        have sameEmpty : ((start ++ last :: behind).takeWhile isValueChar).isEmpty =
            ((start ++ [last]).takeWhile isValueChar).isEmpty := by
          cases start with
          | nil => simp [taken]
          | cons point start => by_cases isValue : isValueChar point <;> simp [isValue]
        rw [sameEmpty]
        split
        next => rfl
        next =>
          rw [Option.map_some, List.dropWhile_append, List.dropWhile_append]
          by_cases inside : (start.dropWhile isValueChar).isEmpty = true
          · simp [inside, taken]
          · simp [inside]
      · rw [if_neg isMark, if_neg isMark]
        rfl

/-- The characters of a keyword. -/
theorem IsKeyword.value {keyword : Str} (isKeyword : IsKeyword keyword) :
    ∀ point ∈ keyword, 65 ≤ point.val ∧ isSpace point = false := by
  obtain ⟨known, member, spells⟩ := isKeyword_iff.mp isKeyword
  exact spells.value member

/-- A keyword is not empty. -/
theorem IsKeyword.exists_last {keyword : Str} (isKeyword : IsKeyword keyword) :
    ∃ start last, keyword = start ++ [last] ∧ 65 ≤ last.val ∧ isSpace last = false := by
  obtain ⟨known, member, spells⟩ := isKeyword_iff.mp isKeyword
  rcases List.eq_nil_or_concat keyword with rfl | ⟨start, last, rfl⟩
  · cases spells
    exact absurd rfl (keyword_ne_nil member)
  · refine ⟨start, last, List.concat_eq_append, ?_⟩
    exact isKeyword.value last (by simp)

/-- No keyword reaches from before another keyword to its end. -/
theorem not_spells_append {known front keyword : Str} (member : known ∈ sensitiveKeywords)
    (isKeyword : IsKeyword keyword) (frontNe : front ≠ []) : ¬ Spells known (front ++ keyword) := by
  intro spells
  obtain ⟨other, otherMember, otherSpells⟩ := isKeyword_iff.mp isKeyword
  have tail : Spells (known.drop front.length) keyword := by
    have dropped := List.forall₂_drop front.length spells
    rwa [List.drop_left] at dropped
  have same : known.drop front.length = other :=
    Spells.unique (fun letter inTail => isLetter_of_mem member (List.mem_of_mem_drop inTail))
      (fun letter inOther => isLetter_of_mem otherMember inOther) tail otherSpells
  exact not_suffix_of_keyword member otherMember (List.length_pos_iff.mpr frontNe) same

section Behind

variable {known front keyword behind : Str} (member : known ∈ sensitiveKeywords)
  (isKeyword : IsKeyword keyword) (frontNe : front ≠ [])
  (gap : ∀ point ∈ behind.head?, IsGap point)

include member isKeyword frontNe in
/-- A keyword found before another one ends before the last character of the other. -/
theorem matchKeyword_rest_ne {matched rest : Str}
    (found : matchKeyword known (front ++ keyword) = some (matched, rest)) : rest ≠ [] := by
  rintro rfl
  obtain ⟨split, spells⟩ := matchKeyword_eq_some_iff.mp found
  rw [List.append_nil] at split
  rw [← split] at spells
  exact not_spells_append member isKeyword frontNe spells

include member isKeyword frontNe gap in
/-- Whether a keyword is found before another one does not depend on what is behind. -/
theorem matchKeyword_append : matchKeyword known (front ++ keyword ++ behind) =
    (matchKeyword known (front ++ keyword)).map fun found => (found.1, found.2 ++ behind) := by
  apply Option.ext
  rintro ⟨matched, rest⟩
  rw [matchKeyword_eq_some_iff]
  simp only [Option.map_eq_some_iff, Prod.exists, Prod.mk.injEq]
  constructor
  · rintro ⟨split, spells⟩
    rcases List.append_eq_append_iff.mp split with ⟨beyond, rfl, behindEq⟩ | ⟨inside, frontEq, rfl⟩
    · cases beyond with
      | nil =>
          rw [List.append_nil] at spells
          exact absurd spells (not_spells_append member isKeyword frontNe)
      | cons point beyond =>
          have isGap : IsGap point := gap point (by simp [behindEq])
          exact absurd isGap (not_gap_of_value (spells.value member point (by simp)))
    · exact ⟨matched, inside, matchKeyword_eq_some_iff.mpr ⟨frontEq, spells⟩, rfl, rfl⟩
  · rintro ⟨_, inside, found, rfl, rfl⟩
    obtain ⟨split, spells⟩ := matchKeyword_eq_some_iff.mp found
    rw [split, List.append_assoc]
    exact ⟨rfl, spells⟩

end Behind

/-- The part of a text from a keyword on is the keyword's last character and what precedes it. -/
theorem exists_last_of_append {front keyword matched rest : Str} (isKeyword : IsKeyword keyword)
    (split : front ++ keyword = matched ++ rest) (restNe : rest ≠ []) :
    ∃ start last, rest = start ++ [last] ∧ 65 ≤ last.val ∧ isSpace last = false := by
  obtain ⟨start, last, rfl, value⟩ := isKeyword.exists_last
  obtain ⟨restStart, restLast, restEq⟩ := List.eq_nil_or_concat rest |>.resolve_left restNe
  refine ⟨restStart, restLast, by rw [restEq, List.concat_eq_append], ?_⟩
  rw [restEq, List.concat_eq_append, ← List.append_assoc, ← List.append_assoc] at split
  have lastEq : [last] = [restLast] := List.append_inj_right' split rfl
  rw [← List.singleton_inj.mp lastEq]
  exact value

/-- Searching with two functions that agree on the list. -/
theorem findSome?_congr {α β : Type} {first second : α → Option β} {list : List α}
    (agree : ∀ value ∈ list, first value = second value) :
    list.findSome? first = list.findSome? second := by
  induction list with
  | nil => rfl
  | cons value list inductionHypothesis =>
      rw [List.findSome?_cons, List.findSome?_cons, agree value List.mem_cons_self,
        inductionHypothesis fun later member => agree later (List.mem_cons_of_mem _ member)]

/-- A match that begins before a keyword is the same whatever is behind the keyword, but for the
part of its value that stands there. -/
theorem matchSensitive_append {front keyword behind : Str} (isKeyword : IsKeyword keyword)
    (frontNe : front ≠ []) (gap : ∀ point ∈ behind.head?, IsGap point) :
    matchSensitive (front ++ keyword ++ behind) =
      (matchSensitive (front ++ keyword)).map fun found =>
        (found.1, if found.2 = (front ++ keyword).length then
          found.2 + (behind.takeWhile isValueChar).length else found.2) := by
  unfold matchSensitive
  rw [List.map_findSome?]
  apply findSome?_congr
  intro known member
  rw [Function.comp_apply, matchKeyword_append member isKeyword frontNe gap]
  cases found : matchKeyword known (front ++ keyword) with
  | none => rfl
  | some result =>
      obtain ⟨matched, rest⟩ := result
      have split := (matchKeyword_eq_some_iff.mp found).1
      obtain ⟨start, last, rfl, value⟩ := exists_last_of_append isKeyword split
        (matchKeyword_rest_ne member isKeyword frontNe found)
      simp only [Option.map_some, Option.bind_some, List.append_assoc, List.singleton_append]
      rw [matchAssignment_append value start behind]
      cases assigned : matchAssignment (start ++ [last]) with
      | none => rfl
      | some after =>
          have shorter : after.length ≤ (front ++ keyword).length := by
            rw [split, List.length_append]
            exact (matchAssignment_rest assigned).1.length_le.trans (Nat.le_add_left _ _)
          have positive : 0 < (front ++ keyword).length := by
            rw [List.length_append]
            exact Nat.add_pos_left (List.length_pos_iff.mpr frontNe) _
          have parts := congrArg List.length
            (List.takeWhile_append_dropWhile (p := isValueChar) (l := behind))
          rw [List.length_append] at parts
          simp only [Option.map_some, Option.some.injEq, Prod.mk.injEq, true_and]
          have total : (front ++ keyword ++ behind).length =
              (front ++ keyword).length + behind.length := List.length_append
          rw [← List.append_assoc, total]
          by_cases inside : after = []
          · rw [if_pos inside, inside, List.length_nil, Nat.sub_zero, if_pos rfl]
            omega
          · have nonempty : 0 < after.length := List.length_pos_iff.mpr inside
            have left : (after ++ behind).length = after.length + behind.length :=
              List.length_append
            rw [if_neg inside, if_neg (by omega), left]
            omega

/-- What a match is made of. -/
theorem matchSensitive_eq_some {text matched : Str} {consumed : Nat}
    (found : matchSensitive text = some (matched, consumed)) :
    ∃ known ∈ sensitiveKeywords, ∃ tail rest, text = matched ++ tail ∧ Spells known matched ∧
      matchAssignment tail = some rest ∧ consumed = text.length - rest.length := by
  obtain ⟨known, member, result⟩ := List.exists_of_findSome?_eq_some found
  obtain ⟨⟨_, tail⟩, keywordFound, assignment⟩ := Option.bind_eq_some_iff.mp result
  obtain ⟨rest, assigned, same⟩ := Option.map_eq_some_iff.mp assignment
  obtain ⟨rfl, rfl⟩ := Prod.mk.inj same
  obtain ⟨split, spells⟩ := matchKeyword_eq_some_iff.mp keywordFound
  exact ⟨known, member, tail, rest, split, spells, assigned, rfl⟩

/-- A match begins with a letter. -/
theorem matchSensitive_head {point : CodePoint} {text matched : Str} {consumed : Nat}
    (found : matchSensitive (point :: text) = some (matched, consumed)) :
    ∃ tail, matched = point :: tail ∧ 65 ≤ point.val ∧ isSpace point = false := by
  obtain ⟨known, member, tail, rest, split, spells, -, -⟩ := matchSensitive_eq_some found
  cases matched with
  | nil =>
      cases spells
      exact absurd rfl (keyword_ne_nil member)
  | cons first matched =>
      obtain ⟨rfl, -⟩ := List.cons.inj split
      exact ⟨matched, rfl, spells.value member point List.mem_cons_self⟩

/-- A match that begins before a keyword ends before the keyword or takes all of it. -/
theorem matchSensitive_consumed {front keyword matched : Str} {consumed : Nat}
    (isKeyword : IsKeyword keyword)
    (found : matchSensitive (front ++ keyword) = some (matched, consumed)) :
    consumed ≤ front.length ∨ consumed = (front ++ keyword).length := by
  obtain ⟨known, member, tail, rest, split, -, assigned, rfl⟩ := matchSensitive_eq_some found
  obtain ⟨suffixOf, ends⟩ := matchAssignment_rest assigned
  cases rest with
  | nil => exact .inr rfl
  | cons point rest =>
      have restOf : point :: rest <:+ front ++ keyword := by
        rw [split]
        exact suffixOf.trans (List.suffix_append matched tail)
      left
      rcases List.suffix_or_suffix_of_suffix restOf (List.suffix_append front keyword) with
        inKeyword | beyond
      · have value := isKeyword.value point (inKeyword.subset List.mem_cons_self)
        exact absurd (isValueChar_of_value value) (ends point rfl)
      · have long := beyond.length_le
        rw [List.length_append]
        omega

/-! ## The scan up to the keyword -/

/-- The rest of a match is dropped. -/
theorem redact_eq_drop (skip : Nat) (text : Str) :
    redact skip text = redact 0 (text.drop skip) := by
  induction skip generalizing text with
  | zero => rw [List.drop_zero]
  | succ skip inductionHypothesis =>
      cases text with
      | nil => rfl
      | cons point rest => rw [redact, inductionHypothesis, List.drop_succ_cons]

theorem redact_of_none {point : CodePoint} {text : Str}
    (absent : matchSensitive (point :: text) = none) :
    redact 0 (point :: text) = point :: redact 0 text := by
  rw [redact, absent]

theorem redact_of_some {point : CodePoint} {text matched : Str} {consumed : Nat}
    (found : matchSensitive (point :: text) = some (matched, consumed)) :
    redact 0 (point :: text) =
      matched ++ str "=<redacted>" ++ redact 0 (text.drop (consumed - 1)) := by
  rw [redact, found]
  dsimp only
  rw [redact_eq_drop]

/-- The rest of a match that ends in the text is dropped. -/
theorem endsInside_eq_drop (keyword : Str) {skip : Nat} {text : Str} (short : skip ≤ text.length) :
    endsInside keyword skip text = endsInside keyword 0 (text.drop skip) := by
  induction skip generalizing text with
  | zero => rw [List.drop_zero]
  | succ skip inductionHypothesis =>
      cases text with
      | nil => exact absurd short (Nat.not_succ_le_zero skip)
      | cons point rest =>
          rw [endsInside, inductionHypothesis (Nat.le_of_succ_le_succ short), List.drop_succ_cons]

/-- A match that is longer than the text reaches the keyword. -/
theorem endsInside_of_lt (keyword : Str) {skip : Nat} {text : Str} (long : text.length < skip) :
    endsInside keyword skip text = true := by
  induction text generalizing skip with
  | nil => exact decide_eq_true long
  | cons point rest inductionHypothesis =>
      cases skip with
      | zero => exact absurd long (Nat.not_lt_zero _)
      | succ skip => exact inductionHypothesis (Nat.lt_of_succ_lt_succ long)

theorem drop_takeWhile (takes : CodePoint → Bool) (text : Str) :
    text.drop (text.takeWhile takes).length = text.dropWhile takes := by
  have parts := List.takeWhile_append_dropWhile (p := takes) (l := text)
  calc text.drop (text.takeWhile takes).length =
        (text.takeWhile takes ++ text.dropWhile takes).drop (text.takeWhile takes).length := by
        rw [parts]
    _ = text.dropWhile takes := List.drop_left

/-- The redaction up to a keyword does not depend on what is behind the keyword.  A match that is
open at the keyword takes the keyword and the start of what is behind it. -/
theorem redact_append {keyword : Str} (isKeyword : IsKeyword keyword) (text : Str) :
    ∃ written, ∀ behind, (∀ point ∈ behind.head?, IsGap point) →
      redact 0 (text ++ keyword ++ behind) = written ++
        if endsInside keyword 0 text then redact 0 (behind.dropWhile isValueChar)
        else redact 0 (keyword ++ behind) := by
  have keywordPos : 0 < keyword.length := by
    obtain ⟨start, last, rfl, -⟩ := isKeyword.exists_last
    simp
  induction length : text.length using Nat.strong_induction_on generalizing text with
  | _ count inductionHypothesis =>
  cases text with
  | nil => exact ⟨[], fun behind _ => rfl⟩
  | cons point rest =>
      rw [List.length_cons] at length
      cases found : matchSensitive (point :: rest ++ keyword) with
      | none =>
          obtain ⟨written, rule⟩ := inductionHypothesis rest.length (by omega) rest rfl
          refine ⟨point :: written, ?_⟩
          intro behind gap
          have absent : matchSensitive (point :: rest ++ keyword ++ behind) = none := by
            rw [matchSensitive_append isKeyword (List.cons_ne_nil point rest) gap, found]
            rfl
          have inside : endsInside keyword 0 (point :: rest) = endsInside keyword 0 rest := by
            rw [endsInside, found]
          rw [inside]
          exact (redact_of_none absent).trans (congrArg (point :: ·) (rule behind gap))
      | some result =>
          obtain ⟨matched, consumed⟩ := result
          have inside : endsInside keyword 0 (point :: rest) =
              endsInside keyword (consumed - 1) rest := by
            rw [endsInside, found]
          have foundBefore : ∀ behind : Str, (∀ point ∈ behind.head?, IsGap point) →
              matchSensitive (point :: rest ++ keyword ++ behind) = some (matched,
                if consumed = (point :: rest ++ keyword).length then
                  consumed + (behind.takeWhile isValueChar).length else consumed) := by
            intro behind gap
            rw [matchSensitive_append isKeyword (List.cons_ne_nil point rest) gap, found]
            rfl
          rcases matchSensitive_consumed isKeyword found with ends | takes
          · -- The match ends in the text: the scan goes on behind it.
            have short : consumed - 1 ≤ rest.length := by
              rw [List.length_cons] at ends
              omega
            obtain ⟨written, rule⟩ := inductionHypothesis (rest.drop (consumed - 1)).length
              (by rw [List.length_drop]; omega) (rest.drop (consumed - 1)) rfl
            refine ⟨matched ++ str "=<redacted>" ++ written, ?_⟩
            intro behind gap
            have notAll : consumed ≠ (point :: rest ++ keyword).length := by
              rw [List.length_append]
              omega
            have here := foundBefore behind gap
            rw [if_neg notAll] at here
            have split : (rest ++ keyword ++ behind).drop (consumed - 1) =
                rest.drop (consumed - 1) ++ keyword ++ behind := by
              rw [List.append_assoc, List.drop_append_of_le_length short, List.append_assoc]
            have redacted : redact 0 (point :: rest ++ keyword ++ behind) =
                matched ++ str "=<redacted>" ++
                  redact 0 ((rest ++ keyword ++ behind).drop (consumed - 1)) :=
              redact_of_some here
            rw [inside, endsInside_eq_drop keyword short, redacted, split, rule behind gap,
              List.append_assoc _ written]
          · -- The match takes the keyword.
            refine ⟨matched ++ str "=<redacted>", ?_⟩
            intro behind gap
            have long : rest.length < consumed - 1 := by
              rw [takes, List.length_append, List.length_cons]
              omega
            have here := foundBefore behind gap
            rw [if_pos takes] at here
            have left : (rest ++ keyword ++ behind).drop
                (consumed + (behind.takeWhile isValueChar).length - 1) =
                behind.dropWhile isValueChar := by
              have counted : consumed + (behind.takeWhile isValueChar).length - 1 =
                  (rest ++ keyword).length + (behind.takeWhile isValueChar).length := by
                rw [takes, List.cons_append, List.length_cons]
                omega
              rw [counted, ← List.drop_drop, List.drop_left, drop_takeWhile]
            have redacted : redact 0 (point :: rest ++ keyword ++ behind) =
                matched ++ str "=<redacted>" ++ redact 0 ((rest ++ keyword ++ behind).drop
                  (consumed + (behind.takeWhile isValueChar).length - 1)) :=
              redact_of_some here
            rw [inside, endsInside_of_lt keyword long, if_pos rfl, redacted, left]

/-! ## The assignment itself -/

/-- A match is found where a keyword and its assignment stand. -/
theorem matchSensitive_of_match {known text matched tail rest : Str}
    (member : known ∈ sensitiveKeywords) (found : matchKeyword known text = some (matched, tail))
    (assigned : matchAssignment tail = some rest) :
    matchSensitive text = some (matched, text.length - rest.length) := by
  cases result : matchSensitive text with
  | none =>
      have absent := List.findSome?_eq_none_iff.mp result known member
      rw [found, Option.bind_some, assigned] at absent
      cases absent
  | some pair =>
      obtain ⟨otherMatched, consumed⟩ := pair
      obtain ⟨other, otherMember, otherTail, otherRest, split, spells, otherAssigned, rfl⟩ :=
        matchSensitive_eq_some result
      have otherFound := matchKeyword_eq_some_iff.mpr ⟨split, spells⟩
      obtain rfl := keyword_unique member otherMember found otherFound
      obtain ⟨rfl, rfl⟩ := Prod.mk.inj (Option.some.inj (found.symm.trans otherFound))
      obtain rfl := Option.some.inj (assigned.symm.trans otherAssigned)
      rfl

theorem EndsValue.dropWhile {text : Str} (ends : EndsValue text) :
    text.dropWhile isValueChar = text := by
  cases text with
  | nil => rfl
  | cons point rest => exact List.dropWhile_cons_of_neg (ends point rfl)

theorem isSpace_of_valueChar {point : CodePoint} (value : isValueChar point = true) :
    isSpace point = false := by
  simp only [isValueChar, Bool.and_eq_true, Bool.not_eq_true'] at value
  exact value.1.1

/-- A secret starts with a character that is no whitespace. -/
theorem IsSecret.exists_head {secret : Str} (isSecret : IsSecret secret) :
    ∃ point rest, secret = point :: rest ∧ isSpace point = false := by
  obtain ⟨nonempty, values⟩ := isSecret
  obtain ⟨point, rest, rfl⟩ := List.exists_cons_of_ne_nil nonempty
  exact ⟨point, rest, rfl, isSpace_of_valueChar (values point List.mem_cons_self)⟩

section Message

variable {keyword separator secret after : Str} (isKeyword : IsKeyword keyword)
  (isSeparator : IsSeparator separator) (isSecret : IsSecret secret) (ends : EndsValue after)

include isSecret ends in
/-- The value takes the secret and nothing else. -/
theorem dropWhile_secret : (secret ++ after).dropWhile isValueChar = after := by
  rw [List.dropWhile_append_of_pos isSecret.2, ends.dropWhile]

include isSeparator in
theorem IsSeparator.gap : ∀ point ∈ separator, IsGap point := by
  obtain ⟨left, mark, right, rfl, isMark, leftSpaces, rightSpaces⟩ := isSeparator
  intro point member
  rcases List.mem_append.mp member with inLeft | inTail
  · exact .inl (leftSpaces point inLeft)
  · rcases List.mem_cons.mp inTail with rfl | inRight
    · exact .inr isMark
    · exact .inl (rightSpaces point inRight)

include isSeparator in
/-- What is behind the keyword starts with the separator. -/
theorem IsSeparator.gap_head (behind : Str) :
    ∀ point ∈ (separator ++ behind).head?, IsGap point := by
  intro point first
  cases separator with
  | nil =>
      obtain ⟨left, mark, right, split, -⟩ := isSeparator
      simp at split
  | cons head tail =>
      obtain rfl := Option.some.inj first
      exact isSeparator.gap head List.mem_cons_self

include isSeparator isSecret ends in
/-- Behind the keyword the pattern takes the separator and the secret. -/
theorem matchAssignment_secret : matchAssignment (separator ++ (secret ++ after)) = some after := by
  obtain ⟨left, mark, right, rfl, isMark, leftSpaces, rightSpaces⟩ := isSeparator
  have markNoSpace : isSpace mark = false := by
    rcases isMark with rfl | rfl
    · decide
    · decide
  obtain ⟨point, rest, secretEq, noSpace⟩ := isSecret.exists_head
  have value : (right ++ (secret ++ after)).dropWhile isSpace = secret ++ after := by
    rw [List.dropWhile_append_of_pos rightSpaces, secretEq]
    exact List.dropWhile_cons_of_neg (by simp [noSpace])
  have taken : ((secret ++ after).takeWhile isValueChar).isEmpty = false := by
    rw [List.takeWhile_append_of_pos isSecret.2, secretEq]
    rfl
  unfold matchAssignment
  rw [List.append_assoc, List.cons_append, List.dropWhile_append_of_pos leftSpaces,
    List.dropWhile_cons_of_neg (by simp [markNoSpace])]
  simp only [if_pos isMark, value, taken, dropWhile_secret isSecret ends]
  rfl

include isKeyword isSeparator isSecret ends in
/-- A keyword that the scan reaches is redacted together with its secret. -/
theorem redact_assignment : redact 0 (keyword ++ (separator ++ (secret ++ after))) =
    keyword ++ str "=<redacted>" ++ redact 0 after := by
  obtain ⟨known, member, spells⟩ := isKeyword_iff.mp isKeyword
  have found := matchSensitive_of_match member (matchKeyword_eq_some_iff.mpr ⟨rfl, spells⟩)
    (matchAssignment_secret isSeparator isSecret ends)
  cases keyword with
  | nil =>
      obtain ⟨start, last, empty, -⟩ := isKeyword.exists_last
      simp at empty
  | cons point tail =>
      have redacted := redact_of_some found
      have counted : (point :: tail ++ (separator ++ (secret ++ after))).length - after.length - 1 =
          (tail ++ separator ++ secret).length := by
        simp only [List.cons_append, List.length_cons, List.length_append]
        omega
      have left : (tail ++ (separator ++ (secret ++ after))).drop
          (tail ++ separator ++ secret).length = after := by
        rw [← List.append_assoc, ← List.append_assoc, List.drop_left]
      rw [counted] at redacted
      rw [List.cons_append]
      refine redacted.trans ?_
      rw [List.append_eq, left, List.cons_append]

end Message

/-- Whitespace and marks between matches are kept. -/
theorem redact_gap {gaps : Str} (all : ∀ point ∈ gaps, IsGap point) (text : Str) :
    redact 0 (gaps ++ text) = gaps ++ redact 0 text := by
  induction gaps with
  | nil => rfl
  | cons point gaps inductionHypothesis =>
      have absent : matchSensitive (point :: (gaps ++ text)) = none := by
        cases found : matchSensitive (point :: (gaps ++ text)) with
        | none => rfl
        | some result =>
            obtain ⟨-, -, value⟩ := matchSensitive_head found
            exact absurd (all point List.mem_cons_self) (not_gap_of_value value)
      rw [List.cons_append, redact_of_none absent,
        inductionHypothesis fun later member => all later (List.mem_cons_of_mem _ member),
        List.cons_append]

/-! ## The whole message -/

section Context

variable {before keyword separator after : Str} (isKeyword : IsKeyword keyword)
  (isSeparator : IsSeparator separator) (ends : EndsValue after)

include isKeyword isSeparator ends in
/-- If the scan reaches the keyword, or the separator has no whitespace, the redacted message does
not depend on the secret. -/
theorem redact_hides
    (hidden : endsInside keyword 0 before = false ∨ ∀ point ∈ separator, ¬ isSpace point) :
    ∃ redacted, ∀ secret, IsSecret secret →
      redact 0 (before ++ keyword ++ (separator ++ (secret ++ after))) = redacted := by
  obtain ⟨written, rule⟩ := redact_append isKeyword before
  cases inside : endsInside keyword 0 before with
  | false =>
      refine ⟨written ++ (keyword ++ str "=<redacted>" ++ redact 0 after), ?_⟩
      intro secret isSecret
      rw [rule _ (isSeparator.gap_head _), inside, if_neg Bool.false_ne_true,
        redact_assignment isKeyword isSeparator isSecret ends]
  | true =>
      have noSpace := hidden.resolve_left (by simp [inside])
      have values : ∀ point ∈ separator, isValueChar point := by
        intro point member
        rcases isSeparator.gap point member with space | rfl | rfl
        · exact absurd space (noSpace point member)
        · decide
        · decide
      refine ⟨written ++ redact 0 after, ?_⟩
      intro secret isSecret
      rw [rule _ (isSeparator.gap_head _), inside, if_pos rfl, List.dropWhile_append_of_pos values,
        dropWhile_secret isSecret ends]

include isKeyword isSeparator in
/-- A match that is open at the keyword ends at the first whitespace of the separator: what is
behind the separator is redacted on its own. -/
theorem redact_of_inside (inside : endsInside keyword 0 before = true)
    (spaced : ∃ point ∈ separator, isSpace point) (behind : Str) :
    redact 0 (before ++ keyword ++ (separator ++ behind)) =
      redact 0 (before ++ keyword ++ separator) ++ redact 0 behind := by
  obtain ⟨written, rule⟩ := redact_append isKeyword before
  obtain ⟨point, member, space⟩ := spaced
  have noValue : isValueChar point = false := by simp [isValueChar, space]
  have gaps : ∀ point ∈ separator.dropWhile isValueChar, IsGap point := fun point member =>
    isSeparator.gap point ((List.dropWhile_suffix _).subset member)
  have stops : ∀ behind, (separator ++ behind).dropWhile isValueChar =
      separator.dropWhile isValueChar ++ behind := by
    intro behind
    obtain ⟨left, right, rfl⟩ := List.append_of_mem member
    rw [List.append_assoc, List.cons_append, dropWhile_append_cons noValue,
      dropWhile_append_cons noValue, List.append_assoc, List.cons_append]
  have redacted : ∀ behind, redact 0 (before ++ keyword ++ (separator ++ behind)) =
      written ++ (separator.dropWhile isValueChar ++ redact 0 behind) := by
    intro behind
    rw [rule _ (isSeparator.gap_head _), inside, if_pos rfl, stops, redact_gap gaps]
  have alone := redacted []
  rw [List.append_nil] at alone
  rw [redacted, alone, redact, List.append_nil, List.append_assoc]

end Context

/-! ## Stripping and truncation -/

/-- A character that is no whitespace bounds what is stripped on both sides. -/
theorem strip_append_cons {point : CodePoint} (noSpace : isSpace point = false)
    (text behind : Str) :
    strip (text ++ point :: behind) =
      text.dropWhile isSpace ++ point :: (behind.reverse.dropWhile isSpace).reverse := by
  rw [strip, dropWhile_append_cons noSpace, List.reverse_append, List.reverse_cons,
    List.append_assoc, List.singleton_append, dropWhile_append_cons noSpace]
  simp

/-- The redaction of a text with a character that is no whitespace has one, too. -/
theorem exists_mem_redact {text : Str} (visible : ∃ point ∈ text, isSpace point = false) :
    ∃ point ∈ redact 0 text, isSpace point = false := by
  induction text with
  | nil => simp at visible
  | cons point rest inductionHypothesis =>
      cases found : matchSensitive (point :: rest) with
      | some result =>
          obtain ⟨tail, matchedEq, -, noSpace⟩ := matchSensitive_head found
          refine ⟨point, ?_, noSpace⟩
          rw [redact_of_some found, matchedEq]
          simp
      | none =>
          rw [redact_of_none found]
          obtain ⟨shown, member, noSpace⟩ := visible
          rcases List.mem_cons.mp member with rfl | later
          · exact ⟨shown, List.mem_cons_self, noSpace⟩
          · obtain ⟨kept, inRest, keptNoSpace⟩ := inductionHypothesis ⟨shown, later, noSpace⟩
            exact ⟨kept, List.mem_cons_of_mem _ inRest, keptNoSpace⟩

/-- The cause that is stored for a message. -/
def redactedCause (text : Str) : Str := (strip (redact 0 text)).take 512

theorem redactedCause_ne {text : Str} (visible : ∃ point ∈ text, isSpace point = false) :
    redactedCause text ≠ [] := by
  obtain ⟨point, member, noSpace⟩ := exists_mem_redact visible
  obtain ⟨left, right, split⟩ := List.append_of_mem member
  rw [redactedCause, split, strip_append_cons noSpace]
  simp

/-- The redaction keeps the first character. -/
theorem redact_cons (point : CodePoint) (text : Str) :
    ∃ tail, redact 0 (point :: text) = point :: tail := by
  cases found : matchSensitive (point :: text) with
  | none => exact ⟨_, redact_of_none found⟩
  | some result =>
      obtain ⟨tail, matchedEq, -⟩ := matchSensitive_head found
      refine ⟨tail ++ str "=<redacted>" ++ redact 0 (text.drop (result.2 - 1)), ?_⟩
      rw [redact_of_some found, matchedEq, List.cons_append, List.cons_append]

section Cause

variable {before keyword separator : Str} (isKeyword : IsKeyword keyword)
  (isSeparator : IsSeparator separator)

include isKeyword isSeparator in
/-- Behind an open match and whitespace, the cause goes on with the first character of the
secret. -/
theorem redactedCause_of_inside (inside : endsInside keyword 0 before = true)
    (spaced : ∃ point ∈ separator, isSpace point) {point : CodePoint}
    (noSpace : isSpace point = false) (behind : Str) :
    ∃ tail, redactedCause (before ++ keyword ++ (separator ++ point :: behind)) =
      ((redact 0 (before ++ keyword ++ separator)).dropWhile isSpace ++
        point :: tail).take 512 := by
  obtain ⟨tail, headEq⟩ := redact_cons point behind
  refine ⟨(tail.reverse.dropWhile isSpace).reverse, ?_⟩
  rw [redactedCause, redact_of_inside isKeyword isSeparator inside spaced, headEq,
    strip_append_cons noSpace]

include isKeyword isSeparator in
/-- The contexts in which the cause is the same for all secrets. -/
theorem redactedCause_hides_iff {after : Str} (ends : EndsValue after) :
    (∀ first second, IsSecret first → IsSecret second →
      redactedCause (before ++ keyword ++ (separator ++ (first ++ after))) =
        redactedCause (before ++ keyword ++ (separator ++ (second ++ after)))) ↔
    endsInside keyword 0 before = false ∨ (∀ point ∈ separator, ¬ isSpace point) ∨
      512 ≤ ((redact 0 (before ++ keyword ++ separator)).dropWhile isSpace).length := by
  constructor
  · intro same
    by_contra shown
    simp only [not_or, Bool.not_eq_false, not_forall, not_not, not_le] at shown
    obtain ⟨inside, ⟨space, member, isSpace⟩, room⟩ := shown
    -- A digit is no part of a keyword, so it stands in the cause behind the separator.
    have digit : ∀ point : CodePoint, point = 48 ∨ point = 49 → IsSecret [point] ∧
        (redactedCause (before ++ keyword ++ (separator ++ ([point] ++ after))))[
          ((redact 0 (before ++ keyword ++ separator)).dropWhile Python.isSpace).length]? =
            some point := by
      intro point isDigit
      have noSpace : Python.isSpace point = false := by
        rcases isDigit with rfl | rfl
        · decide
        · decide
      have value : isValueChar point := by
        rcases isDigit with rfl | rfl
        · decide
        · decide
      obtain ⟨tail, cause⟩ := redactedCause_of_inside isKeyword isSeparator inside
        ⟨space, member, isSpace⟩ noSpace after
      refine ⟨⟨List.cons_ne_nil _ _, by simpa using value⟩, ?_⟩
      rw [List.singleton_append, cause, List.getElem?_take_of_lt room,
        List.getElem?_append_right le_rfl, Nat.sub_self, List.getElem?_cons_zero]
    obtain ⟨zeroSecret, zeroShown⟩ := digit 48 (.inl rfl)
    obtain ⟨oneSecret, oneShown⟩ := digit 49 (.inr rfl)
    rw [same [48] [49] zeroSecret oneSecret, oneShown] at zeroShown
    exact absurd (Option.some.inj zeroShown) (by decide)
  · intro hidden first second firstSecret secondSecret
    by_cases covered : endsInside keyword 0 before = false ∨ ∀ point ∈ separator, ¬ isSpace point
    · obtain ⟨redacted, rule⟩ := redact_hides isKeyword isSeparator ends covered
      rw [redactedCause, redactedCause, rule first firstSecret, rule second secondSecret]
    · have full := (or_assoc.mpr hidden).resolve_left covered
      simp only [not_or, Bool.not_eq_false, not_forall, not_not] at covered
      obtain ⟨inside, space, member, isSpace⟩ := covered
      have filled : ∀ secret, IsSecret secret →
          redactedCause (before ++ keyword ++ (separator ++ (secret ++ after))) =
            ((redact 0 (before ++ keyword ++ separator)).dropWhile Python.isSpace).take 512 := by
        intro secret isSecret
        obtain ⟨point, rest, rfl, noSpace⟩ := isSecret.exists_head
        obtain ⟨tail, cause⟩ := redactedCause_of_inside isKeyword isSeparator inside
          ⟨space, member, isSpace⟩ noSpace (rest ++ after)
        rw [List.cons_append, cause, List.take_append_of_le_length full]
      rw [filled first firstSecret, filled second secondSecret]

end Cause

/-- The error code that is stored. -/
def ErrorView.code (error : ErrorView) : Str := error.meridianCode.getD error.qualifiedName

/-- A message with a character that is no whitespace is stored as its redacted cause. -/
theorem redactedFailure_eq {error : ErrorView} (coded : error.code ≠ [])
    (visible : ∃ point ∈ error.text, isSpace point = false) (failedAt : Utc) :
    redactedFailure error failedAt =
      .ok ⟨error.code, redactedCause error.text, failedAt, coded, redactedCause_ne visible⟩ := by
  have stripped : strip (redact 0 error.text) ≠ [] := by
    intro empty
    apply redactedCause_ne visible
    rw [redactedCause, empty]
    rfl
  unfold redactedFailure OutboxFailure.make
  dsimp only
  rw [if_neg stripped]
  exact dif_pos ⟨coded, redactedCause_ne visible⟩

/-! ## What a release stores -/

namespace InMemoryOutboxStore

variable {F : Type} [FloatText F]

/-- The failure that the store keeps for an event. -/
def storedFailure (store : InMemoryOutboxStore F) (eventId : Str) : Option OutboxFailure :=
  (store.records.get? eventId).bind (·.failure)

/-- A release under a running lease stores the redacted failure. -/
theorem storedFailure_release {store : InMemoryOutboxStore F} {eventId owner : Str}
    {error : ErrorView} {now : Option DateTime} {utcNow current : Utc} {record : MutableRecord F}
    {failure : OutboxFailure} (retryable : Bool) (time : currentTime now utcNow = .ok current)
    (leased : store.leasedRecord eventId owner current = .ok record)
    (redacted : redactedFailure error current = .ok failure) :
    (store.release eventId owner error retryable now utcNow).2.storedFailure eventId =
      some failure := by
  rw [release, time]
  dsimp only
  rw [leased]
  dsimp only
  rw [redacted]
  simp [storedFailure, setRecord, releasedRecord]

/-- Under a running lease, the failure that a release stores for a message with a secret has a
cause of one to 512 characters.  It is the same for all secrets exactly if no earlier match takes
the keyword, or the separator has no whitespace, or the part before the secret fills the cause. -/
theorem release_hides_secret_iff (store : InMemoryOutboxStore F) (eventId owner : Str)
    (error : ErrorView) (coded : error.code ≠ []) (retryable : Bool) (now : Option DateTime)
    (utcNow current : Utc) (time : currentTime now utcNow = .ok current) (record : MutableRecord F)
    (leased : store.leasedRecord eventId owner current = .ok record)
    (before keyword separator after : Str) (isKeyword : IsKeyword keyword)
    (isSeparator : IsSeparator separator) (ends : EndsValue after) :
    let stored := fun secret => (store.release eventId owner
      { error with text := before ++ keyword ++ separator ++ secret ++ after }
      retryable now utcNow).2.storedFailure eventId
    (∀ secret, IsSecret secret → ∃ failure, stored secret = some failure ∧
      failure.redactedCause ≠ [] ∧ failure.redactedCause.length ≤ 512) ∧
    ((∀ first second, IsSecret first → IsSecret second → stored first = stored second) ↔
      endsInside keyword 0 before = false ∨ (∀ point ∈ separator, ¬ isSpace point) ∨
        512 ≤ ((redact 0 (before ++ keyword ++ separator)).dropWhile isSpace).length) := by
  intro stored
  have visible : ∀ secret, ∃ point ∈ before ++ keyword ++ separator ++ secret ++ after,
      isSpace point = false := by
    intro secret
    obtain ⟨start, last, rfl, -, noSpace⟩ := isKeyword.exists_last
    exact ⟨last, by simp, noSpace⟩
  have storedEq : ∀ secret, stored secret = some ⟨error.code,
      redactedCause (before ++ keyword ++ separator ++ secret ++ after), current, coded,
      redactedCause_ne (visible secret)⟩ := by
    intro secret
    have viewCoded : ErrorView.code { error with
        text := before ++ keyword ++ separator ++ secret ++ after } ≠ [] := coded
    exact storedFailure_release retryable time leased
      (redactedFailure_eq viewCoded (visible secret) current)
  constructor
  · intro secret _
    refine ⟨_, storedEq secret, redactedCause_ne (visible secret), ?_⟩
    exact List.length_take_le _ _
  · rw [← redactedCause_hides_iff isKeyword isSeparator ends]
    refine forall_congr' fun first => forall_congr' fun second => ?_
    simp only [storedEq, Option.some.injEq, OutboxFailure.mk.injEq, true_and, and_true,
      List.append_assoc]

/-- The sample event under the lease of the first worker. -/
def leasedSample : InMemoryOutboxStore Empty :=
  (initDefault.run [.append sampleIntent, sampleClaim "worker-1" 20]).1

/-- An error of class `ValueError`; its message is given by the release. -/
def sampleError : ErrorView := ⟨none, str "builtins.ValueError", str "ValueError", []⟩

/-- What a release of the sample event stores for a message. -/
def sampleStored (message : Str) : Option OutboxFailure :=
  (leasedSample.release (str "order-1-b") (str "worker-1") { sampleError with text := message } true
    (some (.ofUtc 30)) 0).2.storedFailure (str "order-1-b")

theorem isSeparator_colon : IsSeparator (str ": ") :=
  ⟨[], 58, [32], by decide, .inl rfl, List.all_eq_true.mp (by decide),
    List.all_eq_true.mp (by decide)⟩

theorem isSecret_hunter : IsSecret (str "hunter2") ∧ IsSecret (str "hunter3") :=
  ⟨⟨by decide, List.all_eq_true.mp (by decide)⟩, by decide, List.all_eq_true.mp (by decide)⟩

/-- A password in an ordinary message is hidden. -/
theorem release_hides_secret_iff_sample :
    IsSecret (str "hunter2") ∧ IsSecret (str "hunter3") ∧
      sampleStored
          (str "login failed, " ++ str "Password" ++ str ": " ++ str "hunter2" ++ str "; retry") =
        sampleStored
          (str "login failed, " ++ str "Password" ++ str ": " ++ str "hunter3" ++
            str "; retry") := by
  obtain ⟨firstSecret, secondSecret⟩ := isSecret_hunter
  obtain ⟨record, leased⟩ : ∃ record, leasedSample.leasedRecord (str "order-1-b") (str "worker-1")
      ⟨30, by decide⟩ = .ok record := by
    have held : (leasedSample.leasedRecord (str "order-1-b") (str "worker-1")
        ⟨30, by decide⟩).isOk = true := by decide +kernel
    cases found : leasedSample.leasedRecord (str "order-1-b") (str "worker-1") ⟨30, by decide⟩ with
    | ok record => exact ⟨record, rfl⟩
    | error error =>
        rw [found] at held
        cases held
  have ends : EndsValue (str "; retry") := by
    intro point first
    obtain rfl : (59 : CodePoint) = point := Option.some.inj first
    decide +kernel
  refine ⟨firstSecret, secondSecret, ?_⟩
  exact (release_hides_secret_iff leasedSample (str "order-1-b") (str "worker-1") sampleError
    (by decide) true (some (.ofUtc ⟨30, by decide⟩)) ⟨0, by decide⟩ ⟨30, by decide⟩
    (by decide +kernel) record leased (str "login failed, ") (str "Password") (str ": ")
    (str "; retry")
    ⟨str "password", by decide +kernel, by decide +kernel⟩ isSeparator_colon ends).2.mpr
    (.inl (by decide +kernel)) (str "hunter2") (str "hunter3") firstSecret secondSecret

/-- In `token=password: hunter2` the match of `token` takes the keyword `password:` as its value,
and the password stays in the cause. -/
theorem swallowed_keyword_shows_secret :
    ¬ ∀ before keyword separator after first second, IsKeyword keyword → IsSeparator separator →
      EndsValue after → IsSecret first → IsSecret second →
      ∀ (store : InMemoryOutboxStore Empty) (eventId owner : Str) (error : ErrorView)
        (retryable : Bool) (now : Option DateTime) (utcNow : Utc),
      (store.release eventId owner
        { error with text := before ++ keyword ++ separator ++ first ++ after }
        retryable now utcNow).2.storedFailure eventId =
      (store.release eventId owner
        { error with text := before ++ keyword ++ separator ++ second ++ after }
        retryable now utcNow).2.storedFailure eventId := by
  intro always
  have same : sampleStored (str "token=" ++ str "password" ++ str ": " ++ str "hunter2" ++ []) =
      sampleStored (str "token=" ++ str "password" ++ str ": " ++ str "hunter3" ++ []) :=
    always (str "token=") (str "password") (str ": ") [] (str "hunter2") (str "hunter3")
      ⟨str "password", by decide +kernel, by decide +kernel⟩ isSeparator_colon
      (fun _ first => nomatch first)
      isSecret_hunter.1 isSecret_hunter.2 leasedSample (str "order-1-b") (str "worker-1")
      sampleError true (some (.ofUtc ⟨30, by decide⟩)) ⟨0, by decide⟩
  have causes :
      (sampleStored (str "token=" ++ str "password" ++ str ": " ++ str "hunter2" ++ [])).map
        (·.redactedCause) = some (str "token=<redacted> hunter2") ∧
      (sampleStored (str "token=" ++ str "password" ++ str ": " ++ str "hunter3" ++ [])).map
        (·.redactedCause) = some (str "token=<redacted> hunter3") := by decide +kernel
  rw [same] at causes
  exact absurd (causes.1.symm.trans causes.2) (by decide +kernel)

end InMemoryOutboxStore

end DataLifecycle.Outbox
