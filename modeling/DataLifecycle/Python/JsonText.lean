import DataLifecycle.Python.JsonRoundTrip

/-!
# Characters of printed JSON

Printed text consists of printable ASCII and of the characters of the printed
strings.  It therefore has no line break, and it contains a lone surrogate
exactly when some string or key does.
-/

namespace DataLifecycle.Python.Json

variable {F : Type}

mutual

/-- The characters of all strings and keys of a value. -/
def characters : Json F → Str
  | .str value => value
  | .array items => charactersItems items
  | .object members => charactersMembers members
  | _ => []

def charactersItems : List (Json F) → Str
  | [] => []
  | item :: rest => characters item ++ charactersItems rest

def charactersMembers : List (Str × Json F) → Str
  | [] => []
  | (key, value) :: rest => key ++ characters value ++ charactersMembers rest

end

theorem mem_charactersMembers {point : CodePoint} {members : List (Str × Json F)} :
    point ∈ charactersMembers members ↔
      ∃ member ∈ members, point ∈ member.1 ∨ point ∈ characters member.2 := by
  induction members with
  | nil => simp [charactersMembers]
  | cons member rest ih => simp [charactersMembers, ih, or_assoc]

mutual

/-- Sorting keys keeps the set of characters. -/
theorem mem_characters_sortKeys : ∀ (value : Json F) (point : CodePoint),
    point ∈ characters (sortKeys value) ↔ point ∈ characters value
  | .null, _ => by rw [sortKeys]
  | .bool _, _ => by rw [sortKeys]
  | .int _, _ => by rw [sortKeys]
  | .float _, _ => by rw [sortKeys]
  | .str _, _ => by rw [sortKeys]
  | .array items, point => by
      rw [sortKeys, characters, characters]
      exact mem_charactersItems_sortItems items point
  | .object members, point => by
      rw [sortKeys, characters, characters, ← mem_charactersMembers_sortMembers members point,
        mem_charactersMembers, mem_charactersMembers]
      simp only [(perm_insertionSort_sortMembers members).mem_iff]

theorem mem_charactersItems_sortItems : ∀ (items : List (Json F)) (point : CodePoint),
    point ∈ charactersItems (sortItems items) ↔ point ∈ charactersItems items
  | [], _ => by rw [sortItems]
  | item :: rest, point => by
      simp only [sortItems, charactersItems, List.mem_append, mem_characters_sortKeys item point,
        mem_charactersItems_sortItems rest point]

theorem mem_charactersMembers_sortMembers : ∀ (members : List (Str × Json F)) (point : CodePoint),
    point ∈ charactersMembers (sortMembers members) ↔ point ∈ charactersMembers members
  | [], _ => by rw [sortMembers]
  | (key, value) :: rest, point => by
      simp only [sortMembers, charactersMembers, List.mem_append,
        mem_characters_sortKeys value point, mem_charactersMembers_sortMembers rest point]

end

/-- Printable ASCII. -/
def Printable (point : CodePoint) : Prop := 32 ≤ point.val ∧ point.val < 127

instance (point : CodePoint) : Decidable (Printable point) :=
  inferInstanceAs (Decidable (_ ∧ _))

/-- Membership form of a check of all characters of a fixed text. -/
theorem printable_of_all {text : Str} (all : text.all (fun point => decide (Printable point)) = true)
    {point : CodePoint} (member : point ∈ text) : Printable point :=
  of_decide_eq_true (List.all_eq_true.mp all point member)

theorem printable_of_isDigit {point : CodePoint} (digit : isDigit point = true) :
    Printable point := by
  simp only [isDigit, Bool.and_eq_true, decide_eq_true_eq] at digit
  exact ⟨by omega, by omega⟩

/-- An escaped character is itself or printable. -/
theorem mem_escape {point other : CodePoint} (member : other ∈ escape point) :
    Printable other ∨ (other = point ∧ 32 ≤ point.val) := by
  unfold escape at member
  by_cases special : point ∈ [34, 92, 8, 12, 10, 13, 9]
  · simp only [List.mem_cons, List.not_mem_nil, or_false] at special
    rcases special with rfl | rfl | rfl | rfl | rfl | rfl | rfl <;>
      exact Or.inl (printable_of_all (by decide) member)
  · simp only [List.mem_cons, List.not_mem_nil, or_false, not_or] at special
    obtain ⟨quoteMark, backslash, backspace, formFeed, lineFeed, carriage, tab⟩ := special
    rw [if_neg quoteMark, if_neg backslash, if_neg backspace, if_neg formFeed, if_neg lineFeed,
      if_neg carriage, if_neg tab] at member
    by_cases control : point.val < 32
    · rw [if_pos control] at member
      have digits : ∀ code < 32, ([92, 117, 48, 48, Fin.ofNat 0x110000 (48 + code / 16),
          Fin.ofNat 0x110000 (if code % 16 < 10 then 48 + code % 16 else 87 + code % 16)] : Str).all
            (fun point => decide (Printable point)) = true := by decide
      exact Or.inl (printable_of_all (digits point.val control) member)
    · rw [if_neg control, List.mem_singleton] at member
      exact Or.inr ⟨member, by omega⟩

theorem mem_escape_self {point : CodePoint} (high : 127 ≤ point.val) : point ∈ escape point := by
  have different : ∀ other : CodePoint, other.val < 127 → point ≠ other := by
    rintro other low rfl
    omega
  rw [escape, if_neg (different 34 (by decide)), if_neg (different 92 (by decide)),
    if_neg (different 8 (by decide)), if_neg (different 12 (by decide)),
    if_neg (different 10 (by decide)), if_neg (different 13 (by decide)),
    if_neg (different 9 (by decide)), if_neg (by omega)]
  exact List.mem_singleton_self point

theorem mem_quote {text : Str} {point : CodePoint} (member : point ∈ quote text) :
    Printable point ∨ (point ∈ text ∧ 32 ≤ point.val) := by
  simp only [quote, List.cons_append, List.mem_cons, List.mem_append, List.mem_flatMap,
    List.not_mem_nil, or_false] at member
  rcases member with rfl | ⟨source, sourceMem, escaped⟩ | rfl
  · exact Or.inl (by decide)
  · rcases mem_escape escaped with printable | ⟨rfl, high⟩
    · exact Or.inl printable
    · exact Or.inr ⟨sourceMem, high⟩
  · exact Or.inl (by decide)

theorem mem_quote_of_mem {text : Str} {point : CodePoint} (member : point ∈ text)
    (high : 127 ≤ point.val) : point ∈ quote text := by
  simp only [quote, List.cons_append, List.mem_cons, List.mem_append, List.mem_flatMap]
  exact Or.inr (Or.inl ⟨point, member, mem_escape_self high⟩)

theorem printable_of_mem_whole {whole : Str} (isWhole : IsWhole whole) :
    ∀ point ∈ whole, Printable point := by
  intro point member
  rcases isWhole with rfl | ⟨first, rest, rfl, low, high, digits⟩
  · exact printable_of_all (by decide) member
  · rcases List.mem_cons.mp member with rfl | member
    · exact ⟨by omega, by omega⟩
    · exact printable_of_isDigit (digits point member)

theorem printable_of_mem_intText (value : Int) : ∀ point ∈ intText value, Printable point := by
  have whole := printable_of_mem_whole (isWhole_natText value.natAbs)
  intro point member
  rw [intText] at member
  split at member
  · rcases List.mem_cons.mp member with rfl | member
    · decide
    · exact whole point member
  · exact whole point member

theorem printable_of_mem_floatToken {token : Str} (isToken : IsFloatToken token) :
    ∀ point ∈ token, Printable point := by
  obtain ⟨sign, whole, fraction, exponent, rfl, isSign, isWhole, isFraction, isExponent, _⟩ := isToken
  intro point member
  simp only [List.mem_append] at member
  rcases member with ((signMem | wholeMem) | fractionMem) | exponentMem
  · rcases isSign with rfl | rfl
    · simp at signMem
    · rw [List.mem_singleton] at signMem
      subst point
      decide
  · exact printable_of_mem_whole isWhole point wholeMem
  · rcases isFraction with rfl | ⟨digits, rfl, _, all⟩
    · simp at fractionMem
    · rcases List.mem_cons.mp fractionMem with rfl | digitMem
      · decide
      · exact printable_of_isDigit (all point digitMem)
  · rcases isExponent with rfl | ⟨expSign, digits, rfl, isExpSign, _, all⟩
    · simp at exponentMem
    · simp only [List.mem_cons] at exponentMem
      rcases exponentMem with rfl | rfl | digitMem
      · decide
      · rcases isExpSign with rfl | rfl <;> decide
      · exact printable_of_isDigit (all point digitMem)

variable [FloatText F]

mutual

/-- A printed character is printable ASCII or belongs to a printed string. -/
theorem mem_print : ∀ (value : Json F) (point : CodePoint), point ∈ print value →
    Printable point ∨ (point ∈ characters value ∧ 32 ≤ point.val)
  | .null, point, member => by
      rw [print] at member
      exact Or.inl (printable_of_all (by decide) member)
  | .bool true, point, member => by
      rw [print] at member
      exact Or.inl (printable_of_all (by decide) member)
  | .bool false, point, member => by
      rw [print] at member
      exact Or.inl (printable_of_all (by decide) member)
  | .int value, point, member => by
      rw [print] at member
      exact Or.inl (printable_of_mem_intText value point member)
  | .float value, point, member => by
      rw [print] at member
      exact Or.inl (printable_of_mem_floatToken (FloatText.isFloatToken_repr value) point member)
  | .str value, point, member => by
      rw [print] at member
      exact mem_quote member
  | .array [], point, member => by
      rw [print] at member
      exact Or.inl (printable_of_all (by decide) member)
  | .array (item :: rest), point, member => by
      simp only [print, List.cons_append, List.mem_cons, List.mem_append] at member
      simp only [characters, charactersItems, List.mem_append]
      rcases member with rfl | member | member
      · exact Or.inl (by decide)
      · have := mem_print item point member
        tauto
      · have := mem_printItems rest point member
        tauto
  | .object [], point, member => by
      rw [print] at member
      exact Or.inl (printable_of_all (by decide) member)
  | .object ((key, value) :: rest), point, member => by
      simp only [print, List.cons_append, List.mem_cons, List.mem_append] at member
      simp only [characters, charactersMembers, List.mem_append]
      rcases member with rfl | (member | rfl | member) | member
      · exact Or.inl (by decide)
      · have := mem_quote member
        tauto
      · exact Or.inl (by decide)
      · have := mem_print value point member
        tauto
      · have := mem_printMembers rest point member
        tauto

theorem mem_printItems : ∀ (items : List (Json F)) (point : CodePoint), point ∈ printItems items →
    Printable point ∨ (point ∈ charactersItems items ∧ 32 ≤ point.val)
  | [], point, member => by
      rw [printItems, List.mem_singleton] at member
      subst point
      exact Or.inl (by decide)
  | item :: rest, point, member => by
      simp only [printItems, List.cons_append, List.mem_cons, List.mem_append] at member
      simp only [charactersItems, List.mem_append]
      rcases member with rfl | member | member
      · exact Or.inl (by decide)
      · have := mem_print item point member
        tauto
      · have := mem_printItems rest point member
        tauto

theorem mem_printMembers : ∀ (members : List (Str × Json F)) (point : CodePoint),
    point ∈ printMembers members →
    Printable point ∨ (point ∈ charactersMembers members ∧ 32 ≤ point.val)
  | [], point, member => by
      rw [printMembers, List.mem_singleton] at member
      subst point
      exact Or.inl (by decide)
  | (key, value) :: rest, point, member => by
      simp only [printMembers, List.cons_append, List.mem_cons, List.mem_append] at member
      simp only [charactersMembers, List.mem_append]
      rcases member with rfl | (member | rfl | member) | member
      · exact Or.inl (by decide)
      · have := mem_quote member
        tauto
      · exact Or.inl (by decide)
      · have := mem_print value point member
        tauto
      · have := mem_printMembers rest point member
        tauto

end

/-- Printed JSON has no control characters, in particular no line break. -/
theorem le_of_mem_print {value : Json F} {point : CodePoint} (member : point ∈ print value) :
    32 ≤ point.val := by
  rcases mem_print value point member with printable | ⟨_, high⟩
  · exact printable.1
  · exact high

mutual

/-- Characters outside ASCII are printed as they are. -/
theorem mem_print_of_mem_characters : ∀ (value : Json F) (point : CodePoint),
    point ∈ characters value → 127 ≤ point.val → point ∈ print value
  | .null, _, member, _ => by simp [characters] at member
  | .bool _, _, member, _ => by simp [characters] at member
  | .int _, _, member, _ => by simp [characters] at member
  | .float _, _, member, _ => by simp [characters] at member
  | .str value, point, member, high => by
      rw [characters] at member
      rw [print]
      exact mem_quote_of_mem member high
  | .array [], _, member, _ => by simp [characters, charactersItems] at member
  | .array (item :: rest), point, member, high => by
      simp only [characters, charactersItems, List.mem_append] at member
      simp only [print, List.cons_append, List.mem_cons, List.mem_append]
      rcases member with member | member
      · exact Or.inr (Or.inl (mem_print_of_mem_characters item point member high))
      · exact Or.inr (Or.inr (mem_printItems_of_mem_characters rest point member high))
  | .object [], _, member, _ => by simp [characters, charactersMembers] at member
  | .object ((key, value) :: rest), point, member, high => by
      simp only [characters, charactersMembers, List.mem_append] at member
      simp only [print, List.cons_append, List.mem_cons, List.mem_append]
      rcases member with (member | member) | member
      · exact Or.inr (Or.inl (Or.inl (mem_quote_of_mem member high)))
      · exact Or.inr (Or.inl (Or.inr (Or.inr (mem_print_of_mem_characters value point member high))))
      · exact Or.inr (Or.inr (mem_printMembers_of_mem_characters rest point member high))

theorem mem_printItems_of_mem_characters : ∀ (items : List (Json F)) (point : CodePoint),
    point ∈ charactersItems items → 127 ≤ point.val → point ∈ printItems items
  | [], _, member, _ => by simp [charactersItems] at member
  | item :: rest, point, member, high => by
      simp only [charactersItems, List.mem_append] at member
      simp only [printItems, List.cons_append, List.mem_cons, List.mem_append]
      rcases member with member | member
      · exact Or.inr (Or.inl (mem_print_of_mem_characters item point member high))
      · exact Or.inr (Or.inr (mem_printItems_of_mem_characters rest point member high))

theorem mem_printMembers_of_mem_characters : ∀ (members : List (Str × Json F)) (point : CodePoint),
    point ∈ charactersMembers members → 127 ≤ point.val → point ∈ printMembers members
  | [], _, member, _ => by simp [charactersMembers] at member
  | (key, value) :: rest, point, member, high => by
      simp only [charactersMembers, List.mem_append] at member
      simp only [printMembers, List.cons_append, List.mem_cons, List.mem_append]
      rcases member with (member | member) | member
      · exact Or.inr (Or.inl (Or.inl (mem_quote_of_mem member high)))
      · exact Or.inr (Or.inl (Or.inr (Or.inr (mem_print_of_mem_characters value point member high))))
      · exact Or.inr (Or.inr (mem_printMembers_of_mem_characters rest point member high))

end

end DataLifecycle.Python.Json
