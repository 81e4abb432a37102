import CircularLog.Text.Numeral
import Mathlib.Algebra.GroupWithZero.Nat

namespace CircularLog.Numeral

def IsSign (text : List Char) : Prop :=
  text = [] ∨ text = ['+']

-- The text is a numeral of the number. Its digits may begin with zeros.
def Spells (text : List Char) (number : Nat) : Prop :=
  ∃ sign digits, text = sign ++ digits ∧ IsSign sign ∧ digits ≠ [] ∧
    (∀ c ∈ digits, c.isDigit = true) ∧ Nat.ofDigitChars 10 digits 0 = number ∧ number < 2 ^ 64

-- The digits at the front of the text are too many, whatever follows them.
def Overflows (text : List Char) : Prop :=
  ∃ sign digits rest, text = sign ++ (digits ++ rest) ∧ IsSign sign ∧
    (∀ c ∈ digits, c.isDigit = true) ∧ 2 ^ 64 ≤ Nat.ofDigitChars 10 digits 0

def Refuses (text : List Char) : Fault → Prop
  | .empty => text = []
  | .tooLarge => Overflows text
  | .invalidDigit => text ≠ [] ∧ ¬ Overflows text ∧ ∀ number, ¬ Spells text number

theorem digit?_eq (c : Char) :
    digit? c = if c.isDigit = true then some (c.toNat - '0'.toNat) else none := by
  have same : ('0' ≤ c ∧ c ≤ '9') ↔ c.isDigit = true := by
    simp [Char.isDigit, Char.le_def]
  rw [digit?, if_congr same rfl rfl]

theorem extend_of_digit {c : Char} (digit : c.isDigit = true) (value : Nat) :
    extend value c = if 10 * value + (c.toNat - '0'.toNat) < 2 ^ 64
      then .ok (10 * value + (c.toNat - '0'.toNat)) else .error .tooLarge := by
  rw [extend, digit?_eq, if_pos digit, Nat.mul_comm 10]
  rfl

theorem extend_of_other {c : Char} (other : ¬ c.isDigit = true) (value : Nat) :
    extend value c = .error .invalidDigit := by
  rw [extend, digit?_eq, if_neg other]

theorem le_ofDigitChars (digits : List Char) (value : Nat) :
    value ≤ Nat.ofDigitChars 10 digits value := by
  induction digits generalizing value with
  | nil => exact Nat.le_of_eq Nat.ofDigitChars_nil.symm
  | cons c digits ih =>
    rw [Nat.ofDigitChars_cons]
    have more := ih (10 * value + (c.toNat - '0'.toNat))
    omega

def TooMany (value : Nat) (text : List Char) : Prop :=
  ∃ digits rest, text = digits ++ rest ∧ (∀ c ∈ digits, c.isDigit = true) ∧
    2 ^ 64 ≤ Nat.ofDigitChars 10 digits value

theorem tooMany_of_large {value : Nat} (large : 2 ^ 64 ≤ value) (text : List Char) :
    TooMany value text :=
  ⟨[], text, rfl, nofun, Nat.ofDigitChars_nil.symm ▸ large⟩

theorem not_tooMany_nil {value : Nat} (small : value < 2 ^ 64) : ¬ TooMany value [] := by
  rintro ⟨digits, rest, parts, _, large⟩
  obtain ⟨rfl, _⟩ := List.append_eq_nil_iff.mp parts.symm
  rw [Nat.ofDigitChars_nil] at large
  exact Nat.not_le_of_lt small large

theorem tooMany_cons {value : Nat} (small : value < 2 ^ 64) (c : Char) (text : List Char) :
    TooMany value (c :: text) ↔
      c.isDigit = true ∧ TooMany (10 * value + (c.toNat - '0'.toNat)) text := by
  constructor
  · rintro ⟨digits, rest, parts, all, large⟩
    cases digits with
    | nil =>
      rw [Nat.ofDigitChars_nil] at large
      exact absurd large (Nat.not_le_of_lt small)
    | cons first digits =>
      obtain ⟨rfl, others⟩ := List.cons.inj parts
      obtain ⟨digit, all⟩ := List.forall_mem_cons.mp all
      rw [Nat.ofDigitChars_cons] at large
      exact ⟨digit, digits, rest, others, all, large⟩
  · rintro ⟨digit, digits, rest, rfl, all, large⟩
    refine ⟨c :: digits, rest, rfl, List.forall_mem_cons.mpr ⟨digit, all⟩, ?_⟩
    rw [Nat.ofDigitChars_cons]
    exact large

-- How the digits behind a value are read. The size is looked at with each digit, so what leads past
-- the limit is found before anything behind it that is no digit.
theorem read_digits (text : List Char) {value : Nat} (small : value < 2 ^ 64) :
    ((∀ c ∈ text, c.isDigit = true) ∧ Nat.ofDigitChars 10 text value < 2 ^ 64 ∧
        text.foldlM extend value = .ok (Nat.ofDigitChars 10 text value)) ∨
      (TooMany value text ∧ text.foldlM extend value = .error .tooLarge) ∨
      (¬ TooMany value text ∧ (¬ ∀ c ∈ text, c.isDigit = true) ∧
        text.foldlM extend value = .error .invalidDigit) := by
  induction text generalizing value with
  | nil => exact .inl ⟨nofun, Nat.ofDigitChars_nil.symm ▸ small, rfl⟩
  | cons c text ih =>
    rw [List.foldlM_cons, tooMany_cons small, List.forall_mem_cons, Nat.ofDigitChars_cons]
    by_cases digit : c.isDigit = true
    · rw [extend_of_digit digit]
      by_cases fits : 10 * value + (c.toNat - '0'.toNat) < 2 ^ 64
      · rw [if_pos fits]
        rcases ih fits with ⟨all, less, read⟩ | ⟨large, read⟩ | ⟨within, other, read⟩
        · exact .inl ⟨⟨digit, all⟩, less, read⟩
        · exact .inr (.inl ⟨⟨digit, large⟩, read⟩)
        · exact .inr (.inr ⟨within ∘ And.right, other ∘ And.right, read⟩)
      · rw [if_neg fits]
        exact .inr (.inl ⟨⟨digit, tooMany_of_large (Nat.le_of_not_lt fits) text⟩, rfl⟩)
    · rw [extend_of_other digit]
      exact .inr (.inr ⟨digit ∘ And.left, digit ∘ And.left, rfl⟩)

def unsigned : List Char → List Char
  | '+' :: digits => digits
  | digits => digits

theorem unsigned_parts (text : List Char) : ∃ sign, IsSign sign ∧ text = sign ++ unsigned text := by
  unfold unsigned
  split
  · exact ⟨['+'], .inr rfl, rfl⟩
  · exact ⟨[], .inl rfl, rfl⟩

theorem unsigned_eq {sign front rest : List Char} (isSign : IsSign sign) (some : front ≠ [])
    (digits : ∀ c ∈ front, c.isDigit = true) :
    unsigned (sign ++ (front ++ rest)) = front ++ rest := by
  rcases isSign with rfl | rfl
  · obtain ⟨c, others, rfl⟩ := List.exists_cons_of_ne_nil some
    have plain : c ≠ '+' := by
      rintro rfl
      exact absurd (digits '+' List.mem_cons_self) (by decide)
    unfold unsigned
    split
    · rename_i same
      exact absurd (List.cons.inj same).1 plain
    · rfl
  · rfl

theorem spells_iff (text : List Char) (number : Nat) :
    Spells text number ↔ unsigned text ≠ [] ∧ (∀ c ∈ unsigned text, c.isDigit = true) ∧
      Nat.ofDigitChars 10 (unsigned text) 0 = number ∧ number < 2 ^ 64 := by
  constructor
  · rintro ⟨sign, digits, rfl, isSign, some, all, value, small⟩
    have same : unsigned (sign ++ (digits ++ [])) = digits ++ [] := unsigned_eq isSign some all
    rw [List.append_nil] at same
    rw [same]
    exact ⟨some, all, value, small⟩
  · rintro ⟨some, all, value, small⟩
    obtain ⟨sign, isSign, parts⟩ := unsigned_parts text
    exact ⟨sign, unsigned text, parts, isSign, some, all, value, small⟩

theorem overflows_iff (text : List Char) : Overflows text ↔ TooMany 0 (unsigned text) := by
  constructor
  · rintro ⟨sign, digits, rest, rfl, isSign, all, large⟩
    have some : digits ≠ [] := by
      rintro rfl
      rw [Nat.ofDigitChars_nil] at large
      exact absurd large (by decide)
    exact ⟨digits, rest, unsigned_eq isSign some all, all, large⟩
  · rintro ⟨digits, rest, parts, all, large⟩
    obtain ⟨sign, isSign, whole⟩ := unsigned_parts text
    exact ⟨sign, digits, rest, parts ▸ whole, isSign, all, large⟩

theorem parse_eq (text : List Char) :
    parse text = if text = [] then .error .empty
      else if unsigned text = [] then .error .invalidDigit
      else (unsigned text).foldlM extend 0 := by
  unfold parse
  split
  · rfl
  · rfl
  · rename_i digits alone
    have some : digits ≠ [] := fun none => alone (none ▸ rfl)
    rw [if_neg (List.cons_ne_nil _ _)]
    exact (if_neg some).symm
  · rename_i filled alone unsignedText
    have plain : unsigned text = text := by
      unfold unsigned
      split
      · rename_i digits
        exact absurd rfl (unsignedText digits)
      · rfl
    rw [plain, if_neg filled, if_neg filled]

theorem Overflows.unsigned_ne_nil {text : List Char} (overflows : Overflows text) :
    unsigned text ≠ [] := by
  intro none
  have large := (overflows_iff text).mp overflows
  rw [none] at large
  exact not_tooMany_nil (by decide) large

theorem Overflows.ne_nil {text : List Char} (overflows : Overflows text) : text ≠ [] := by
  rintro rfl
  exact overflows.unsigned_ne_nil rfl

theorem Spells.ne_nil {text : List Char} {number : Nat} (spells : Spells text number) :
    text ≠ [] := by
  rintro rfl
  exact ((spells_iff [] number).mp spells).1 rfl

-- What is spelt does not overflow on the way.
theorem Spells.within {text : List Char} {number : Nat} (spells : Spells text number) :
    ¬ Overflows text := by
  obtain ⟨_, _, value, small⟩ := (spells_iff text number).mp spells
  intro overflows
  obtain ⟨digits, rest, parts, _, large⟩ := (overflows_iff text).mp overflows
  have more := le_ofDigitChars rest (Nat.ofDigitChars 10 digits 0)
  rw [← Nat.ofDigitChars_append, ← parts, value] at more
  omega

theorem Spells.unique {text : List Char} {number other : Nat} (spells : Spells text number)
    (again : Spells text other) : number = other := by
  obtain ⟨_, _, value, _⟩ := (spells_iff text number).mp spells
  obtain ⟨_, _, same, _⟩ := (spells_iff text other).mp again
  exact value.symm.trans same

theorem Spells.not_refused {text : List Char} {number : Nat} (spells : Spells text number)
    (fault : Fault) : ¬ Refuses text fault := by
  cases fault with
  | empty => exact spells.ne_nil
  | tooLarge => exact spells.within
  | invalidDigit => exact fun refuses => refuses.2.2 number spells

theorem Refuses.unique {text : List Char} {fault other : Fault} (refuses : Refuses text fault)
    (again : Refuses text other) : fault = other := by
  cases fault with
  | empty =>
    cases other with
    | empty => rfl
    | tooLarge => exact absurd refuses again.ne_nil
    | invalidDigit => exact absurd refuses again.1
  | tooLarge =>
    cases other with
    | empty => exact absurd again refuses.ne_nil
    | tooLarge => rfl
    | invalidDigit => exact absurd refuses again.2.1
  | invalidDigit =>
    cases other with
    | empty => exact absurd again refuses.1
    | tooLarge => exact absurd again refuses.2.1
    | invalidDigit => rfl

theorem parse_cases (text : List Char) :
    (∃ number, Spells text number ∧ parse text = .ok number) ∨
      ∃ fault, Refuses text fault ∧ parse text = .error fault := by
  rw [parse_eq]
  by_cases empty : text = []
  · exact .inr ⟨.empty, empty, if_pos empty⟩
  · rw [if_neg empty]
    by_cases none : unsigned text = []
    · rw [if_pos none]
      refine .inr ⟨.invalidDigit, ⟨empty, fun overflows => overflows.unsigned_ne_nil none, ?_⟩, rfl⟩
      intro number spells
      exact ((spells_iff text number).mp spells).1 none
    · rw [if_neg none]
      have zero : 0 < 2 ^ 64 := by decide
      rcases read_digits (unsigned text) zero with ⟨all, less, read⟩ | ⟨large, read⟩ |
        ⟨within, other, read⟩
      · exact .inl ⟨_, (spells_iff text _).mpr ⟨none, all, rfl, less⟩, read⟩
      · exact .inr ⟨.tooLarge, (overflows_iff text).mpr large, read⟩
      · refine .inr ⟨.invalidDigit, ⟨empty, within ∘ (overflows_iff text).mp, ?_⟩, read⟩
        intro number spells
        exact other ((spells_iff text number).mp spells).2.1

theorem parse_ok_iff (text : List Char) (number : Nat) :
    parse text = .ok number ↔ Spells text number := by
  rcases parse_cases text with ⟨found, spells, read⟩ | ⟨fault, refuses, read⟩
  · rw [read]
    constructor
    · intro same
      exact Except.ok.inj same ▸ spells
    · intro again
      rw [spells.unique again]
  · rw [read]
    constructor
    · intro same
      cases same
    · intro spells
      exact absurd refuses (spells.not_refused fault)

theorem parse_error_iff (text : List Char) (fault : Fault) :
    parse text = .error fault ↔ Refuses text fault := by
  rcases parse_cases text with ⟨found, spells, read⟩ | ⟨cause, refuses, read⟩
  · rw [read]
    constructor
    · intro same
      cases same
    · intro refuses
      exact absurd refuses (spells.not_refused fault)
  · rw [read]
    constructor
    · intro same
      exact Except.error.inj same ▸ refuses
    · intro again
      rw [refuses.unique again]

theorem spells_toString {number : Nat} (small : number < 2 ^ 64) :
    Spells (toString number).toList number := by
  refine ⟨[], Nat.toDigits 10 number, ?_, .inl rfl, Nat.toDigits_ne_nil, ?_, ?_, small⟩
  · rw [List.nil_append, Nat.toString_eq_repr, Nat.toList_repr]
  · intro c inside
    exact Nat.isDigit_of_mem_toDigits (by decide) (by decide) inside
  · exact Nat.ofDigitChars_ten_toDigits

theorem Spells.characters {text : List Char} {number : Nat} (spells : Spells text number) :
    ∀ c ∈ text, c = '+' ∨ c.isDigit = true := by
  obtain ⟨sign, digits, rfl, isSign, _, all, _⟩ := spells
  intro c inside
  rcases List.mem_append.mp inside with front | back
  · rcases isSign with rfl | rfl
    · cases front
    · exact .inl (List.mem_singleton.mp front)
  · exact .inr (all c back)

end CircularLog.Numeral
