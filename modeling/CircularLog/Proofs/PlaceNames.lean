import CircularLog.Proofs.Numerals
import CircularLog.Replay.Place
import Mathlib.Data.List.TakeDrop
import Mathlib.Data.List.TakeWhile

namespace CircularLog

namespace Blank

theorem isBlank_of_isDigit {c : Char} (digit : c.isDigit = true) : isBlank c = false := by
  have bounds : 48 ≤ c.toNat ∧ c.toNat ≤ 57 := by
    simpa [Char.isDigit, UInt32.le_iff_toNat_le] using digit
  simp only [isBlank, CodePoints.contains, ranges, List.any_cons, List.any_nil, Bool.or_false,
    Bool.or_eq_false_iff, Bool.and_eq_false_iff, decide_eq_false_iff_not]
  omega

theorem trim_padded {before text after : List Char}
    (blank : ∀ c ∈ before ++ after, isBlank c = true)
    (solid : ∀ c ∈ text, isBlank c = false) (some : text ≠ []) :
    trim (before ++ (text ++ after)) = text := by
  have front : ∀ others : List Char, (∀ c ∈ others, isBlank c = false) → others ≠ [] →
      ∀ rest, (others ++ rest).dropWhile isBlank = others ++ rest := by
    intro others plain filled rest
    obtain ⟨c, more, rfl⟩ := List.exists_cons_of_ne_nil filled
    exact List.dropWhile_cons_of_neg (by simp [plain c List.mem_cons_self])
  have lead : ∀ c ∈ before, isBlank c = true := fun c inside =>
    blank c (List.mem_append_left _ inside)
  have trail : ∀ c ∈ after.reverse, isBlank c = true := fun c inside =>
    blank c (List.mem_append_right _ (List.mem_reverse.mp inside))
  have turned : ∀ c ∈ text.reverse, isBlank c = false := fun c inside =>
    solid c (List.mem_reverse.mp inside)
  have last := front text.reverse turned (List.reverse_ne_nil_iff.mpr some) []
  rw [List.append_nil] at last
  rw [trim, List.dropWhile_append_of_pos lead, front text solid some, List.reverse_append,
    List.dropWhile_append_of_pos trail, last, List.reverse_reverse]

theorem mem_dropWhile {text : List Char} {c : Char} (inside : c ∈ text)
    (solid : isBlank c = false) : c ∈ text.dropWhile isBlank := by
  rw [← List.takeWhile_append_dropWhile (p := isBlank) (l := text)] at inside
  rcases List.mem_append.mp inside with blank | kept
  · exact absurd (List.mem_takeWhile_imp blank) (by simp [solid])
  · exact kept

theorem mem_trim {text : List Char} {c : Char} (inside : c ∈ text) (solid : isBlank c = false) :
    c ∈ trim text :=
  List.mem_reverse.mpr (mem_dropWhile (List.mem_reverse.mpr (mem_dropWhile inside solid)) solid)

end Blank

namespace Replay

open Blank Numeral

theorem span_comma {before : List Char} (first : ',' ∉ before) (after : List Char) :
    (before ++ ',' :: after).span (· != ',') = (before, ',' :: after) := by
  have plain : ∀ c ∈ before, (c != ',') = true := by
    intro c inside
    exact bne_iff_ne.mpr (fun same => first (same ▸ inside))
  rw [List.span_eq_takeWhile_dropWhile, List.takeWhile_append_of_pos plain,
    List.dropWhile_append_of_pos plain]
  simp

theorem span_plain {text : List Char} (none : ',' ∉ text) : text.span (· != ',') = (text, []) := by
  have plain : ∀ c ∈ text, (c != ',') = true := by
    intro c inside
    exact bne_iff_ne.mpr (fun same => none (same ▸ inside))
  rw [List.span_eq_takeWhile_dropWhile, List.takeWhile_eq_self_iff.mpr plain,
    List.dropWhile_eq_nil_iff.mpr plain]

-- The part before the first comma, and the whole part behind it.
structure Halves (text : String) (before after : List Char) : Prop where
  parts : text.toList = before ++ ',' :: after
  first : ',' ∉ before

theorem Halves.exist {text : String} (comma : ',' ∈ text.toList) :
    ∃ before after, Halves text before after := by
  obtain ⟨before, after, parts, first⟩ := List.eq_append_cons_of_mem comma
  exact ⟨before, after, parts, first⟩

theorem Halves.comma {text : String} {before after : List Char}
    (halves : Halves text before after) : ',' ∈ text.toList := by
  rw [halves.parts]
  exact List.mem_append_right _ List.mem_cons_self

theorem Halves.unique {text : String} {before after front rest : List Char}
    (halves : Halves text before after) (again : Halves text front rest) :
    before = front ∧ after = rest := by
  have spans := congrArg (List.span (· != ',')) (halves.parts.symm.trans again.parts)
  rw [span_comma halves.first, span_comma again.first] at spans
  obtain ⟨left, right⟩ := Prod.mk.inj spans
  exact ⟨left, (List.cons.inj right).2⟩

theorem place_plain {text : String} (none : ',' ∉ text.toList) :
    place text = .error (.noComma text) := by
  unfold place
  rw [span_plain none]

theorem Halves.place {text : String} {before after : List Char}
    (halves : Halves text before after) :
    place text = do
      let index ← number before
      let offset ← number after
      return (index, offset) := by
  unfold Replay.place
  rw [halves.parts, span_comma halves.first]

theorem number_spelt {text : List Char} {found : Nat} (spells : Spells (trim text) found) :
    number text = .ok found := by
  rw [number, (parse_ok_iff _ _).mpr spells]
  rfl

theorem number_refused {text : List Char} {cause : Numeral.Fault}
    (refuses : Refuses (trim text) cause) :
    number text = .error (.numeral cause) := by
  rw [number, (parse_error_iff _ _).mpr refuses]
  rfl

def Names (text : String) (index offset : Nat) : Prop :=
  ∃ before after, Halves text before after ∧ Spells (trim before) index ∧
    Spells (trim after) offset

-- What is wrong with a text that names no place. The second number counts only behind a good first.
inductive Refused (text : String) : PlaceFault → Prop where
  | noComma (none : ',' ∉ text.toList) : Refused text (.noComma text)
  | index {before after : List Char} {cause : Numeral.Fault} (halves : Halves text before after)
      (refuses : Refuses (trim before) cause) : Refused text (.numeral cause)
  | offset {before after : List Char} {index : Nat} {cause : Numeral.Fault}
      (halves : Halves text before after) (spells : Spells (trim before) index)
      (refuses : Refuses (trim after) cause) : Refused text (.numeral cause)

theorem Names.place {text : String} {index offset : Nat} (names : Names text index offset) :
    place text = .ok (index, offset) := by
  obtain ⟨before, after, halves, spells, again⟩ := names
  rw [halves.place, number_spelt spells, number_spelt again]
  rfl

theorem Refused.place {text : String} {fault : PlaceFault} (refused : Refused text fault) :
    place text = .error fault := by
  cases refused with
  | noComma none => exact place_plain none
  | index halves refuses =>
    rw [halves.place, number_refused refuses]
    rfl
  | offset halves spells refuses =>
    rw [halves.place, number_spelt spells, number_refused refuses]
    rfl

-- The words for a missing comma are not those for a bad number, which begin with another letter.
theorem message_ne (cause : Numeral.Fault) (text : String) :
    (PlaceFault.numeral cause).message ≠ "expected ENTRY,OFFSET, got " ++ text := by
  intro same
  have first := congrArg (fun words => words.toList.head?) same
  rw [String.toList_append] at first
  have letter : (PlaceFault.numeral cause).message.toList.head? ≠ some 'e' := by
    cases cause <;> decide
  exact letter first

theorem Refused.message_iff {text : String} {fault : PlaceFault} (refused : Refused text fault) :
    fault.message = "expected ENTRY,OFFSET, got " ++ Quoted.quote text ↔ ',' ∉ text.toList := by
  cases refused with
  | noComma none => exact ⟨fun _ => none, fun _ => rfl⟩
  | index halves refuses =>
    exact ⟨fun same => absurd same (message_ne _ _), fun none => absurd halves.comma none⟩
  | offset halves spells refuses =>
    exact ⟨fun same => absurd same (message_ne _ _), fun none => absurd halves.comma none⟩

theorem named_or_refused (text : String) :
    (∃ index offset, Names text index offset) ∨ ∃ fault, Refused text fault := by
  by_cases comma : ',' ∈ text.toList
  · obtain ⟨before, after, halves⟩ := Halves.exist comma
    rcases parse_cases (trim before) with ⟨index, spells, _⟩ | ⟨cause, refuses, _⟩
    · rcases parse_cases (trim after) with ⟨offset, again, _⟩ | ⟨cause, refuses, _⟩
      · exact .inl ⟨index, offset, before, after, halves, spells, again⟩
      · exact .inr ⟨_, .offset halves spells refuses⟩
    · exact .inr ⟨_, .index halves refuses⟩
  · exact .inr ⟨_, .noComma comma⟩

theorem place_ok_iff (text : String) (index offset : Nat) :
    place text = .ok (index, offset) ↔ Names text index offset := by
  refine ⟨fun read => ?_, Names.place⟩
  rcases named_or_refused text with ⟨record, byte, names⟩ | ⟨fault, refused⟩
  · cases read.symm.trans names.place
    exact names
  · cases read.symm.trans refused.place

theorem place_error_iff (text : String) (fault : PlaceFault) :
    place text = .error fault ↔ Refused text fault := by
  refine ⟨fun read => ?_, Refused.place⟩
  rcases named_or_refused text with ⟨record, byte, names⟩ | ⟨cause, refused⟩
  · cases read.symm.trans names.place
  · cases read.symm.trans refused.place
    exact refused

-- What no place has in it: a second comma, a blank inside a number, or a character that has no part
-- in numbers, as a minus sign and the digits of other scripts have none.
inductive Spoilt (text : String) : Prop where
  | comma (more : 1 < text.toList.count ',')
  | blank {before after : List Char} {c : Char} (halves : Halves text before after)
      (inside : c ∈ trim before ++ trim after) (blank : isBlank c = true)
  | other {c : Char} (inside : c ∈ text.toList) (separator : c ≠ ',') (sign : c ≠ '+')
      (digit : c.isDigit = false) (solid : isBlank c = false)

theorem solid_of_spells {text : List Char} {number : Nat} (spells : Spells text number) :
    ∀ c ∈ text, isBlank c = false := by
  intro c inside
  rcases spells.characters c inside with rfl | digit
  · decide
  · exact isBlank_of_isDigit digit

theorem characters_of_spells {text : List Char} {number : Nat} (spells : Spells (trim text) number)
    {c : Char} (inside : c ∈ text) : c = '+' ∨ c.isDigit = true ∨ isBlank c = true := by
  cases solid : isBlank c with
  | true => exact .inr (.inr rfl)
  | false =>
    rcases spells.characters c (mem_trim inside solid) with sign | digit
    · exact .inl sign
    · exact .inr (.inl digit)

theorem Spoilt.not_named {text : String} {index offset : Nat} (spoilt : Spoilt text) :
    ¬ Names text index offset := by
  rintro ⟨before, after, halves, spells, again⟩
  cases spoilt with
  | comma more =>
    have second : ',' ∈ after := by
      rw [halves.parts, List.count_append, List.count_eq_zero_of_not_mem halves.first,
        List.count_cons_self, Nat.zero_add] at more
      exact List.count_pos_iff.mp (Nat.lt_of_succ_lt_succ more)
    have shape := characters_of_spells again second
    revert shape
    decide
  | blank whole inside blank =>
    obtain ⟨rfl, rfl⟩ := halves.unique whole
    rcases List.mem_append.mp inside with front | back
    · exact absurd blank (by simp [solid_of_spells spells _ front])
    · exact absurd blank (by simp [solid_of_spells again _ back])
  | @other c inside separator sign digit solid =>
    rw [halves.parts] at inside
    have shape : c = '+' ∨ c.isDigit = true ∨ isBlank c = true := by
      rcases List.mem_append.mp inside with front | back
      · exact characters_of_spells spells front
      · rcases List.mem_cons.mp back with same | behind
        · exact absurd same separator
        · exact characters_of_spells again behind
    rcases shape with same | same | same
    · exact sign same
    · exact absurd same (by simp [digit])
    · exact absurd same (by simp [solid])

theorem Spoilt.refused {text : String} (spoilt : Spoilt text) :
    ∃ fault, place text = .error fault := by
  rcases named_or_refused text with ⟨index, offset, names⟩ | ⟨fault, refused⟩
  · exact absurd names spoilt.not_named
  · exact ⟨fault, refused.place⟩

-- Two numbers in their usual form, with blanks around them and a comma between them.
def written (index offset : Nat) (first second third fourth : List Char) : String :=
  String.ofList (first ++ ((toString index).toList ++ second) ++
    ',' :: (third ++ ((toString offset).toList ++ fourth)))

theorem trim_written {number : Nat} (small : number < 2 ^ 64) {before after : List Char}
    (blank : ∀ c ∈ before ++ after, isBlank c = true) :
    Spells (trim (before ++ ((toString number).toList ++ after))) number := by
  have spells := spells_toString small
  rw [trim_padded blank (solid_of_spells spells) spells.ne_nil]
  exact spells

theorem not_comma_of_blank {text : List Char} (blank : ∀ c ∈ text, isBlank c = true) :
    ',' ∉ text := by
  intro inside
  have bad := blank ',' inside
  revert bad
  decide

theorem names_written {index offset : Nat} (small : index < 2 ^ 64) (little : offset < 2 ^ 64)
    {first second third fourth : List Char}
    (blank : ∀ c ∈ first ++ second ++ (third ++ fourth), isBlank c = true) :
    Names (written index offset first second third fourth) index offset := by
  have left : ∀ c ∈ first ++ second, isBlank c = true := fun c inside =>
    blank c (List.mem_append_left _ inside)
  have right : ∀ c ∈ third ++ fourth, isBlank c = true := fun c inside =>
    blank c (List.mem_append_right _ inside)
  refine ⟨first ++ ((toString index).toList ++ second),
    third ++ ((toString offset).toList ++ fourth),
    ⟨String.toList_ofList, ?_⟩, trim_written small left, trim_written little right⟩
  intro inside
  rcases List.mem_append.mp inside with lead | inside
  · exact not_comma_of_blank left (List.mem_append_left _ lead)
  · rcases List.mem_append.mp inside with digits | trail
    · have shape := (spells_toString small).characters _ digits
      revert shape
      decide
    · exact not_comma_of_blank left (List.mem_append_right _ trail)

-- A text is read as the place it names and refused for what is wrong with it, and each place can be
-- written with any blanks around its numbers.
theorem place_accepts_its_grammar :
    (∀ text : String,
      (∀ index offset, place text = .ok (index, offset) ↔
        ∃ before after, Halves text before after ∧ Spells (trim before) index ∧
          Spells (trim after) offset) ∧
      (∀ fault, place text = .error fault ↔ Refused text fault) ∧
      (∀ fault, place text = .error fault →
        (fault.message = "expected ENTRY,OFFSET, got " ++ Quoted.quote text ↔
          ',' ∉ text.toList)) ∧
      (Spoilt text → ∃ fault, place text = .error fault)) ∧
    ∀ index offset, index < 2 ^ 64 → offset < 2 ^ 64 →
      ∀ first second third fourth : List Char,
        (∀ c ∈ first ++ second ++ (third ++ fourth), isBlank c = true) →
          place (written index offset first second third fourth) = .ok (index, offset) := by
  constructor
  · intro text
    refine ⟨place_ok_iff text, place_error_iff text, ?_, Spoilt.refused⟩
    intro fault read
    exact ((place_error_iff text fault).mp read).message_iff
  · intro index offset small little first second third fourth blank
    exact (names_written small little blank).place

theorem place_of_odd_spellings :
    place "\u00a0007 ,+1" = .ok (7, 1) ∧
    place (written 18446744073709551615 0 [' '] ['\u3000'] [] ['\n']) =
      .ok (18446744073709551615, 0) ∧
    Spoilt "1,2,3" ∧ (∃ fault, place "1,2,3" = .error fault) ∧
    place "18446744073709551616x,2,3" = .error (.numeral .tooLarge) := by
  obtain ⟨reads, writes⟩ := place_accepts_its_grammar
  have zeros : Spells (trim ['\u00a0', '0', '0', '7', ' ']) 7 :=
    ⟨[], ['0', '0', '7'], by decide, .inl rfl, by decide, List.all_eq_true.mp (by decide),
      by decide, by decide⟩
  have sign : Spells (trim ['+', '1']) 1 :=
    ⟨['+'], ['1'], by decide, .inr rfl, by decide, List.all_eq_true.mp (by decide), by decide,
      by decide⟩
  have large : Refuses (trim "18446744073709551616x".toList) .tooLarge :=
    ⟨[], "18446744073709551616".toList, ['x'], by decide, .inl rfl,
      List.all_eq_true.mp (by decide), by decide⟩
  have spoilt : Spoilt "1,2,3" := .comma (by decide)
  obtain ⟨named, _, _, _⟩ := reads "\u00a0007 ,+1"
  obtain ⟨_, refused, _, _⟩ := reads "18446744073709551616x,2,3"
  obtain ⟨_, _, _, rejected⟩ := reads "1,2,3"
  have halves : Halves "18446744073709551616x,2,3" "18446744073709551616x".toList "2,3".toList :=
    ⟨by decide, by decide⟩
  exact ⟨(named 7 1).mpr ⟨_, _, ⟨by decide, by decide⟩, zeros, sign⟩,
    writes _ _ (by decide) (by decide) _ _ _ _ (List.all_eq_true.mp (by decide)), spoilt,
    rejected spoilt, (refused _).mpr (.index halves large)⟩

end Replay

end CircularLog
