import CircularLog.Proofs.Decoding

namespace CircularLog.Utf8

def tail (value missing : Nat) : UInt8 :=
  UInt8.ofNat (value / 64 ^ missing % 64 + 0x80)

theorem tails_succ (value missing : Nat) :
    tails value (missing + 1) = tail value missing :: tails value missing := rfl

theorem toNat_tail (value missing : Nat) :
    (tail value missing).toNat = value / 64 ^ missing % 64 + 0x80 := by
  have small : value / 64 ^ missing % 64 < 64 := Nat.mod_lt _ (by decide)
  have whole : (64 + 0x80 : Nat) < UInt8.size := by decide
  exact UInt8.toNat_ofNat_of_lt' (Nat.lt_trans (Nat.add_lt_add_right small 0x80) whole)

namespace Opened

variable {sequence : Opened} {value : Nat}

theorem MayBe.takes (may : sequence.MayBe value) :
    sequence.Takes (tail value (sequence.missing - 1)) := by
  have bits := toNat_tail value (sequence.missing - 1)
  constructor
  · rw [UInt8.le_iff_toNat_le, bits]
    exact may.low
  · rw [UInt8.le_iff_toNat_le, bits]
    exact may.high

theorem MayBe.taking (may : sequence.MayBe value) (some : 0 < sequence.missing) :
    sequence.taking (tail value (sequence.missing - 1)) = value / 64 ^ (sequence.missing - 1) := by
  have seen : value / 64 ^ (sequence.missing - 1) / 64 = sequence.value := by
    rw [Nat.div_div_eq_div_mul, ← Nat.pow_succ, Nat.succ_eq_add_one, Nat.sub_add_cancel some]
    exact may.seen
  unfold Opened.taking
  rw [toNat_tail, Nat.add_sub_cancel, ← seen]
  exact Nat.div_add_mod' _ 64

theorem MayBe.longer (may : sequence.MayBe value) (some : 0 < sequence.missing) :
    (sequence.longer (tail value (sequence.missing - 1))).MayBe value := by
  refine ⟨(may.taking some).symm, Nat.le_add_left _ _, ?_⟩
  have small : value / 64 ^ (sequence.missing - 1 - 1) % 64 < 64 := Nat.mod_lt _ (by decide)
  exact Nat.add_le_add_right (Nat.le_of_lt_succ small) 0x80

end Opened

section

open Opened

variable {sequence : Opened} {value : Nat}

theorem unitsFrom_tails {missing : Nat} (may : sequence.MayBe value)
    (count : sequence.missing = missing + 1) (bytes : Bytes) :
    unitsFrom (some sequence) (tails value (missing + 1) ++ bytes) =
      some (Char.ofNat value) :: units bytes := by
  induction missing generalizing sequence with
  | zero =>
    have takes := may.takes
    have taking := may.taking (count ▸ Nat.one_pos)
    rw [count] at takes taking
    rw [tails_succ, List.cons_append, unitsFrom_done takes (Nat.le_of_eq count), taking]
    exact congrArg (fun number => some (Char.ofNat number) :: units bytes) (Nat.div_one value)
  | succ missing ih =>
    have takes := may.takes
    have longer := may.longer (count ▸ Nat.succ_pos _)
    have more : ¬ sequence.missing ≤ 1 := by omega
    have less : sequence.missing - 1 = missing + 1 := by omega
    rw [less] at takes longer
    rw [tails_succ, List.cons_append, unitsFrom_next takes more]
    exact ih longer less

theorem opening?_two : ∀ lead < 0x20, 2 ≤ lead →
    opening? (UInt8.ofNat (lead + 0xC0)) = some ⟨lead, 1, 0x80, 0xBF⟩ := by
  decide

theorem opening?_three : ∀ lead < 0x10, opening? (UInt8.ofNat (lead + 0xE0)) =
    some ⟨lead, 2, if lead = 0 then 0xA0 else 0x80, if lead = 0xD then 0x9F else 0xBF⟩ := by
  decide

theorem opening?_four : ∀ lead < 5, opening? (UInt8.ofNat (lead + 0xF0)) =
    some ⟨lead, 3, if lead = 0 then 0x90 else 0x80, if lead = 4 then 0x8F else 0xBF⟩ := by
  decide

theorem mayBe_two (value : Nat) : MayBe ⟨value / 64, 1, 0x80, 0xBF⟩ value := by
  refine ⟨rfl, Nat.le_add_left _ _, ?_⟩
  have small : value / 64 ^ 0 % 64 < 64 := Nat.mod_lt _ (by decide)
  exact Nat.add_le_add_right (Nat.le_of_lt_succ small) 0x80

-- A small first byte asks for a large second one, and the first byte of the surrogates for a small
-- one.
theorem mayBe_three (valid : value.isValidChar) (large : 0x800 ≤ value) :
    MayBe ⟨value / 4096, 2, if value / 4096 = 0 then 0xA0 else 0x80,
      if value / 4096 = 0xD then 0x9F else 0xBF⟩ value := by
  have within : value < 0xD800 ∨ 0xDFFF < value ∧ value < 0x110000 := valid
  refine ⟨rfl, ?_, ?_⟩
  · dsimp only
    split
    · simp only [UInt8.reduceToNat]
      omega
    · exact Nat.le_add_left _ _
  · dsimp only
    split
    · simp only [UInt8.reduceToNat]
      omega
    · simp only [UInt8.reduceToNat]
      omega

theorem mayBe_four (large : 0x10000 ≤ value) (small : value < 0x110000) :
    MayBe ⟨value / 262144, 3, if value / 262144 = 0 then 0x90 else 0x80,
      if value / 262144 = 4 then 0x8F else 0xBF⟩ value := by
  refine ⟨rfl, ?_, ?_⟩
  · dsimp only
    split
    · simp only [UInt8.reduceToNat]
      omega
    · exact Nat.le_add_left _ _
  · dsimp only
    split
    · simp only [UInt8.reduceToNat]
      omega
    · simp only [UInt8.reduceToNat]
      omega

theorem opens (valid : value.isValidChar) (large : 0x80 ≤ value) :
    ∃ lead sequence missing, opening? lead = some sequence ∧ sequence.MayBe value ∧
      sequence.missing = missing + 1 ∧
      String.utf8EncodeChar (Char.ofNat value) = lead :: tails value (missing + 1) := by
  have within : value < 0xD800 ∨ 0xDFFF < value ∧ value < 0x110000 := valid
  by_cases two : value < 0x800
  · exact ⟨_, _, 0, opening?_two (value / 64) (by omega) (by omega), mayBe_two value, rfl,
      encode_two large two⟩
  · by_cases three : value < 0x10000
    · exact ⟨_, _, 1, opening?_three (value / 4096) (by omega), mayBe_three valid (by omega), rfl,
        encode_three valid (by omega) three⟩
    · exact ⟨_, _, 2, opening?_four (value / 262144) (by omega),
        mayBe_four (by omega) (by omega), rfl, encode_four (by omega) (by omega)⟩

theorem units_opened {lead : UInt8} (opened : opening? lead = some sequence) (bytes : Bytes) :
    units (lead :: bytes) = unitsFrom (some sequence) bytes := by
  have large : ¬ lead < 0x80 := by
    intro small
    have refused : opening? lead = none := if_pos (UInt8.lt_trans small (by decide))
    cases opened.symm.trans refused
  have step : Reading.feed ⟨[], none⟩ lead = ⟨[], some sequence⟩ := by
    unfold Reading.feed Reading.start
    rw [if_neg large, opened]
  rw [units, List.foldl_cons, step]
  rfl

theorem units_small {byte : UInt8} (small : byte < 0x80) (bytes : Bytes) :
    units (byte :: bytes) = some (Char.ofNat byte.toNat) :: units bytes := by
  have step : Reading.feed ⟨[], none⟩ byte = ⟨[some (Char.ofNat byte.toNat)], none⟩ := by
    unfold Reading.feed Reading.start
    rw [if_pos small]
  rw [units, List.foldl_cons, step]
  exact close_foldl _ bytes

-- A character is read from the bytes it is written with, whatever is behind them.
theorem units_char (char : Char) (bytes : Bytes) :
    units (String.utf8EncodeChar char ++ bytes) = some char :: units bytes := by
  have valid : char.toNat.isValidChar := char.valid
  rw [← Char.ofNat_toNat char]
  generalize char.toNat = value at valid ⊢
  by_cases small : value < 0x80
  · have number : (UInt8.ofNat value).toNat = value :=
      UInt8.toNat_ofNat_of_lt' (Nat.lt_trans small (by decide))
    have little : UInt8.ofNat value < 0x80 := by
      rw [UInt8.lt_iff_toNat_lt, number]
      exact small
    rw [encode_one small, List.singleton_append, units_small little, number]
  · obtain ⟨lead, sequence, missing, opened, may, count, written⟩ :=
      opens valid (Nat.le_of_not_lt small)
    rw [written, List.cons_append, units_opened opened, unitsFrom_tails may count]

theorem units_encode (text : String) : units (encode text) = text.toList.map some := by
  unfold encode
  induction text.toList with
  | nil => rfl
  | cons char chars ih => rw [List.flatMap_cons, units_char, ih, List.map_cons]

theorem filterMap_units {told : List (Option Char)} (good : ∀ unit ∈ told, unit.isSome) :
    told.filterMap id = told.map (·.getD '\uFFFD') := by
  induction told with
  | nil => rfl
  | cons unit told ih =>
    obtain ⟨first, others⟩ := List.forall_mem_cons.mp good
    obtain ⟨char, rfl⟩ := Option.isSome_iff_exists.mp first
    rw [List.map_cons, ← ih others]
    rfl

theorem decode?_iff (bytes : Bytes) (text : String) :
    decode? bytes = some text ↔ encode text = bytes := by
  constructor
  · intro read
    unfold decode? at read
    split at read
    · rename_i valid
      have whole := filterMap_units (List.all_eq_true.mp valid)
      rw [whole] at read
      rw [← Option.some.inj read]
      exact encode_lossy valid
    · cases read
  · rintro rfl
    have told := units_encode text
    unfold decode? isValid
    rw [told]
    simp

end

end CircularLog.Utf8
