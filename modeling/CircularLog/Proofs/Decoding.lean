import CircularLog.Text.Utf8
import Mathlib.Algebra.GroupWithZero.Nat
import Mathlib.Data.List.Induction

namespace CircularLog.Utf8

def tails (value : Nat) : Nat → Bytes
  | 0 => []
  | missing + 1 => UInt8.ofNat (value / 64 ^ missing % 64 + 0x80) :: tails value missing

theorem toNat_ofNat {value : Nat} (valid : value.isValidChar) :
    (Char.ofNat value).val.toNat = value := by
  have made : Char.ofNat value = Char.ofNatAux value valid := dif_pos valid
  rw [made]
  rfl

section

variable {value : Nat}

theorem encode_one (small : value < 0x80) :
    String.utf8EncodeChar (Char.ofNat value) = [UInt8.ofNat value] := by
  have valid : value.isValidChar := .inl (by omega)
  have first : value ≤ 127 := by omega
  simp [String.utf8EncodeChar, toNat_ofNat valid, first]

theorem encode_two (large : 0x80 ≤ value) (small : value < 0x800) :
    String.utf8EncodeChar (Char.ofNat value) =
      UInt8.ofNat (value / 64 + 0xC0) :: tails value 1 := by
  have valid : value.isValidChar := .inl (by omega)
  have first : ¬ value ≤ 127 := by omega
  have second : value ≤ 2047 := by omega
  have lead : value / 64 % 32 = value / 64 := Nat.mod_eq_of_lt (by omega)
  simp [String.utf8EncodeChar, toNat_ofNat valid, first, second, lead, tails]

theorem encode_three (valid : value.isValidChar) (large : 0x800 ≤ value) (small : value < 0x10000) :
    String.utf8EncodeChar (Char.ofNat value) =
      UInt8.ofNat (value / 4096 + 0xE0) :: tails value 2 := by
  have first : ¬ value ≤ 127 := by omega
  have second : ¬ value ≤ 2047 := by omega
  have third : value ≤ 65535 := by omega
  have lead : value / 4096 % 16 = value / 4096 := Nat.mod_eq_of_lt (by omega)
  simp [String.utf8EncodeChar, toNat_ofNat valid, first, second, third, lead, tails]

theorem encode_four (large : 0x10000 ≤ value) (small : value < 0x110000) :
    String.utf8EncodeChar (Char.ofNat value) =
      UInt8.ofNat (value / 262144 + 0xF0) :: tails value 3 := by
  have valid : value.isValidChar := .inr ⟨by omega, small⟩
  have first : ¬ value ≤ 127 := by omega
  have second : ¬ value ≤ 2047 := by omega
  have third : ¬ value ≤ 65535 := by omega
  have lead : value / 262144 % 8 = value / 262144 := Nat.mod_eq_of_lt (by omega)
  simp [String.utf8EncodeChar, toNat_ofNat valid, first, second, third, lead, tails]

end

namespace Opened

variable {sequence : Opened} {front : Bytes} {byte : UInt8} {value : Nat}

-- The number of a character that a sequence may still come to.
structure MayBe (sequence : Opened) (value : Nat) : Prop where
  seen : value / 64 ^ sequence.missing = sequence.value
  low : sequence.low.toNat ≤ value / 64 ^ (sequence.missing - 1) % 64 + 0x80
  high : value / 64 ^ (sequence.missing - 1) % 64 + 0x80 ≤ sequence.high.toNat

def Takes (sequence : Opened) (byte : UInt8) : Prop :=
  sequence.low ≤ byte ∧ byte ≤ sequence.high

instance : DecidablePred sequence.Takes :=
  fun byte => inferInstanceAs (Decidable (sequence.low ≤ byte ∧ byte ≤ sequence.high))

def taking (sequence : Opened) (byte : UInt8) : Nat :=
  sequence.value * 64 + (byte.toNat - 0x80)

def longer (sequence : Opened) (byte : UInt8) : Opened :=
  ⟨sequence.taking byte, sequence.missing - 1, 0x80, 0xBF⟩

-- A sequence of which `front` was read: whatever it comes to is written as `front` and what is
-- missing.
structure Begun (sequence : Opened) (front : Bytes) : Prop where
  missing : 0 < sequence.missing
  low : 0x80 ≤ sequence.low
  high : sequence.high ≤ 0xBF
  encode : ∀ value, sequence.MayBe value →
    String.utf8EncodeChar (Char.ofNat value) = front ++ tails value sequence.missing

-- A first byte says how many bytes follow by its upper bits, and has the first bits in its others.
theorem Begun.of_lead (base : Nat) (missing : 0 < sequence.missing) (low : 0x80 ≤ sequence.low)
    (high : sequence.high ≤ 0xBF) (lead : byte.toNat = sequence.value + base)
    (encode : ∀ value, sequence.MayBe value → String.utf8EncodeChar (Char.ofNat value) =
      UInt8.ofNat (value / 64 ^ sequence.missing + base) :: tails value sequence.missing) :
    sequence.Begun [byte] := by
  refine ⟨missing, low, high, ?_⟩
  intro value may
  rw [encode value may, may.seen, ← lead, UInt8.ofNat_toNat]
  rfl

section

variable {lead : Nat} {low high : UInt8}

theorem begun_two (first : byte.toNat = lead + 0xC0) (large : 2 ≤ lead) (small : lead < 0x20) :
    Begun ⟨lead, 1, 0x80, 0xBF⟩ [byte] := by
  refine .of_lead 0xC0 Nat.one_pos (Std.le_refl _) (Std.le_refl _) first ?_
  intro value may
  have seen : value / 64 = lead := may.seen
  exact encode_two (by omega) (by omega)

-- What `low` and `high` are for: no value is too small for its length, none is a surrogate and none
-- is too large.
theorem begun_three (lowest : 0x80 ≤ low) (highest : high ≤ 0xBF)
    (first : byte.toNat = lead + 0xE0) (valid : ∀ value, value / 4096 = lead →
      low.toNat ≤ value / 64 % 64 + 0x80 → value / 64 % 64 + 0x80 ≤ high.toNat →
      value.isValidChar ∧ 0x800 ≤ value ∧ value < 0x10000) :
    Begun ⟨lead, 2, low, high⟩ [byte] := by
  refine .of_lead 0xE0 Nat.two_pos lowest highest first ?_
  rintro value ⟨seen, above, below⟩
  obtain ⟨isChar, large, small⟩ := valid value seen above below
  exact encode_three isChar large small

theorem begun_four (lowest : 0x80 ≤ low) (highest : high ≤ 0xBF)
    (first : byte.toNat = lead + 0xF0) (valid : ∀ value, value / 262144 = lead →
      low.toNat ≤ value / 4096 % 64 + 0x80 → value / 4096 % 64 + 0x80 ≤ high.toNat →
      0x10000 ≤ value ∧ value < 0x110000) :
    Begun ⟨lead, 3, low, high⟩ [byte] := by
  refine .of_lead 0xF0 (Nat.succ_pos 2) lowest highest first ?_
  rintro value ⟨seen, above, below⟩
  obtain ⟨large, small⟩ := valid value seen above below
  exact encode_four large small

end

theorem of_opening? (opens : opening? byte = some sequence) : sequence.Begun [byte] := by
  unfold opening? at opens
  repeat' split at opens
  all_goals first | obtain rfl := Option.some.inj opens | exact absurd opens nofun
  all_goals simp only [UInt8.lt_iff_toNat_lt, ← UInt8.toNat_inj, UInt8.reduceToNat] at *
  · exact begun_two (by omega) (by omega) (by omega)
  all_goals first
    | apply begun_three (by decide) (by decide) (by omega)
    | apply begun_four (by decide) (by decide) (by omega)
  all_goals
    simp only [UInt8.reduceToNat, Nat.isValidChar]
    omega

theorem Begun.byte_bounds (begun : sequence.Begun front) (taken : sequence.Takes byte) :
    0x80 ≤ byte.toNat ∧ byte.toNat < 0xC0 := by
  have least := UInt8.le_iff_toNat_le.mp (UInt8.le_trans begun.low taken.1)
  have most := UInt8.le_iff_toNat_le.mp (UInt8.le_trans taken.2 begun.high)
  simp only [UInt8.reduceToNat] at least most
  omega

theorem Begun.encode_taken (begun : sequence.Begun front) (taken : sequence.Takes byte)
    (seen : value / 64 ^ (sequence.missing - 1) = sequence.taking byte) :
    String.utf8EncodeChar (Char.ofNat value) =
      front ++ byte :: tails value (sequence.missing - 1) := by
  have bounds := begun.byte_bounds taken
  have count : sequence.missing - 1 + 1 = sequence.missing := Nat.sub_add_cancel begun.missing
  have bits : value / 64 ^ (sequence.missing - 1) % 64 + 0x80 = byte.toNat := by
    unfold taking at seen
    omega
  have may : sequence.MayBe value := by
    refine ⟨?_, bits ▸ taken.1, bits ▸ taken.2⟩
    rw [← count, Nat.pow_succ, ← Nat.div_div_eq_div_mul]
    unfold taking at seen
    omega
  rw [begun.encode value may, ← count, tails, bits, UInt8.ofNat_toNat, count]

theorem Begun.done (begun : sequence.Begun front) (taken : sequence.Takes byte)
    (last : sequence.missing ≤ 1) :
    String.utf8EncodeChar (Char.ofNat (sequence.taking byte)) =
      front ++ [byte] := by
  have none : sequence.missing - 1 = 0 := by omega
  rw [begun.encode_taken taken (by rw [none, Nat.pow_zero, Nat.div_one]), none, tails]

theorem Begun.next (begun : sequence.Begun front) (taken : sequence.Takes byte)
    (more : ¬ sequence.missing ≤ 1) : (sequence.longer byte).Begun (front ++ [byte]) := by
  refine ⟨Nat.sub_pos_of_lt (Nat.lt_of_not_le more), Std.le_refl _, Std.le_refl _, ?_⟩
  intro value may
  rw [begun.encode_taken taken may.seen, List.append_cons]
  rfl

end Opened

section

open Opened

variable {reading : Reading} {sequence : Opened} {front bytes : Bytes} {byte : UInt8}

def read (bytes : Bytes) : Reading :=
  bytes.foldl Reading.feed ⟨[], none⟩

def unitsFrom (opened : Option Opened) (bytes : Bytes) : List (Option Char) :=
  (bytes.foldl Reading.feed ⟨[], opened⟩).close

theorem start_told (told : List (Option Char)) (byte : UInt8) :
    Reading.start told byte =
      ⟨(Reading.start [] byte).units ++ told, (Reading.start [] byte).opened⟩ := by
  unfold Reading.start
  split
  · rfl
  · cases opening? byte <;> rfl

theorem feed_start (closed : reading.opened = none) :
    reading.feed byte = Reading.start reading.units byte := by
  obtain ⟨told, _⟩ := reading
  cases closed
  rfl

theorem feed_refused (opened : reading.opened = some sequence) (refused : ¬ sequence.Takes byte) :
    reading.feed byte = Reading.start (none :: reading.units) byte := by
  obtain ⟨told, _⟩ := reading
  cases opened
  exact if_neg refused

theorem feed_done (opened : reading.opened = some sequence) (taken : sequence.Takes byte)
    (last : sequence.missing ≤ 1) :
    reading.feed byte = ⟨some (Char.ofNat (sequence.taking byte)) :: reading.units, none⟩ := by
  obtain ⟨told, _⟩ := reading
  cases opened
  exact (if_pos taken).trans (if_pos last)

theorem feed_next (opened : reading.opened = some sequence) (taken : sequence.Takes byte)
    (more : ¬ sequence.missing ≤ 1) :
    reading.feed byte = ⟨reading.units, some (sequence.longer byte)⟩ := by
  obtain ⟨told, _⟩ := reading
  cases opened
  exact (if_pos taken).trans (if_neg more)

-- What was told is not looked at again.
theorem feed_told (reading : Reading) (byte : UInt8) :
    reading.feed byte = ⟨(Reading.feed ⟨[], reading.opened⟩ byte).units ++ reading.units,
      (Reading.feed ⟨[], reading.opened⟩ byte).opened⟩ := by
  cases opened : reading.opened with
  | none =>
    rw [feed_start opened, feed_start rfl]
    exact start_told reading.units byte
  | some sequence =>
    by_cases taken : sequence.Takes byte
    · by_cases last : sequence.missing ≤ 1
      · rw [feed_done opened taken last, feed_done rfl taken last]
        rfl
      · rw [feed_next opened taken last, feed_next rfl taken last]
        rfl
    · rw [feed_refused opened taken, feed_refused rfl taken, start_told (none :: reading.units),
        start_told [none]]
      simp

theorem close_foldl (reading : Reading) (bytes : Bytes) :
    (bytes.foldl Reading.feed reading).close =
      reading.units.reverse ++ unitsFrom reading.opened bytes := by
  induction bytes generalizing reading with
  | nil => cases h : reading.opened <;> simp [Reading.close, unitsFrom, h]
  | cons byte bytes ih =>
    have later : unitsFrom reading.opened (byte :: bytes) = _ :=
      ih (Reading.feed ⟨[], reading.opened⟩ byte)
    rw [List.foldl_cons, ih, later, feed_told]
    simp

theorem units_append (front back : Bytes) :
    units (front ++ back) = (read front).units.reverse ++ unitsFrom (read front).opened back := by
  rw [units, List.foldl_append]
  exact close_foldl _ _

theorem units_eq (bytes : Bytes) :
    units bytes = (read bytes).units.reverse ++ unitsFrom (read bytes).opened [] :=
  close_foldl (read bytes) []

theorem unitsFrom_refused (refused : ¬ sequence.Takes byte) (bytes : Bytes) :
    unitsFrom (some sequence) (byte :: bytes) = none :: units (byte :: bytes) := by
  rw [unitsFrom, List.foldl_cons, feed_refused rfl refused]
  exact close_foldl ⟨[none], none⟩ (byte :: bytes)

theorem unitsFrom_done (taken : sequence.Takes byte) (last : sequence.missing ≤ 1) (bytes : Bytes) :
    unitsFrom (some sequence) (byte :: bytes) =
      some (Char.ofNat (sequence.taking byte)) :: units bytes := by
  rw [unitsFrom, List.foldl_cons, feed_done rfl taken last]
  exact close_foldl _ bytes

theorem unitsFrom_next (taken : sequence.Takes byte) (more : ¬ sequence.missing ≤ 1)
    (bytes : Bytes) :
    unitsFrom (some sequence) (byte :: bytes) = unitsFrom (some (sequence.longer byte)) bytes := by
  rw [unitsFrom, List.foldl_cons, feed_next rfl taken more]
  rfl

theorem units_stray (begun : sequence.Begun front) (taken : sequence.Takes byte) (bytes : Bytes) :
    units (byte :: bytes) = none :: units bytes := by
  obtain ⟨least, most⟩ := begun.byte_bounds taken
  have large : ¬ byte < 0x80 := by
    simp only [UInt8.lt_iff_toNat_lt, UInt8.reduceToNat]
    omega
  have nothing : opening? byte = none := by
    refine if_pos ?_
    simp only [UInt8.lt_iff_toNat_lt, UInt8.reduceToNat]
    omega
  have step : Reading.feed ⟨[], none⟩ byte = ⟨[none], none⟩ := by
    unfold Reading.feed Reading.start
    rw [if_neg large, nothing]
  rw [units, List.foldl_cons, step]
  exact close_foldl _ bytes

def spelled (told : List (Option Char)) : Bytes :=
  told.flatMap fun unit => String.utf8EncodeChar (unit.getD '\uFFFD')

@[simp] theorem spelled_told (told : List (Option Char)) (char : Char) :
    spelled (some char :: told).reverse = spelled told.reverse ++ String.utf8EncodeChar char := by
  simp [spelled]

theorem spelled_append (told others : List (Option Char)) :
    spelled (told ++ others) = spelled told ++ spelled others :=
  List.flatMap_append

theorem toList_lossy (bytes : Bytes) :
    (lossy bytes).toList = (units bytes).map (·.getD '\uFFFD') :=
  String.toList_ofList

theorem encode_lossy_eq (bytes : Bytes) : encode (lossy bytes) = spelled (units bytes) := by
  rw [encode, toList_lossy, spelled, List.flatMap_map]

-- What was read is the units told and the sequence in progress, of which `front` was read.
structure Reading.Tells (reading : Reading) (whole front : Bytes) : Prop where
  closed : reading.opened = none → front = []
  begun : ∀ sequence, reading.opened = some sequence → sequence.Begun front
  spelled : (∀ unit ∈ reading.units, unit.isSome) → spelled reading.units.reverse ++ front = whole

variable {whole : Bytes} {told : List (Option Char)}

theorem start_tells (byte : UInt8)
    (before : (∀ unit ∈ told, unit.isSome) → spelled told.reverse = whole) :
    ∃ front, (Reading.start told byte).Tells (whole ++ [byte]) front := by
  unfold Reading.start
  split
  · rename_i small
    have little : byte.toNat < 0x80 := UInt8.lt_iff_toNat_lt.mp small
    refine ⟨[], fun _ => rfl, nofun, ?_⟩
    intro good
    rw [spelled_told, before (List.forall_mem_cons.mp good).2, encode_one little]
    simp
  · cases opens : opening? byte with
    | none =>
      refine ⟨[], fun _ => rfl, nofun, ?_⟩
      intro good
      exact absurd (good none List.mem_cons_self) nofun
    | some sequence =>
      refine ⟨[byte], nofun, ?_, ?_⟩
      · rintro _ ⟨⟩
        exact of_opening? opens
      · intro good
        rw [before good]

theorem feed_tells (tells : reading.Tells whole front) (byte : UInt8) :
    ∃ more, (reading.feed byte).Tells (whole ++ [byte]) more := by
  cases opened : reading.opened with
  | none =>
    rw [feed_start opened]
    refine start_tells byte ?_
    intro good
    rw [← tells.spelled good, tells.closed opened, List.append_nil]
  | some sequence =>
    have begun := tells.begun sequence opened
    by_cases taken : sequence.Takes byte
    · by_cases last : sequence.missing ≤ 1
      · rw [feed_done opened taken last]
        refine ⟨[], fun _ => rfl, nofun, ?_⟩
        intro good
        rw [spelled_told, begun.done taken last, ← List.append_assoc,
          tells.spelled (List.forall_mem_cons.mp good).2, List.append_nil]
      · rw [feed_next opened taken last]
        refine ⟨front ++ [byte], fun same => absurd same (Option.some_ne_none _), ?_, ?_⟩
        · intro longer same
          rw [← Option.some.inj same]
          exact begun.next taken last
        · intro good
          rw [← List.append_assoc, tells.spelled good]
    · rw [feed_refused opened taken]
      refine start_tells byte ?_
      intro good
      exact absurd (good none List.mem_cons_self) nofun

theorem read_tells (bytes : Bytes) : ∃ front, (read bytes).Tells bytes front := by
  induction bytes using List.reverseRecOn with
  | nil => exact ⟨[], fun _ => rfl, nofun, fun _ => rfl⟩
  | append_singleton bytes byte ih =>
    obtain ⟨front, tells⟩ := ih
    have next := feed_tells tells byte
    rwa [read, List.foldl_append]

theorem read_begun (opened : (read front).opened = some sequence) :
    ∃ began, sequence.Begun began := by
  obtain ⟨began, tells⟩ := read_tells front
  exact ⟨began, tells.begun sequence opened⟩

theorem encode_lossy (valid : isValid bytes = true) : encode (lossy bytes) = bytes := by
  have good : ∀ unit ∈ units bytes, unit.isSome := List.all_eq_true.mp valid
  obtain ⟨front, tells⟩ := read_tells bytes
  rw [encode_lossy_eq]
  rw [units_eq] at good ⊢
  cases opened : (read bytes).opened with
  | none =>
    rw [opened] at good
    have others := tells.spelled fun unit told =>
      good unit (List.mem_append_left _ (List.mem_reverse.mpr told))
    rw [tells.closed opened, List.append_nil] at others
    rw [spelled_append, others]
    exact List.append_nil _
  | some sequence =>
    rw [opened] at good
    exact absurd (good none (List.mem_append_right _ List.mem_cons_self)) nofun

theorem units_one (byte : UInt8) :
    units [byte] = [if byte < 0x80 then some (Char.ofNat byte.toNat) else none] := by
  have step : units [byte] = (Reading.start [] byte).close := rfl
  rw [step, Reading.start]
  split
  · rfl
  · cases opening? byte <;> rfl

theorem ofNat_eq_newline (small : byte < 0x80) : Char.ofNat byte.toNat = '\n' ↔ byte = 10 := by
  have little : byte.toNat < 0x80 := UInt8.lt_iff_toNat_lt.mp small
  constructor
  · intro same
    have written := congrArg String.utf8EncodeChar same
    rw [encode_one little, UInt8.ofNat_toNat] at written
    exact List.head_eq_of_cons_eq written
  · rintro rfl
    rfl

-- The last unit tells of the last byte: a line ends in it if and only if it is a newline.
theorem unitsFrom_last {opened : Option Opened}
    (begun : ∀ sequence, opened = some sequence → ∃ front, sequence.Begun front) (byte : UInt8) :
    ∃ told unit, unitsFrom opened [byte] = told ++ [unit] ∧
      (unit.getD '\uFFFD' = '\n' ↔ byte = 10) := by
  have single :
      ((if byte < 0x80 then some (Char.ofNat byte.toNat) else none).getD '\uFFFD' = '\n' ↔
        byte = 10) := by
    split
    · exact ofNat_eq_newline ‹_›
    · rename_i large
      refine iff_of_false (by decide) ?_
      rintro rfl
      exact large (by decide)
  cases opened with
  | none => exact ⟨[], _, units_one byte, single⟩
  | some sequence =>
    obtain ⟨front, begun⟩ := begun sequence rfl
    by_cases taken : sequence.Takes byte
    · have other : byte ≠ 10 := by
        rintro rfl
        exact absurd (begun.byte_bounds taken).1 (by decide)
      by_cases last : sequence.missing ≤ 1
      · -- A character of several bytes does not end in a newline, so it is none.
        refine ⟨[], _, unitsFrom_done taken last [], iff_of_false ?_ other⟩
        intro same
        have written := begun.done taken last
        rw [Option.getD_some] at same
        rw [same] at written
        have ends : [10].getLast? = (front ++ [byte]).getLast? := congrArg List.getLast? written
        rw [List.getLast?_concat] at ends
        exact other (Option.some.inj ends).symm
      · have never : ¬ (none : Option Char).getD '\uFFFD' = '\n' := by decide
        refine ⟨[], none, ?_, iff_of_false never other⟩
        rw [unitsFrom_next taken last]
        rfl
    · refine ⟨[none], _, ?_, single⟩
      rw [unitsFrom_refused taken, units_one]
      rfl

theorem ends_behind (text : String) (filled : bytes ≠ []) :
    (text ++ lossy bytes).toList.getLast? = some '\n' ↔ bytes.getLast? = some 10 := by
  cases bytes using List.reverseRecOn with
  | nil => exact absurd rfl filled
  | append_singleton front byte =>
    have begun : ∀ sequence, (read front).opened = some sequence → ∃ began, sequence.Begun began :=
      fun _ opened => read_begun opened
    obtain ⟨told, unit, last, ends⟩ := unitsFrom_last begun byte
    rw [String.toList_append, toList_lossy, units_append, last]
    simp [ends]

end

end CircularLog.Utf8
