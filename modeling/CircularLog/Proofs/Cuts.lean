import CircularLog.Chunks
import CircularLog.Proofs.Decoding

namespace CircularLog.Utf8

variable {sequence : Opened} {front back bytes : Bytes} {byte : UInt8}

-- A cut through a character: what is in progress in front of it goes on behind it.
def Breaks (front back : Bytes) : Prop :=
  ∃ sequence ∈ (read front).opened, ∃ byte ∈ back.head?, sequence.Takes byte

instance : Decidable (Breaks front back) :=
  inferInstanceAs (Decidable (∃ sequence ∈ (read front).opened, _))

theorem not_breaks (closed : (read front).opened = none) (back : Bytes) : ¬ Breaks front back := by
  rintro ⟨sequence, opened, _⟩
  cases closed.symm.trans opened

theorem length_taken (begun : sequence.Begun front) (taken : sequence.Takes byte) (bytes : Bytes) :
    (unitsFrom (some sequence) (byte :: bytes)).length ≤ (units bytes).length + 1 := by
  -- As long as the sequence goes on, each byte of it would be a unit by itself.
  induction bytes generalizing sequence front byte with
  | nil =>
    by_cases last : sequence.missing ≤ 1
    · simp [unitsFrom_done taken last]
    · rw [unitsFrom_next taken last]
      exact Nat.le_refl 1
  | cons other bytes ih =>
    by_cases last : sequence.missing ≤ 1
    · simp [unitsFrom_done taken last]
    · rw [unitsFrom_next taken last]
      have next := begun.next taken last
      by_cases goesOn : (sequence.longer byte).Takes other
      · have shorter := ih next goesOn
        rw [units_stray next goesOn, List.length_cons]
        omega
      · exact Nat.le_of_eq (congrArg List.length (unitsFrom_refused goesOn bytes))

theorem units_whole (whole : ¬ Breaks front back) :
    units (front ++ back) = units front ++ units back := by
  rw [units_append, units_eq front, List.append_assoc, List.append_cancel_left_eq]
  cases opened : (read front).opened with
  | none => rfl
  | some sequence =>
    cases back with
    | nil => rfl
    | cons byte back =>
      have refused : ¬ sequence.Takes byte :=
        fun taken => whole ⟨sequence, opened, byte, rfl, taken⟩
      rw [unitsFrom_refused refused]
      rfl

theorem units_broken (broken : Breaks front back) :
    (units (front ++ back)).length < (units front).length + (units back).length := by
  obtain ⟨sequence, opened, byte, head, taken⟩ := broken
  obtain ⟨began, begun⟩ := read_begun opened
  cases back with
  | nil => cases head
  | cons first back =>
    cases head
    have shorter := length_taken begun taken back
    have closing : unitsFrom (some sequence) [] = [none] := rfl
    rw [units_append, units_eq front, opened, closing, units_stray begun taken]
    simp only [List.length_append, List.length_cons, List.length_nil]
    omega

theorem length_units_append (front back : Bytes) :
    (units (front ++ back)).length ≤ (units front).length + (units back).length := by
  by_cases broken : Breaks front back
  · exact Nat.le_of_lt (units_broken broken)
  · simp [units_whole broken]

theorem length_lossy (bytes : Bytes) : (lossy bytes).toList.length = (units bytes).length := by
  rw [toList_lossy, List.length_map]

theorem lossy_append_iff :
    lossy (front ++ back) = lossy front ++ lossy back ↔ ¬ Breaks front back := by
  constructor
  · intro same broken
    have shorter := units_broken broken
    have counts := congrArg (fun text => text.toList.length) same
    simp only [String.toList_append, List.length_append, length_lossy] at counts
    omega
  · intro whole
    apply String.toList_inj.mp
    simp [toList_lossy, units_whole whole]

theorem isValid_append (whole : ¬ Breaks front back) :
    isValid (front ++ back) = (isValid front && isValid back) := by
  rw [isValid, units_whole whole, List.all_append]
  rfl

theorem opened_one (small : byte < 0x80) (front : Bytes) :
    (read (front ++ [byte])).opened = none := by
  have start : ∀ told, Reading.start told byte = ⟨some (Char.ofNat byte.toNat) :: told, none⟩ :=
    fun told => if_pos small
  rw [read, List.foldl_append]
  change ((read front).feed byte).opened = none
  cases opened : (read front).opened with
  | none => rw [feed_start opened, start]
  | some sequence =>
    obtain ⟨began, begun⟩ := read_begun opened
    have refused : ¬ sequence.Takes byte := by
      intro taken
      have least := (begun.byte_bounds taken).1
      have most := UInt8.lt_iff_toNat_lt.mp small
      exact absurd least (Nat.not_le_of_lt most)
    rw [feed_refused opened refused, start]

theorem opened_ascii (small : ∀ byte ∈ front, byte < 0x80) : (read front).opened = none := by
  cases front using List.reverseRecOn with
  | nil => rfl
  | append_singleton front byte =>
    exact opened_one (small byte (List.mem_append_right _ List.mem_cons_self)) front

theorem isValid_ascii (small : ∀ byte ∈ bytes, byte < 0x80) : isValid bytes = true := by
  induction bytes with
  | nil => rfl
  | cons byte bytes ih =>
    obtain ⟨first, others⟩ := List.forall_mem_cons.mp small
    have one : isValid [byte] = true := by simp [isValid, units_one, first]
    have whole : ¬ Breaks [byte] bytes := not_breaks (opened_one first []) bytes
    have parts := isValid_append whole
    rwa [one, ih others] at parts

theorem foldl_opened {reading other : Reading} (same : reading.opened = other.opened)
    (bytes : Bytes) :
    (bytes.foldl Reading.feed reading).opened = (bytes.foldl Reading.feed other).opened := by
  induction bytes generalizing reading other with
  | nil => exact same
  | cons byte bytes ih =>
    apply ih
    rw [feed_told reading, feed_told other, same]

theorem opened_append (whole : ¬ Breaks front back) (some : back ≠ []) :
    (read (front ++ back)).opened = (read back).opened := by
  cases back with
  | nil => exact absurd rfl some
  | cons byte back =>
    rw [read, List.foldl_append, List.foldl_cons]
    apply foldl_opened
    change ((read front).feed byte).opened = (Reading.start [] byte).opened
    cases opened : (read front).opened with
    | none => rw [feed_start opened, start_told]
    | some sequence =>
      have refused : ¬ sequence.Takes byte :=
        fun taken => whole ⟨sequence, opened, byte, rfl, taken⟩
      rw [feed_refused opened refused, start_told]

theorem breaks_append {middle : Bytes} (whole : ¬ Breaks front (middle ++ back)) :
    Breaks (front ++ middle) back ↔ Breaks middle back := by
  cases middle with
  | nil =>
    rw [List.append_nil]
    exact iff_of_false whole (not_breaks rfl back)
  | cons byte middle =>
    have first : ¬ Breaks front (byte :: middle) := whole
    rw [Breaks, Breaks, opened_append first (List.cons_ne_nil _ _)]

-- Bytes that are cut into pieces of one size, each of them read by itself.
def pieced (size : Nat) (bytes : Bytes) : String :=
  String.join ((Chunks.cut size bytes).map lossy)

-- No character lies in two such pieces.
def Unbroken (size : Nat) (bytes : Bytes) : Prop :=
  ∀ count, ¬ Breaks (bytes.take (count * size)) (bytes.drop (count * size))

section

variable {size : Nat}

theorem pieced_step (positive : 0 < size) (some : bytes ≠ []) :
    pieced size bytes = lossy (bytes.take size) ++ pieced size (bytes.drop size) := by
  rw [pieced, Chunks.cut_step positive some, List.map_cons, String.join_cons]
  rfl

theorem unbroken_nil (size : Nat) : Unbroken size [] := by
  intro count
  rw [List.take_nil]
  exact not_breaks rfl _

theorem unbroken_short (short : bytes.length ≤ size) : Unbroken size bytes := by
  intro count
  cases count with
  | zero =>
    rw [Nat.zero_mul, List.take_zero]
    exact not_breaks rfl _
  | succ count =>
    have all : bytes.length ≤ (count + 1) * size :=
      Nat.le_trans short (Nat.le_mul_of_pos_left size (Nat.succ_pos count))
    rintro ⟨_, _, _, head, _⟩
    rw [List.drop_eq_nil_of_le all] at head
    cases head

theorem unbroken_step : Unbroken size bytes ↔
    ¬ Breaks (bytes.take size) (bytes.drop size) ∧ Unbroken size (bytes.drop size) := by
  have next (whole : ¬ Breaks (bytes.take size) (bytes.drop size)) (count : Nat) :
      Breaks (bytes.take ((count + 1) * size)) (bytes.drop ((count + 1) * size)) ↔
        Breaks ((bytes.drop size).take (count * size)) ((bytes.drop size).drop (count * size)) := by
    have first : bytes.take ((count + 1) * size) =
        bytes.take size ++ (bytes.drop size).take (count * size) := by
      rw [Nat.add_mul, Nat.one_mul, Nat.add_comm, List.take_add]
    have rest : bytes.drop ((count + 1) * size) = (bytes.drop size).drop (count * size) := by
      rw [Nat.add_mul, Nat.one_mul, Nat.add_comm, List.drop_drop]
    rw [first, rest]
    apply breaks_append
    rwa [List.take_append_drop]
  constructor
  · intro unbroken
    have whole : ¬ Breaks (bytes.take size) (bytes.drop size) := by
      simpa using unbroken 1
    refine ⟨whole, ?_⟩
    intro count
    rw [← next whole]
    exact unbroken (count + 1)
  · rintro ⟨whole, others⟩ count
    cases count with
    | zero =>
      rw [Nat.zero_mul, List.take_zero]
      exact not_breaks rfl _
    | succ count =>
      rw [next whole]
      exact others count

-- To show something of bytes piece by piece.
theorem cut_induction (positive : 0 < size) {holds : Bytes → Prop} (nil : holds [])
    (step : ∀ bytes, bytes ≠ [] → holds (bytes.drop size) → holds bytes) (bytes : Bytes) :
    holds bytes := by
  generalize count : bytes.length = length
  induction length using Nat.strongRecOn generalizing bytes with
  | ind length ih =>
    by_cases some : bytes = []
    · rw [some]
      exact nil
    · have filled := List.length_pos_iff.mpr some
      refine step bytes some (ih _ ?_ _ rfl)
      rw [List.length_drop]
      omega

theorem pieced_ends (positive : 0 < size) (text : String) (filled : bytes ≠ []) :
    (text ++ pieced size bytes).toList.getLast? = some '\n' ↔ bytes.getLast? = some 10 := by
  induction bytes using cut_induction positive generalizing text with
  | nil => exact absurd rfl filled
  | step bytes _ ih =>
    have parts := List.take_append_drop size bytes
    rw [pieced_step positive filled]
    by_cases last : bytes.drop size = []
    · rw [last, List.append_nil] at parts
      have nothing : pieced size [] = "" := by simp [pieced]
      rw [last, parts, nothing, String.append_empty]
      exact ends_behind text filled
    · have more : ¬ bytes.length ≤ size := mt List.drop_eq_nil_iff.mpr last
      rw [← String.append_assoc, ih (text ++ lossy (bytes.take size)) last, List.getLast?_drop,
        if_neg more]

theorem length_pieced (positive : 0 < size) (bytes : Bytes) :
    (units bytes).length ≤ (pieced size bytes).toList.length := by
  induction bytes using cut_induction positive with
  | nil => exact Nat.zero_le _
  | step bytes some ih =>
    have shorter := length_units_append (bytes.take size) (bytes.drop size)
    rw [List.take_append_drop] at shorter
    rw [pieced_step positive some, String.toList_append, List.length_append, length_lossy]
    omega

-- Read piece by piece, bytes are the text that they are at once if and only if no character lies in
-- two pieces.
theorem pieced_eq_iff (positive : 0 < size) (bytes : Bytes) :
    pieced size bytes = lossy bytes ↔ Unbroken size bytes := by
  induction bytes using cut_induction positive with
  | nil =>
    rw [pieced, Chunks.cut_nil]
    exact iff_of_true rfl (unbroken_nil size)
  | step bytes some ih =>
    have parts := List.take_append_drop size bytes
    rw [pieced_step positive some, unbroken_step, ← ih]
    constructor
    · intro same
      have whole : ¬ Breaks (bytes.take size) (bytes.drop size) := by
        intro broken
        have shorter := units_broken broken
        have rest := length_pieced positive (bytes.drop size)
        have counts := congrArg (fun text => text.toList.length) same
        simp only [String.toList_append, List.length_append, length_lossy] at counts
        rw [parts] at shorter
        omega
      refine ⟨whole, ?_⟩
      have joint := lossy_append_iff.mpr whole
      rw [parts] at joint
      rw [joint] at same
      exact (String.append_right_inj _).mp same
    · rintro ⟨whole, rest⟩
      rw [rest, ← lossy_append_iff.mpr whole, parts]

theorem not_unbroken (small : ∀ byte ∈ front, byte < 0x80) {size : Nat}
    (full : front.length + 1 = size) : ¬ Unbroken size (front ++ [0xC3, 0xA9, 10]) := by
  intro unbroken
  have opened : (read (front ++ [0xC3])).opened = some ⟨3, 1, 0x80, 0xBF⟩ :=
    opened_append (not_breaks (opened_ascii small) [0xC3]) (List.cons_ne_nil _ _)
  have parts : front ++ [0xC3, 0xA9, 10] = (front ++ [0xC3]) ++ [0xA9, 10] := by simp
  have length : (front ++ [0xC3]).length = size := by simpa using full
  have cut := unbroken 1
  rw [Nat.one_mul, parts, List.take_left' length, List.drop_left' length] at cut
  exact cut ⟨_, opened, 0xA9, rfl, by decide⟩

end

theorem encode_join (texts : List String) : encode (String.join texts) = texts.flatMap encode := by
  induction texts with
  | nil => rfl
  | cons text texts ih =>
    rw [String.join_cons, List.flatMap_cons, ← ih]
    simp [encode]

end CircularLog.Utf8
