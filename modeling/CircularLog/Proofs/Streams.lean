import CircularLog.Proofs.Detection
import CircularLog.Proofs.Ledger
import CircularLog.Proofs.Spelling

namespace CircularLog

namespace Log

theorem length_piece_le (log : Log) (cursor limit : Nat) :
    (log.piece cursor limit).length ≤ limit := by
  unfold piece
  split
  · exact Nat.zero_le _
  · exact List.length_take_le _ _

end Log

namespace Channel

variable {channel between after : Channel} {size limit : Nat}

-- What is held from the cursor of the session on.
def rest (channel : Channel) : Bytes :=
  (joined channel.shared.log.held).drop channel.session.cursor.toNat

theorem rest_eq_nil : channel.rest = [] ↔
    channel.shared.log.heldBytes ≤ channel.session.cursor.toNat := by
  rw [rest, List.drop_eq_nil_iff, length_joined]
  rfl

def piece (channel : Channel) (limit : Nat) : Bytes :=
  channel.shared.log.piece channel.session.cursor.toNat limit

-- A session that was not left behind, and whose cursor can name each byte held.
structure Readable (channel : Channel) : Prop where
  current : channel.session.Current channel.shared.log
  fits : channel.shared.log.heldBytes < 2 ^ 64

structure Advanced (channel : Channel) (size : Nat) (after : Channel) : Prop where
  session : after.session = { channel.session with cursor := after.session.cursor }
  cursor : after.session.cursor.toNat = channel.session.cursor.toNat + size
  flags : after.shared.gate.flags = channel.shared.gate.flags
  still : Log.Still channel.shared.log after.shared.log
  tally : ∃ reads, after.shared.log.tally = { channel.shared.log.tally with
    reads, bytesRead := channel.shared.log.tally.bytesRead + UInt64.ofNat size }

theorem Advanced.none (channel : Channel) : channel.Advanced 0 channel := by
  refine ⟨rfl, rfl, rfl, ⟨rfl, rfl, rfl, rfl, rfl, rfl, rfl⟩, channel.shared.log.tally.reads, ?_⟩
  simp

theorem Advanced.trans {more : Nat} (first : channel.Advanced size between)
    (others : between.Advanced more after) : channel.Advanced (size + more) after := by
  obtain ⟨reads, tally⟩ := others.tally
  obtain ⟨_, former⟩ := first.tally
  refine ⟨?_, ?_, others.flags.trans first.flags, first.still.trans others.still, reads, ?_⟩
  · rw [others.session, first.session]
  · rw [others.cursor, first.cursor, Nat.add_assoc]
  · rw [tally, former, UInt64.ofNat_add, ← UInt64.add_assoc]

theorem Advanced.readable (advanced : channel.Advanced size after) (readable : channel.Readable) :
    after.Readable := by
  have still := advanced.still
  constructor
  · rw [advanced.session]
    exact readable.current.imp (still.settings ▸ ·) (still.generation ▸ ·)
  · rw [Log.heldBytes, still.held_eq]
    exact readable.fits

theorem Advanced.rest (advanced : channel.Advanced size after) :
    after.rest = channel.rest.drop size := by
  rw [Channel.rest, Channel.rest, advanced.still.held_eq, advanced.cursor, List.drop_drop]

theorem Advanced.lowered (advanced : channel.Advanced size after)
    (free : channel.session.handle.any channel.shared.gate.flags.isRaised = false) :
    after.session.handle.any after.shared.gate.flags.isRaised = false := by
  rw [advanced.session, advanced.flags]
  exact free

theorem readOn_advanced (readable : channel.Readable) (limit : Nat) :
    channel.Advanced (channel.piece limit).length (channel.readOn limit) := by
  have found := channel.shared.log.read_piece channel.session.cursor limit readable.current.since
  have tally := Log.read_tally found
  rw [Log.countRead_eq] at tally
  exact ⟨rfl, (readOn_readsOn readable.current readable.fits limit).cursor, rfl,
    Log.read_still _ _ _ _, _, tally⟩

theorem piece_rest (channel : Channel) (limit : Nat) : channel.piece limit <+: channel.rest :=
  channel.shared.log.piece_held _ _

theorem piece_eq_nil (filled : 0 < limit) : channel.piece limit = [] ↔ channel.rest = [] := by
  rw [rest_eq_nil]
  exact Log.piece_eq_nil filled

theorem piece_append (readable : channel.Readable) (limit : Nat) :
    channel.piece limit ++ (channel.readOn limit).rest = channel.rest := by
  rw [(readOn_advanced readable limit).rest]
  exact (List.prefix_append_drop (channel.piece_rest limit)).symm

theorem heeded_same (channel : Channel) :
    ∃ tally, channel.heeded.shared.log = { channel.shared.log with tally } :=
  channel.shared.heeded_log channel.session.handle

theorem Readable.heeded (readable : channel.Readable) : channel.heeded.Readable := by
  obtain ⟨tally, same⟩ := channel.heeded_same
  constructor
  · rw [same]
    exact readable.current
  · rw [same]
    exact readable.fits

theorem heeded_held (channel : Channel) :
    channel.heeded.shared.log.held = channel.shared.log.held := by
  obtain ⟨tally, same⟩ := channel.heeded_same
  rw [same]
  rfl

theorem heeded_rest (channel : Channel) : channel.heeded.rest = channel.rest :=
  congrArg (fun held => (joined held).drop channel.session.cursor.toNat) channel.heeded_held

theorem heeded_piece (channel : Channel) (limit : Nat) :
    channel.heeded.piece limit = channel.piece limit := by
  unfold piece Log.piece
  rw [channel.heeded_held]
  rfl

theorem persist_read (readable : channel.Readable) (limit : Nat) :
    channel.persist (·.read limit) = (channel.heeded.readOn limit, .ok (channel.piece limit)) := by
  have lowered := channel.shared.heeded_lowered channel.session.handle
  have again :
      channel.heeded.read limit = (channel.heeded.readOn limit, .ok (channel.piece limit)) := by
    rw [read_current readable.heeded.current lowered, ← channel.heeded_piece]
    rfl
  unfold persist
  dsimp only
  cases free : channel.session.handle.any channel.shared.gate.flags.isRaised with
  | false =>
    rw [heeded_free free] at again ⊢
    rw [again]
  | true =>
    rw [read_away free]
    exact again

theorem heeded_again (channel : Channel) : channel.heeded.heeded = channel.heeded :=
  heeded_free (channel.shared.heeded_lowered channel.session.handle)

theorem persist_heeded (readable : channel.Readable) (limit : Nat) :
    channel.heeded.persist (·.read limit) = channel.persist (·.read limit) := by
  rw [persist_read readable, persist_read readable.heeded, heeded_again, heeded_piece]

section

variable {budget wanted : Nat}

-- As many bytes as were asked for, or all that is left if that is not enough.
theorem fill_rest (readable : channel.Readable)
    (free : channel.session.handle.any channel.shared.gate.flags.isRaised = false)
    (enough : wanted ≤ budget) (pieces : List Bytes) :
    ∃ after, channel.fill pieces budget wanted = (after,
        if wanted ≤ channel.rest.length then
          .ok (pieces.reverse.flatten ++ channel.rest.take wanted)
        else .error .unexpectedEnd) ∧
      channel.Advanced (min wanted channel.rest.length) after := by
  induction budget generalizing channel wanted pieces with
  | zero =>
    obtain rfl := Nat.le_zero.mp enough
    rw [Nat.zero_min]
    exact ⟨channel, by simp [fill], .none channel⟩
  | succ budget ih =>
    cases wanted with
    | zero =>
      rw [Nat.zero_min]
      exact ⟨channel, by simp [fill], .none channel⟩
    | succ wanted =>
      have advanced := readOn_advanced readable (wanted + 1)
      have read := persist_read readable (wanted + 1)
      rw [heeded_free free] at read
      rw [fill, read]
      dsimp only
      split
      · rename_i empty
        have past : channel.rest = [] :=
          (piece_eq_nil (Nat.succ_pos wanted)).mp (List.isEmpty_iff.mp empty)
        rw [List.isEmpty_iff.mp empty] at advanced
        rw [past]
        exact ⟨_, rfl, advanced⟩
      · rename_i filled
        have some := List.length_pos_iff.mpr (mt List.isEmpty_iff.mpr filled)
        have short : (channel.piece (wanted + 1)).length ≤ wanted + 1 :=
          Log.length_piece_le _ _ _
        -- What was read is no longer wanted, so one read less is enough for the others.
        have less : wanted + 1 - (channel.piece (wanted + 1)).length ≤ budget := by omega
        have whole := piece_append readable (wanted + 1)
        obtain ⟨after, told, others⟩ := ih (advanced.readable readable) (advanced.lowered free) less
          (channel.piece (wanted + 1) :: pieces)
        rw [← whole, List.length_append]
        refine ⟨after, told.trans (congrArg (after, ·) ?_), ?_⟩
        · rw [List.take_append, List.take_of_length_le short]
          refine if_congr Nat.sub_le_iff_le_add' (congrArg Except.ok ?_) rfl
          simp
        · have count := advanced.trans others
          rwa [← Nat.add_min_add_left, Nat.add_sub_cancel' short] at count

-- Reads into buffers of some sizes, until one brings nothing, with at most `budget` reads.
def gatherBy (size : Nat → Channel → Nat) (pieces : List Bytes) :
    Nat → Channel → Channel × List Bytes × Option Fault
  | 0, channel => (channel, pieces.reverse, none)
  | budget + 1, channel =>
    match channel.persist (·.read (size budget channel)) with
    | (after, .error fault) => (after, pieces.reverse, some fault)
    | (after, .ok data) =>
      if data.isEmpty then (after, pieces.reverse, none)
      else after.gatherBy size (data :: pieces) budget

theorem gather_eq (pieces : List Bytes) (budget : Nat) (channel : Channel) :
    channel.gather pieces budget =
      channel.gatherBy (fun _ channel => channel.shared.log.heldBytes) pieces budget := by
  induction budget generalizing channel pieces with
  | zero => rfl
  | succ budget ih =>
    rw [gather, gatherBy]
    rcases channel.persist (·.read channel.shared.log.heldBytes) with ⟨after, fault | data⟩
    · rfl
    · exact if_congr Iff.rfl rfl (ih (data :: pieces) after)

-- The sizes of the buffers do not matter, as long as there is room in each of them.
theorem gatherBy_rest {size : Nat → Channel → Nat}
    (room : ∀ count channel, channel.rest ≠ [] → 0 < size count channel)
    (readable : channel.Readable) (enough : channel.rest.length < budget) (pieces : List Bytes) :
    ∃ after brought,
      channel.gatherBy size pieces budget = (after, pieces.reverse ++ brought, none) ∧
      brought.flatten = channel.rest ∧ channel.heeded.Advanced channel.rest.length after := by
  induction budget generalizing channel pieces with
  | zero => exact absurd enough (Nat.not_lt_zero _)
  | succ budget ih =>
    have advanced := readOn_advanced readable.heeded (size budget channel)
    have whole := piece_append readable.heeded (size budget channel)
    rw [heeded_piece] at advanced whole
    rw [heeded_rest] at whole
    rw [gatherBy, persist_read readable]
    dsimp only
    split
    · rename_i empty
      have nothing := List.isEmpty_iff.mp empty
      have past : channel.rest = [] := by
        by_contra left
        exact left ((piece_eq_nil (room budget channel left)).mp nothing)
      rw [nothing] at advanced
      rw [past]
      exact ⟨_, [], by simp, rfl, advanced⟩
    · rename_i filled
      have some := List.length_pos_iff.mpr (mt List.isEmpty_iff.mpr filled)
      have lowered := advanced.lowered (channel.shared.heeded_lowered channel.session.handle)
      rw [← whole, List.length_append] at enough ⊢
      obtain ⟨after, brought, told, rest, others⟩ := ih (advanced.readable readable.heeded)
        (by omega) (channel.piece (size budget channel) :: pieces)
      rw [heeded_free lowered] at others
      refine ⟨after, channel.piece (size budget channel) :: brought, ?_, ?_, advanced.trans others⟩
      · rw [told]
        simp
      · rw [List.flatten_cons, rest]

theorem length_rest_le (channel : Channel) :
    channel.rest.length ≤ channel.shared.log.heldBytes := by
  rw [rest, List.length_drop, length_joined]
  exact Nat.sub_le _ _

-- Behind what is left is the end, unless the session is beyond it already.
theorem cursor_behind (channel : Channel) :
    channel.session.cursor.toNat + channel.rest.length =
      max channel.session.cursor.toNat channel.shared.log.heldBytes := by
  have left : channel.rest.length =
      channel.shared.log.heldBytes - channel.session.cursor.toNat := by
    rw [rest, List.length_drop, length_joined]
    rfl
  omega

theorem readExact_heeded (readable : channel.Readable) (some : 0 < wanted) :
    channel.heeded.readExact wanted = channel.readExact wanted := by
  obtain ⟨wanted, rfl⟩ := Nat.exists_eq_succ_of_ne_zero (Nat.ne_of_gt some)
  unfold readExact fill
  rw [persist_heeded readable]

theorem readExact_rest (readable : channel.Readable) (some : 0 < wanted) :
    ∃ after, channel.readExact wanted = (after,
        if wanted ≤ channel.rest.length then .ok (channel.rest.take wanted)
        else .error .unexpectedEnd) ∧
      channel.heeded.Advanced (min wanted channel.rest.length) after := by
  have lowered := channel.shared.heeded_lowered channel.session.handle
  have filled := fill_rest readable.heeded lowered (Nat.le_refl wanted) []
  rw [heeded_rest] at filled
  rw [← readExact_heeded readable some]
  exact filled

theorem readToEnd_heeded (readable : channel.Readable) :
    channel.heeded.readToEnd = channel.readToEnd := by
  have total : channel.heeded.shared.log.heldBytes = channel.shared.log.heldBytes :=
    congrArg totalSize channel.heeded_held
  unfold readToEnd gather
  rw [total, persist_heeded readable]

theorem readToEnd_rest (readable : channel.Readable) :
    ∃ after, channel.readToEnd = (after, .ok channel.rest.length, channel.rest) ∧
      channel.heeded.Advanced channel.rest.length after := by
  have enough : channel.rest.length < channel.shared.log.heldBytes + 1 :=
    Nat.lt_succ_of_le channel.length_rest_le
  have room : ∀ (_ : Nat) (channel : Channel), channel.rest ≠ [] →
      0 < channel.shared.log.heldBytes := by
    intro _ channel left
    exact Nat.lt_of_lt_of_le (List.length_pos_iff.mpr left) channel.length_rest_le
  obtain ⟨after, brought, told, rest, advanced⟩ := gatherBy_rest room readable enough []
  rw [← gather_eq] at told
  refine ⟨after, ?_, advanced⟩
  unfold readToEnd
  rw [told]
  simp [rest]

theorem readToString_rest (readable : channel.Readable) :
    ∃ after, channel.readToString = (after,
        match Utf8.decode? channel.rest with
        | some text => .ok text
        | none => .error .notText) ∧
      channel.heeded.Advanced channel.rest.length after := by
  obtain ⟨after, told, advanced⟩ := readToEnd_rest readable
  refine ⟨after, ?_, advanced⟩
  unfold readToString
  rw [told]
  dsimp only
  cases Utf8.decode? channel.rest <;> rfl

-- Whoever was interrupted answers as if it had come to the gate before.
theorem answerStream_heeded (readable : channel.Readable) (some : 0 < wanted) {call : StreamCall}
    (listed : call ∈ [StreamCall.readExact wanted, .readToEnd, .readToString]) :
    channel.heeded.answerStream call = channel.answerStream call := by
  simp only [List.mem_cons, List.not_mem_nil, or_false] at listed
  rcases listed with same | same | same
  · rw [same, answerStream, answerStream, readExact_heeded readable some]
  · rw [same, answerStream, answerStream, readToEnd_heeded readable]
  · rw [same, answerStream, answerStream, readToString, readToString, readToEnd_heeded readable]

end

end Channel

namespace Station

variable {station : Station} {number : Nat} {session : Session}

def leaving (station : Station) (number : Nat) (channel : Channel) : Station :=
  ⟨channel.shared, station.sessions.set number channel.session⟩

theorem step_stream (present : station.session? number = some session) {call : StreamCall}
    {after : Channel} {reply : Reply}
    (told : Channel.answerStream ⟨station.shared, session⟩ call = (after, reply)) :
    station.step (.stream number call) = (station.leaving number after, reply) := by
  refine (visit_some present (·.answerStream call)).trans ?_
  rw [told]
  rfl

-- What is held lies in memory, so that a 64-bit cursor can name each byte of it.
theorem streams_deliver_the_rest (present : station.session? number = some session)
    (current : session.Current station.shared.log)
    (fits : station.shared.log.heldBytes < 2 ^ 64) :
    let channel : Channel := ⟨station.shared, session⟩
    let rest := (joined station.shared.log.held).drop session.cursor.toNat
    let read := fun call => station.step (.stream number call)
    session.cursor.toNat + rest.length =
        max session.cursor.toNat station.shared.log.heldBytes ∧
      (∀ wanted, 0 < wanted → wanted ≤ rest.length → ∃ after,
        read (.readExact wanted) = (station.leaving number after, .bytes (rest.take wanted)) ∧
          channel.heeded.Advanced wanted after) ∧
      (∀ wanted, rest.length < wanted → ∃ after,
        read (.readExact wanted) = (station.leaving number after, .streamFault .unexpectedEnd) ∧
          channel.heeded.Advanced rest.length after) ∧
      (∃ after, read .readToEnd =
          (station.leaving number after, .collected (.ok rest.length) rest) ∧
        channel.heeded.Advanced rest.length after) ∧
      (∃ after reply, read .readToString = (station.leaving number after, reply) ∧
        channel.heeded.Advanced rest.length after ∧
        (∀ text, Utf8.encode text = rest → reply = .text text) ∧
        ((∀ text, Utf8.encode text ≠ rest) → reply = .streamFault .notText)) ∧
      (∀ size : Nat → Channel → Nat, (∀ count channel, 0 < size count channel) → ∀ budget,
        station.shared.log.heldBytes < budget → ∃ after pieces,
          channel.gatherBy size [] budget = (after, pieces, none) ∧ pieces.flatten = rest ∧
            channel.heeded.Advanced rest.length after) ∧
      ∀ key, session.handle = some key → station.shared.gate.flags.isRaised key = true →
        ∀ wanted, 0 < wanted → ∀ call ∈ [StreamCall.readExact wanted, .readToEnd, .readToString],
          read call = (station.sentAway key).step (.stream number call) := by
  intro channel rest read
  have readable : channel.Readable := ⟨current, fits⟩
  have left : channel.rest = rest := rfl
  refine ⟨channel.cursor_behind, ?_, ?_, ?_, ?_, ?_, ?_⟩
  · intro wanted some enough
    obtain ⟨after, told, advanced⟩ := Channel.readExact_rest readable some
    rw [left, if_pos enough] at told
    rw [left, Nat.min_eq_left enough] at advanced
    refine ⟨after, step_stream present ?_, advanced⟩
    rw [Channel.answerStream, told]
    rfl
  · intro wanted few
    obtain ⟨after, told, advanced⟩ := Channel.readExact_rest readable (Nat.zero_lt_of_lt few)
    rw [left, if_neg (Nat.not_le.mpr few)] at told
    rw [left, Nat.min_eq_right (Nat.le_of_lt few)] at advanced
    refine ⟨after, step_stream present ?_, advanced⟩
    rw [Channel.answerStream, told]
    rfl
  · obtain ⟨after, told, advanced⟩ := Channel.readToEnd_rest readable
    refine ⟨after, step_stream present ?_, advanced⟩
    rw [Channel.answerStream, told]
    rfl
  · obtain ⟨after, told, advanced⟩ := Channel.readToString_rest readable
    have answer : channel.answerStream .readToString = _ :=
      congrArg (Prod.map id (Reply.ofStream Reply.text)) told
    refine ⟨after, _, step_stream present answer, advanced, ?_, ?_⟩
    · intro text written
      rw [left, (Utf8.decode?_iff rest text).mpr written]
      rfl
    · intro never
      have nothing : Utf8.decode? rest = none := by
        rw [Option.eq_none_iff_forall_ne_some]
        intro text read
        exact never text ((Utf8.decode?_iff rest text).mp read)
      rw [left, nothing]
      rfl
  · intro size room budget enough
    have more := channel.length_rest_le.trans_lt enough
    exact Channel.gatherBy_rest (fun count channel _ => room count channel) readable more []
  · intro key named raised wanted some call listed
    have heeded : channel.heeded = ⟨station.shared.sentAway key, session⟩ := by
      simp only [channel, Channel.heeded, named, SharedLog.heeded, if_pos raised]
    have there : (station.sentAway key).session? number = Option.some session := present
    have same := step_stream there (Prod.eta (Channel.answerStream _ call)).symm
    rw [same]
    refine (step_stream present (Prod.eta _).symm).trans ?_
    rw [← Channel.answerStream_heeded readable some listed, heeded]
    rfl

theorem stream_of_a_parted_character :
    let station := ((fresh ⟨2, 0x82, true, 1⟩).run [.openSession,
      .session 0 (.write [0xE2, 0x82, 0xAC, 0xC2, 0x82]),
      .handle (some (.session 0)) .raise]).1
    let session : Session := ⟨⟨1⟩, some (.session 0), 0, 0, false⟩
    let channel : Channel := ⟨station.shared, session⟩
    station.session? 0 = some session ∧ session.Current station.shared.log ∧
      station.shared.log.heldBytes < 2 ^ 64 ∧
      station.shared.log.held = [⟨[0xE2, 0x82]⟩, ⟨[0xAC, 0xC2, 0x82]⟩] ∧
      station.shared.gate.flags.isRaised (.session 0) = true ∧
      (∃ after, station.step (.stream 0 (.readExact 3)) =
        (station.leaving 0 after, .bytes [0xE2, 0x82, 0xAC]) ∧ channel.heeded.Advanced 3 after) ∧
      (∃ after, station.step (.stream 0 (.readExact 6)) =
        (station.leaving 0 after, .streamFault .unexpectedEnd) ∧ channel.heeded.Advanced 5 after) ∧
      (∃ after, station.step (.stream 0 .readToString) =
        (station.leaving 0 after, .text "€\u0082") ∧ channel.heeded.Advanced 5 after) ∧
      station.step (.stream 0 .readToEnd) =
        (station.sentAway (.session 0)).step (.stream 0 .readToEnd) := by
  intro station session channel
  have present : station.session? 0 = some session := by decide +kernel
  have current : session.Current station.shared.log := .inr (by decide +kernel)
  have fits : station.shared.log.heldBytes < 2 ^ 64 := by decide +kernel
  have held : station.shared.log.held = [⟨[0xE2, 0x82]⟩, ⟨[0xAC, 0xC2, 0x82]⟩] := by
    decide +kernel
  have raised : station.shared.gate.flags.isRaised (.session 0) = true := by decide +kernel
  obtain ⟨_, enough, few, _, text, _, again⟩ := streams_deliver_the_rest present current fits
  rw [held] at enough few text
  obtain ⟨after, reply, told, advanced, spelled, _⟩ := text
  rw [spelled "€\u0082" (by decide +kernel)] at told
  exact ⟨present, current, fits, held, raised, enough 3 (by decide) (by decide),
    few 6 (by decide), ⟨after, told, advanced⟩,
    again (.session 0) rfl raised 1 Nat.one_pos .readToEnd (by simp)⟩

end Station

end CircularLog
