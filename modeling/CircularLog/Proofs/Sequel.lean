import CircularLog.Proofs.Annals
import CircularLog.Proofs.Refusals
import Mathlib.Data.List.Infix

namespace CircularLog

def Deed.released : Deed → List Record
  | .wrote _ _ _ evicted => evicted
  | .tornDown released => released
  | _ => []

theorem Annals.follow_unreleased (annals : Annals) {deed : Deed} (kept : deed.released = []) :
    (annals.follow deed).released = annals.released ∧
      (annals.follow deed).releases = annals.releases := by
  cases deed with
  | wrote id chunk committed evicted => cases kept; simp [follow]
  | tornDown released => cases kept; simp [follow]
  | _ => exact ⟨rfl, rfl⟩

namespace Log

variable {log after : Log} {deed : Deed} {deeds : List Deed}

def piece (log : Log) (cursor limit : Nat) : Bytes :=
  match Position.locate? log.held cursor with
  | none => []
  | some location => location.remaining.take limit

-- A reader that was not left behind reads as if nobody asked.
theorem read_current (log : Log) (cursor : UInt64) (limit : Nat) {since : Option UInt64}
    (current : ∀ positioned, since = some positioned → positioned = log.generation) :
    log.read cursor limit since = log.read cursor limit none := by
  have inTime : since.filter (· != log.generation) = none := by
    cases since with
    | none => rfl
    | some positioned => simp [Option.filter, current positioned rfl]
  unfold read
  rw [inTime]
  rfl

theorem read_piece (log : Log) (cursor : UInt64) (limit : Nat) {since : Option UInt64}
    (current : ∀ positioned, since = some positioned → positioned = log.generation) :
    let data := log.piece cursor.toNat limit
    (log.read cursor limit since).2 = .ok (data, cursor + UInt64.ofNat data.length) := by
  rw [log.read_current cursor limit current]
  unfold read piece
  dsimp only [Option.filter]
  cases Position.locate? log.held cursor.toNat with
  | none => simp
  | some location => rfl

theorem piece_held (log : Log) (cursor limit : Nat) :
    log.piece cursor limit <+: (joined log.held).drop cursor := by
  unfold piece
  split
  · exact List.nil_prefix
  · rename_i location found
    exact (List.take_prefix _ _).trans (Position.locate?_found found)

theorem piece_eq_nil {cursor limit : Nat} (some : 0 < limit) :
    log.piece cursor limit = [] ↔ log.heldBytes ≤ cursor := by
  unfold piece heldBytes
  cases found : Position.locate? log.held cursor with
  | none => simpa using Position.locate?_none.mp found
  | some location =>
    have before : ¬ totalSize log.held ≤ cursor := by
      intro past
      cases found.symm.trans (Position.locate?_none.mpr past)
    have inside := (Position.locate?_some.mp found).2.1
    have left : location.remaining.take limit ≠ [] := by
      rw [← List.length_pos_iff, List.length_take, Location.remaining, List.length_drop]
      unfold Record.size at inside
      omega
    simp [left, before]

theorem piece_inside {cursor limit : Nat} (some : log.piece cursor limit ≠ []) :
    ∃ former record latter, log.held = former ++ record :: latter ∧ totalSize former ≤ cursor ∧
      log.piece cursor limit <+: record.bytes.drop (cursor - totalSize former) := by
  unfold piece at some ⊢
  cases found : Position.locate? log.held cursor with
  | none => simp [found] at some
  | some location =>
    obtain ⟨former, latter, held, rfl⟩ := Position.locate?_inside found
    refine ⟨former, location.record, latter, held, Nat.le_add_right _ _, ?_⟩
    rw [Nat.add_sub_cancel_left]
    exact List.take_prefix _ _

theorem Pass.grows (pass : Pass log deed after) (sound : log.Sound)
    (kept : deed.released = []) :
    log.held <+: after.held ∧ after.generation = log.generation := by
  obtain ⟨held, generation⟩ := pass.keeps sound log.keeps_now
  obtain ⟨more, _⟩ := Annals.follow_more ⟨log.held, [], log.generation.toNat⟩ deed
  obtain ⟨released, releases⟩ := Annals.follow_unreleased ⟨log.held, [], log.generation.toNat⟩ kept
  rw [released] at held
  rw [releases] at generation
  rw [← held] at more
  exact ⟨more, generation.trans UInt64.ofNat_toNat⟩

theorem Passes.grows (passes : Passes log deeds after) (sound : log.Sound)
    (kept : ∀ deed ∈ deeds, deed.released = []) :
    log.held <+: after.held ∧ after.generation = log.generation := by
  induction passes with
  | nil => exact ⟨List.prefix_rfl, rfl⟩
  | cons pass _ ih =>
    obtain ⟨first, others⟩ := List.forall_mem_cons.mp kept
    obtain ⟨held, generation⟩ := pass.grows sound first
    obtain ⟨more, same⟩ := ih (pass.sound sound) others
    exact ⟨held.trans more, same.trans generation⟩

end Log

-- A call that leaves a session where it is, unless it reads on.
def Call.leaves (number : Nat) : Call → Bool
  | .session _ (.read _) => true
  | .session other _ | .stream other _ => other != number
  | _ => true

def Call.brought (number : Nat) : Call → Reply → Bytes
  | .session other (.read _), .bytes data => if other = number then data else []
  | _, _ => []

def received (number : Nat) (calls : List Call) (replies : List Reply) : Bytes :=
  (List.zipWith (Call.brought number) calls replies).flatten

-- Nothing was released since the session was put where it is, as far as anybody asks.
def Session.Current (session : Session) (log : Log) : Prop :=
  log.settings.detectStale = false ∨ session.generation = log.generation

theorem Session.Current.since {session : Session} {log : Log} (current : session.Current log) :
    ∀ positioned, session.since log = some positioned → positioned = log.generation := by
  intro positioned named
  unfold Session.since at named
  rcases current with off | same
  · simp [off] at named
  · split at named
    · cases named
      exact same
    · cases named

def Session.advanced (session : Session) (log : Log) (size : Nat) : Session :=
  { session with
    cursor := session.cursor + UInt64.ofNat (log.piece session.cursor.toNat size).length }

-- What was brought was held from the cursor on, and the cursor is behind it.
structure Session.ReadsOn (session : Session) (data : Bytes) (after : Log) (moved : Session) :
    Prop where
  current : moved.Current after
  cursor : moved.cursor.toNat = session.cursor.toNat + data.length
  held : data <+: (joined after.held).drop session.cursor.toNat

theorem joined_grows {records others : List Record} (first : records <+: others) :
    joined records <+: joined others := by
  obtain ⟨more, rfl⟩ := first
  rw [joined_append]
  exact List.prefix_append _ _

theorem Session.Current.readsOn {session : Session} {log : Log} (current : session.Current log) :
    session.ReadsOn [] log session :=
  ⟨current, rfl, List.nil_prefix⟩

theorem Session.ReadsOn.append {session between moved : Session} {data others : Bytes}
    {middle after : Log} (first : session.ReadsOn data middle between)
    (grown : joined middle.held <+: joined after.held)
    (rest : between.ReadsOn others after moved) : session.ReadsOn (data ++ others) after moved := by
  refine ⟨rest.current, ?_, ?_⟩
  · rw [rest.cursor, first.cursor, List.length_append, Nat.add_assoc]
  · obtain ⟨behind, whole⟩ := first.held.trans (List.IsPrefix.drop grown _)
    have onward : behind = (joined after.held).drop between.cursor.toNat := by
      rw [first.cursor, ← List.drop_drop, ← whole, List.drop_left]
    rw [← whole, List.prefix_append_right_inj, onward]
    exact rest.held

theorem toNat_behind {cursor : UInt64} {data bytes : Bytes}
    (part : data <+: bytes.drop cursor.toNat) (fits : bytes.length < 2 ^ 64) :
    (cursor + UInt64.ofNat data.length).toNat = cursor.toNat + data.length := by
  have short := part.length_le
  have small := cursor.toNat_lt
  rw [List.length_drop] at short
  have little : data.length < 2 ^ 64 := by omega
  rw [UInt64.toNat_add, UInt64.toNat_ofNat_of_lt' little, Nat.mod_eq_of_lt (by omega)]

namespace Station

variable {station : Station} {number : Nat} {session : Session}

def readOn (station : Station) (number : Nat) (session : Session) (size : Nat) : Station :=
  ⟨station.shared.adjust fun log => (log.read session.cursor size (session.since log)).1,
    station.sessions.set number (session.advanced station.shared.log size)⟩

theorem step_read (present : station.session? number = some session)
    (current : session.Current station.shared.log)
    (free : session.handle.any station.shared.gate.flags.isRaised = false) (size : Nat) :
    station.step (.session number (.read size)) = (station.readOn number session size,
      .bytes (station.shared.log.piece session.cursor.toNat size)) := by
  have found := station.shared.log.read_piece session.cursor size current.since
  have since : Channel.since ⟨station.shared, session⟩ = session.since station.shared.log := rfl
  refine (visit_some present (·.answer (.read size))).trans ?_
  simp only [Channel.answer, Channel.read, SharedLog.read, since, SharedLog.enter_free free]
  rw [found]
  rfl

theorem readOn_present (present : station.session? number = some session) (size : Nat) :
    (station.readOn number session size).session? number =
      some (session.advanced station.shared.log size) :=
  session?_set present _ _ rfl

theorem step_read_raised (present : station.session? number = some session)
    (raised : session.handle.any station.shared.gate.flags.isRaised = true) (size : Nat) :
    ∃ key, station.step (.session number (.read size)) =
      (station.sentAway key, .fault .interrupted) := by
  have waits : SessionCall.waits (.read size) = true := rfl
  obtain ⟨key, _, away⟩ := step_raised present raised waits
  exact ⟨key, away⟩

theorem readOn_still (station : Station) (number : Nat) (session : Session) (size : Nat) :
    Log.Still station.shared.log (station.readOn number session size).shared.log :=
  Log.read_still _ _ _ _

theorem readOn_readsOn (number : Nat) (current : session.Current station.shared.log)
    (fits : station.shared.log.heldBytes < 2 ^ 64) (size : Nat) :
    session.ReadsOn (station.shared.log.piece session.cursor.toNat size)
      (station.readOn number session size).shared.log
      (session.advanced station.shared.log size) := by
  have still := station.readOn_still number session size
  have part := station.shared.log.piece_held session.cursor.toNat size
  refine ⟨current.imp (still.settings ▸ ·) (still.generation ▸ ·), ?_, ?_⟩
  · exact toNat_behind part ((length_joined _).trans_lt fits)
  · rw [still.held_eq]
    exact part

theorem visit_session? {other : Nat} (apart : other ≠ number) (act : Channel → Channel × Reply) :
    (station.visit other act).1.session? number = station.session? number := by
  cases present : station.session? other with
  | none => rw [visit_none present]
  | some session =>
    rw [visit_some present]
    unfold session?
    rw [List.getElem?_set_ne apart]

theorem step_session? {call : Call} (leaves : call.leaves number = true)
    (other : ∀ size, call ≠ .session number (.read size))
    (present : station.session? number = some session) :
    (station.step call).1.session? number = some session := by
  cases call with
  | openSession =>
    have inside := (List.getElem?_eq_some_iff.mp (session?_some present).1).1
    rw [← present]
    simp only [step, openSession, session?]
    rw [Scene.get?_opened _ (Nat.ne_of_lt inside)]
  | session who call =>
    have apart : who ≠ number := by
      rintro rfl
      cases call with
      | read size => exact other size rfl
      | _ => simp [Call.leaves] at leaves
    exact (visit_session? apart _).trans present
  | stream who call => exact (visit_session? (bne_iff_ne.mp leaves) _).trans present
  | log handle call => exact present
  | handle handle call => exact present
  | burst writers times chunk => exact present

theorem brought_other {call : Call} (other : ∀ size, call ≠ .session number (.read size))
    (reply : Reply) : call.brought number reply = [] := by
  unfold Call.brought
  split
  · rename_i who size data
    refine if_neg ?_
    rintro rfl
    exact other size rfl
  · rfl

theorem step_readsOn (sound : station.shared.log.Sound)
    (present : station.session? number = some session)
    (current : session.Current station.shared.log) {call : Call}
    (leaves : call.leaves number = true)
    (kept : ∀ entry ∈ station.deeds call, entry.2.released = [])
    (fits : station.shared.log.heldBytes < 2 ^ 64) :
    ∃ moved, (station.step call).1.session? number = some moved ∧
      session.ReadsOn (call.brought number (station.step call).2)
        (station.step call).1.shared.log moved := by
  by_cases reads : ∃ size, call = .session number (.read size)
  · obtain ⟨size, rfl⟩ := reads
    cases free : session.handle.any station.shared.gate.flags.isRaised with
    | true =>
      obtain ⟨key, away⟩ := step_read_raised present free size
      rw [away]
      exact ⟨session, present, Session.Current.readsOn current⟩
    | false =>
      rw [step_read present current free size]
      refine ⟨_, readOn_present present size, ?_⟩
      simp only [Call.brought, if_true]
      exact readOn_readsOn number current fits size
  · have other : ∀ size, call ≠ .session number (.read size) := fun size same => reads ⟨size, same⟩
    have passes := (step_passes station call).log_passes
    have same := (passes.grows sound (List.forall_mem_map.mpr kept)).2
    have still : session.Current (station.step call).1.shared.log :=
      current.imp (passes.settings ▸ ·) (·.trans same.symm)
    rw [brought_other other]
    exact ⟨session, step_session? leaves other present, still.readsOn⟩

theorem run_readsOn (sound : station.shared.log.Sound)
    (present : station.session? number = some session)
    (current : session.Current station.shared.log) {calls : List Call}
    (leaves : calls.all (Call.leaves number) = true)
    (kept : ∀ entry ∈ station.history calls, entry.2.released = [])
    (fits : (station.run calls).1.shared.log.heldBytes < 2 ^ 64) :
    let after := (station.run calls).1
    let data := received number calls (station.run calls).2
    ∃ moved, after.session? number = some moved ∧ session.ReadsOn data after.shared.log moved := by
  induction calls generalizing station session with
  | nil => exact ⟨session, present, current, rfl, List.nil_prefix⟩
  | cons call calls ih =>
    obtain ⟨first, others⟩ := Bool.and_eq_true_iff.mp leaves
    obtain ⟨now, later⟩ := List.forall_mem_append.mp kept
    have fewer : station.shared.log.heldBytes < 2 ^ 64 := by
      have held := ((run_passes station (call :: calls)).log_passes.grows sound
        (List.forall_mem_map.mpr kept)).1
      have less := (joined_grows held).length_le
      rw [length_joined, length_joined] at less
      exact less.trans_lt fits
    obtain ⟨between, there, step⟩ := step_readsOn sound present current first now fewer
    have still := (step_passes station call).log_passes.sound sound
    obtain ⟨moved, last, rest⟩ := ih still there step.current others later fits
    have held := ((run_passes (station.step call).1 calls).log_passes.grows still
      (List.forall_mem_map.mpr later)).1
    exact ⟨moved, last, step.append (joined_grows held) rest⟩

def reads (number : Nat) (sizes : Nat → Nat) (count : Nat) : List Call :=
  (List.range count).map fun turn => .session number (.read (sizes turn))

theorem reads_succ (number : Nat) (sizes : Nat → Nat) (count : Nat) :
    reads number sizes (count + 1) =
      .session number (.read (sizes 0)) :: reads number (fun turn => sizes (turn + 1)) count := by
  simp [reads, List.range_succ_eq_map, Function.comp_def]

theorem run_reads (present : station.session? number = some session)
    (current : session.Current station.shared.log)
    (free : session.handle.any station.shared.gate.flags.isRaised = false)
    (fits : station.shared.log.heldBytes < 2 ^ 64) {sizes : Nat → Nat}
    (filled : ∀ turn, 0 < sizes turn) :
    ∃ pieces : List Bytes, (∀ piece ∈ pieces, piece ≠ []) ∧
      pieces.flatten = (joined station.shared.log.held).drop session.cursor.toNat ∧
      let last := station.run (reads number sizes (pieces.length + 1))
      last.2 = (pieces ++ [[]]).map .bytes ∧ ∃ moved, last.1.session? number = some moved ∧
        moved.cursor.toNat = max session.cursor.toNat station.shared.log.heldBytes := by
  -- The induction is on what is left to be read, which every read but the last makes less.
  generalize size : station.shared.log.heldBytes - session.cursor.toNat = left
  induction left using Nat.strongRecOn generalizing station session sizes with
  | ind left ih =>
    have step := step_read present current free (sizes 0)
    have there := readOn_present present (sizes 0)
    have still := station.readOn_still number session (sizes 0)
    have part := station.shared.log.piece_held session.cursor.toNat (sizes 0)
    obtain ⟨stays, behind, _⟩ := readOn_readsOn number current fits (sizes 0)
    have held : (station.readOn number session (sizes 0)).shared.log.held =
        station.shared.log.held := congrArg Ring.toList still.ring
    have total : (station.readOn number session (sizes 0)).shared.log.heldBytes =
        station.shared.log.heldBytes := congrArg totalSize held
    have within := part.length_le
    rw [List.length_drop, length_joined] at within
    generalize data : station.shared.log.piece session.cursor.toNat (sizes 0) = piece at *
    rcases Nat.lt_or_ge session.cursor.toNat station.shared.log.heldBytes with before | past
    · have some : piece ≠ [] := by
        intro nothing
        have past := (Log.piece_eq_nil (filled 0)).mp (data.trans nothing)
        omega
      have longer := List.length_pos_iff.mpr some
      have less : (station.readOn number session (sizes 0)).shared.log.heldBytes -
          (session.advanced station.shared.log (sizes 0)).cursor.toNat < left := by
        rw [total, behind]
        omega
      obtain ⟨pieces, others, whole, replies, moved, last, cursor⟩ :=
        ih _ less there stays free (total ▸ fits) (fun turn => filled (turn + 1)) rfl
      refine ⟨piece :: pieces, List.forall_mem_cons.mpr ⟨some, others⟩, ?_, ?_, moved, ?_, ?_⟩
      · obtain ⟨rest, parts⟩ := part
        rw [List.flatten_cons, whole, held, behind, ← List.drop_drop, ← parts, List.drop_left]
      · simp only [List.length_cons, reads_succ number sizes, run, step]
        simp [replies]
      · simp only [List.length_cons, reads_succ number sizes, run, step]
        exact last
      · rw [cursor, total, behind]
        unfold Log.heldBytes at before ⊢
        omega
    · obtain rfl : piece = [] := data ▸ (Log.piece_eq_nil (filled 0)).mpr past
      refine ⟨[], List.forall_mem_nil _, ?_, ?_, session.advanced station.shared.log (sizes 0), ?_, ?_⟩
      · rw [List.drop_eq_nil_of_le (by rwa [length_joined])]
        rfl
      · simp [reads, run, step]
      · simp only [List.length_nil, reads_succ number sizes, run, step]
        exact there
      · rw [behind, Nat.max_eq_left past]
        rfl

-- Whatever others do in between, short of releasing records, the reads of a session that was not left
-- behind go through what is held from its cursor on, record by record, and only end where that ends.
-- What is held lies in memory, so that a 64-bit cursor can name each byte of it.
theorem reads_go_to_the_end {settings : Settings} (valid : settings.check = .ok ()) :
    ∃ start, create settings = .ok start ∧ ∀ calls number session,
      let station := (start.run calls).1
      let cursor := session.cursor.toNat
      station.session? number = some session → session.Current station.shared.log →
        (∀ more, more.all (Call.leaves number) = true →
          (∀ entry ∈ station.history more, entry.2.released = []) →
          let after := (station.run more).1
          let log := after.shared.log
          let got := received number more (station.run more).2
          log.heldBytes < 2 ^ 64 → ∃ moved, after.session? number = some moved ∧
            moved.cursor.toNat = cursor + got.length ∧
            got = ((joined log.held).drop cursor).take got.length ∧
            ∀ size, 0 < size → moved.handle.any after.shared.gate.flags.isRaised = false →
              ∃ data, (after.step (.session number (.read size))).2 = .bytes data ∧
                (data = [] ↔ log.heldBytes ≤ moved.cursor.toNat) ∧
                (data ≠ [] → ∃ former record latter, log.held = former ++ record :: latter ∧
                  totalSize former ≤ moved.cursor.toNat ∧
                  data <+: record.bytes.drop (moved.cursor.toNat - totalSize former))) ∧
        (station.shared.log.heldBytes < 2 ^ 64 →
          session.handle.any station.shared.gate.flags.isRaised = false →
          ∀ sizes, (∀ turn, 0 < sizes turn) → ∃ pieces : List Bytes,
            (∀ piece ∈ pieces, piece ≠ []) ∧
            pieces.flatten = (joined station.shared.log.held).drop cursor ∧
            let last := station.run (reads number sizes (pieces.length + 1))
            last.2 = (pieces ++ [[]]).map .bytes ∧ ∃ moved, last.1.session? number = some moved ∧
              moved.cursor.toNat = max cursor station.shared.log.heldBytes) := by
  refine ⟨_, create_eq valid, ?_⟩
  intro calls number session station cursor present current
  have sound : station.shared.log.Sound :=
    (run_passes (fresh settings) calls).log_passes.sound (Log.fresh_sound valid).1
  constructor
  · intro more leaves kept after log got fits
    obtain ⟨moved, there, onward⟩ := run_readsOn sound present current leaves kept fits
    refine ⟨moved, there, onward.cursor, List.prefix_iff_eq_take.mp onward.held, ?_⟩
    intro size filled free
    have step := step_read there onward.current free size
    refine ⟨log.piece moved.cursor.toNat size, congrArg Prod.snd step, ?_, ?_⟩
    · exact Log.piece_eq_nil filled
    · exact Log.piece_inside
  · intro fits free sizes filled
    exact run_reads present current free fits filled

theorem rest_of_two_slots :
    let settings : Settings := ⟨2, 59, true, 1⟩
    let calls : List Call := [.openSession, .openSession, .session 1 (.write [97, 98, 59])]
    let more : List Call := [.session 0 (.read 2), .session 1 (.write [99, 59]), .session 0 (.read 9)]
    settings.check = .ok () ∧ ∃ start, create settings = .ok start ∧
      let station := (start.run calls).1
      received 0 more (station.run more).2 = [97, 98, 59] ∧
      (∃ moved, (station.run more).1.session? 0 = some moved ∧ moved.cursor.toNat = 3) ∧
      ∃ pieces : List Bytes, pieces.flatten = [97, 98, 59] ∧
        (station.run (reads 0 (fun turn => turn + 1) (pieces.length + 1))).2 =
          (pieces ++ [[]]).map .bytes := by
  intro settings calls more
  have valid : settings.check = .ok () := rfl
  obtain ⟨start, created, readsOn⟩ := reads_go_to_the_end valid
  have same : start = fresh settings := Except.ok.inj (created.symm.trans (create_eq valid))
  have present : (start.run calls).1.session? 0 = some ⟨⟨1⟩, some (.session 0), 0, 0, false⟩ := by
    rw [same]
    decide +kernel
  have lowered : (start.run calls).1.shared.gate.flags.isRaised (.session 0) = false := by
    rw [same]
    decide +kernel
  have generation : (start.run calls).1.shared.log.generation = 0 := by
    rw [same]
    decide +kernel
  have kept : ∀ entry ∈ (start.run calls).1.history more, entry.2.released = [] := by
    rw [same]
    decide +kernel
  have held : joined (start.run calls).1.shared.log.held = [97, 98, 59] := by
    rw [same]
    decide +kernel
  have fits : ((start.run calls).1.run more).1.shared.log.heldBytes < 2 ^ 64 ∧
      (start.run calls).1.shared.log.heldBytes < 2 ^ 64 := by
    rw [same]
    decide +kernel
  have got : received 0 more ((start.run calls).1.run more).2 = [97, 98, 59] := by
    rw [same]
    decide +kernel
  obtain ⟨onward, ends⟩ := readsOn calls 0 _ present (.inr generation.symm)
  obtain ⟨moved, there, place, _⟩ := onward more rfl kept fits.1
  obtain ⟨pieces, _, whole, replies, _⟩ :=
    ends fits.2 lowered (fun turn => turn + 1) (fun turn => Nat.succ_pos turn)
  rw [got] at place
  rw [held] at whole
  exact ⟨valid, start, created, got, ⟨moved, there, place⟩, pieces, whole, replies⟩

end Station

end CircularLog
