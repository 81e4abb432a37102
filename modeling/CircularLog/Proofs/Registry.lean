import CircularLog.Proofs.Occupancy
import CircularLog.Proofs.Seeking
import Mathlib.Data.List.Nodup

namespace CircularLog

namespace Journal

def ofSessions : List String :=
  ["session opened", "session closed", "discarded unterminated write"]

def opened (journal : List Event) : List Nat :=
  told "session opened" "session" journal

def closed (journal : List Event) : List Nat :=
  told "session closed" "session" journal

def lostBytes (journal : List Event) : Nat :=
  (told "discarded unterminated write" "bytes" journal).sum

def closedBytes (journal : List Event) : Nat :=
  (told "session closed" "discarded" journal).sum

theorem opened_line (session : SessionId) (journal : List Event) :
    opened (.opened session :: journal) = opened journal ++ [session.number.toNat] ∧
      closed (.opened session :: journal) = closed journal ∧
      lostBytes (.opened session :: journal) = lostBytes journal ∧
      closedBytes (.opened session :: journal) = closedBytes journal := by
  simp [opened, closed, lostBytes, closedBytes, told_cons, Event.message, Event.fields]

theorem discarded_line (session : SessionId) (size : Nat) (journal : List Event) :
    opened (.discarded session size :: journal) = opened journal ∧
      closed (.discarded session size :: journal) = closed journal ∧
      lostBytes (.discarded session size :: journal) = lostBytes journal + size ∧
      closedBytes (.discarded session size :: journal) = closedBytes journal := by
  simp [opened, closed, lostBytes, closedBytes, told_cons, Event.message, Event.fields,
    List.lookup_cons]

theorem closed_line (session : SessionId) (lost : Nat) (journal : List Event) :
    opened (.closed session lost :: journal) = opened journal ∧
      closed (.closed session lost :: journal) = closed journal ++ [session.number.toNat] ∧
      lostBytes (.closed session lost :: journal) = lostBytes journal ∧
      closedBytes (.closed session lost :: journal) = closedBytes journal + lost := by
  simp [opened, closed, lostBytes, closedBytes, told_cons, Event.message, Event.fields,
    List.lookup_cons]

end Journal

namespace Event

def isInner : Event → Bool
  | .opened _ | .closed _ _ | .discarded _ _ => false
  | _ => true

theorem inner_message {event : Event} (inner : event.isInner = true) :
    event.message ∉ Journal.ofSessions := by
  cases event <;> simp [message, Journal.ofSessions] <;> cases inner

end Event

-- A deed that neither begins nor ends a session nor gives anything up.
def Deed.isInner : Deed → Bool
  | .opened _ | .discarded _ _ | .ended _ _ => false
  | _ => true

namespace Log

variable {log middle after : Log} {deed : Deed} {deeds : List Deed}

structure Quiet (log after : Log) : Prop where
  told : ∀ message ∈ Journal.ofSessions, ∀ field,
    Journal.told message field after.journal = Journal.told message field log.journal
  next : after.nextSession = log.nextSession

theorem Quiet.refl (log : Log) : Quiet log log :=
  ⟨fun _ _ _ => rfl, rfl⟩

theorem Quiet.trans (first : Quiet log middle) (others : Quiet middle after) : Quiet log after where
  told message inside field :=
    (others.told message inside field).trans (first.told message inside field)
  next := others.next.trans first.next

theorem Quiet.line {event : Event} (quiet : Quiet log middle)
    (journal : after.journal = event :: middle.journal) (inner : event.isInner = true)
    (next : after.nextSession = middle.nextSession) : Quiet log after := by
  refine ⟨?_, next.trans quiet.next⟩
  intro message inside field
  have other : event.message ≠ message := fun same => Event.inner_message inner (same ▸ inside)
  rw [journal, Journal.told_cons, if_neg other, List.append_nil]
  exact quiet.told message inside field

theorem commit_quiet (id : SessionId) (log : Log) (record : Record) :
    Quiet log (log.commit id record) := by
  unfold commit
  rcases log.ring.push record with ⟨ring, _ | oldest⟩
  · exact (Quiet.refl log).line rfl rfl rfl
  · have evicted : Quiet log (countEviction { log with ring } oldest) :=
      (Quiet.refl log).line rfl rfl rfl
    exact evicted.line rfl rfl rfl

theorem commits_quiet (id : SessionId) (log : Log) (records : List Record) :
    Quiet log (records.foldl (commit id) log) := by
  induction records generalizing log with
  | nil => exact .refl log
  | cons record records ih => exact (commit_quiet id log record).trans (ih _)

theorem write_quiet (log : Log) (id : SessionId) (chunk : Bytes) :
    Quiet log (log.write id chunk) := by
  unfold write
  rcases log.pending.append chunk with ⟨pending, _ | records⟩
  · exact (Quiet.refl log).line rfl rfl rfl
  · have committed := commits_quiet id { log with
      pending, contributors := if pending.isEmpty then [] else [id] } records
    exact ⟨committed.told, committed.next⟩

theorem read_quiet (log : Log) (cursor : UInt64) (limit : Nat) (since : Option UInt64) :
    Quiet log (log.read cursor limit since).1 := by
  unfold read
  split
  · exact .refl log
  · split
    · exact (Quiet.refl log).line rfl rfl rfl
    · exact (Quiet.refl log).line rfl rfl rfl

theorem Pass.quiet (pass : Pass log deed after) (inner : deed.isInner = true) :
    Quiet log after := by
  cases pass with
  | interrupted => exact ⟨fun _ _ _ => rfl, rfl⟩
  | looked => exact .refl log
  | opened => cases inner
  | wrote filled => exact write_quiet log _ _
  | read found => exact read_quiet log _ _ _
  | fetched found => exact read_quiet log _ _ _
  | positioned => exact .refl log
  | sought => exact (Quiet.refl log).line rfl rfl rfl
  | discarded => cases inner
  | ended => cases inner
  | tornDown => exact (Quiet.refl log).line rfl rfl rfl

theorem Passes.quiet (passes : Passes log deeds after)
    (inner : ∀ deed ∈ deeds, deed.isInner = true) : Quiet log after := by
  induction passes with
  | nil => exact .refl _
  | cons pass _ ih =>
    obtain ⟨first, others⟩ := List.forall_mem_cons.mp inner
    exact (pass.quiet first).trans (ih others)

def numbers (log : Log) (count : Nat) : List Nat :=
  (List.range count).map fun place => (log.nextSession + UInt64.ofNat place).toNat

theorem numbers_add {first : Nat} (next : middle.nextSession = log.nextSession + UInt64.ofNat first)
    (others : Nat) : log.numbers (first + others) = log.numbers first ++ middle.numbers others := by
  simp only [numbers, List.range_add, List.map_append, List.map_map]
  congr 1
  apply List.map_congr_left
  intro place _
  simp [next, UInt64.add_assoc]

-- From one log to a later one, with the sessions that are open before and after: how many were
-- opened on the way, and how many bytes were given up otherwise than by a session that closed.
structure Registers (log : Log) (live : List Nat) (opens given : Nat) (after : Log)
    (alive : List Nat) : Prop where
  opened : Journal.opened after.journal = Journal.opened log.journal ++ log.numbers opens
  next : after.nextSession = log.nextSession + UInt64.ofNat opens
  closed : ∀ number, (Journal.closed after.journal).count number + alive.count number =
    (Journal.closed log.journal).count number + live.count number +
      (log.numbers opens).count number
  bytes : Journal.lostBytes after.journal + Journal.closedBytes log.journal =
    Journal.lostBytes log.journal + Journal.closedBytes after.journal + given

variable {live between alive : List Nat} {opens given more taken : Nat}

theorem Quiet.registers (quiet : Quiet log after) (live : List Nat) :
    log.Registers live 0 0 after live := by
  have opened : Journal.opened after.journal = Journal.opened log.journal :=
    quiet.told _ (by decide) _
  have closed : Journal.closed after.journal = Journal.closed log.journal :=
    quiet.told _ (by decide) _
  have lost : Journal.lostBytes after.journal = Journal.lostBytes log.journal :=
    congrArg List.sum (quiet.told _ (by decide) _)
  have bytes : Journal.closedBytes after.journal = Journal.closedBytes log.journal :=
    congrArg List.sum (quiet.told _ (by decide) _)
  refine ⟨?_, ?_, ?_, ?_⟩
  · simp [opened, numbers]
  · simp [quiet.next]
  · simp [closed, numbers]
  · rw [lost, bytes, Nat.add_zero]

theorem Registers.append (first : log.Registers live opens given middle between)
    (others : middle.Registers between more taken after alive) :
    log.Registers live (opens + more) (given + taken) after alive := by
  have numbers := numbers_add first.next more
  refine ⟨?_, ?_, ?_, ?_⟩
  · rw [others.opened, first.opened, numbers, List.append_assoc]
  · rw [others.next, first.next, UInt64.ofNat_add, UInt64.add_assoc]
  · intro number
    have left := first.closed number
    have right := others.closed number
    rw [numbers, List.count_append]
    omega
  · have left := first.bytes
    have right := others.bytes
    omega

-- Other sessions do not matter.
theorem Registers.frame (own : log.Registers live opens given after alive)
    (front rest : List Nat) :
    log.Registers (front ++ live ++ rest) opens given after (front ++ alive ++ rest) := by
  refine ⟨own.opened, own.next, ?_, own.bytes⟩
  intro number
  have closed := own.closed number
  simp only [List.count_append]
  omega

theorem admitSession_registers (log : Log) :
    log.Registers [] 1 0 log.admitSession.1 [log.admitSession.2.number.toNat] := by
  obtain ⟨opened, closed, lost, bytes⟩ :=
    Journal.opened_line log.admitSession.2 log.journal
  have first : log.numbers 1 = [log.admitSession.2.number.toNat] := by
    simp [numbers, admitSession]
  have journal : log.admitSession.1.journal = .opened log.admitSession.2 :: log.journal := rfl
  refine ⟨?_, rfl, ?_, ?_⟩
  · rw [journal, opened, first]
  · intro number
    rw [journal, closed, first, List.count_nil, Nat.add_zero]
  · rw [journal, lost, bytes, Nat.add_zero]

theorem discard_lines (log : Log) (id : SessionId) :
    Journal.opened (log.discard id).1.journal = Journal.opened log.journal ∧
      Journal.closed (log.discard id).1.journal = Journal.closed log.journal ∧
      Journal.lostBytes (log.discard id).1.journal =
        Journal.lostBytes log.journal + (log.discard id).2 ∧
      Journal.closedBytes (log.discard id).1.journal = Journal.closedBytes log.journal ∧
      (log.discard id).1.nextSession = log.nextSession := by
  by_cases contributor : id ∈ log.contributors
  · rw [discard_lost contributor]
    obtain ⟨opened, closed, lost, bytes⟩ :=
      Journal.discarded_line id log.pending.size log.journal
    exact ⟨opened, closed, lost, bytes, rfl⟩
  · rw [discard_kept contributor]
    exact ⟨rfl, rfl, rfl, rfl, rfl⟩

theorem discard_registers (log : Log) (id : SessionId) (live : List Nat) :
    log.Registers live 0 (log.discard id).2 (log.discard id).1 live := by
  obtain ⟨opened, closed, lost, bytes, next⟩ := log.discard_lines id
  refine ⟨?_, ?_, ?_, ?_⟩
  · simp [opened, numbers]
  · simp [next]
  · simp [closed, numbers]
  · rw [lost, bytes]
    omega

theorem ended_closed (log : Log) (id : SessionId) :
    Journal.closed ((log.discard id).1.note (.closed id (log.discard id).2)).journal =
      Journal.closed log.journal ++ [id.number.toNat] := by
  obtain ⟨_, closed, _⟩ := log.discard_lines id
  rw [← closed]
  exact (Journal.closed_line id _ _).2.1

-- What is given up by a session that closes is told twice.
theorem ended_registers (log : Log) (id : SessionId) :
    log.Registers [id.number.toNat] 0 0
      ((log.discard id).1.note (.closed id (log.discard id).2)) [] := by
  obtain ⟨opened, _, lost, bytes, next⟩ := log.discard_lines id
  obtain ⟨opened', _, lost', bytes'⟩ :=
    Journal.closed_line id (log.discard id).2 (log.discard id).1.journal
  refine ⟨?_, ?_, ?_, ?_⟩
  · simp [note, opened', opened, numbers]
  · simp [note, next]
  · simp [ended_closed, numbers]
  · simp only [note, lost', bytes', lost, bytes]
    omega

end Log

def Session.live (session : Session) : List Nat :=
  if session.ended then [] else [session.id.number.toNat]

section Visits

variable {log after : Log} {session moved : Session} {deed : Deed} {deeds : List Deed}

theorem Session.live_of_open (unended : session.ended = false) :
    session.live = [session.id.number.toNat] := by
  rw [live, unended, if_neg Bool.false_ne_true]

theorem Session.live_of_ended (ended : session.ended = true) : session.live = [] := by
  rw [live, ended, if_pos rfl]

theorem Visit.quiet_or_ended (visit : Visit log session deed after moved) :
    (log.Quiet after ∧ moved.live = session.live) ∨
      (after = (log.discard session.id).1.note (.closed session.id (log.discard session.id).2) ∧
        moved = { session with ended := true }) := by
  cases visit with
  | aside pass leaves =>
    have inner : deed.isInner = true := by
      cases deed <;> first | rfl | cases leaves
    exact .inl ⟨pass.quiet inner, rfl⟩
  | read found => exact .inl ⟨(Log.Pass.read found).quiet rfl, rfl⟩
  | positioned inside => exact .inl ⟨.refl _, rfl⟩
  | sought found => exact .inl ⟨Log.Pass.sought.quiet rfl, rfl⟩
  | ended => exact .inr ⟨rfl, rfl⟩

theorem Visit.registers (visit : Visit log session deed after moved)
    (unended : session.ended = false) : log.Registers session.live 0 0 after moved.live := by
  rcases visit.quiet_or_ended with ⟨quiet, same⟩ | ⟨rfl, rfl⟩
  · rw [same]
    exact quiet.registers _
  · rw [Session.live_of_open unended]
    exact log.ended_registers session.id

-- A session that ends adds its number to those closed, and nothing else adds one.
theorem Visit.closed_eq (visit : Visit log session deed after moved)
    (unended : session.ended = false) :
    Journal.closed after.journal ++ moved.live = Journal.closed log.journal ++ session.live := by
  rcases visit.quiet_or_ended with ⟨quiet, same⟩ | ⟨rfl, rfl⟩
  · rw [same, Journal.closed, quiet.told _ (by decide), ← Journal.closed]
  · rw [Session.live_of_open unended, Session.live_of_ended rfl, List.append_nil, Log.ended_closed]

theorem Visits.closed_eq (visits : Visits log session deeds after moved) :
    Journal.closed after.journal ++ moved.live = Journal.closed log.journal ++ session.live := by
  induction visits with
  | nil => rfl
  | cons unended visit _ ih => exact ih.trans (visit.closed_eq unended)

theorem Visits.id_eq (visits : Visits log session deeds after moved) : moved.id = session.id := by
  induction visits with
  | nil => rfl
  | cons _ visit _ ih => exact ih.trans visit.remains.id

theorem Visits.registers (visits : Visits log session deeds after moved) :
    log.Registers session.live 0 0 after moved.live := by
  induction visits with
  | nil => exact (Log.Quiet.refl _).registers _
  | cons unended visit _ ih => exact (visit.registers unended).append ih

end Visits

namespace Channel

theorem release_ends {handle : Option Handle} (channel : Channel)
    (free : handle.any channel.shared.gate.flags.isRaised = false) :
    (channel.release handle).1.session.ended = true := by
  unfold release SharedLog.discard
  split
  · assumption
  · rw [SharedLog.enter_free free]

end Channel

namespace SharedLog

theorem deeds_inner (shared : SharedLog) (handle : Option Handle) {call : LogCall}
    (other : ∀ id, call ≠ .discard id) :
    ∀ deed ∈ shared.deeds handle call, deed.isInner = true := by
  intro deed inside
  cases call with
  | write id chunk =>
    simp only [deeds, writeDeeds] at inside
    split at inside
    · cases inside
    · rw [List.mem_singleton.mp inside]
      exact Deed.ofResult_all _ rfl rfl (fun _ => rfl) _
  | discard id => exact absurd rfl (other id)
  | settings => cases inside
  | _ =>
    rw [List.mem_singleton.mp inside]
    exact Deed.ofResult_all _ rfl rfl (fun _ => rfl) _

theorem burstOnce_registers (shared : SharedLog) (times : Nat) (chunk : Bytes) :
    shared.log.Registers [] 1 0 (shared.burstOnce times chunk).log [] := by
  have live : (Channel.ofShared shared none).session.ended = false := rfl
  obtain ⟨writes, _⟩ := Channel.repeat_makes live chunk times
  have whole := (writes.append (Channel.release_makes none)).registers
  rw [Session.live_of_open live, Session.live_of_ended (Channel.release_ends _ rfl)] at whole
  exact shared.log.admitSession_registers.append whole

theorem burst_registers (shared : SharedLog) (writers times : Nat) (chunk : Bytes) :
    shared.log.Registers [] writers 0 (shared.burst writers times chunk).log [] := by
  induction writers with
  | zero => exact (Log.Quiet.refl _).registers []
  | succ writers ih => exact ih.append (burstOnce_registers _ times chunk)

end SharedLog

namespace Call

def opens : Call → Nat
  | .openSession => 1
  | .burst writers _ _ => writers
  | _ => 0

def given : Call → Reply → Nat
  | .log _ (.discard _), .count lost => lost
  | _, _ => 0

end Call

namespace Station

variable {station : Station}

def live (station : Station) : List Nat :=
  station.sessions.flatMap Session.live

theorem live_set {number : Nat} {session : Session}
    (present : station.sessions[number]? = some session) :
    ∃ front rest, station.live = front ++ session.live ++ rest ∧
      ∀ moved : Session,
        (station.sessions.set number moved).flatMap Session.live = front ++ moved.live ++ rest := by
  obtain ⟨inside, same⟩ := List.getElem?_eq_some_iff.mp present
  refine ⟨(station.sessions.take number).flatMap Session.live,
    (station.sessions.drop (number + 1)).flatMap Session.live, ?_, ?_⟩
  · rw [live, ← same, ← List.flatMap_singleton Session.live, ← List.flatMap_append,
      ← List.flatMap_append, List.append_assoc, List.singleton_append, List.getElem_cons_drop,
      List.take_append_drop]
  · intro moved
    rw [List.set_eq_take_append_cons_drop, if_pos inside]
    simp

theorem visit_registers {number : Nat} {act : Channel → Channel × Reply}
    {deeds : Channel → List Deed}
    (makes : ∀ channel : Channel, channel.session.ended = false →
      channel.Makes (deeds channel) (act channel).1) :
    station.shared.log.Registers station.live 0 0 (station.visit number act).1.shared.log
      (station.visit number act).1.live := by
  cases found : station.session? number with
  | none =>
    rw [visit_none found]
    exact (Log.Quiet.refl _).registers _
  | some session =>
    obtain ⟨present, unended⟩ := session?_some found
    obtain ⟨front, rest, before, behind⟩ := live_set present
    rw [visit_some found, before, live, behind]
    exact (makes ⟨station.shared, session⟩ unended).registers.frame front rest

theorem log_registers (shared : SharedLog) (handle : Option Handle) (call : LogCall)
    (live : List Nat) :
    shared.log.Registers live 0 (Call.given (.log handle call) (shared.answer handle call).2)
      (shared.answer handle call).1.log live := by
  by_cases discards : ∃ id, call = .discard id
  · obtain ⟨id, rfl⟩ := discards
    rcases made : shared.discard handle id with ⟨after, result⟩
    have answer : shared.answer handle (.discard id) = (after, .ofResult .count result) := by
      simp [SharedLog.answer, made]
    rw [answer]
    rcases SharedLog.enter_cases made with ⟨same, rfl⟩ | ⟨same, rfl⟩
    · dsimp only
      rw [same]
      exact (Log.Pass.interrupted.quiet rfl).registers live
    · dsimp only
      rw [same]
      exact shared.log.discard_registers id live
  · have other : ∀ id, call ≠ .discard id := fun id same => discards ⟨id, same⟩
    have nothing : Call.given (.log handle call) (shared.answer handle call).2 = 0 := by
      cases call <;> first | rfl | exact absurd rfl (other _)
    rw [nothing]
    exact ((SharedLog.answer_passes call).quiet (shared.deeds_inner handle other)).registers live

theorem step_registers (station : Station) (call : Call) :
    station.shared.log.Registers station.live call.opens (call.given (station.step call).2)
      (station.step call).1.shared.log (station.step call).1.live := by
  cases call with
  | openSession =>
    have own := station.shared.log.admitSession_registers.frame station.live []
    rw [List.append_nil, List.append_nil, List.append_nil] at own
    have alive : (station.step .openSession).1.live =
        station.live ++ [station.shared.log.admitSession.2.number.toNat] := by
      simp [live, step, openSession, Channel.ofShared, Session.live]
    rw [alive]
    exact own
  | session number call => exact visit_registers fun _ live => Channel.answer_makes live call
  | stream number call => exact visit_registers fun _ live => Channel.answerStream_makes live call
  | log handle call => exact log_registers station.shared handle call station.live
  | handle handle call => cases call <;> exact (Log.Quiet.refl _).registers _
  | burst writers times chunk =>
    have own := (station.shared.burst_registers writers times chunk).frame station.live []
    rw [List.append_nil, List.append_nil] at own
    exact own

theorem run_registers (station : Station) (calls : List Call) :
    station.shared.log.Registers station.live (calls.map Call.opens).sum
      ((calls.zip (station.run calls).2).map fun entry => entry.1.given entry.2).sum
      (station.run calls).1.shared.log (station.run calls).1.live := by
  induction calls generalizing station with
  | nil => exact (Log.Quiet.refl _).registers _
  | cons call calls ih => exact (station.step_registers call).append (ih _)

def ids (station : Station) : List Nat :=
  station.sessions.map fun session => session.id.number.toNat

theorem visit_ids {number : Nat} {act : Channel → Channel × Reply}
    {deeds : Channel → List Deed}
    (makes : ∀ channel : Channel, channel.session.ended = false →
      channel.Makes (deeds channel) (act channel).1) :
    (station.visit number act).1.ids = station.ids := by
  cases found : station.session? number with
  | none => rw [visit_none found]
  | some session =>
    have id := (makes ⟨station.shared, session⟩ (session?_some found).2).id_eq
    rw [visit_some found, ids, ids, List.map_set, id, ← List.map_set, set_present found]

theorem step_ids (call : Call)
    (known : station.ids.Sublist (Journal.opened station.shared.log.journal)) :
    (station.step call).1.ids.Sublist
      (Journal.opened (station.step call).1.shared.log.journal) := by
  have opened := (station.step_registers call).opened
  have kept : (station.step call).1.ids = station.ids →
      (station.step call).1.ids.Sublist
        (Journal.opened (station.step call).1.shared.log.journal) := by
    intro same
    rw [same, opened]
    exact known.trans (List.sublist_append_left _ _)
  cases call with
  | openSession =>
    have first : station.shared.log.numbers 1 = [station.openSession.2.number.toNat] := by
      simp [Log.numbers, openSession, Channel.ofShared, Log.admitSession]
    have one : (station.step .openSession).1.ids =
        station.ids ++ [station.openSession.2.number.toNat] := by
      simp [ids, step, openSession, Channel.ofShared]
    rw [one, opened]
    exact known.append (first ▸ List.Sublist.refl _)
  | session number call => exact kept (visit_ids fun _ live => Channel.answer_makes live call)
  | stream number call => exact kept (visit_ids fun _ live => Channel.answerStream_makes live call)
  | log handle call => exact kept rfl
  | handle handle call => exact kept rfl
  | burst writers times chunk => exact kept rfl

theorem run_ids (calls : List Call)
    (known : station.ids.Sublist (Journal.opened station.shared.log.journal)) :
    (station.run calls).1.ids.Sublist
      (Journal.opened (station.run calls).1.shared.log.journal) := by
  induction calls generalizing station with
  | nil => exact known
  | cons call calls ih => exact ih (step_ids call known)

theorem end_closes {number : Nat} {session : Session} {call : SessionCall}
    (present : station.session? number = some session) (ends : call = .close ∨ call = .drop) :
    (station.step (.session number call)).1.session? number = none ∧
      Journal.closed (station.step (.session number call)).1.shared.log.journal =
        Journal.closed station.shared.log.journal ++ [session.id.number.toNat] := by
  obtain ⟨placed, unended⟩ := session?_some present
  have inside := (List.getElem?_eq_some_iff.mp placed).1
  let channel : Channel := ⟨station.shared, session⟩
  have makes : channel.Makes (channel.deeds call) (channel.answer call).1 :=
    Channel.answer_makes unended call
  have ended : (channel.answer call).1.session.ended = true := by
    rcases ends with rfl | rfl
    · exact Channel.release_ends _ rfl
    · exact Channel.release_ends _ rfl
  have closed := makes.closed_eq
  rw [Session.live_of_ended ended, Session.live_of_open unended, List.append_nil] at closed
  have step : station.step (.session number call) = ⟨⟨(channel.answer call).1.shared,
      station.sessions.set number (channel.answer call).1.session⟩, (channel.answer call).2⟩ :=
    visit_some present (·.answer call)
  rw [step]
  exact ⟨by simp [session?, List.getElem?_set_self inside, ended], closed⟩

theorem lines_once (unique : (Journal.opened station.shared.log.journal).Nodup)
    (known : station.ids.Sublist (Journal.opened station.shared.log.journal))
    (closed : ∀ number, (Journal.closed station.shared.log.journal).count number +
      station.live.count number = (Journal.opened station.shared.log.journal).count number) :
    ∀ session ∈ station.sessions,
      (Journal.opened station.shared.log.journal).count session.id.number.toNat = 1 ∧
      (Journal.closed station.shared.log.journal).count session.id.number.toNat =
        if session.ended then 1 else 0 := by
  intro session inside
  have listed : session.id.number.toNat ∈ Journal.opened station.shared.log.journal :=
    known.subset (List.mem_map_of_mem inside)
  have once := List.count_eq_one_of_mem unique listed
  have lines := closed session.id.number.toNat
  rw [once] at lines
  refine ⟨once, ?_⟩
  cases ended : session.ended with
  | false =>
    have alive : session.id.number.toNat ∈ station.live :=
      List.mem_flatMap.mpr ⟨session, inside, by simp [Session.live_of_open ended]⟩
    have some := List.count_pos_iff.mpr alive
    rw [if_neg Bool.false_ne_true]
    omega
  | true =>
    have none : station.live.count session.id.number.toNat = 0 := by
      -- A session still open under this number would be this one.
      refine List.count_eq_zero.mpr fun alive => ?_
      obtain ⟨other, there, own⟩ := List.mem_flatMap.mp alive
      cases gone : other.ended with
      | true =>
        rw [Session.live_of_ended gone] at own
        exact List.not_mem_nil own
      | false =>
        rw [Session.live_of_open gone, List.mem_singleton] at own
        have same := List.inj_on_of_nodup_map (known.nodup unique) there inside own.symm
        rw [same, ended] at gone
        cases gone
    rw [if_pos rfl]
    omega

variable {settings : Settings}

-- The numbers that sessions are given, until they have all been given.
theorem numbers_unique {count : Nat} (few : count ≤ 2 ^ 64) :
    ((List.range count).map fun place => (place + 1) % 2 ^ 64).Nodup := by
  refine List.Nodup.map_on ?_ List.nodup_range
  intro one first other second same
  rw [List.mem_range] at first second
  omega

theorem fresh_numbers (settings : Settings) (count : Nat) :
    (fresh settings).shared.log.numbers count =
      (List.range count).map fun place => (place + 1) % 2 ^ 64 := by
  refine List.map_congr_left fun place _ => ?_
  simp [fresh, SharedLog.log, Log.fresh, Nat.add_comm]

-- A journal is enough to tell what its log holds, what it counted, and how its sessions ended.
theorem journal_is_faithful (valid : settings.check = .ok ()) :
    ∃ start, create settings = .ok start ∧ ∀ calls,
      let after := (start.run calls).1
      let journal := after.shared.log.journal
      let opens := (calls.map Call.opens).sum
      (∃ snapshot, (after.step (.log none .snapshot)).2 = .snapshot snapshot ∧
        snapshot.tally.Counts journal) ∧
      (∃ held, (after.step (.log none .held)).2 = .records held ∧
        Journal.committedSizes journal = Journal.evictedSizes journal ++ held.map Record.size) ∧
      (∀ past, past <:+ journal → Journal.Faithful settings.capacity past) ∧
      Journal.opened journal = (List.range opens).map (fun place => (place + 1) % 2 ^ 64) ∧
      after.ids.Sublist (Journal.opened journal) ∧
      (∀ number, (Journal.closed journal).count number + after.live.count number =
        (Journal.opened journal).count number) ∧
      (opens ≤ 2 ^ 64 → (Journal.opened journal).Nodup ∧ ∀ session ∈ after.sessions,
        (Journal.opened journal).count session.id.number.toNat = 1 ∧
        (Journal.closed journal).count session.id.number.toNat =
          if session.ended then 1 else 0) ∧
      (∀ number session call, after.session? number = some session → call = .close ∨ call = .drop →
        (after.step (.session number call)).1.session? number = none ∧
        Journal.closed (after.step (.session number call)).1.shared.log.journal =
          Journal.closed journal ++ [session.id.number.toNat]) ∧
      Journal.lostBytes journal = Journal.closedBytes journal +
        ((calls.zip (start.run calls).2).map fun entry => entry.1.given entry.2).sum := by
  refine ⟨_, create_eq valid, ?_⟩
  intro calls after journal opens
  obtain ⟨sound, empty⟩ := Log.fresh_sound valid
  have passes := (run_passes (fresh settings) calls).log_passes
  have told : after.shared.log.Told := passes.told sound (Log.fresh_told valid)
  have held : Journal.Tells settings.capacity journal (after.shared.log.held.map Record.size) := by
    have same : after.shared.log.settings = settings := passes.settings
    exact same ▸ told.held
  have registers := (fresh settings).run_registers calls
  have opened : Journal.opened journal = (List.range opens).map fun place => (place + 1) % 2 ^ 64 :=
    registers.opened.trans (fresh_numbers settings opens)
  have known : after.ids.Sublist (Journal.opened journal) := run_ids calls (List.nil_sublist _)
  have closed : ∀ number, (Journal.closed journal).count number + after.live.count number =
      (Journal.opened journal).count number := by
    intro number
    have lines := registers.closed number
    rw [fresh_numbers] at lines
    rw [opened]
    exact lines.trans (Nat.zero_add _)
  refine ⟨⟨_, rfl, told.counts⟩, ⟨_, rfl, held.balance⟩, ?_, opened, known, closed, ?_, ?_, ?_⟩
  · intro past earlier
    obtain ⟨sizes, before⟩ := held.before earlier
    exact before.faithful
  · intro few
    have unique : (Journal.opened journal).Nodup := opened ▸ numbers_unique few
    exact ⟨unique, lines_once unique known closed⟩
  · intro number session call present ends
    exact end_closes present ends
  · exact registers.bytes.trans (congrArg (· + _) (Nat.zero_add _))

-- One slot: a write that evicts its own record, a close that is interrupted and made up for by its
-- drop, bytes discarded for a session that stays open, a teardown, and a drop.
theorem journal_of_one_slot :
    let settings : Settings := ⟨1, 59, false, 1⟩
    let calls : List Call := [.openSession, .openSession, .session 0 (.write [97, 59, 98, 59, 99]),
      .handle (some (.session 0)) .raise, .session 0 .close, .session 1 (.write [100, 101]),
      .log none (.discard ⟨2⟩), .log none .teardown]
    settings.check = .ok () ∧ ∃ start, create settings = .ok start ∧
      let after := (start.run calls).1
      let journal := after.shared.log.journal
      journal.take 2 = [.tornDown 1, .discarded ⟨2⟩ 2] ∧ Journal.Faithful 1 journal ∧
      Journal.opened journal = [1, 2] ∧ (Journal.opened journal).Nodup ∧
      (Journal.closed journal).count 1 = 1 ∧
      Journal.lostBytes journal = Journal.closedBytes journal + 2 ∧
      Journal.closed (after.step (.session 1 .drop)).1.shared.log.journal =
        Journal.closed journal ++ [2] := by
  intro settings calls
  have valid : settings.check = .ok () := rfl
  obtain ⟨start, created, faithful⟩ := journal_is_faithful valid
  cases (create_eq valid).symm.trans created
  obtain ⟨_, _, points, opened, _, _, once, ends, bytes⟩ := faithful calls
  obtain ⟨unique, lines⟩ := once (by decide)
  have numbers : ((List.range (calls.map Call.opens).sum).map fun place => (place + 1) % 2 ^ 64) =
      [1, 2] := by decide +kernel
  have given : ((calls.zip ((fresh settings).run calls).2).map fun entry =>
      entry.1.given entry.2).sum = 2 := by decide +kernel
  have first : ((fresh settings).run calls).1.sessions[0]? =
      some ⟨⟨1⟩, some (.session 0), 0, 0, true⟩ := by decide +kernel
  have second : ((fresh settings).run calls).1.session? 1 =
      some ⟨⟨2⟩, some (.session 1), 0, 0, false⟩ := by decide +kernel
  rw [numbers] at opened
  rw [given] at bytes
  refine ⟨valid, _, created, ?_, points _ List.suffix_rfl, opened, unique, ?_, bytes, ?_⟩
  · decide +kernel
  · exact (lines _ (List.mem_of_getElem? first)).2
  · exact (ends 1 _ .drop second (.inr rfl)).2

end Station

end CircularLog
