import CircularLog.Proofs.Passes

namespace CircularLog

variable {β : Type}

def Session.since (session : Session) (log : Log) : Option UInt64 :=
  if log.settings.detectStale then some session.generation else none

-- A deed that leaves the session that did it as it was.
def Deed.leavesSession : Deed → Bool
  | .interrupted | .looked | .wrote _ _ _ _ | .fetched _ => true
  | _ => false

inductive Visit : Log → Session → Deed → Log → Session → Prop where
  | aside {log after : Log} {session : Session} {deed : Deed} (pass : Log.Pass log deed after)
      (leaves : deed.leavesSession = true) : Visit log session deed after session
  | read {log : Log} {session : Session} {limit : Nat} {data : Bytes} {cursor : UInt64}
      (found : (log.read session.cursor limit (session.since log)).2 = .ok (data, cursor)) :
      Visit log session (.read data) (log.read session.cursor limit (session.since log)).1
        { session with cursor }
  | positioned {log : Log} {session : Session} {place : Nat} (inside : place ≤ log.heldBytes) :
      Visit log session (.positioned (UInt64.ofNat place)) log
        { session with cursor := UInt64.ofNat place, generation := log.generation }
  | sought {log : Log} {session : Session} {index offset place : Nat}
      (found : Position.cursorOf log.held index offset = .ok place) :
      Visit log session (.positioned (UInt64.ofNat place))
        (log.note (.sought session.id index offset (UInt64.ofNat place)))
        { session with cursor := UInt64.ofNat place, generation := log.generation }
  | ended {log : Log} {session : Session} :
      Visit log session (.ended session.id (log.discard session.id).2)
        ((log.discard session.id).1.note (.closed session.id (log.discard session.id).2))
        { session with ended := true }

inductive Visits : Log → Session → List Deed → Log → Session → Prop where
  | nil {log : Log} {session : Session} : Visits log session [] log session
  | cons {log middle after : Log} {session between moved : Session} {deed : Deed}
      {deeds : List Deed} (live : session.ended = false) :
      Visit log session deed middle between → Visits middle between deeds after moved →
        Visits log session (deed :: deeds) after moved

variable {log middle after : Log} {session between moved : Session} {deed : Deed}
  {first others deeds : List Deed}

theorem Visit.pass (visit : Visit log session deed after moved) : Log.Pass log deed after := by
  cases visit with
  | aside pass => exact pass
  | read found => exact .read found
  | positioned inside => exact .positioned
  | sought found => exact .sought
  | ended => exact .ended

theorem Visits.passes (visits : Visits log session deeds after moved) :
    Log.Passes log deeds after := by
  induction visits with
  | nil => exact .nil
  | cons _ visit _ ih => exact .cons visit.pass ih

theorem Visits.one (live : session.ended = false) (visit : Visit log session deed after moved) :
    Visits log session [deed] after moved :=
  .cons live visit .nil

theorem Visits.append (left : Visits log session first middle between)
    (right : Visits middle between others after moved) :
    Visits log session (first ++ others) after moved := by
  induction left with
  | nil => exact right
  | cons live visit _ ih => exact .cons live visit (ih right)

theorem Deed.ofResult_all (p : Deed → Bool) (interrupted : p .interrupted = true)
    (looked : p .looked = true) {found : β → Deed} (all : ∀ result, p (found result) = true)
    (result : Except Fault β) : p (.ofResult found result) = true := by
  cases result with
  | ok result => exact all result
  | error fault =>
    cases fault with
    | interrupted => exact interrupted
    | _ => exact looked

namespace Channel

variable {channel result : Channel}

-- The deeds lead from one state of a channel to another.
def Makes (channel : Channel) (deeds : List Deed) (result : Channel) : Prop :=
  Visits channel.shared.log channel.session deeds result.shared.log result.session

theorem Makes.append {middle : Channel} (left : channel.Makes first middle)
    (right : middle.Makes others result) : channel.Makes (first ++ others) result :=
  Visits.append left right

theorem write_makes (live : channel.session.ended = false) (chunk : Bytes) :
    channel.Makes (channel.writeDeeds chunk) (channel.write chunk).1 := by
  unfold writeDeeds SharedLog.writeDeeds Channel.write Makes
  cases filled : chunk.isEmpty with
  | true =>
    unfold SharedLog.write
    rw [filled]
    exact .nil
  | false =>
    exact .one live (.aside (SharedLog.write_pass filled)
      (Deed.ofResult_all Deed.leavesSession rfl rfl (fun _ => rfl) _))

theorem read_makes (live : channel.session.ended = false) (limit : Nat) :
    channel.Makes (channel.readDeeds limit) (channel.read limit).1 := by
  refine .one live ?_
  unfold Channel.read
  rcases made : channel.shared.read channel.session.handle channel.session.cursor limit
    channel.since with ⟨shared, fault | ⟨data, cursor⟩⟩
  · rcases SharedLog.enter_cases made with ⟨same, result⟩ | ⟨same, result⟩
    · cases result
      dsimp only
      rw [same]
      exact .aside .interrupted rfl
    · obtain ⟨kept, _, _, _, rfl⟩ := Log.read_fault result.symm
      dsimp only
      rw [same, kept]
      exact .aside .looked rfl
  · rcases SharedLog.enter_cases made with ⟨same, result⟩ | ⟨same, result⟩
    · cases result
    · dsimp only
      rw [same]
      exact .read result.symm

@[simp] theorem read_ended (channel : Channel) (limit : Nat) :
    (channel.read limit).1.session.ended = channel.session.ended := by
  unfold Channel.read
  split <;> rfl

theorem readAt_makes (live : channel.session.ended = false) (cursor : UInt64) (limit : Nat) :
    channel.Makes (channel.deeds (.readAt cursor limit)) (channel.readAt cursor limit).1 :=
  .one live (.aside (SharedLog.fetch_pass cursor limit none)
    (Deed.ofResult_all Deed.leavesSession rfl rfl (fun _ => rfl) _))

theorem seekTo_makes (live : channel.session.ended = false) (index offset : Nat) :
    channel.Makes (channel.deeds (.seekTo index offset)) (channel.seekTo index offset).1 := by
  refine .one live ?_
  unfold Channel.seekTo
  rcases made : channel.shared.locate channel.session.handle index offset with
    ⟨shared, fault | ⟨cursor, generation⟩⟩
  · rcases SharedLog.enter_cases made with ⟨same, result⟩ | ⟨same, result⟩
    · cases result
      dsimp only
      rw [same]
      exact .aside .interrupted rfl
    · obtain ⟨_, rfl⟩ := Log.locate_fault result.symm
      dsimp only
      rw [same]
      exact .aside .looked rfl
  · rcases SharedLog.enter_cases made with ⟨same, result⟩ | ⟨same, result⟩
    · cases result
    · obtain ⟨place, found, rfl, rfl⟩ := Log.locate_found result.symm
      have noted : ∀ event, (shared.note event).log = shared.log.note event := fun _ => rfl
      dsimp only [positioned]
      rw [noted, same]
      exact .sought found

theorem seek_makes (live : channel.session.ended = false) (whence : Whence) :
    channel.Makes (channel.seekDeeds whence) (channel.seek whence).1 := by
  refine .one live ?_
  unfold Channel.seek
  rcases made : channel.shared.extent channel.session.handle with
    ⟨shared, fault | ⟨total, generation⟩⟩
  · rcases SharedLog.enter_cases made with ⟨same, result⟩ | ⟨same, result⟩
    · cases result
      dsimp only
      rw [same]
      exact .aside .interrupted rfl
    · cases result
  · rcases SharedLog.enter_cases made with ⟨same, result⟩ | ⟨same, result⟩
    · cases result
    · cases result
      dsimp only
      split
      · rename_i inside
        dsimp only [positioned]
        rw [same]
        exact .positioned (Int.toNat_le.mpr inside.2)
      · dsimp only
        rw [same]
        exact .aside .looked rfl

theorem release_makes (handle : Option Handle) :
    channel.Makes (channel.releaseDeeds handle) (channel.release handle).1 := by
  unfold releaseDeeds Channel.release
  cases live : channel.session.ended with
  | true => exact .nil
  | false =>
    simp only [Bool.false_eq_true, if_false]
    refine .one live ?_
    rcases made : channel.shared.discard handle channel.session.id with ⟨shared, fault | lost⟩
    · rcases SharedLog.enter_cases made with ⟨same, result⟩ | ⟨same, result⟩
      · cases result
        dsimp only
        rw [same]
        exact .aside .interrupted rfl
      · cases result
    · rcases SharedLog.enter_cases made with ⟨same, result⟩ | ⟨same, result⟩
      · cases result
      · cases result
        have noted : ∀ event, (shared.note event).log = shared.log.note event := fun _ => rfl
        dsimp only
        rw [noted, same]
        exact .ended

theorem close_makes (channel : Channel) : channel.Makes channel.closeDeeds channel.close.1 :=
  (release_makes channel.session.handle).append (release_makes none)

theorem persist_makes {call : Channel → Channel × Except Fault β} {deeds : Channel → List Deed}
    (live : channel.session.ended = false)
    (makes : ∀ channel : Channel, channel.session.ended = false →
      channel.Makes (deeds channel) (call channel).1)
    (stays : ∀ channel : Channel, (call channel).1.session.ended = channel.session.ended) :
    channel.Makes (channel.persistDeeds call deeds) (channel.persist call).1 := by
  have once := makes channel live
  have still := stays channel
  unfold persistDeeds Channel.persist
  rcases made : call channel with ⟨after, fault | found⟩
  · rw [made] at once still
    cases fault with
    | interrupted => exact once.append (makes after (still.trans live))
    | _ => exact once
  · rw [made] at once
    exact once

theorem persist_ended {call : Channel → Channel × Except Fault β}
    (stays : ∀ channel : Channel, (call channel).1.session.ended = channel.session.ended)
    (channel : Channel) : (channel.persist call).1.session.ended = channel.session.ended := by
  have still := stays channel
  unfold Channel.persist
  rcases made : call channel with ⟨after, fault | found⟩
  · rw [made] at still
    cases fault with
    | interrupted => exact (stays after).trans still
    | _ => exact still
  · rw [made] at still
    exact still

theorem persist_read_makes (live : channel.session.ended = false) (limit : Nat) :
    channel.Makes (channel.persistDeeds (·.read limit) (·.readDeeds limit))
        (channel.persist (·.read limit)).1 ∧
      (channel.persist (·.read limit)).1.session.ended = false :=
  ⟨persist_makes live (fun _ live => read_makes live limit) (read_ended · limit),
    (persist_ended (read_ended · limit) channel).trans live⟩

theorem drain_makes (live : channel.session.ended = false) (limit : Nat) (pieces : List Bytes)
    (budget : Nat) :
    channel.Makes (channel.drainDeeds limit budget) (channel.drain limit pieces budget).1 := by
  induction budget generalizing channel pieces with
  | zero => exact .nil
  | succ budget ih =>
    have once := read_makes live limit
    have still := (read_ended channel limit).trans live
    unfold drainDeeds drain
    rcases made : channel.read limit with ⟨after, fault | data⟩
    · rw [made] at once
      simpa using once
    · rw [made] at once still
      dsimp only
      split
      · simpa using once
      · exact once.append (ih still _)

theorem fill_makes (live : channel.session.ended = false) (pieces : List Bytes)
    (budget wanted : Nat) :
    channel.Makes (channel.fillDeeds budget wanted) (channel.fill pieces budget wanted).1 := by
  induction budget generalizing channel pieces wanted with
  | zero => cases wanted <;> exact .nil
  | succ budget ih =>
    cases wanted with
    | zero => exact .nil
    | succ wanted =>
      obtain ⟨once, still⟩ := persist_read_makes live (wanted + 1)
      unfold fillDeeds fill
      rcases made : channel.persist (·.read (wanted + 1)) with ⟨after, fault | data⟩
      · rw [made] at once
        simpa using once
      · rw [made] at once still
        dsimp only
        split
        · simpa using once
        · exact once.append (ih still _ _)

theorem gather_makes (live : channel.session.ended = false) (pieces : List Bytes) (budget : Nat) :
    channel.Makes (channel.gatherDeeds budget) (channel.gather pieces budget).1 := by
  induction budget generalizing channel pieces with
  | zero => exact .nil
  | succ budget ih =>
    obtain ⟨once, still⟩ := persist_read_makes live channel.shared.log.heldBytes
    unfold gatherDeeds gather
    rcases made : channel.persist (·.read channel.shared.log.heldBytes) with ⟨after, fault | data⟩
    · rw [made] at once
      simpa using once
    · rw [made] at once still
      dsimp only
      split
      · simpa using once
      · exact once.append (ih still _)

theorem answer_makes (live : channel.session.ended = false) (call : SessionCall) :
    channel.Makes (channel.deeds call) (channel.answer call).1 := by
  cases call with
  | write chunk => exact write_makes live chunk
  | read limit => exact read_makes live limit
  | readAll limit => exact drain_makes live limit [] _
  | readAt cursor limit => exact readAt_makes live cursor limit
  | seekTo index offset => exact seekTo_makes live index offset
  | seek whence => exact seek_makes live whence
  | settings => exact .nil
  | close => exact close_makes channel
  | drop => exact release_makes none

theorem readToEnd_makes (live : channel.session.ended = false) :
    channel.Makes (channel.gatherDeeds (channel.shared.log.heldBytes + 1)) channel.readToEnd.1 := by
  have made := gather_makes live [] (channel.shared.log.heldBytes + 1)
  unfold readToEnd
  dsimp only
  split
  · exact made
  · exact made

theorem readToString_channel (channel : Channel) :
    channel.readToString.1 = channel.readToEnd.1 := by
  unfold readToString
  split
  · rename_i made
    rw [made]
  · rename_i made
    split
    · rw [made]
    · rw [made]

theorem answerStream_makes (live : channel.session.ended = false) (call : StreamCall) :
    channel.Makes (channel.streamDeeds call) (channel.answerStream call).1 := by
  cases call with
  | read limit => exact read_makes live limit
  | readExact wanted => exact fill_makes live [] wanted wanted
  | readToEnd => exact readToEnd_makes live
  | readToString => exact (readToString_channel channel).symm ▸ readToEnd_makes live
  | write chunk => exact write_makes live chunk
  | writeAll chunk =>
    exact persist_makes live (fun _ live => write_makes live chunk) (fun _ => rfl)
  | flush => exact .nil
  | seek whence => exact seek_makes live whence
  | rewind => exact seek_makes live (.start 0)
  | position => exact seek_makes live (.current 0)

theorem repeat_makes (live : channel.session.ended = false) (chunk : Bytes) (times : Nat) :
    channel.Makes (channel.repeatDeeds chunk times)
        (Nat.repeat (fun channel => (channel.write chunk).1) times channel) ∧
      (Nat.repeat (fun channel => (channel.write chunk).1) times channel).session =
        channel.session := by
  induction times with
  | zero => exact ⟨.nil, rfl⟩
  | succ times ih =>
    obtain ⟨made, same⟩ := ih
    exact ⟨made.append (write_makes (same ▸ live) chunk), same⟩

end Channel

namespace SharedLog

variable {shared : SharedLog}

theorem burstOnce_passes (times : Nat) (chunk : Bytes) :
    Log.Passes shared.log (shared.burstOnceDeeds times chunk)
      (shared.burstOnce times chunk).log := by
  have live : (Channel.ofShared shared none).session.ended = false := rfl
  obtain ⟨writes, _⟩ := Channel.repeat_makes live chunk times
  exact .cons .opened ((writes.append (Channel.release_makes none)).passes)

theorem burst_passes (writers times : Nat) (chunk : Bytes) :
    Log.Passes shared.log (shared.burstDeeds times chunk writers)
      (shared.burst writers times chunk).log := by
  induction writers with
  | zero => exact .nil
  | succ writers ih => exact ih.append (burstOnce_passes times chunk)

end SharedLog

-- A station without its flags.
structure Scene where
  log : Log
  sessions : List Session

def Station.scene (station : Station) : Scene :=
  ⟨station.shared.log, station.sessions⟩

namespace Scene

inductive Pass : Scene → Entry → Scene → Prop where
  | opened {scene : Scene} :
      Pass scene (some scene.sessions.length, .opened scene.log.admitSession.2)
        ⟨scene.log.admitSession.1, scene.sessions ++ [⟨scene.log.admitSession.2,
          some (.session scene.sessions.length), 0, scene.log.generation, false⟩]⟩
  | visit {scene : Scene} {number : Nat} {session moved : Session} {deed : Deed} {after : Log}
      (present : scene.sessions[number]? = some session) (live : session.ended = false)
      (visit : Visit scene.log session deed after moved) :
      Pass scene (some number, deed) ⟨after, scene.sessions.set number moved⟩
  | log {scene : Scene} {deed : Deed} {after : Log} (pass : Log.Pass scene.log deed after) :
      Pass scene (none, deed) ⟨after, scene.sessions⟩

inductive Passes : Scene → List Entry → Scene → Prop where
  | nil {scene : Scene} : Passes scene [] scene
  | cons {scene middle after : Scene} {entry : Entry} {entries : List Entry} :
      Pass scene entry middle → Passes middle entries after → Passes scene (entry :: entries) after

variable {scene middle after : Scene} {entries : List Entry}

theorem Passes.append {former latter : List Entry} (left : Passes scene former middle)
    (right : Passes middle latter after) : Passes scene (former ++ latter) after := by
  induction left with
  | nil => exact right
  | cons pass _ ih => exact .cons pass (ih right)

theorem Pass.log_pass {entry : Entry} (pass : Pass scene entry after) :
    Log.Pass scene.log entry.2 after.log := by
  cases pass with
  | opened => exact .opened
  | visit present live visit => exact visit.pass
  | log pass => exact pass

theorem Passes.log_passes (passes : Passes scene entries after) :
    Log.Passes scene.log (entries.map Prod.snd) after.log := by
  induction passes with
  | nil => exact .nil
  | cons pass _ ih => exact .cons pass.log_pass ih

theorem get?_opened {sessions : List Session} {number : Nat} (session : Session)
    (other : number ≠ sessions.length) :
    (sessions ++ [session])[number]? = sessions[number]? := by
  rcases Nat.lt_or_gt_of_ne other with before | behind
  · rw [List.getElem?_append_left before]
  · rw [List.getElem?_eq_none (Nat.le_of_lt behind), List.getElem?_eq_none]
    rw [List.length_append]
    exact behind

-- What a pass is to one of the sessions: its opening, a visit of it, or something else.
inductive Sight (scene : Scene) (number : Nat) (entry : Entry) (after : Scene) : Prop where
  | opened (own : entry = (some number, .opened scene.log.admitSession.2))
      (absent : scene.sessions[number]? = none)
      (there : after.sessions[number]? = some ⟨scene.log.admitSession.2, some (.session number), 0,
        scene.log.generation, false⟩) : Sight scene number entry after
  | visited {session moved : Session} (own : entry.1 = some number)
      (present : scene.sessions[number]? = some session) (live : session.ended = false)
      (visit : Visit scene.log session entry.2 after.log moved)
      (there : after.sessions[number]? = some moved) : Sight scene number entry after
  | elsewhere (other : entry.1 ≠ some number)
      (same : after.sessions[number]? = scene.sessions[number]?) : Sight scene number entry after

theorem Pass.sight {entry : Entry} (pass : Pass scene entry after) (number : Nat) :
    scene.Sight number entry after := by
  cases pass with
  | opened =>
    by_cases same : scene.sessions.length = number
    · subst same
      exact .opened rfl (List.getElem?_eq_none (Nat.le_refl _)) List.getElem?_concat_length
    · exact .elsewhere (same ∘ Option.some.inj) (get?_opened _ (Ne.symm same))
  | @visit mover session moved deed after present live visit =>
    by_cases same : mover = number
    · subst same
      exact .visited rfl present live visit
        (List.getElem?_set_self (List.getElem?_eq_some_iff.mp present).1)
    · exact .elsewhere (same ∘ Option.some.inj) (List.getElem?_set_ne same)
  | log pass => exact .elsewhere nofun rfl

theorem Passes.split {former latter : List Entry} (passes : Passes scene (former ++ latter) after) :
    ∃ middle, Passes scene former middle ∧ Passes middle latter after := by
  induction former generalizing scene with
  | nil => exact ⟨scene, .nil, passes⟩
  | cons entry former ih =>
    cases passes with
    | cons pass rest =>
      obtain ⟨middle, before, behind⟩ := ih rest
      exact ⟨middle, .cons pass before, behind⟩

theorem passes_of_visits {number : Nat} {log after : Log} {session moved : Session}
    {deeds : List Deed} {sessions : List Session} (present : sessions[number]? = some session)
    (visits : Visits log session deeds after moved) :
    Passes ⟨log, sessions⟩ (deeds.map (some number, ·)) ⟨after, sessions.set number moved⟩ := by
  induction visits generalizing sessions with
  | @nil log session =>
    obtain ⟨inside, same⟩ := List.getElem?_eq_some_iff.mp present
    rw [← same, List.set_getElem_self]
    exact .nil
  | @cons log middle after session between moved deed deeds live visit _ ih =>
    have placed : (sessions.set number between)[number]? = some between := by
      rw [List.getElem?_set_self (List.getElem?_eq_some_iff.mp present).1]
    have rest := ih placed
    rw [List.set_set] at rest
    exact .cons (.visit present live visit) rest

theorem passes_of_log {log after : Log} {deeds : List Deed} {sessions : List Session}
    (passes : Log.Passes log deeds after) :
    Passes ⟨log, sessions⟩ (deeds.map (none, ·)) ⟨after, sessions⟩ := by
  induction passes with
  | nil => exact .nil
  | cons pass _ ih => exact .cons (.log pass) ih

end Scene

namespace Station

variable {station : Station}

theorem session?_some {number : Nat} {session : Session}
    (found : station.session? number = some session) :
    station.sessions[number]? = some session ∧ session.ended = false := by
  obtain ⟨present, live⟩ := Option.filter_eq_some_iff.mp found
  exact ⟨present, by simpa using live⟩

theorem set_present {number : Nat} {session : Session}
    (present : station.session? number = some session) :
    station.sessions.set number session = station.sessions := by
  obtain ⟨inside, same⟩ := List.getElem?_eq_some_iff.mp (session?_some present).1
  rw [← same, List.set_getElem_self]

theorem session?_set {number : Nat} {session : Session}
    (present : station.session? number = some session) (shared : SharedLog) (moved : Session)
    (live : moved.ended = session.ended) :
    session? ⟨shared, station.sessions.set number moved⟩ number = some moved := by
  obtain ⟨placed, opened⟩ := session?_some present
  have inside := (List.getElem?_eq_some_iff.mp placed).1
  simp [session?, List.getElem?_set_self inside, live, opened]

theorem visit_some {number : Nat} {session : Session}
    (present : station.session? number = some session) (act : Channel → Channel × Reply) :
    station.visit number act = (⟨(act ⟨station.shared, session⟩).1.shared,
      station.sessions.set number (act ⟨station.shared, session⟩).1.session⟩,
        (act ⟨station.shared, session⟩).2) := by
  unfold visit
  rw [present]

theorem visit_none {number : Nat} (absent : station.session? number = none)
    (act : Channel → Channel × Reply) : station.visit number act = (station, .absent) := by
  unfold visit
  rw [absent]

theorem visitDeeds_some {number : Nat} {session : Session}
    (present : station.session? number = some session) (deeds : Channel → List Deed) :
    station.visitDeeds number deeds = (deeds ⟨station.shared, session⟩).map (some number, ·) := by
  unfold visitDeeds
  rw [present]

theorem visit_passes (number : Nat) {act : Channel → Channel × Reply}
    {deeds : Channel → List Deed}
    (makes : ∀ channel : Channel, channel.session.ended = false →
      channel.Makes (deeds channel) (act channel).1) :
    Scene.Passes station.scene (station.visitDeeds number deeds)
      (station.visit number act).1.scene := by
  unfold visitDeeds visit
  cases found : station.session? number with
  | none => exact .nil
  | some session =>
    obtain ⟨present, live⟩ := session?_some found
    exact Scene.passes_of_visits present (makes ⟨station.shared, session⟩ live)

theorem step_passes (station : Station) (call : Call) :
    Scene.Passes station.scene (station.deeds call) (station.step call).1.scene := by
  cases call with
  | openSession => exact .cons .opened .nil
  | session number call => exact visit_passes number fun _ live => Channel.answer_makes live call
  | stream number call =>
    exact visit_passes number fun _ live => Channel.answerStream_makes live call
  | log handle call => exact Scene.passes_of_log (SharedLog.answer_passes call)
  | handle handle call => cases call <;> exact .nil
  | burst writers times chunk =>
    exact Scene.passes_of_log (SharedLog.burst_passes writers times chunk)

theorem run_passes (station : Station) (calls : List Call) :
    Scene.Passes station.scene (station.history calls) (station.run calls).1.scene := by
  induction calls generalizing station with
  | nil => exact .nil
  | cons call calls ih => exact (step_passes station call).append (ih _)

end Station

end CircularLog
