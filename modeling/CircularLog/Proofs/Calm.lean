import CircularLog.Proofs.Visits
import CircularLog.Proofs.Writing

namespace CircularLog

-- A deed that sets no cursor; opening sets one too, but always the same.
def Deed.keepsCursors : Deed → Bool
  | .read _ | .positioned _ => false
  | _ => true

-- No cursor is set among records that come and go.
def Calm (entries : List Entry) : Prop :=
  entries.all (·.2.keepsRecords) = true ∨ entries.all (·.2.keepsCursors) = true

variable {β : Type}

theorem Deed.ofResult_alone (p : Deed → Bool) (interrupted : p .interrupted = true)
    (looked : p .looked = true) {found : β → Deed} (all : ∀ result, p (found result) = true)
    (result : Except Fault β) : [Deed.ofResult found result].all p = true := by
  rw [List.all_cons, ofResult_all p interrupted looked all]
  rfl

theorem SharedLog.writeDeeds_keep (shared : SharedLog) (handle : Option Handle) (id : SessionId)
    (chunk : Bytes) : (shared.writeDeeds handle id chunk).all Deed.keepsCursors = true := by
  unfold writeDeeds
  split
  · rfl
  · exact Deed.ofResult_alone _ rfl rfl (fun _ => rfl) _

namespace Channel

theorem releaseDeeds_keep (channel : Channel) (handle : Option Handle) :
    (channel.releaseDeeds handle).all Deed.keepsCursors = true := by
  unfold releaseDeeds
  split
  · rfl
  · exact Deed.ofResult_alone _ rfl rfl (fun _ => rfl) _

theorem closeDeeds_keep (channel : Channel) :
    channel.closeDeeds.all Deed.keepsCursors = true := by
  unfold closeDeeds
  rw [List.all_append, releaseDeeds_keep, releaseDeeds_keep]
  rfl

theorem persistDeeds_all (p : Deed → Bool) {call : Channel → Channel × Except Fault β}
    {deeds : Channel → List Deed} (each : ∀ channel, (deeds channel).all p = true)
    (channel : Channel) : (channel.persistDeeds call deeds).all p = true := by
  unfold persistDeeds
  split
  · rw [List.all_append, each, each]
    rfl
  · exact each channel

theorem readDeeds_keep (channel : Channel) (limit : Nat) :
    (channel.readDeeds limit).all Deed.keepsRecords = true :=
  Deed.ofResult_alone _ rfl rfl (fun _ => rfl) _

theorem seekDeeds_keep (channel : Channel) (whence : Whence) :
    (channel.seekDeeds whence).all Deed.keepsRecords = true :=
  Deed.ofResult_alone _ rfl rfl (fun _ => rfl) _

theorem drainDeeds_keep (limit budget : Nat) (channel : Channel) :
    (channel.drainDeeds limit budget).all Deed.keepsRecords = true := by
  induction budget generalizing channel with
  | zero => rfl
  | succ budget ih =>
    rw [drainDeeds, List.all_append, readDeeds_keep]
    split
    · rfl
    · split
      · rfl
      · exact ih _

theorem fillDeeds_keep (budget wanted : Nat) (channel : Channel) :
    (channel.fillDeeds budget wanted).all Deed.keepsRecords = true := by
  induction budget generalizing channel wanted with
  | zero => cases wanted <;> rfl
  | succ budget ih =>
    cases wanted with
    | zero => rfl
    | succ wanted =>
      rw [fillDeeds, List.all_append, persistDeeds_all _ (readDeeds_keep · (wanted + 1))]
      split
      · rfl
      · split
        · rfl
        · exact ih _ _

theorem gatherDeeds_keep (budget : Nat) (channel : Channel) :
    (channel.gatherDeeds budget).all Deed.keepsRecords = true := by
  induction budget generalizing channel with
  | zero => rfl
  | succ budget ih =>
    rw [gatherDeeds, List.all_append, persistDeeds_all _ (readDeeds_keep · _)]
    split
    · rfl
    · split
      · rfl
      · exact ih _

theorem repeatDeeds_keep (chunk : Bytes) (times : Nat) (channel : Channel) :
    (channel.repeatDeeds chunk times).all Deed.keepsCursors = true := by
  induction times with
  | zero => rfl
  | succ times ih =>
    rw [repeatDeeds, List.all_append, ih]
    exact SharedLog.writeDeeds_keep _ _ _ _

theorem deeds_keep (channel : Channel) (call : SessionCall) :
    (channel.deeds call).all Deed.keepsRecords = true ∨
      (channel.deeds call).all Deed.keepsCursors = true := by
  cases call with
  | write chunk => exact .inr (SharedLog.writeDeeds_keep _ _ _ _)
  | read limit => exact .inl (channel.readDeeds_keep limit)
  | readAll limit => exact .inl (drainDeeds_keep _ _ _)
  | readAt cursor limit => exact .inl (Deed.ofResult_alone _ rfl rfl (fun _ => rfl) _)
  | seekTo index offset => exact .inl (Deed.ofResult_alone _ rfl rfl (fun _ => rfl) _)
  | seek whence => exact .inl (channel.seekDeeds_keep whence)
  | settings => exact .inl rfl
  | close => exact .inr channel.closeDeeds_keep
  | drop => exact .inr (channel.releaseDeeds_keep none)

theorem streamDeeds_keep (channel : Channel) (call : StreamCall) :
    (channel.streamDeeds call).all Deed.keepsRecords = true ∨
      (channel.streamDeeds call).all Deed.keepsCursors = true := by
  cases call with
  | read limit => exact .inl (channel.readDeeds_keep limit)
  | readExact wanted => exact .inl (fillDeeds_keep _ _ _)
  | readToEnd => exact .inl (gatherDeeds_keep _ _)
  | readToString => exact .inl (gatherDeeds_keep _ _)
  | write chunk => exact .inr (SharedLog.writeDeeds_keep _ _ _ _)
  | writeAll chunk =>
    have each : ∀ channel : Channel, (channel.writeDeeds chunk).all Deed.keepsCursors = true :=
      fun _ => SharedLog.writeDeeds_keep _ _ _ _
    unfold streamDeeds
    exact .inr (persistDeeds_all _ each channel)
  | flush => exact .inl rfl
  | seek whence => exact .inl (channel.seekDeeds_keep whence)
  | rewind => exact .inl (channel.seekDeeds_keep _)
  | position => exact .inl (channel.seekDeeds_keep _)

end Channel

namespace SharedLog

theorem deeds_keep (shared : SharedLog) (handle : Option Handle) (call : LogCall) :
    (shared.deeds handle call).all Deed.keepsCursors = true := by
  cases call with
  | write id chunk => exact shared.writeDeeds_keep handle id chunk
  | settings => rfl
  | _ => exact Deed.ofResult_alone _ rfl rfl (fun _ => rfl) _

theorem burstDeeds_keep (times : Nat) (chunk : Bytes) (writers : Nat) (shared : SharedLog) :
    (shared.burstDeeds times chunk writers).all Deed.keepsCursors = true := by
  induction writers with
  | zero => rfl
  | succ writers ih =>
    rw [burstDeeds, List.all_append, ih, burstOnceDeeds, List.all_append, List.all_cons,
      Channel.repeatDeeds_keep, Channel.releaseDeeds_keep]
    rfl

end SharedLog

namespace Station

variable {station : Station} {number : Nat}

theorem visitDeeds_calm {deeds : Channel → List Deed}
    (keep : ∀ channel, (deeds channel).all Deed.keepsRecords = true ∨
      (deeds channel).all Deed.keepsCursors = true) :
    Calm (station.visitDeeds number deeds) := by
  unfold visitDeeds
  cases station.session? number with
  | none => exact .inl rfl
  | some session =>
    unfold Calm
    rw [List.all_map, List.all_map]
    exact keep _

theorem deeds_calm (station : Station) (call : Call) : Calm (station.deeds call) := by
  cases call with
  | openSession => exact .inl rfl
  | session number call => exact visitDeeds_calm fun channel => channel.deeds_keep call
  | stream number call => exact visitDeeds_calm fun channel => channel.streamDeeds_keep call
  | log handle call =>
    refine .inr ?_
    unfold deeds
    rw [List.all_map]
    exact station.shared.deeds_keep handle call
  | handle handle call => exact .inl rfl
  | burst writers times chunk =>
    refine .inr ?_
    unfold deeds
    rw [List.all_map]
    exact station.shared.burstDeeds_keep times chunk writers

end Station

end CircularLog
