import CircularLog.Channel.Stream

namespace CircularLog

variable {β γ σ : Type}

-- The same answer, with related states behind it.
def Same (rel : σ → σ → Prop) (result other : σ × γ) : Prop :=
  other.2 = result.2 ∧ rel result.1 other.1

theorem Same.split {rel : σ → σ → Prop} {result other : σ × γ} (same : Same rel result other) :
    ∃ state state' answer, result = (state, answer) ∧ other = (state', answer) ∧
      rel state state' := by
  obtain ⟨state, answer⟩ := result
  obtain ⟨state', answer'⟩ := other
  obtain ⟨told, after⟩ := same
  exact ⟨state, state', answer, rfl, congrArg (state', ·) told, after⟩

theorem Same.map {rel : σ → σ → Prop} {result other : σ × β} (same : Same rel result other)
    (tell : β → γ) : Same rel (result.map id tell) (other.map id tell) :=
  ⟨congrArg tell same.1, same.2⟩

-- What is done from a state moved is what is done from the state, and its result is moved.
def Commutes (move : σ → σ) (retell : γ → γ) (act : σ → σ × γ) : Prop :=
  ∀ state, act (move state) = (act state).map move retell

theorem Commutes.map {move : σ → σ} {act : σ → σ × β} (commutes : Commutes move id act)
    {retell : γ → γ} (tell : β → γ) (plain : ∀ told, retell (tell told) = tell told) :
    Commutes move retell fun state => (act state).map id tell := by
  intro state
  have moved := congrArg (Prod.map id tell) (commutes state)
  exact moved.trans (congrArg (Prod.mk _) (plain _).symm)

def faultOf : Except Fault β → Option Fault
  | .error fault => some fault
  | .ok _ => none

def streamFaultOf : Except StreamFault β → Option Fault
  | .error (.log fault) => some fault
  | _ => none

namespace Channel

theorem persist_commutes {move : Channel → Channel} {call : Channel → Channel × Except Fault β}
    (commutes : Commutes move id call) : Commutes move id (persist call) := by
  intro channel
  unfold persist
  rw [commutes channel]
  rcases call channel with ⟨after, fault | found⟩
  · cases fault with
    | interrupted => exact commutes after
    | _ => rfl
  · rfl

section Ends

variable {move : Channel → Channel}
  (released : ∀ handle, Commutes move id fun channel => channel.release handle)
include released

theorem drop_commutes (channel : Channel) : (move channel).drop = move channel.drop :=
  congrArg Prod.fst (released none channel)

theorem close_commutes
    (handle : ∀ channel, (move channel).session.handle = channel.session.handle) :
    Commutes move id close := by
  intro channel
  have once := released channel.session.handle channel
  dsimp only at once
  simp only [close, handle, once]
  exact congrArg (·, _) (drop_commutes released _)

end Ends

-- The same answer without any of the faults that are `barred`, and related channels behind it.
structure InStep (rel : Channel → Channel → Prop) (barred : Fault → Bool)
    (fault? : γ → Option Fault) (result other : Channel × γ) : Prop where
  same : Same rel result other
  plain : (fault? result.2).any barred = false

variable {rel : Channel → Channel → Prop} {barred : Fault → Bool} {channel other : Channel}

theorem InStep.of_same {fault? : γ → Option Fault} {result other : Channel × γ}
    (same : Same rel result other) : InStep rel (fun _ => false) fault? result other := by
  refine ⟨same, ?_⟩
  cases fault? result.2 <;> rfl

theorem InStep.split {fault? : γ → Option Fault} {result other : Channel × γ}
    (inStep : InStep rel barred fault? result other) :
    ∃ after after' answer, result = (after, answer) ∧ other = (after', answer) ∧
      rel after after' ∧ (fault? answer).any barred = false := by
  obtain ⟨after, after', answer, rfl, rfl, related⟩ := inStep.same.split
  exact ⟨after, after', answer, rfl, rfl, related, inStep.plain⟩

theorem persist_inStep {call : Channel → Channel × Except Fault β}
    (calls : ∀ {channel other}, rel channel other →
      InStep rel barred faultOf (call channel) (call other))
    (related : rel channel other) :
    InStep rel barred faultOf (channel.persist call) (other.persist call) := by
  obtain ⟨_, _, result, made, made', after, plain⟩ := (calls related).split
  unfold persist
  rw [made, made']
  cases result with
  | error fault =>
    cases fault with
    | interrupted => exact calls after
    | _ => exact ⟨⟨rfl, after⟩, plain⟩
  | ok found => exact ⟨⟨rfl, after⟩, plain⟩

structure ReadsInStep (rel : Channel → Channel → Prop) (barred : Fault → Bool) : Prop where
  heldBytes {channel other : Channel} :
    rel channel other → other.shared.log.heldBytes = channel.shared.log.heldBytes
  read {channel other : Channel} (limit : Nat) : rel channel other →
    InStep rel barred faultOf (channel.read limit) (other.read limit)

namespace ReadsInStep

variable (reads : ReadsInStep rel barred)
include reads

theorem persist (related : rel channel other) (limit : Nat) :
    InStep rel barred faultOf (channel.persist (·.read limit)) (other.persist (·.read limit)) :=
  persist_inStep (reads.read limit) related

theorem drain (related : rel channel other) (limit : Nat) (pieces : List Bytes) (budget : Nat) :
    InStep rel barred Prod.snd (channel.drain limit pieces budget)
      (other.drain limit pieces budget) := by
  induction budget generalizing channel other pieces with
  | zero => exact ⟨⟨rfl, related⟩, rfl⟩
  | succ budget ih =>
    obtain ⟨_, _, result, made, made', after, plain⟩ := (reads.read limit related).split
    unfold Channel.drain
    rw [made, made']
    cases result with
    | error fault => exact ⟨⟨rfl, after⟩, plain⟩
    | ok data =>
      dsimp only
      split
      · exact ⟨⟨rfl, after⟩, rfl⟩
      · exact ih after _

theorem readAll (related : rel channel other) (limit : Nat) :
    InStep rel barred Prod.snd (channel.readAll limit) (other.readAll limit) := by
  unfold Channel.readAll
  rw [reads.heldBytes related]
  exact reads.drain related limit [] _

theorem fill (related : rel channel other) (pieces : List Bytes) (budget wanted : Nat) :
    InStep rel barred streamFaultOf (channel.fill pieces budget wanted)
      (other.fill pieces budget wanted) := by
  induction budget generalizing channel other pieces wanted with
  | zero => cases wanted <;> exact ⟨⟨rfl, related⟩, rfl⟩
  | succ budget ih =>
    cases wanted with
    | zero => exact ⟨⟨rfl, related⟩, rfl⟩
    | succ wanted =>
      obtain ⟨_, _, result, made, made', after, plain⟩ := (reads.persist related _).split
      unfold Channel.fill
      rw [made, made']
      cases result with
      | error fault => exact ⟨⟨rfl, after⟩, plain⟩
      | ok data =>
        dsimp only
        split
        · exact ⟨⟨rfl, after⟩, rfl⟩
        · exact ih after _ _

theorem readExact (related : rel channel other) (wanted : Nat) :
    InStep rel barred streamFaultOf (channel.readExact wanted) (other.readExact wanted) :=
  reads.fill related [] wanted wanted

theorem gather (related : rel channel other) (pieces : List Bytes) (budget : Nat) :
    InStep rel barred Prod.snd (channel.gather pieces budget) (other.gather pieces budget) := by
  induction budget generalizing channel other pieces with
  | zero => exact ⟨⟨rfl, related⟩, rfl⟩
  | succ budget ih =>
    unfold Channel.gather
    rw [reads.heldBytes related]
    obtain ⟨_, _, result, made, made', after, plain⟩ := (reads.persist related _).split
    rw [made, made']
    cases result with
    | error fault => exact ⟨⟨rfl, after⟩, plain⟩
    | ok data =>
      dsimp only
      split
      · exact ⟨⟨rfl, after⟩, rfl⟩
      · exact ih after _

theorem readToEnd (related : rel channel other) :
    InStep rel barred (streamFaultOf ·.1) channel.readToEnd other.readToEnd := by
  unfold Channel.readToEnd
  rw [reads.heldBytes related]
  obtain ⟨_, _, ⟨pieces, fault⟩, made, made', after, plain⟩ := (reads.gather related [] _).split
  rw [made, made']
  cases fault with
  | none => exact ⟨⟨rfl, after⟩, rfl⟩
  | some fault => exact ⟨⟨rfl, after⟩, plain⟩

theorem readToString (related : rel channel other) :
    InStep rel barred streamFaultOf channel.readToString other.readToString := by
  unfold Channel.readToString
  obtain ⟨_, _, ⟨result, data⟩, made, made', after, plain⟩ := (reads.readToEnd related).split
  rw [made, made']
  cases result with
  | error fault =>
    refine ⟨⟨rfl, after⟩, ?_⟩
    cases fault with
    | log fault => exact plain
    | _ => rfl
  | ok count =>
    dsimp only
    split <;> exact ⟨⟨rfl, after⟩, rfl⟩

end ReadsInStep

end Channel

end CircularLog
