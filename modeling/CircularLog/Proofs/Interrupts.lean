import CircularLog.NamedGate
import Mathlib.Data.List.Induction
import Mathlib.Logic.Function.Basic

namespace CircularLog

namespace Turn

def ends (up : Bool) (now : Turn) : Bool :=
  up || now.raised || now.free

end Turn

namespace Gate

variable {κ α β : Type} [DecidableEq κ]

def seen (gate : Gate κ α) (key : κ) (now : Turn) : Flags κ :=
  if now.raised then gate.flags.raise key else gate.flags

theorem seen_isRaised (gate : Gate κ α) (key other : κ) (now : Turn) :
    (gate.seen key now).isRaised other =
      (gate.flags.isRaised other || (now.raised && other == key)) := by
  unfold seen
  cases now.raised <;> simp [Bool.or_comm]

theorem turn_raised {gate : Gate κ α} {key : κ} {now : Turn} (act : α → α × β)
    (raised : (gate.flags.isRaised key || now.raised) = true) :
    gate.turn key act now = (⟨gate.value, (gate.seen key now).lower key⟩, .interrupted) := by
  have looked : (gate.seen key now).isRaised key = true := by simpa [seen_isRaised] using raised
  simp only [turn]
  rw [← seen, if_pos looked]

theorem turn_lowered {gate : Gate κ α} {key : κ} {now : Turn} (act : α → α × β)
    (lowered : (gate.flags.isRaised key || now.raised) = false) :
    gate.turn key act now =
      if now.free then (⟨(act gate.value).1, gate.flags⟩, .done (act gate.value).2)
      else (gate, .waiting) := by
  obtain ⟨down, quiet⟩ := Bool.or_eq_false_iff.mp lowered
  simp [turn, down, quiet]

-- A wait is the one turn that ends it: the turns before leave everything as it was, and the turns
-- after do not take place.
theorem wait_eq (gate : Gate κ α) (key : κ) (act : α → α × β) (turns : List Turn) :
    gate.wait key act turns =
      match turns.find? (Turn.ends (gate.flags.isRaised key)) with
      | none => (gate, .waiting)
      | some now => gate.turn key act now := by
  induction turns with
  | nil => rfl
  | cons now turns ih =>
    rw [wait, List.find?_cons, Turn.ends]
    cases raised : gate.flags.isRaised key || now.raised with
    | true => simp [turn_raised act raised]
    | false =>
      rw [turn_lowered act raised]
      cases free : now.free with
      | true => simp [turn_lowered act raised, free]
      | false => simpa using ih

-- A wait may be told in pieces, with what others do in between.
theorem wait_append {gate : Gate κ α} {key : κ} {act : α → α × β} {turns : List Turn}
    (waiting : (gate.wait key act turns).2 = .waiting) (more : List Turn) :
    gate.wait key act (turns ++ more) = (gate.wait key act turns).1.wait key act more := by
  induction turns generalizing gate with
  | nil => rfl
  | cons now turns ih =>
    simp only [List.cons_append, wait] at waiting ⊢
    rcases turned : gate.turn key act now with ⟨after, _ | _ | result⟩
    · rw [turned] at waiting
      exact ih waiting
    · rw [turned] at waiting
      cases waiting
    · rw [turned] at waiting
      cases waiting

-- How a wait may go: by the first turn that finds the flag up or the gate free.
inductive Waits (gate : Gate κ α) (key : κ) (act : α → α × β) (turns : List Turn) :
    Gate κ α × Passage β → Prop where
  | waiting (endless : turns.find? (Turn.ends (gate.flags.isRaised key)) = none) :
      Waits gate key act turns (gate, .waiting)
  | interrupted {now : Turn}
      (ending : turns.find? (Turn.ends (gate.flags.isRaised key)) = some now)
      (raised : (gate.flags.isRaised key || now.raised) = true) :
      Waits gate key act turns (⟨gate.value, (gate.seen key now).lower key⟩, .interrupted)
  | done {now : Turn}
      (ending : turns.find? (Turn.ends (gate.flags.isRaised key)) = some now)
      (lowered : (gate.flags.isRaised key || now.raised) = false) :
      Waits gate key act turns (⟨(act gate.value).1, gate.flags⟩, .done (act gate.value).2)

theorem wait_waits (gate : Gate κ α) (key : κ) (act : α → α × β) (turns : List Turn) :
    Waits gate key act turns (gate.wait key act turns) := by
  rw [wait_eq]
  cases ending : turns.find? (Turn.ends (gate.flags.isRaised key)) with
  | none => exact .waiting ending
  | some now =>
    cases raised : gate.flags.isRaised key || now.raised with
    | true =>
      simp only [turn_raised act raised]
      exact .interrupted ending raised
    | false =>
      have free : now.free = true := by
        have ended := List.find?_some ending
        rwa [Turn.ends, raised, Bool.false_or] at ended
      simp only [turn_lowered act raised, if_pos free]
      exact .done ending raised

section Waits

variable {gate after : Gate κ α} {key : κ} {act : α → α × β} {turns : List Turn}
  {passage : Passage β}

theorem Waits.interrupted_iff (waits : Waits gate key act turns (after, passage)) :
    passage = .interrupted ↔ ∃ now, turns.find? (Turn.ends (gate.flags.isRaised key)) = some now ∧
      (gate.flags.isRaised key || now.raised) = true := by
  cases waits with
  | waiting endless => simp [endless]
  | interrupted ending raised => simpa [ending] using raised
  | done ending lowered => simpa [ending] using lowered

theorem Waits.done_iff (waits : Waits gate key act turns (after, passage)) (result : β) :
    passage = .done result ↔
      ∃ now, turns.find? (Turn.ends (gate.flags.isRaised key)) = some now ∧
        (gate.flags.isRaised key || now.raised) = false ∧ result = (act gate.value).2 := by
  cases waits with
  | waiting endless => simp [endless]
  | @interrupted now ending raised =>
    constructor
    · exact nofun
    · rintro ⟨last, last_ending, lowered, _⟩
      cases ending.symm.trans last_ending
      exact absurd (raised.symm.trans lowered) (by decide)
  | @done now ending lowered =>
    rw [Passage.done.injEq]
    constructor
    · intro same
      exact ⟨now, ending, lowered, same.symm⟩
    · rintro ⟨_, _, _, same⟩
      exact same.symm

theorem Waits.own_flag (waits : Waits gate key act turns (after, passage)) :
    after.flags.isRaised key = match passage with
      | .interrupted => false
      | _ => gate.flags.isRaised key ||
        (turns.find? (Turn.ends (gate.flags.isRaised key))).any Turn.raised := by
  cases waits with
  | waiting endless => simp [endless]
  | interrupted => simp
  | done ending lowered => simp [ending, (Bool.or_eq_false_iff.mp lowered).2]

theorem Waits.other_flag (waits : Waits gate key act turns (after, passage)) {other : κ}
    (apart : other ≠ key) : after.flags.isRaised other = gate.flags.isRaised other := by
  cases waits with
  | waiting => rfl
  | interrupted =>
    rw [Flags.isRaised_lower, seen_isRaised, bne_iff_ne.mpr apart, beq_false_of_ne apart,
      Bool.true_and, Bool.and_false, Bool.or_false]
  | done => rfl

theorem Waits.value (waits : Waits gate key act turns (after, passage)) :
    after.value = match passage with
      | .done _ => (act gate.value).1
      | _ => gate.value := by
  cases waits <;> rfl

end Waits

end Gate

inductive Mark where
  | raised
  | consumed
  deriving DecidableEq, Repr

namespace Mark

def up (marks : List Mark) : Bool :=
  marks.getLast? == some .raised

@[simp] theorem up_nil : up [] = false := rfl

@[simp] theorem up_raised (marks : List Mark) : up (marks ++ [.raised]) = true := by
  simp [up]

@[simp] theorem up_consumed (marks : List Mark) : up (marks ++ [.consumed]) = false := by
  simp [up]

-- Only a raised flag is consumed.
def Lawful (marks : List Mark) : Prop :=
  ∀ former latter, marks = former ++ .consumed :: latter → up former = true

theorem Lawful.nil : Lawful [] := by
  intro former latter marks
  simp at marks

theorem Lawful.concat {marks : List Mark} {last : Mark} (lawful : Lawful marks)
    (raised : last = .consumed → up marks = true) : Lawful (marks ++ [last]) := by
  intro former latter split
  rcases List.eq_nil_or_concat latter with rfl | ⟨latter, other, rfl⟩
  · obtain ⟨same, own⟩ := List.append_inj' split rfl
    rw [← same]
    exact raised (List.cons.inj own).1
  · rw [List.concat_eq_append, ← List.cons_append, ← List.append_assoc] at split
    exact lawful former latter (List.append_inj_left' split rfl)

theorem Lawful.init {marks : List Mark} {last : Mark} (lawful : Lawful (marks ++ [last])) :
    Lawful marks := by
  intro former latter split
  exact lawful former (latter ++ [last]) (by rw [split, List.append_assoc, List.cons_append])

theorem Lawful.raised_between {former between latter : List Mark}
    (lawful : Lawful (former ++ .consumed :: (between ++ .consumed :: latter))) :
    .raised ∈ between := by
  have raised := lawful (former ++ .consumed :: between) latter (by simp)
  rcases List.eq_nil_or_concat between with rfl | ⟨between, last, rfl⟩
  · simp at raised
  · cases last with
    | raised => simp
    | consumed =>
      rw [List.concat_eq_append, ← List.cons_append, ← List.append_assoc, up_consumed] at raised
      exact absurd raised (by decide)

-- A flag that is up has been raised once more than it has to have been.
theorem Lawful.count_add_le {marks : List Mark} (lawful : Lawful marks) :
    marks.count .consumed + (if up marks then 1 else 0) ≤ marks.count .raised := by
  induction marks using List.reverseRecOn with
  | nil => simp
  | append_singleton marks last ih =>
    have before := ih lawful.init
    cases last with
    | raised =>
      have enough := Nat.le_trans (Nat.le_add_right _ _) before
      simpa [List.count_append] using enough
    | consumed =>
      rw [lawful marks [] rfl] at before
      simpa [List.count_append] using before

theorem Lawful.count_le {marks : List Mark} (lawful : Lawful marks) :
    marks.count .consumed ≤ marks.count .raised :=
  Nat.le_trans (Nat.le_add_right _ _) lawful.count_add_le

end Mark

namespace NamedGate

variable {α : Type}

namespace Call

def name : Call α → String
  | .raise name => name
  | .take name => name
  | .isRaised name => name
  | .alias name _ => name
  | .enter name _ _ => name

-- The name that had the flag before the call which a name has after it.
def source : Call α → String → String
  | .alias name other, any => if any = other then name else any
  | _, any => any

theorem source_eq {call : Call α} {one other : String}
    (same : call.source one = call.source other) :
    one = other ∨ call.source one = call.name := by
  cases call with
  | «alias» name renamed =>
    by_cases first : one = renamed
    · exact .inr (if_pos first)
    · by_cases second : other = renamed
      · exact .inr (same.trans (if_pos second))
      · simp only [source, if_neg first, if_neg second] at same
        exact .inl same
  | _ => exact .inl same

-- Whether the flag of the name is raised, having been up or down before. During a wait that counts
-- up to the turn that ends it.
def raises (up : Bool) : Call α → Bool
  | .raise _ => true
  | .enter _ _ turns => (turns.find? (Turn.ends up)).any Turn.raised
  | _ => false

def consumes : Call α → Reply α → Bool
  | .take _, .flag true => true
  | .enter _ _ _, .passage .interrupted => true
  | _, _ => false

theorem source_of_consumes {call : Call α} {reply : Reply α}
    (consumed : call.consumes reply = true) (any : String) : call.source any = any := by
  cases call with
  | «alias» => exact absurd consumed (by simp [consumes])
  | _ => rfl

def marks (up : Bool) (call : Call α) (reply : Reply α) : List Mark :=
  (if call.raises up then [.raised] else []) ++ (if call.consumes reply then [.consumed] else [])

def admitted : Call α → Reply α → Option (α → α)
  | .enter _ change _, .passage (.done _) => some change
  | _, _ => none

end Call

-- The flags as calls and replies tell them: the name that each name's flag was made for, and what
-- befell the flag made for a name, the oldest first.
structure Story where
  flag : String → String := id
  marks : String → List Mark := fun _ => []

namespace Story

def isUp (story : Story) (name : String) : Bool :=
  Mark.up (story.marks (story.flag name))

def tell (story : Story) (call : Call α) (reply : Reply α) : Story where
  flag name := story.flag (call.source name)
  marks := Function.update story.marks (story.flag call.name)
    (story.marks (story.flag call.name) ++ call.marks (story.isUp call.name) reply)

def tellAll (story : Story) (told : List (Call α × Reply α)) : Story :=
  told.foldl (fun story entry => story.tell entry.1 entry.2) story

theorem up_marks (marks : List Mark) (call : Call α) (reply : Reply α) :
    Mark.up (marks ++ call.marks (Mark.up marks) reply) =
      ((Mark.up marks || call.raises (Mark.up marks)) && !call.consumes reply) := by
  unfold Call.marks
  cases call.consumes reply with
  | true => simp [← List.append_assoc]
  | false => cases call.raises (Mark.up marks) <;> simp

theorem lawful_marks {marks : List Mark} (lawful : Mark.Lawful marks) {call : Call α}
    {reply : Reply α} (consumes : call.consumes reply = true →
      (Mark.up marks || call.raises (Mark.up marks)) = true) :
    Mark.Lawful (marks ++ call.marks (Mark.up marks) reply) := by
  unfold Call.marks
  rw [← List.append_assoc]
  have raised : Mark.Lawful (marks ++ if call.raises (Mark.up marks) then [.raised] else []) := by
    split
    · exact lawful.concat nofun
    · exact (List.append_nil marks).symm ▸ lawful
  cases consumed : call.consumes reply with
  | false => simpa using raised
  | true =>
    refine raised.concat fun _ => ?_
    split
    · exact Mark.up_raised marks
    · rename_i quiet
      simpa [quiet] using consumes consumed

theorem isUp_tell (story : Story) (call : Call α) (reply : Reply α) (name : String) :
    (story.tell call reply).isUp name =
      if story.flag (call.source name) = story.flag call.name then
        (story.isUp call.name || call.raises (story.isUp call.name)) && !call.consumes reply
      else story.isUp (call.source name) := by
  simp only [isUp, tell, Function.update_apply]
  split
  · exact up_marks _ call reply
  · rfl

end Story

-- What the flags of a gate have to do with their story.
structure Tells (story : Story) (named : NamedGate α) : Prop where
  shared : ∀ one other, story.flag one = story.flag other ↔
    one = other ∨ ∃ flag, named.flag? one = some flag ∧ named.flag? other = some flag
  raised : ∀ name, (named.flag? name).any named.gate.flags.isRaised = story.isUp name
  made : ∀ name flag, named.flag? name = some flag → flag < named.made
  fresh : ∀ flag, named.made ≤ flag → named.gate.flags.isRaised flag = false
  lawful : ∀ name, Mark.Lawful (story.marks name)

theorem start_tells (value : α) : Tells {} (start value) where
  shared one other := by simp [start, flag?]
  raised name := rfl
  made name flag known := by simp [start, flag?] at known
  fresh flag _ := rfl
  lawful _ := .nil

theorem touch_of_known {named : NamedGate α} {name : String} {own : Nat}
    (known : named.flag? name = some own) : named.touch name = (named, own) := by
  rw [touch, known]

section Touch

variable (named : NamedGate α) (name : String)

@[simp] theorem touch_gate : (named.touch name).1.gate = named.gate := by
  unfold touch
  split <;> rfl

theorem touch_flag? (any : String) : (named.touch name).1.flag? any =
    if any = name then some (named.touch name).2 else named.flag? any := by
  unfold touch
  split
  · rename_i own known
    split
    · rename_i same
      exact same ▸ known
    · rfl
  · by_cases same : any = name
    · simp [flag?, same]
    · simp [flag?, List.lookup_cons, beq_false_of_ne same, same]

theorem touch_known : (named.touch name).1.flag? name = some (named.touch name).2 := by
  rw [touch_flag?, if_pos rfl]

end Touch

-- A flag that is made for a new name is nobody else's, and lowered.
theorem Tells.touch {story : Story} {named : NamedGate α} (tells : Tells story named)
    (name : String) : Tells story (named.touch name).1 := by
  cases unknown : named.flag? name with
  | some own => exact (touch_of_known unknown).symm ▸ tells
  | none =>
    have own : (named.touch name).2 = named.made := by simp [NamedGate.touch, unknown]
    have made : (named.touch name).1.made = named.made + 1 := by simp [NamedGate.touch, unknown]
    have apart : ∀ any, named.flag? any ≠ some named.made := fun any same =>
      Nat.lt_irrefl _ (tells.made any _ same)
    constructor
    · intro one other
      rw [tells.shared, touch_flag?, touch_flag?, own]
      by_cases first : one = name <;> by_cases second : other = name
      · simp [first, second]
      · simp [first, second, unknown, apart]
      · simp [first, second, unknown, apart]
      · simp [first, second]
    · intro any
      rw [touch_flag?, touch_gate, own, ← tells.raised]
      split
      · rename_i same
        rw [same, unknown]
        exact tells.fresh _ (Nat.le_refl _)
      · rfl
    · intro any flag known
      rw [touch_flag?, own] at known
      rw [made]
      split at known
      · cases known
        exact Nat.lt_succ_self _
      · exact Nat.lt_succ_of_lt (tells.made any flag known)
    · intro flag later
      rw [made] at later
      rw [touch_gate]
      exact tells.fresh flag (Nat.le_of_succ_le later)
    · exact tells.lawful

section Step

variable (named : NamedGate α) (call : Call α)

theorem step_made : (named.step call).1.made = (named.touch call.name).1.made := by
  cases call <;> rfl

theorem step_flag? (any : String) : (named.step call).1.flag? any =
    (named.touch call.name).1.flag? (call.source any) := by
  cases call with
  | «alias» name other =>
    simp only [Call.source, Call.name]
    by_cases same : any = other
    · rw [if_pos same, touch_known]
      simp [step, flag?, same]
    · rw [if_neg same]
      simp [step, flag?, List.lookup_cons, beq_false_of_ne same]
  | _ => rfl

theorem step_enter (name : String) (change : α → α) (turns : List Turn) :
    let waited := named.gate.wait (named.touch name).2 (fun value => (change value, change value))
      turns
    named.step (.enter name change turns) =
      ({ (named.touch name).1 with gate := waited.1 }, .passage waited.2) := by
  rw [← named.touch_gate name]
  rfl

theorem step_waits (name : String) (change : α → α) (turns : List Turn) :
    ∃ passage, (named.step (.enter name change turns)).2 = .passage passage ∧
      Gate.Waits named.gate (named.touch name).2 (fun value => (change value, change value)) turns
        ((named.step (.enter name change turns)).1.gate, passage) := by
  rw [step_enter]
  exact ⟨_, rfl, Gate.wait_waits _ _ _ turns⟩

theorem step_enter_append {name : String} {change : α → α} {turns : List Turn}
    (waiting : (named.step (.enter name change turns)).2 = .passage .waiting)
    (more : List Turn) : named.step (.enter name change (turns ++ more)) =
      (named.step (.enter name change turns)).1.step (.enter name change more) := by
  simp only [step_enter, Reply.passage.injEq] at waiting ⊢
  have known : flag? { (named.touch name).1 with
      gate := (named.gate.wait (named.touch name).2 (fun value => (change value, change value))
        turns).1 } name = some (named.touch name).2 := named.touch_known name
  rw [Gate.wait_append waiting, touch_of_known known]

theorem step_own_flag :
    (named.step call).1.gate.flags.isRaised (named.touch call.name).2 =
      ((named.gate.flags.isRaised (named.touch call.name).2 ||
        call.raises (named.gate.flags.isRaised (named.touch call.name).2)) &&
          !call.consumes (named.step call).2) := by
  cases call with
  | raise name => simp [step, Call.name, Call.raises, Call.consumes]
  | take name =>
    cases raised : named.gate.flags.isRaised (named.touch name).2 <;>
      simp [step, Flags.take, raised, Call.name, Call.raises, Call.consumes]
  | isRaised name => simp [step, Call.raises, Call.consumes]
  | «alias» name other => simp [step, Call.raises, Call.consumes]
  | enter name change turns =>
    obtain ⟨passage, reply, waits⟩ := named.step_waits name change turns
    rw [reply]
    simp only [Call.name, waits.own_flag]
    cases passage <;> simp [Call.raises, Call.consumes]

theorem step_other_flag {flag : Nat} (apart : flag ≠ (named.touch call.name).2) :
    (named.step call).1.gate.flags.isRaised flag = named.gate.flags.isRaised flag := by
  cases call with
  | raise name =>
    have other : flag ≠ (named.touch name).2 := apart
    simp [step, other]
  | take name =>
    have other : flag ≠ (named.touch name).2 := apart
    simp [step, Flags.take, other]
  | isRaised name => simp [step]
  | «alias» name other => simp [step]
  | enter name change turns =>
    obtain ⟨passage, _, waits⟩ := named.step_waits name change turns
    exact waits.other_flag apart

theorem step_consumes (consumed : call.consumes (named.step call).2 = true) :
    (named.gate.flags.isRaised (named.touch call.name).2 ||
      call.raises (named.gate.flags.isRaised (named.touch call.name).2)) = true := by
  cases call with
  | take name =>
    cases raised : named.gate.flags.isRaised (named.touch name).2 with
    | true => simp [Call.name, raised]
    | false => simp [step, Flags.take, raised, Call.consumes] at consumed
  | enter name change turns =>
    obtain ⟨passage, reply, waits⟩ := named.step_waits name change turns
    cases passage with
    | interrupted =>
      obtain ⟨now, ending, raised⟩ := waits.interrupted_iff.mp rfl
      simpa [Call.name, Call.raises, ending] using raised
    | _ => simp [reply, Call.consumes] at consumed
  | _ => simp [Call.consumes] at consumed

theorem step_value : (named.step call).1.gate.value =
    ((call.admitted (named.step call).2).map fun change => change named.gate.value).getD
      named.gate.value := by
  cases call with
  | enter name change turns =>
    obtain ⟨passage, reply, waits⟩ := named.step_waits name change turns
    rw [reply, waits.value]
    cases passage <;> rfl
  | _ => simp [step, Call.admitted]

end Step

theorem Tells.shared_known {story : Story} {named : NamedGate α} (tells : Tells story named)
    {name other : String} {own : Nat} (known : named.flag? name = some own) :
    story.flag other = story.flag name ↔ named.flag? other = some own := by
  rw [tells.shared]
  constructor
  · rintro (rfl | ⟨flag, first, second⟩)
    · exact known
    · cases known.symm.trans second
      exact first
  · intro found
    exact .inr ⟨own, found, known⟩

theorem Tells.isUp_eq {story : Story} {named : NamedGate α} (tells : Tells story named)
    (name : String) : story.isUp name = named.gate.flags.isRaised (named.touch name).2 := by
  rw [← (tells.touch name).raised, touch_known, touch_gate]
  rfl

theorem Tells.step_shared {story : Story} {named : NamedGate α} (tells : Tells story named)
    (call : Call α) (one other : String) :
    story.flag (call.source one) = story.flag (call.source other) ↔
      one = other ∨ ∃ flag, (named.step call).1.flag? one = some flag ∧
        (named.step call).1.flag? other = some flag := by
  have known := named.touch_known call.name
  rw [step_flag?, step_flag?, (tells.touch call.name).shared]
  constructor
  · rintro (same | shared)
    · rcases Call.source_eq same with equal | asked
      · exact .inl equal
      · have found := (congrArg (named.touch call.name).1.flag? asked).trans known
        exact .inr ⟨_, found, same ▸ found⟩
    · exact .inr shared
  · rintro (equal | shared)
    · exact .inl (congrArg call.source equal)
    · exact .inr shared

theorem Tells.step_raised {story : Story} {named : NamedGate α} (tells : Tells story named)
    (call : Call α) (name : String) :
    ((named.step call).1.flag? name).any (named.step call).1.gate.flags.isRaised =
      (story.tell call (named.step call).2).isUp name := by
  have touched := tells.touch call.name
  have known := named.touch_known call.name
  rw [Story.isUp_tell, step_flag?, tells.isUp_eq]
  by_cases same : story.flag (call.source name) = story.flag call.name
  · rw [if_pos same, (touched.shared_known known).mp same]
    exact named.step_own_flag call
  · rw [if_neg same, ← touched.raised, touch_gate]
    cases found : (named.touch call.name).1.flag? (call.source name) with
    | none => rfl
    | some flag =>
      -- A name that had the flag of the call would be told to share it.
      apply named.step_other_flag call
      intro own
      exact same ((touched.shared_known known).mpr (own ▸ found))

theorem Tells.step_lawful {story : Story} {named : NamedGate α} (tells : Tells story named)
    (call : Call α) (name : String) :
    Mark.Lawful ((story.tell call (named.step call).2).marks name) := by
  simp only [Story.tell, Function.update_apply]
  split
  · apply Story.lawful_marks (tells.lawful _)
    intro consumed
    have raised := named.step_consumes call consumed
    rwa [← tells.isUp_eq] at raised
  · exact tells.lawful name

theorem Tells.step {story : Story} {named : NamedGate α} (tells : Tells story named)
    (call : Call α) :
    Tells (story.tell call (named.step call).2) (named.step call).1 := by
  have touched := tells.touch call.name
  refine ⟨tells.step_shared call, tells.step_raised call, ?_, ?_, tells.step_lawful call⟩
  · intro name flag found
    rw [step_flag?] at found
    rw [step_made]
    exact touched.made _ flag found
  · intro flag later
    rw [step_made] at later
    have apart : flag ≠ (named.touch call.name).2 := by
      intro same
      exact Nat.not_lt_of_le later (same ▸ touched.made _ _ (named.touch_known call.name))
    rw [named.step_other_flag call apart, ← named.touch_gate call.name]
    exact touched.fresh flag later

theorem Tells.isRaised_reply {story : Story} {named : NamedGate α} (tells : Tells story named)
    (name : String) : (named.step (.isRaised name)).2 = .flag (story.isUp name) := by
  rw [tells.isUp_eq]
  simp [NamedGate.step]

theorem Tells.run {story : Story} {named : NamedGate α} (tells : Tells story named)
    (calls : List (Call α)) :
    Tells (story.tellAll (calls.zip (named.run calls).2)) (named.run calls).1 := by
  induction calls generalizing story named with
  | nil => exact tells
  | cons call calls ih => exact ih (tells.step call)

theorem run_value (named : NamedGate α) (calls : List (Call α)) :
    (named.run calls).1.gate.value =
      ((calls.zip (named.run calls).2).filterMap fun entry => entry.1.admitted entry.2).foldl
        (fun value change => change value) named.gate.value := by
  induction calls generalizing named with
  | nil => rfl
  | cons call calls ih =>
    simp only [run, List.zip_cons_cons, List.filterMap_cons]
    rw [ih, step_value]
    cases call.admitted (named.step call).2 <;> rfl

-- The replies of a run are those that its story asks for. A wait is given up just where its flag is
-- found up, a consumed flag goes down for all names that stand for it and for no others, no raise
-- is consumed twice, and the value went through just the changes that were let in. As a wait may be
-- cut into pieces, other calls may come in between, and several waits may go on at once.
theorem interrupts_are_consumed_once (value : α) (calls : List (Call α)) :
    let after := ((start value).run calls).1
    let told := calls.zip ((start value).run calls).2
    let story := Story.tellAll {} told
    (∀ name, (after.step (.isRaised name)).2 = .flag (story.isUp name)) ∧
    (∀ name, (after.step (.take name)).2 = .flag (story.isUp name)) ∧
    (∀ name change turns,
      ((after.step (.enter name change turns)).2 = .passage .interrupted ↔
        ∃ now, turns.find? (Turn.ends (story.isUp name)) = some now ∧
          (story.isUp name || now.raised) = true) ∧
      ∀ result, (after.step (.enter name change turns)).2 = .passage (.done result) ↔
        ∃ now, turns.find? (Turn.ends (story.isUp name)) = some now ∧
          (story.isUp name || now.raised) = false ∧ result = change after.gate.value) ∧
    (∀ name change turns more, (after.step (.enter name change turns)).2 = .passage .waiting →
      after.step (.enter name change (turns ++ more)) =
        (after.step (.enter name change turns)).1.step (.enter name change more)) ∧
    (∀ call, call.consumes (after.step call).2 = true →
      ∀ other, ((after.step call).1.step (.isRaised other)).2 =
        .flag (story.isUp other && !decide (story.flag other = story.flag call.name))) ∧
    (∀ name, let marks := story.marks name
      (∀ former between latter,
        marks = former ++ .consumed :: (between ++ .consumed :: latter) → .raised ∈ between) ∧
      marks.count .consumed ≤ marks.count .raised) ∧
    after.gate.value = (told.filterMap fun entry => entry.1.admitted entry.2).foldl
      (fun value change => change value) value := by
  intro after told story
  have tells : Tells story after := (start_tells value).run calls
  refine ⟨tells.isRaised_reply, ?_, ?_, fun _ _ _ more waiting => step_enter_append _ waiting more,
    ?_, ?_, run_value _ calls⟩
  · intro name
    rw [tells.isUp_eq]
    simp [NamedGate.step, Flags.take]
  · intro name change turns
    obtain ⟨passage, reply, waits⟩ := after.step_waits name change turns
    rw [reply, tells.isUp_eq]
    refine ⟨?_, ?_⟩
    · simpa using waits.interrupted_iff
    · intro result
      simpa using waits.done_iff result
  · intro call consumed other
    rw [(tells.step call).isRaised_reply, Story.isUp_tell, Call.source_of_consumes consumed,
      consumed]
    split <;> simp [*]
  · intro name
    have lawful := tells.lawful name
    refine ⟨?_, lawful.count_le⟩
    intro former between latter split
    exact (split ▸ lawful).raised_between

theorem interrupts_of_two_flags :
    let calls : List (Call Nat) := [.alias "a" "b", .raise "a", .enter "b" (· + 1) [⟨false, true⟩],
      .enter "a" (· + 2) [⟨false, false⟩, ⟨true, false⟩, ⟨false, true⟩],
      .enter "a" (· * 3) [⟨false, false⟩, ⟨false, true⟩], .raise "b", .raise "a",
      .alias "c" "b", .take "b"]
    let after := ((start 5).run calls).1
    let told := calls.zip ((start 5).run calls).2
    let story := Story.tellAll {} told
    (after.step (.isRaised "a")).2 = .flag true ∧ (after.step (.isRaised "b")).2 = .flag false ∧
    (Call.take "a").consumes (after.step (.take "a")).2 = true ∧
    ((after.step (.take "a")).1.step (.isRaised "a")).2 = .flag false ∧
    story.marks "a" = [.raised, .consumed, .raised, .consumed, .raised, .raised] ∧
    Mark.raised ∈ [Mark.raised] ∧ after.gate.value = 15 ∧
    after.step (.enter "c" (· - 1) [⟨false, false⟩, ⟨false, true⟩]) =
      (after.step (.enter "c" (· - 1) [⟨false, false⟩])).1.step
        (.enter "c" (· - 1) [⟨false, true⟩]) := by
  intro calls after told story
  obtain ⟨raised, _, _, pieces, lowers, collapse, value⟩ := interrupts_are_consumed_once 5 calls
  have marks : story.marks "a" = [.raised, .consumed, .raised, .consumed, .raised, .raised] := by
    decide
  have consumed : (Call.take "a").consumes (after.step (.take "a")).2 = true := by decide
  refine ⟨?_, ?_, consumed, ?_, marks, ?_, ?_, pieces "c" _ [⟨false, false⟩] [⟨false, true⟩] ?_⟩
  · rw [raised]
    decide
  · rw [raised]
    decide
  · rw [lowers _ consumed]
    decide
  · exact (collapse "a").1 [.raised] [.raised] [.raised, .raised] marks
  · rw [value]
    decide
  · decide

end NamedGate

end CircularLog
