import CircularLog.Proofs.Writing

namespace CircularLog

-- An item delivered, or what befalls the items before it: those under way are lost, or all of them
-- are cleared away.
inductive Token (α : Type) where
  | item (item : α)
  | lost
  | cleared
  deriving DecidableEq, Repr

-- The records of a phase end with the next clearing.
structure Reading (α : Type) where
  tail : List α := []
  records : List (List α) := []
  past : List (List (List α)) := []
  deriving DecidableEq, Repr

namespace Reading

variable {α : Type}

def follow (ends : α → Bool) (reading : Reading α) : Token α → Reading α
  | .item item =>
    if ends item then
      { reading with tail := [], records := reading.records ++ [reading.tail ++ [item]] }
    else { reading with tail := reading.tail ++ [item] }
  | .lost => { reading with tail := [] }
  | .cleared => ⟨[], [], reading.past ++ [reading.records]⟩

def of (ends : α → Bool) (tokens : List (Token α)) : Reading α :=
  tokens.foldl (follow ends) {}

def phases (reading : Reading α) : List (List (List α)) :=
  reading.past ++ [reading.records]

def all (reading : Reading α) : List (List α) :=
  reading.phases.flatten

def surplus (reading : Reading α) (capacity : Nat) : Nat :=
  (reading.phases.map fun records => records.length - capacity).sum

theorem all_fresh : ({} : Reading α).all = [] := by
  simp [all, phases]

theorem all_more (reading : Reading α) (tail : List α) (more : List (List α)) :
    ({ reading with tail, records := reading.records ++ more } : Reading α).all =
      reading.all ++ more := by
  simp [all, phases]

theorem all_cleared (reading : Reading α) (ends : α → Bool) :
    (reading.follow ends .cleared).all = reading.all := by
  simp [follow, all, phases]

theorem surplus_more (reading : Reading α) (tail : List α) (more : List (List α)) (capacity : Nat) :
    ({ reading with tail, records := reading.records ++ more } : Reading α).surplus capacity +
        (reading.records.length - capacity) =
      reading.surplus capacity + (reading.records.length + more.length - capacity) := by
  simp only [surplus, phases, List.map_append, List.sum_append, List.map_cons, List.map_nil,
    List.sum_singleton, List.length_append]
  omega

theorem surplus_cleared (reading : Reading α) (ends : α → Bool) (capacity : Nat) :
    (reading.follow ends .cleared).surplus capacity = reading.surplus capacity := by
  simp [follow, surplus, phases]

theorem cut_cons (terminator byte : UInt8) (chunk : Bytes) :
    Pending.cut terminator (byte :: chunk) =
      Pending.cutStep terminator byte (Pending.cut terminator chunk) :=
  rfl

theorem follow_cut (terminator : UInt8) (chunk : Bytes) (reading : Reading UInt8) :
    (chunk.map .item).foldl (follow (· == terminator)) reading =
      match Pending.cut terminator chunk with
      | ([], rest) => { reading with tail := reading.tail ++ rest }
      | (first :: others, rest) =>
        { reading with
          tail := rest, records := reading.records ++ (reading.tail ++ first) :: others } := by
  induction chunk generalizing reading with
  | nil => simp [Pending.cut]
  | cons byte chunk ih =>
    rw [List.map_cons, List.foldl_cons, ih, cut_cons]
    rcases Pending.cut terminator chunk with ⟨_ | ⟨first, others⟩, rest⟩
    · by_cases ends : byte = terminator
      · simp [follow, Pending.cutStep, ends]
      · simp [follow, Pending.cutStep, ends]
    · by_cases ends : byte = terminator
      · simp [follow, Pending.cutStep, ends]
      · simp [follow, Pending.cutStep, ends]

theorem follow_append {pending : Pending} {reading : Reading UInt8}
    (same : pending.bytes = reading.tail) (chunk : Bytes) :
    (chunk.map .item).foldl (follow (· == pending.terminator)) reading =
      { reading with
        tail := (pending.append chunk).1.bytes
        records := reading.records ++ (pending.append chunk).2.records.map Record.bytes } := by
  rw [follow_cut, ← same]
  unfold Pending.append Pending.bytes
  rcases Pending.cut pending.terminator chunk with ⟨_ | ⟨first, others⟩, rest⟩
  · simp [Appended.records]
  · simp [Appended.records, Function.comp_def]

end Reading

namespace Token

variable {α : Type}

def item? : Token α → Option α
  | .item found => some found
  | _ => none

def map {β : Type} (f : α → β) : Token α → Token β
  | .item found => .item (f found)
  | .lost => .lost
  | .cleared => .cleared

def items (tokens : List (Token α)) : List α :=
  tokens.filterMap item?

end Token

namespace Reading

variable {α β : Type}

theorem count_ends (ends : α → Bool) (tokens : List (Token α)) (reading : Reading α) :
    (tokens.foldl (follow ends) reading).all.length =
      reading.all.length + (Token.items tokens).countP ends := by
  induction tokens generalizing reading with
  | nil => rfl
  | cons token tokens ih =>
    rw [List.foldl_cons, ih]
    cases token with
    | item item =>
      have first : Token.items (.item item :: tokens) = item :: Token.items tokens := rfl
      rw [first, List.countP_cons, follow]
      split
      · rw [all_more, List.length_append, List.length_singleton]
        omega
      · rfl
    | lost => rfl
    | cleared =>
      rw [all_cleared]
      rfl

theorem all_sublist (ends : α → Bool) (tokens : List (Token α)) (reading : Reading α) :
    let after := tokens.foldl (follow ends) reading
    (after.all.flatten ++ after.tail).Sublist
      (reading.all.flatten ++ reading.tail ++ Token.items tokens) := by
  induction tokens generalizing reading with
  | nil => simp
  | cons token tokens ih =>
    refine (ih _).trans ?_
    cases token with
    | item item =>
      have first : Token.items (.item item :: tokens) = item :: Token.items tokens := rfl
      rw [first, follow]
      split
      · simp [all_more]
      · simp [all, phases]
    | lost =>
      exact (List.Sublist.append_left (List.nil_sublist _) _).append_right _
    | cleared =>
      rw [all_cleared]
      exact (List.Sublist.append_left (List.nil_sublist _) _).append_right _

-- Items in a row either all join the tail, or a record ends among them and the tail is the last of
-- them.
theorem follow_items (ends : α → Bool) (items : List α) (reading : Reading α) :
    let after := (items.map .item).foldl (follow ends) reading
    (after.records.length = reading.records.length ∧ after.tail = reading.tail ++ items) ∨
      (reading.records.length < after.records.length ∧ after.tail <:+ items) := by
  induction items generalizing reading with
  | nil => exact .inl ⟨rfl, (List.append_nil _).symm⟩
  | cons item items ih =>
    rw [List.map_cons, List.foldl_cons]
    by_cases ending : ends item = true
    · have first : reading.follow ends (.item item) =
          { reading with tail := [], records := reading.records ++ [reading.tail ++ [item]] } :=
        if_pos ending
      rw [first]
      refine .inr ?_
      rcases ih { reading with tail := [], records := reading.records ++ [reading.tail ++ [item]] }
        with ⟨same, rest⟩ | ⟨more, rest⟩
      · rw [same, rest]
        simp
      · rw [List.length_append] at more
        exact ⟨Nat.lt_of_succ_lt more, rest.trans (List.suffix_cons _ _)⟩
    · have first : reading.follow ends (.item item) =
          { reading with tail := reading.tail ++ [item] } := if_neg ending
      rw [first]
      rcases ih { reading with tail := reading.tail ++ [item] } with ⟨same, rest⟩ | ⟨more, rest⟩
      · exact .inl ⟨same, rest.trans (List.append_assoc _ _ _)⟩
      · exact .inr ⟨more, rest.trans (List.suffix_cons _ _)⟩

def map (f : α → β) (reading : Reading α) : Reading β :=
  ⟨reading.tail.map f, reading.records.map (·.map f), reading.past.map (·.map (·.map f))⟩

theorem all_map (f : α → β) (reading : Reading α) :
    (reading.map f).all = reading.all.map (·.map f) := by
  simp [all, phases, map, List.map_flatten]

theorem follow_map (ends : β → Bool) (f : α → β) (reading : Reading α) (token : Token α) :
    (reading.map f).follow ends (token.map f) = (reading.follow (ends ∘ f) token).map f := by
  cases token with
  | item item =>
    by_cases ending : ends (f item) = true
    · simp [follow, Token.map, map, ending]
    · simp [follow, Token.map, map, ending]
  | lost => simp [follow, Token.map, map]
  | cleared => simp [follow, Token.map, map]

theorem map_map {γ : Type} (f : α → β) (g : β → γ) (reading : Reading α) :
    (reading.map f).map g = reading.map (g ∘ f) := by
  simp [map, Function.comp_def]

theorem foldl_map (ends : β → Bool) (f : α → β) (tokens : List (Token α)) (reading : Reading α) :
    (tokens.map (·.map f)).foldl (follow ends) (reading.map f) =
      (tokens.foldl (follow (ends ∘ f)) reading).map f := by
  induction tokens generalizing reading with
  | nil => rfl
  | cons token tokens ih =>
    rw [List.map_cons, List.foldl_cons, follow_map]
    exact ih _

-- What was under way when it was lost is never read as part of a record.
theorem lost_for_good {ends : α → Bool} {first others : List (Token α)} {item : α}
    (unique : (Token.items first ++ Token.items others).Nodup)
    (underWay : item ∈ (of ends first).tail) :
    ∀ record ∈ (of ends (first ++ .lost :: others)).all, item ∉ record := by
  intro record complete inside
  have earlier := all_sublist ends first {}
  have later := all_sublist ends others ((of ends first).follow ends .lost)
  rw [of, List.foldl_append, List.foldl_cons] at complete
  have found := later.subset (List.mem_append_left _ (List.mem_flatten_of_mem complete inside))
  obtain ⟨once, _, apart⟩ := List.nodup_append.mp unique
  rcases List.mem_append.mp found with before | behind
  · have twice := List.nodup_append.mp (earlier.nodup once)
    have before : item ∈ (of ends first).all.flatten := by
      simpa [follow, all, phases] using before
    exact twice.2.2 item before item underWay rfl
  · have delivered := earlier.subset (List.mem_append_right _ underWay)
    exact apart item delivered item behind rfl

end Reading

def Deed.tokens {α : Type} (mark : SessionId → UInt8 → α) : Deed → List (Token α)
  | .wrote id chunk _ _ => chunk.map fun byte => .item (mark id byte)
  | .discarded _ lost | .ended _ lost => if lost = 0 then [] else [.lost]
  | .tornDown _ => [.cleared]
  | _ => []

theorem Deed.tokens_of_keeps {α : Type} {mark : SessionId → UInt8 → α} {deed : Deed}
    (keeps : deed.keepsRecords = true) : deed.tokens mark = [] := by
  cases deed <;> first | rfl | cases keeps

theorem Reading.follow_gaveUp {α : Type} {mark : SessionId → UInt8 → α} {ends : α → Bool}
    {reading : Reading α} {id : SessionId} {lost : Nat} {deed : Deed}
    (gives : deed = .discarded id lost ∨ deed = .ended id lost) :
    (deed.tokens mark).foldl (follow ends) reading =
      if lost = 0 then reading else { reading with tail := [] } := by
  have tokens : deed.tokens mark = if lost = 0 then [] else [.lost] := by
    rcases gives with rfl | rfl <;> rfl
  rw [tokens]
  split <;> rfl

theorem Log.Passes.read {α : Type} {mark : SessionId → UInt8 → α} {byte : α → UInt8}
    {agree : Log → Reading α → Prop}
    (step : ∀ {log after : Log} {deed : Deed} {reading : Reading α}, Pass log deed after →
      log.Sound → agree log reading → agree after
        ((deed.tokens mark).foldl (Reading.follow (byte · == log.settings.terminator)) reading))
    {log after : Log} {deeds : List Deed} (passes : Passes log deeds after) (sound : log.Sound)
    {reading : Reading α} (begins : agree log reading) :
    agree after ((deeds.flatMap (·.tokens mark)).foldl
      (Reading.follow (byte · == log.settings.terminator)) reading) := by
  induction passes generalizing reading with
  | nil => exact begins
  | cons pass _ ih =>
    rw [List.flatMap_cons, List.foldl_append, ← pass.settings]
    refine ih (pass.sound sound) ?_
    rw [pass.settings]
    exact step pass sound begins

end CircularLog
