import CircularLog.Proofs.Places
import CircularLog.Proofs.Writing

namespace CircularLog

namespace Log

variable {log : Log} {cursor next : UInt64} {limit : Nat} {since : Option UInt64} {data : Bytes}

theorem read_found (found : (log.read cursor limit since).2 = .ok (data, next)) :
    (∀ positioned, since = some positioned → positioned = log.generation) ∧
      data <+: (joined log.held).drop cursor.toNat ∧ next = cursor + UInt64.ofNat data.length := by
  unfold read at found
  split at found
  · cases found
  · rename_i current
    have inTime : ∀ positioned, since = some positioned → positioned = log.generation := by
      intro positioned named
      simpa [named, Option.filter] using current
    split at found
    · cases found
      exact ⟨inTime, List.nil_prefix, by simp⟩
    · rename_i location place
      cases found
      exact ⟨inTime, (List.take_prefix _ _).trans (Position.locate?_found place), rfl⟩

theorem read_since (log : Log) (cursor : UInt64) (limit : Nat) (positioned : UInt64) :
    (positioned ≠ log.generation → (log.read cursor limit (some positioned)).2 =
        .error (.staleCursor positioned log.generation)) ∧
      (positioned = log.generation →
        ∃ found, (log.read cursor limit (some positioned)).2 = .ok found) := by
  unfold read
  constructor
  · intro behind
    simp [Option.filter, behind]
  · rintro rfl
    simp only [Option.filter, bne_self_eq_false, Bool.false_eq_true, if_false]
    split
    · exact ⟨_, rfl⟩
    · exact ⟨_, rfl⟩

end Log

-- All records ever committed and all ever released, in order. A teardown releases its records
-- together.
structure Annals where
  committed : List Record := []
  released : List Record := []
  releases : Nat := 0
  deriving DecidableEq, Repr

namespace Annals

def follow (annals : Annals) : Deed → Annals
  | .wrote _ _ committed evicted =>
    ⟨annals.committed ++ committed, annals.released ++ evicted, annals.releases + evicted.length⟩
  | .tornDown released =>
    ⟨annals.committed, annals.released ++ released,
      annals.releases + if released.isEmpty then 0 else 1⟩
  | _ => annals

def gone (annals : Annals) : Nat :=
  totalSize annals.released

variable {annals : Annals}

theorem follow_kept {deed : Deed} (keeps : deed.keepsRecords = true) :
    annals.follow deed = annals := by
  cases deed <;> first | rfl | cases keeps

theorem follow_more (annals : Annals) (deed : Deed) :
    annals.committed <+: (annals.follow deed).committed ∧
      annals.releases ≤ (annals.follow deed).releases ∧
      ((annals.follow deed).releases = annals.releases →
        (annals.follow deed).released = annals.released) := by
  cases deed with
  | wrote id chunk committed evicted =>
    refine ⟨List.prefix_append _ _, Nat.le_add_right _ _, ?_⟩
    intro same
    have none := List.eq_nil_of_length_eq_zero (Nat.add_eq_left.mp same)
    rw [follow, none, List.append_nil]
  | tornDown released =>
    refine ⟨List.prefix_rfl, Nat.le_add_right _ _, ?_⟩
    intro same
    have none : released.isEmpty = true := by
      cases empty : released.isEmpty with
      | true => rfl
      | false => simp [follow, empty] at same
    rw [follow, List.isEmpty_iff.mp none, List.append_nil]
  | _ => exact ⟨List.prefix_rfl, Nat.le_refl _, fun _ => rfl⟩

end Annals

namespace Log

variable {log after : Log} {deed : Deed} {annals : Annals}

structure Keeps (log : Log) (annals : Annals) : Prop where
  held : annals.released ++ log.held = annals.committed
  generation : log.generation = UInt64.ofNat annals.releases

theorem Keeps.bytes (keeps : log.Keeps annals) :
    joined log.held = (joined annals.committed).drop annals.gone := by
  rw [← keeps.held, joined_append, Annals.gone, ← length_joined, List.drop_left]

theorem Keeps.total (keeps : log.Keeps annals) :
    annals.gone + log.heldBytes = (joined annals.committed).length := by
  rw [← keeps.held, length_joined, totalSize_append]
  rfl

theorem Keeps.grown (keeps : log.Keeps annals) (kept : after.Keeps (annals.follow deed))
    (stays : (annals.follow deed).releases = annals.releases) :
    (annals.follow deed).gone = annals.gone ∧ log.heldBytes ≤ after.heldBytes := by
  obtain ⟨⟨more, longer⟩, _, same⟩ := annals.follow_more deed
  have gone : (annals.follow deed).gone = annals.gone := congrArg totalSize (same stays)
  have total := keeps.total
  have grown := kept.total
  rw [gone, ← longer, joined_append, List.length_append] at grown
  exact ⟨gone, by omega⟩

theorem keeps_now (log : Log) : log.Keeps ⟨log.held, [], log.generation.toNat⟩ :=
  ⟨rfl, UInt64.ofNat_toNat.symm⟩

theorem Still.keeps (same : Still log after) (keeps : log.Keeps annals) : after.Keeps annals := by
  refine ⟨?_, ?_⟩
  · rw [same.held_eq]
    exact keeps.held
  · rw [same.generation]
    exact keeps.generation

theorem Pass.keeps (pass : Pass log deed after) (sound : log.Sound) (keeps : log.Keeps annals) :
    after.Keeps (annals.follow deed) := by
  cases pass.change with
  | still kept same =>
    rw [Annals.follow_kept kept]
    exact same.keeps keeps
  | @wrote id chunk filled =>
    obtain ⟨moved, _⟩ := write_held sound id chunk
    obtain ⟨journal, written⟩ := write_eq log id chunk
    refine ⟨?_, ?_⟩
    · simp only [writing, Annals.follow]
      rw [List.append_assoc, moved, ← List.append_assoc, keeps.held]
    · rw [written]
      simp only [writing, Annals.follow, keeps.generation, UInt64.ofNat_add]
  | gaveUp gives same =>
    have unread : annals.follow deed = annals := by
      rcases gives with rfl | rfl <;> rfl
    rw [unread]
    refine same.keeps ?_
    unfold discard
    split
    · exact ⟨keeps.held, keeps.generation⟩
    · exact keeps
  | tornDown =>
    obtain ⟨holds, count⟩ := sound.ring.clear_empty
    have empty : log.teardown.1.held = [] := holds.toList_eq
    refine ⟨?_, ?_⟩
    · rw [empty, List.append_nil]
      exact keeps.held
    · simp only [teardown, note, count, Annals.follow, keeps.generation]
      -- The generation stays where nothing was held.
      cases log.held with
      | nil => simp
      | cons first others => simp

theorem Pass.heldBytes_kept (pass : Pass log deed after) (keeps : deed.keepsRecords = true) :
    after.heldBytes = log.heldBytes := by
  cases pass.change with
  | still _ same => rw [heldBytes, same.held_eq, heldBytes]
  | wrote filled => cases keeps
  | gaveUp gives same =>
    rcases gives with rfl | rfl
    · cases keeps
    · cases keeps
  | tornDown => cases keeps

end Log

end CircularLog
