import PlaybackRelay.Proofs.Event.Receive
import PlaybackRelay.Proofs.Stream.Steps

/-!
What a task reads and decodes if it is never left: the messages of all connections in order, as far
as its attempts reach. Main statements: `Task.onScript_step`, `Task.unread_step` and
`Task.ahead_step`.
-/
namespace PlaybackRelay.Stream

open Network (Exchange)

variable {b : Backoff} {connection : Nat → Exchange}

/-- The messages that can be decoded, as enriched events. -/
def eventsIn (messages : List String) : List Event :=
  messages.filterMap fun message => (Event.decode message).toOption.map Event.enrich

@[simp] theorem eventsIn_nil : eventsIn [] = [] := rfl

/-- A task decodes and enriches a message in one call. -/
@[simp] theorem eventsIn_cons (message : String) (messages : List String) :
    eventsIn (message :: messages) =
      (Event.receive message).toOption.toList ++ eventsIn messages := by
  rw [Event.toOption_receive, eventsIn, List.filterMap_cons]
  split <;> simp [eventsIn, *]

/-- The events that some connection delivers. -/
def eventsOf (connection : Nat → Exchange) (n : Nat) : List Event :=
  eventsIn (messages (connection n))

/-- The events that all connections deliver, one connection after the other. -/
def scriptEvents (b : Backoff) (connection : Nat → Exchange) : List Event :=
  (List.range (b.maxAttempts.toNat + 1)).flatMap (eventsOf connection)

/-- The events of the connections that were not opened yet. -/
def eventsFrom (b : Backoff) (connection : Nat → Exchange) (opened : Nat) : List Event :=
  (List.range' opened (b.maxAttempts.toNat + 1 - opened)).flatMap (eventsOf connection)

theorem eventsFrom_zero : eventsFrom b connection 0 = scriptEvents b connection := by
  rw [eventsFrom, scriptEvents, List.range_eq_range', Nat.sub_zero]

/-- The messages of the connections that were not opened yet. -/
def messagesFrom (b : Backoff) (connection : Nat → Exchange) (opened : Nat) : List String :=
  (List.range' opened (b.maxAttempts.toNat + 1 - opened)).flatMap fun n => messages (connection n)

theorem eventsFrom_eq (opened : Nat) :
    eventsFrom b connection opened = eventsIn (messagesFrom b connection opened) := by
  rw [eventsFrom, eventsIn, messagesFrom, List.filterMap_flatMap]
  rfl

theorem eventsIn_append (first second : List String) :
    eventsIn (first ++ second) = eventsIn first ++ eventsIn second := List.filterMap_append

private theorem messagesFrom_of_le {opened : Nat} (h : opened ≤ b.maxAttempts.toNat) :
    messagesFrom b connection opened =
      messages (connection opened) ++ messagesFrom b connection (opened + 1) := by
  have hleft : b.maxAttempts.toNat + 1 - opened = b.maxAttempts.toNat + 1 - (opened + 1) + 1 := by
    omega
  rw [messagesFrom, messagesFrom, hleft, List.range'_succ, List.flatMap_cons]

private theorem messagesFrom_of_lt {opened : Nat} (h : b.maxAttempts.toNat < opened) :
    messagesFrom b connection opened = [] := by
  have hleft : b.maxAttempts.toNat + 1 - opened = 0 := by omega
  rw [messagesFrom, hleft]
  rfl

namespace Task

/-- The event that the next step decodes. -/
def decodes (t : Task) : List Event :=
  match t.phase with
  | .receiving (message :: _) _ => (Event.receive message).toOption.toList
  | _ => []

/-- The events that are still to be decoded. -/
def ahead (b : Backoff) (connection : Nat → Exchange) (t : Task) : List Event :=
  match t.phase with
  | .connecting | .waiting => eventsFrom b connection t.opened
  | .receiving messages _ | .pushing _ messages _ =>
    eventsIn messages ++ eventsFrom b connection t.opened
  | .ended _ => []

/-- The message that the next step reads. -/
def reads (t : Task) : List String :=
  match t.phase with
  | .receiving (message :: _) _ => [message]
  | _ => []

/-- The messages that are still to be read. -/
def unread (b : Backoff) (connection : Nat → Exchange) (t : Task) : List String :=
  match t.phase with
  | .connecting | .waiting => messagesFrom b connection t.opened
  | .receiving messages _ | .pushing _ messages _ => messages ++ messagesFrom b connection t.opened
  | .ended _ => []

theorem ahead_eq (t : Task) : t.ahead b connection = eventsIn (t.unread b connection) := by
  unfold ahead unread
  split
  case h_1 | h_2 => exact eventsFrom_eq t.opened
  case h_3 | h_4 => rw [eventsIn_append, eventsFrom_eq]
  case h_5 => rfl

private theorem decodes_eq (t : Task) : t.decodes = eventsIn t.reads := by
  unfold decodes reads
  split <;> simp

theorem ahead_of_outcome {t : Task} (h : t.outcome?.isSome) : t.ahead b connection = [] := by
  unfold outcome? at h
  split at h
  case h_1 outcome hphase => rw [ahead, hphase]
  case h_2 => contradiction

/-- Every attempt opens one connection, which is lost as the script says. -/
structure OnScript (b : Backoff) (connection : Nat → Exchange) (t : Task) : Prop where
  attempt : t.attempt.toNat ≤ b.maxAttempts.toNat
  opened : match t.phase with
    | .connecting | .waiting => t.opened = t.attempt.toNat
    | .receiving _ loss | .pushing _ _ loss =>
      t.opened = t.attempt.toNat + 1 ∧ loss = loss? (connection t.attempt.toNat)
    | .ended _ => True

variable {t t' : Task} {i i' : Intake}

theorem onScript_step (hstep : Step b connection t i t' i') (h : OnScript b connection t) :
    OnScript b connection t' := by
  obtain ⟨hattempt, hopened⟩ := h
  cases hstep with
  | connect hphase =>
    rw [hphase] at hopened
    exact ⟨hattempt, congrArg (· + 1) hopened, by rw [← hopened]⟩
  | event hphase _ | malformed hphase _ | push hphase | reconnect hphase =>
    rw [hphase] at hopened
    exact ⟨hattempt, hopened⟩
  | retry hphase hallows =>
    rw [hphase] at hopened
    have hsucc := toNat_succ_of_allows hallows
    refine ⟨?_, hopened.1.trans hsucc.symm⟩
    rw [hsucc]
    exact allows_iff_lt.1 hallows
  | exhaust hphase _ => exact ⟨hattempt, trivial⟩

/-- Where no connection is held open there is always a loss to come. -/
theorem OnScript.not_held {t : Task} (h : OnScript b connection t)
    (hloss : ∀ n ≤ b.maxAttempts.toNat, (loss? (connection n)).isSome) :
    t.phase ≠ .receiving [] none := by
  intro hphase
  have hopened := h.opened
  rw [hphase] at hopened
  have hlost := hloss _ h.attempt
  rw [← hopened.2] at hlost
  contradiction

/-- A step reads the first of the messages that are left, if any. -/
theorem unread_step (hstep : Step b connection t i t' i') (h : OnScript b connection t) :
    t.unread b connection = t.reads ++ t'.unread b connection := by
  obtain ⟨hattempt, hopened⟩ := h
  cases hstep with
  | connect hphase =>
    rw [hphase] at hopened
    simp only [unread, reads, hphase, List.nil_append]
    exact messagesFrom_of_le (hopened ▸ hattempt)
  | event hphase _ | malformed hphase _ | push hphase | reconnect hphase | retry hphase _ =>
    simp [unread, reads, hphase]
  | exhaust hphase hallows =>
    rw [hphase] at hopened
    have hlast : b.maxAttempts.toNat < t.opened := by
      rw [hopened.1]
      exact Nat.lt_succ_of_le (Nat.le_of_not_lt (hallows ∘ allows_iff_lt.2))
    simp [unread, reads, hphase, messagesFrom_of_lt hlast]

/-- A step decodes the first of the events ahead, if any. -/
theorem ahead_step (hstep : Step b connection t i t' i') (h : OnScript b connection t) :
    t.ahead b connection = t.decodes ++ t'.ahead b connection := by
  rw [ahead_eq, ahead_eq, decodes_eq, unread_step hstep h, eventsIn_append]

end Task
end PlaybackRelay.Stream
