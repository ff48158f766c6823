import PlaybackRelay.Event.Enrichment
import PlaybackRelay.Queue
import PlaybackRelay.Stream.Backoff
import PlaybackRelay.Stream.Connection

/-!
Receiving the stream: one connection after the other, until shutdown or until the attempts are used
up. Main functions: `Stream.Task.step?`, which goes on by one step, and `Stream.Task.run`, which
goes on to the end.
-/
namespace PlaybackRelay.Stream

/-- How receiving ends. -/
inductive Outcome where
  | shutdown
  | exhausted (attempts : UInt32) (cause : Loss)
deriving DecidableEq, Repr

/-- A loss after which another attempt is made. -/
structure Reconnect where
  attempt : UInt32
  maxAttempts : UInt32
  received : Nat
  delay : Duration
deriving DecidableEq, Repr

/-- What follows a loss. Attempts count over all connections, also those that delivered events. -/
def afterLoss (b : Backoff) (attempt : UInt32) (received : Nat) (cause : Loss) :
    Except Outcome Reconnect :=
  if b.allows attempt then .ok ⟨attempt + 1, b.maxAttempts, received, b.delay attempt⟩
  else .error (.exhausted attempt cause)

/-- The queue with the counts, which change together. -/
structure Intake where
  queue : Queue Event
  stats : Stats

namespace Intake

/-- Counts a message as an event or as malformed. -/
def count (i : Intake) (message : String) : Option Event × Intake :=
  match Event.receive message with
  | .ok e => (some e, { i with stats := i.stats.count .incoming })
  | .error _ => (none, { i with stats := i.stats.count .malformed })

def push (i : Intake) (e : Event) : Intake :=
  let (_, queue, stats) := i.queue.pushCounted i.stats e
  ⟨queue, stats⟩

def retry (i : Intake) : Intake := { i with stats := i.stats.count .streamRetries }

end Intake

/-- What a task does next: connect, take in the messages that the connection delivered before it was
lost, push the event that was just read, or wait for the next attempt. -/
inductive Phase where
  | connecting
  | receiving (messages : List String) (loss : Option Loss)
  | pushing (e : Event) (messages : List String) (loss : Option Loss)
  | waiting
  | ended (outcome : Outcome)

/-- A task may be left only where it waits for something. A body may arrive in pieces, so that the
task may have to wait between any two of its messages. -/
def Phase.mayWait : Phase → Bool
  | .connecting | .receiving .. | .waiting => true
  | .pushing .. | .ended _ => false

/-- Whether a task waits that takes in each body as one piece. -/
def Phase.isPaused : Phase → Bool
  | .connecting | .receiving [] _ | .waiting => true
  | .receiving (_ :: _) _ | .pushing .. | .ended _ => false

/-- `opened` connections were made, the last of which has delivered `received` events. -/
structure Task where
  attempt : UInt32
  opened : Nat
  received : Nat
  reconnects : List Reconnect
  phase : Phase

namespace Task

def start : Task := ⟨0, 0, 0, [], .connecting⟩

def outcome? (t : Task) : Option Outcome :=
  match t.phase with
  | .ended outcome => some outcome
  | _ => none

def leave (t : Task) : Task := { t with phase := .ended .shutdown }

def lose (b : Backoff) (cause : Loss) (t : Task) (i : Intake) : Task × Intake :=
  match afterLoss b t.attempt t.received cause with
  | .ok r =>
    ({ t with attempt := r.attempt, reconnects := t.reconnects ++ [r], phase := .waiting }, i.retry)
  | .error outcome => ({ t with phase := .ended outcome }, i)

/-- The next step. There is none at the end, and none while a connection is held open. -/
def step? (b : Backoff) (connection : Nat → Network.Exchange) (t : Task) (i : Intake) :
    Option (Task × Intake) :=
  match t.phase with
  | .connecting =>
    let exchange := connection t.opened
    some ({ t with
      opened := t.opened + 1
      received := 0
      phase := .receiving (messages exchange) (loss? exchange) }, i)
  | .receiving (message :: rest) loss =>
    match i.count message with
    | (some e, i) => some ({ t with received := t.received + 1, phase := .pushing e rest loss }, i)
    | (none, i) => some ({ t with phase := .receiving rest loss }, i)
  | .pushing e rest loss => some ({ t with phase := .receiving rest loss }, i.push e)
  | .receiving [] loss => loss.map fun cause => t.lose b cause i
  | .waiting => some ({ t with phase := .connecting }, i)
  | .ended _ => none

/-- What is left to do: attempts, then the parts of one attempt, then messages. -/
def left (b : Backoff) (t : Task) : Nat × Nat × Nat :=
  let attempts := b.maxAttempts.toNat - t.attempt.toNat
  match t.phase with
  | .waiting => (attempts, 3, 0)
  | .connecting => (attempts, 2, 0)
  | .receiving messages _ => (attempts, 1, 2 * messages.length)
  | .pushing _ messages _ => (attempts, 1, 2 * messages.length + 1)
  | .ended _ => (attempts, 0, 0)

/-- Less is left to do. -/
abbrev Less : Nat × Nat × Nat → Nat × Nat × Nat → Prop :=
  Prod.Lex (· < ·) (Prod.Lex (· < ·) (· < ·))

theorem allows_iff_lt {b : Backoff} {attempt : UInt32} :
    b.allows attempt ↔ attempt.toNat < b.maxAttempts.toNat := by
  simp [Backoff.allows, UInt32.lt_iff_toNat_lt]

/-- Attempts that are allowed are counted without wrapping around. -/
theorem toNat_succ_of_allows {b : Backoff} {attempt : UInt32} (h : b.allows attempt) :
    (attempt + 1).toNat = attempt.toNat + 1 := by
  have hlt := allows_iff_lt.1 h
  have hmax : b.maxAttempts.toNat < 2 ^ 32 := b.maxAttempts.toNat_lt
  have hone : (1 : UInt32).toNat = 1 := rfl
  rw [UInt32.toNat_add, hone, Nat.mod_eq_of_lt (by omega)]

private theorem attempts_left_lt {b : Backoff} {attempt : UInt32} (h : b.allows attempt) :
    b.maxAttempts.toNat - (attempt + 1).toNat < b.maxAttempts.toNat - attempt.toNat := by
  have hlt := allows_iff_lt.1 h
  have hsucc := toNat_succ_of_allows h
  omega

private theorem left_lose_lt (b : Backoff) (cause : Loss) (t : Task) (i : Intake)
    {loss : Option Loss} (h : t.phase = .receiving [] loss) :
    Less ((t.lose b cause i).1.left b) (t.left b) := by
  unfold lose afterLoss
  by_cases ha : b.allows t.attempt
  · simp only [ha, left, h, if_true]
    exact Prod.Lex.left _ _ (attempts_left_lt ha)
  · simp only [ha, left, h]
    exact Prod.Lex.right _ (Prod.Lex.left _ _ (by decide))

/-- Every step does something that was left to do. -/
theorem left_step_lt {b : Backoff} {connection : Nat → Network.Exchange} {t t' : Task}
    {i i' : Intake} (h : t.step? b connection i = some (t', i')) :
    Less (t'.left b) (t.left b) := by
  unfold step? at h
  split at h
  case h_1 hp =>
    obtain ⟨rfl, rfl⟩ := Prod.mk.inj (Option.some.inj h)
    simp only [left, hp]
    exact Prod.Lex.right _ (Prod.Lex.left _ _ (by decide))
  case h_2 message rest loss hp =>
    split at h <;> obtain ⟨rfl, rfl⟩ := Prod.mk.inj (Option.some.inj h) <;>
      simp only [left, hp, List.length_cons] <;>
      exact Prod.Lex.right _ (Prod.Lex.right _ (by omega))
  case h_3 e rest loss hp =>
    obtain ⟨rfl, rfl⟩ := Prod.mk.inj (Option.some.inj h)
    simp only [left, hp]
    exact Prod.Lex.right _ (Prod.Lex.right _ (by omega))
  case h_4 loss hp =>
    obtain ⟨cause, rfl, hl⟩ := Option.map_eq_some_iff.1 h
    rw [show t' = (t.lose b cause i).1 by rw [hl]]
    exact left_lose_lt b cause t i hp
  case h_5 hp =>
    obtain ⟨rfl, rfl⟩ := Prod.mk.inj (Option.some.inj h)
    simp only [left, hp]
    exact Prod.Lex.right _ (Prod.Lex.left _ _ (by decide))
  case h_6 => exact absurd h (by simp)

/-- Goes on until nothing is left to do. `stop` says when shutdown is asked for. -/
def run (b : Backoff) (connection : Nat → Network.Exchange) (stop : Stats → Bool) (t : Task)
    (i : Intake) : Task × Intake :=
  if t.phase.isPaused ∧ stop i.stats then (t.leave, i)
  else
    match _h : t.step? b connection i with
    | some (t', i') => run b connection stop t' i'
    | none => (t, i)
termination_by t.left b
decreasing_by exact left_step_lt _h

end Task
end PlaybackRelay.Stream
