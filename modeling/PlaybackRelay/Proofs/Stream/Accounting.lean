import Mathlib.Data.List.Basic
import PlaybackRelay.Proofs.Stats.Counts
import PlaybackRelay.Proofs.Stream.Backoff
import PlaybackRelay.Proofs.Stream.Framing
import PlaybackRelay.Proofs.Stream.Script

/-!
What a stream task has done when its attempts are used up: how often it connected, how long it
waited, which events it pushed and what it counted. Main statement: `accounted_run`.
-/
namespace PlaybackRelay.Stream

open Network (Exchange)

/-- A connection that comes to an end: how it is lost, and the messages that it delivers before, in
whatever pieces its body arrives. -/
inductive Ends : Exchange → Loss → List String → Prop
  | failed : Ends .failed .connect []
  | refused {code : Nat} (body : List UInt8) (bodyEnd : Network.BodyEnd)
      (hcode : Network.Status.isSuccess code = false) :
    Ends (.response code body bodyEnd) (.status code) []
  | cut {code : Nat} (pieces : List (List UInt8)) (hcode : Network.Status.isSuccess code = true) :
    Ends (.response code pieces.flatten .cut) .read (Framing.start.feedAll pieces).1
  | completed {code : Nat} (pieces : List (List UInt8))
      (hcode : Network.Status.isSuccess code = true) :
    Ends (.response code pieces.flatten .complete) .closed
      ((Framing.start.feedAll pieces).1 ++ (Framing.start.feedAll pieces).2.finish.1)

namespace Ends

variable {exchange : Exchange} {loss : Loss} {delivered : List String}

theorem loss?_eq (h : Ends exchange loss delivered) : loss? exchange = some loss := by
  cases h with
  | failed => rfl
  | refused _ _ hcode | cut _ hcode | completed _ hcode => simp [loss?, hcode]

theorem messages_eq (h : Ends exchange loss delivered) : messages exchange = delivered := by
  cases h with
  | failed => rfl
  | refused _ _ hcode => simp [messages, hcode]
  | cut pieces hcode => simp [messages, bodyMessages, hcode, Framing.feedAll_eq]
  | completed pieces hcode => simp [messages, bodyMessages, hcode, Framing.feedAll_eq]

end Ends

/-- Pushes some events one after the other. -/
def pushAll (q : Queue Event) (events : List Event) : Queue Event :=
  events.foldl (fun q e => (q.push e).2) q

/-- The attempt that follows the loss of a connection. -/
def reconnectAfter (b : Backoff) (connection : Nat → Exchange) (n : Nat) : Reconnect where
  attempt := UInt32.ofNat (n + 1)
  maxAttempts := b.maxAttempts
  received := (eventsOf connection n).length
  delay := b.delay (UInt32.ofNat n)

namespace Task

variable {b : Backoff} {connection : Nat → Exchange} {t t' : Task} {i i' : Intake}

/-- What was taken in and what is still to be taken in make up what all connections deliver. -/
structure Balanced (b : Backoff) (connection : Nat → Exchange) (first : Intake) (t : Task)
    (i : Intake) : Prop where
  queue : pushAll i.queue (t.phase.held ++ eventsIn (t.unread b connection)) =
    pushAll first.queue (eventsIn (messagesFrom b connection 0))
  incoming : i.stats.counts.get .incoming +
      UInt64.ofNat (eventsIn (t.unread b connection)).length =
    first.stats.counts.get .incoming + UInt64.ofNat (eventsIn (messagesFrom b connection 0)).length
  handled : i.stats.counts.get .incoming + i.stats.counts.get .malformed +
      UInt64.ofNat (t.unread b connection).length =
    first.stats.counts.get .incoming + first.stats.counts.get .malformed +
      UInt64.ofNat (messagesFrom b connection 0).length
  retries : i.stats.counts.get .streamRetries =
    first.stats.counts.get .streamRetries + UInt64.ofNat t.attempt.toNat

/-- The attempts so far, one for each connection that was lost; the last connection is lost when
there are no more of them. -/
structure Logged (b : Backoff) (connection : Nat → Exchange) (t : Task) : Prop where
  reconnects : t.reconnects = (List.range t.attempt.toNat).map (reconnectAfter b connection)
  received : match t.phase with
    | .receiving messages _ | .pushing _ messages _ =>
      t.received + (eventsIn messages).length = (eventsOf connection t.attempt.toNat).length
    | _ => True
  ended : ∀ outcome, t.phase = .ended outcome →
    t.opened = b.maxAttempts.toNat + 1 ∧ t.attempt = b.maxAttempts ∧
      ∃ cause, loss? (connection b.maxAttempts.toNat) = some cause ∧
        outcome = .exhausted b.maxAttempts cause

private theorem balanced_start (b : Backoff) (connection : Nat → Exchange) (first : Intake) :
    Balanced b connection first start first :=
  ⟨rfl, rfl, rfl, (UInt64.add_zero _).symm⟩

/-- What is read is counted, as an event or as malformed. -/
theorem counts_step (hstep : Step b connection t i t' i') :
    i'.stats.counts.get .incoming =
        i.stats.counts.get .incoming + UInt64.ofNat (eventsIn t.reads).length ∧
      i'.stats.counts.get .incoming + i'.stats.counts.get .malformed =
        i.stats.counts.get .incoming + i.stats.counts.get .malformed +
          UInt64.ofNat t.reads.length := by
  cases hstep with
  | connect hphase | exhaust hphase _ | reconnect hphase =>
    simp [reads, hphase]
  | event hphase hmessage =>
    simp [reads, hphase, hmessage, Except.toOption, UInt64.add_assoc, UInt64.add_comm 1]
  | malformed hphase hmessage =>
    simp [reads, hphase, hmessage, Except.toOption, UInt64.add_assoc]
  | push hphase =>
    simp [reads, hphase]
    split <;> simp
  | retry hphase hallows => simp [reads, hphase]

/-- An event is pushed in the step behind the one that read it. -/
theorem pushAll_step (hstep : Step b connection t i t' i') (events : List Event) :
    pushAll i'.queue (t'.phase.held ++ events) =
      pushAll i.queue (t.phase.held ++ (eventsIn t.reads ++ events)) := by
  cases hstep with
  | connect hphase | retry hphase _ | exhaust hphase _ | reconnect hphase =>
    simp [reads, hphase, Phase.held]
  | event hphase hmessage | malformed hphase hmessage =>
    simp [reads, hphase, Phase.held, hmessage, Except.toOption]
  | push hphase => simp [reads, hphase, Phase.held, pushAll]

/-- Each attempt is counted. -/
theorem retries_step (hstep : Step b connection t i t' i') {before : UInt64}
    (h : i.stats.counts.get .streamRetries = before + UInt64.ofNat t.attempt.toNat) :
    i'.stats.counts.get .streamRetries = before + UInt64.ofNat t'.attempt.toNat := by
  cases hstep with
  | retry hphase hallows =>
    rw [toNat_succ_of_allows hallows, UInt64.ofNat_add, ← UInt64.add_assoc, ← h]
    rfl
  | push hphase =>
    refine Eq.trans ?_ h
    split <;> simp
  | _ => exact h

theorem balanced_step {first : Intake} (hstep : Step b connection t i t' i')
    (h : OnScript b connection t) (hb : Balanced b connection first t i) :
    Balanced b connection first t' i' := by
  have hunread := unread_step hstep h
  have hevents : eventsIn (t.unread b connection) =
      eventsIn t.reads ++ eventsIn (t'.unread b connection) := by rw [hunread, eventsIn_append]
  obtain ⟨hincoming, hhandled⟩ := counts_step hstep
  refine ⟨?_, ?_, ?_, ?_⟩
  · rw [pushAll_step hstep, ← hevents]
    exact hb.queue
  · rw [hincoming, UInt64.add_assoc, ← UInt64.ofNat_add, ← List.length_append, ← hevents]
    exact hb.incoming
  · rw [hhandled, UInt64.add_assoc _ (UInt64.ofNat _), ← UInt64.ofNat_add, ← List.length_append,
      ← hunread]
    exact hb.handled
  · exact retries_step hstep hb.retries

private theorem logged_start (b : Backoff) (connection : Nat → Exchange) :
    Logged b connection start :=
  ⟨rfl, trivial, nofun⟩

private theorem logged_step (hstep : Step b connection t i t' i') (h : OnScript b connection t)
    (hl : Logged b connection t) : Logged b connection t' := by
  obtain ⟨hattempt, hopened⟩ := h
  obtain ⟨hreconnects, hreceived, hended⟩ := hl
  cases hstep with
  | connect hphase =>
    rw [hphase] at hopened
    refine ⟨hreconnects, ?_, by simp⟩
    simp only [Nat.zero_add, eventsOf]
    rw [← hopened]
  | event hphase hmessage =>
    rw [hphase] at hreceived
    refine ⟨hreconnects, ?_, by simp⟩
    simp only [eventsIn_cons, hmessage, Except.toOption, Option.toList_some, List.singleton_append,
      List.length_cons] at hreceived ⊢
    omega
  | malformed hphase hmessage =>
    rw [hphase] at hreceived
    refine ⟨hreconnects, ?_, by simp⟩
    simpa only [eventsIn_cons, hmessage, Except.toOption, Option.toList_none, List.nil_append]
      using hreceived
  | push hphase =>
    rw [hphase] at hreceived
    exact ⟨hreconnects, hreceived, by simp⟩
  | retry hphase hallows =>
    rw [hphase] at hreceived
    refine ⟨?_, trivial, by simp⟩
    have hlast : reconnectAfter b connection t.attempt.toNat =
        ⟨t.attempt + 1, b.maxAttempts, t.received, b.delay t.attempt⟩ := by
      simp [reconnectAfter, ← hreceived]
    simp only [toNat_succ_of_allows hallows, List.range_succ, List.map_append, List.map_singleton,
      hlast, hreconnects]
  | @exhaust cause hphase hallows =>
    rw [hphase] at hopened
    refine ⟨hreconnects, trivial, fun outcome houtcome => ?_⟩
    obtain rfl := Phase.ended.inj houtcome
    have hmax : t.attempt.toNat = b.maxAttempts.toNat :=
      Nat.le_antisymm hattempt (Nat.le_of_not_lt (hallows ∘ allows_iff_lt.2))
    have hall : t.attempt = b.maxAttempts := UInt32.toNat_inj.1 hmax
    rw [hmax] at hopened
    exact ⟨hopened.1, hall, cause, hopened.2.symm, by rw [hall]⟩
  | reconnect hphase => exact ⟨hreconnects, trivial, by simp⟩

/-- A task that is never left goes on until no step is left, and what every step keeps holds at the
end. -/
theorem run_induction {motive : Task → Intake → Prop}
    (step : ∀ {t i t' i'}, motive t i → Step b connection t i t' i' → motive t' i')
    (h : motive t i) :
    motive (t.run b connection (fun _ => false) i).1 (t.run b connection (fun _ => false) i).2 ∧
      (t.run b connection (fun _ => false) i).1.step? b connection
        (t.run b connection (fun _ => false) i).2 = none := by
  fun_induction run b connection (fun _ => false) t i with
  | case1 t i hstop => exact absurd hstop.2 Bool.false_ne_true
  | case2 t i hstop t' i' hstep ih => exact ih (step h (step_of_step? hstep))
  | case3 t i hstop hstep => exact ⟨h, hstep⟩

/-- Where no connection is held open, a task that cannot go on has come to its end. -/
theorem exists_ended_of_stuck (h : OnScript b connection t)
    (hloss : ∀ n ≤ b.maxAttempts.toNat, (loss? (connection n)).isSome)
    (hstuck : t.step? b connection i = none) : ∃ outcome, t.phase = .ended outcome := by
  cases houtcome : t.outcome? with
  | none =>
    have hstep : (t.step? b connection i).isSome := isSome_step? houtcome (h.not_held hloss)
    rw [hstuck] at hstep
    contradiction
  | some outcome => exact ⟨outcome, phase_of_outcome? houtcome⟩

end Task

theorem messagesFrom_zero {b : Backoff} {connection : Nat → Exchange} {delivered : Nat → List String}
    (h : ∀ n ≤ b.maxAttempts.toNat, messages (connection n) = delivered n) :
    messagesFrom b connection 0 = (List.range (b.maxAttempts.toNat + 1)).flatMap delivered := by
  rw [messagesFrom, Nat.sub_zero, ← List.range_eq_range']
  exact List.flatMap_congr fun n hn => h n (Nat.le_of_lt_succ (List.mem_range.1 hn))

private theorem toNat_attempt_reconnectAfter {b : Backoff} {connection : Nat → Exchange} {n : Nat}
    (hn : n < b.maxAttempts.toNat) : (reconnectAfter b connection n).attempt.toNat = n + 1 :=
  UInt32.toNat_ofNat_of_lt (Nat.lt_of_le_of_lt hn b.maxAttempts.toNat_lt)

/-- The delays of the attempts on a script never fall. -/
theorem pairwise_delay (b : Backoff) (connection : Nat → Exchange) :
    (((List.range b.maxAttempts.toNat).map (reconnectAfter b connection)).map
      (·.delay.toNanos)).Pairwise (· ≤ ·) := by
  have hsmall {n : Nat} (hn : n ∈ List.range b.maxAttempts.toNat) : (UInt32.ofNat n).toNat = n :=
    UInt32.toNat_ofNat_of_lt (Nat.lt_trans (List.mem_range.1 hn) b.maxAttempts.toNat_lt)
  rw [List.map_map, List.pairwise_map]
  refine List.pairwise_lt_range.imp_of_mem fun {n later} hn hlater hlt => ?_
  apply Backoff.toNanos_delay_mono
  rw [hsmall hn, hsmall hlater]
  exact Nat.le_of_lt hlt

/-- A task that is never left connects once more than it may reconnect, whatever the connections
deliver, and ends with the loss of the last one. Each reconnect is counted without wrapping around,
and the delays never fall and never exceed the maximum. What was delivered is read in order: the
events in it are pushed, and every message is counted as an event or as malformed. -/
theorem accounted_run (b : Backoff) {connection : Nat → Exchange} {loss : Nat → Loss}
    {delivered : Nat → List String}
    (hends : ∀ n ≤ b.maxAttempts.toNat, Ends (connection n) (loss n) (delivered n))
    (queue : Queue Event) (stats : Stats) :
    let t := (Task.start.run b connection (fun _ => false) ⟨queue, stats⟩).1
    let i := (Task.start.run b connection (fun _ => false) ⟨queue, stats⟩).2
    let messages := (List.range (b.maxAttempts.toNat + 1)).flatMap delivered
    t.opened = b.maxAttempts.toNat + 1 ∧
      t.outcome? = some (.exhausted b.maxAttempts (loss b.maxAttempts.toNat)) ∧
      t.reconnects = (List.range b.maxAttempts.toNat).map (reconnectAfter b connection) ∧
      t.reconnects.map (·.attempt.toNat) = List.range' 1 b.maxAttempts.toNat ∧
      (t.reconnects.map (·.delay.toNanos)).Pairwise (· ≤ ·) ∧
      (∀ r ∈ t.reconnects, r.delay.toNanos ≤ b.maximum.toNanos) ∧
      i.stats.counts.get .streamRetries =
        stats.counts.get .streamRetries + UInt64.ofNat b.maxAttempts.toNat ∧
      i.queue = pushAll queue (eventsIn messages) ∧
      i.stats.counts.get .incoming =
        stats.counts.get .incoming + UInt64.ofNat (eventsIn messages).length ∧
      i.stats.counts.get .incoming + i.stats.counts.get .malformed =
        stats.counts.get .incoming + stats.counts.get .malformed +
          UInt64.ofNat messages.length := by
  intro t i messages
  have hloss : ∀ n ≤ b.maxAttempts.toNat, (loss? (connection n)).isSome := fun n hn => by
    rw [(hends n hn).loss?_eq]
    rfl
  have hall : messagesFrom b connection 0 = messages :=
    messagesFrom_zero fun n hn => (hends n hn).messages_eq
  obtain ⟨⟨hscript, hbalanced, hlogged⟩, hstuck⟩ := Task.run_induction
    (motive := fun t i => Task.OnScript b connection t ∧
      Task.Balanced b connection ⟨queue, stats⟩ t i ∧ Task.Logged b connection t)
    (fun {_ _ _ _} h hstep => ⟨Task.onScript_step hstep h.1, Task.balanced_step hstep h.1 h.2.1,
      Task.logged_step hstep h.1 h.2.2⟩)
    ⟨⟨Nat.zero_le _, rfl⟩, Task.balanced_start b connection _, Task.logged_start b connection⟩
  obtain ⟨outcome, hphase⟩ := Task.exists_ended_of_stuck hscript hloss hstuck
  obtain ⟨hopened, hattempt, cause, hcause, rfl⟩ := hlogged.ended outcome hphase
  have hreconnects := hlogged.reconnects
  rw [(hends _ (Nat.le_refl _)).loss?_eq, Option.some.injEq] at hcause
  rw [hattempt] at hreconnects
  obtain ⟨hqueue, hincoming, hhandled, hretries⟩ := hbalanced
  rw [Task.unread, hphase, hall] at hincoming hhandled
  rw [Task.unread, hphase, hall] at hqueue
  refine ⟨hopened, ?_, hreconnects, ?_, ?_, ?_, ?_, hqueue, ?_, ?_⟩
  · rw [Task.outcome?, hphase, hcause]
  · rw [hreconnects, List.map_map, List.range'_eq_map_range]
    refine List.map_congr_left fun n hn => ?_
    rw [Function.comp_apply, toNat_attempt_reconnectAfter (List.mem_range.1 hn), Nat.add_comm]
  · rw [hreconnects]
    exact pairwise_delay b connection
  · intro r hr
    rw [hreconnects] at hr
    obtain ⟨n, -, rfl⟩ := List.mem_map.1 hr
    exact b.toNanos_delay_le _
  · rw [← hattempt]
    exact hretries
  · exact (UInt64.add_zero _).symm.trans hincoming
  · exact (UInt64.add_zero _).symm.trans hhandled

/-- An event, and the beginning of another one. -/
def cutPieces : List (List UInt8) := [
  Text.Utf8.encode "data:[\"a\",\"START\",1,null,1,{}]\n".toList,
  Text.Utf8.encode "\ndata:[\"b\",".toList]

/-- A message that is no event, and an event that only the end of the body completes. -/
def wholePieces : List (List UInt8) := [
  Text.Utf8.encode "{}\ndata:[\"b\",\"END\",".toList,
  Text.Utf8.encode "1,null,1,{}]".toList]

/-- All ways in which a connection may end. -/
def fourEndings : Nat → Exchange × Loss × List String
  | 0 => (.failed, .connect, [])
  | 1 => (.response 503 [] .complete, .status 503, [])
  | 2 => (.response 200 cutPieces.flatten .cut, .read, (Framing.start.feedAll cutPieces).1)
  | _ => (.response 200 wholePieces.flatten .complete, .closed,
    (Framing.start.feedAll wholePieces).1 ++ (Framing.start.feedAll wholePieces).2.finish.1)

theorem accounted_run_fourEndings :
    let b : Backoff := ⟨.ofMillis 5, .ofMillis 12, 3⟩
    let connection n := (fourEndings n).1
    let t := (Task.start.run b connection (fun _ => false) ⟨.ofCapacity 1, .empty⟩).1
    let i := (Task.start.run b connection (fun _ => false) ⟨.ofCapacity 1, .empty⟩).2
    (∀ n ≤ b.maxAttempts.toNat,
      Ends (fourEndings n).1 (fourEndings n).2.1 (fourEndings n).2.2) ∧
      t.opened = 4 ∧ t.outcome? = some (.exhausted 3 .closed) ∧
      i.stats.counts.get .streamRetries = 3 ∧ i.stats.counts.get .incoming = 2 ∧
      i.stats.counts.get .incoming + i.stats.counts.get .malformed = 3 := by
  intro b connection t i
  have hends : ∀ n ≤ b.maxAttempts.toNat,
      Ends (fourEndings n).1 (fourEndings n).2.1 (fourEndings n).2.2 := by
    intro n _
    match n with
    | 0 => exact .failed
    | 1 => exact .refused [] .complete rfl
    | 2 => exact .cut cutPieces rfl
    | _ + 3 => exact .completed wholePieces rfl
  have hmessages : ((List.range 4).flatMap fun n => (fourEndings n).2.2).length = 3 := by
    decide +kernel
  have hevents : (eventsIn ((List.range 4).flatMap fun n => (fourEndings n).2.2)).length = 2 := by
    decide +kernel
  obtain ⟨hopened, houtcome, -, -, -, -, hretries, -, hincoming, hhandled⟩ :=
    accounted_run b hends (.ofCapacity 1) .empty
  refine ⟨hends, hopened, houtcome, hretries, hincoming.trans ?_, hhandled.trans ?_⟩
  · rw [show b.maxAttempts.toNat + 1 = 4 from rfl, hevents]
    rfl
  · rw [show b.maxAttempts.toNat + 1 = 4 from rfl, hmessages]
    rfl

end PlaybackRelay.Stream
