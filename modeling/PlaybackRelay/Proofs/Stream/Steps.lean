import PlaybackRelay.Proofs.Queue
import PlaybackRelay.Stream.Task

/-! The steps of a stream task, one by one. Main statement: `Task.step_of_step?`. -/
namespace PlaybackRelay.Stream

/-- The event that was decoded and not yet pushed. -/
def Phase.held : Phase → List Event
  | .pushing e _ _ => [e]
  | _ => []

theorem Phase.held_of_mayWait {phase : Phase} (h : phase.mayWait) : phase.held = [] := by
  cases phase with
  | pushing => contradiction
  | _ => rfl

namespace Task

theorem held_of_outcome {t : Task} (h : t.outcome?.isSome) : t.phase.held = [] := by
  cases hphase : t.phase with
  | pushing => simp [outcome?, hphase] at h
  | _ => rfl

theorem phase_of_outcome? {t : Task} {outcome : Outcome} (h : t.outcome? = some outcome) :
    t.phase = .ended outcome := by
  unfold outcome? at h
  split at h
  case h_1 outcome' hphase => rw [hphase, Option.some.inj h]
  case h_2 => contradiction

/-- What a step of a task does. -/
inductive Step (b : Backoff) (connection : Nat → Network.Exchange) (t : Task) (i : Intake) :
    Task → Intake → Prop
  | connect (hphase : t.phase = .connecting) :
    Step b connection t i { t with
      opened := t.opened + 1
      received := 0
      phase := .receiving (messages (connection t.opened)) (loss? (connection t.opened)) } i
  | event {message : String} {rest : List String} {loss : Option Loss} {e : Event}
      (hphase : t.phase = .receiving (message :: rest) loss)
      (hmessage : Event.receive message = .ok e) :
    Step b connection t i { t with received := t.received + 1, phase := .pushing e rest loss }
      { i with stats := i.stats.count .incoming }
  | malformed {message : String} {rest : List String} {loss : Option Loss}
      {error : Event.DecodeError} (hphase : t.phase = .receiving (message :: rest) loss)
      (hmessage : Event.receive message = .error error) :
    Step b connection t i { t with phase := .receiving rest loss }
      { i with stats := i.stats.count .malformed }
  | push {e : Event} {rest : List String} {loss : Option Loss}
      (hphase : t.phase = .pushing e rest loss) :
    Step b connection t i { t with phase := .receiving rest loss }
      ⟨(i.queue.push e).2,
        if (i.queue.push e).1.isSome then i.stats.count .evicted else i.stats⟩
  | retry {cause : Loss} (hphase : t.phase = .receiving [] (some cause))
      (hallows : b.allows t.attempt) :
    Step b connection t i { t with
      attempt := t.attempt + 1
      reconnects := t.reconnects ++
        [⟨t.attempt + 1, b.maxAttempts, t.received, b.delay t.attempt⟩]
      phase := .waiting } { i with stats := i.stats.count .streamRetries }
  | exhaust {cause : Loss} (hphase : t.phase = .receiving [] (some cause))
      (hallows : ¬ b.allows t.attempt) :
    Step b connection t i { t with phase := .ended (.exhausted t.attempt cause) } i
  | reconnect (hphase : t.phase = .waiting) :
    Step b connection t i { t with phase := .connecting } i

variable {b : Backoff} {connection : Nat → Network.Exchange} {t t' : Task} {i i' : Intake}

private theorem step_of_lose {cause : Loss} (hphase : t.phase = .receiving [] (some cause)) :
    Step b connection t i (t.lose b cause i).1 (t.lose b cause i).2 := by
  unfold lose afterLoss
  by_cases hallows : b.allows t.attempt
  · rw [if_pos hallows]
    exact .retry hphase hallows
  · rw [if_neg hallows]
    exact .exhaust hphase hallows

theorem step_of_step? (h : t.step? b connection i = some (t', i')) :
    Step b connection t i t' i' := by
  unfold step? at h
  split at h
  case h_1 hphase =>
    obtain ⟨rfl, rfl⟩ := Prod.mk.inj (Option.some.inj h)
    exact .connect hphase
  case h_2 message rest loss hphase =>
    unfold Intake.count at h
    cases hmessage : Event.receive message with
    | ok e =>
      rw [hmessage] at h
      obtain ⟨rfl, rfl⟩ := Prod.mk.inj (Option.some.inj h)
      exact .event hphase hmessage
    | error error =>
      rw [hmessage] at h
      obtain ⟨rfl, rfl⟩ := Prod.mk.inj (Option.some.inj h)
      exact .malformed hphase hmessage
  case h_3 e rest loss hphase =>
    obtain ⟨rfl, rfl⟩ := Prod.mk.inj (Option.some.inj h)
    exact .push hphase
  case h_4 loss hphase =>
    obtain ⟨cause, rfl, hlose⟩ := Option.map_eq_some_iff.1 h
    have hstep : Step b connection t i (t.lose b cause i).1 (t.lose b cause i).2 :=
      step_of_lose hphase
    rw [hlose] at hstep
    exact hstep
  case h_5 hphase =>
    obtain ⟨rfl, rfl⟩ := Prod.mk.inj (Option.some.inj h)
    exact .reconnect hphase
  case h_6 => contradiction

theorem outcome?_of_step (h : Step b connection t i t' i') : t.outcome? = none := by
  cases h with
  | connect hphase | event hphase _ | malformed hphase _ | push hphase | retry hphase _
  | exhaust hphase _ | reconnect hphase => rw [outcome?, hphase]

theorem closed_of_step (h : Step b connection t i t' i') : i'.queue.closed = i.queue.closed := by
  cases h with
  | @push e => exact i.queue.closed_push e
  | _ => rfl

theorem capacity_of_step (h : Step b connection t i t' i') :
    i'.queue.capacity = i.queue.capacity := by
  cases h with
  | @push e => exact i.queue.capacity_push e
  | _ => rfl

/-- A task goes on until it has ended, unless a connection is held open. -/
theorem isSome_step? (h : t.outcome? = none) (hloss : t.phase ≠ .receiving [] none) :
    (t.step? b connection i).isSome := by
  unfold step?
  split
  case h_1 => rfl
  case h_2 message rest loss hphase => split <;> rfl
  case h_3 => rfl
  case h_4 loss hphase =>
    cases loss with
    | none => exact absurd hphase hloss
    | some cause => rfl
  case h_5 => rfl
  case h_6 hphase => simp [outcome?, hphase] at h

end Task
end PlaybackRelay.Stream
