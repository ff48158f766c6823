import PlaybackRelay.Pipeline.Operation

/-!
How far the calls on a pipeline have come. At most one run call is not refused, and what that call
waits for and the state of the pipeline go together. Main definition: `Calls.Stage`.
-/
namespace PlaybackRelay

namespace Lifecycle

theorem move_of_eq {l : Lifecycle} {source target : State} (h : l.state = source) :
    l.move source target = (true, l.finish target) := if_pos h

theorem move_of_ne {l : Lifecycle} {source target : State} (h : l.state ≠ source) :
    l.move source target = (false, l) := if_neg h

theorem drain_of_ne {l : Lifecycle} (h : l.state ≠ .running) : l.drain = l := by
  rw [drain, move_of_ne h]

namespace Calls

/-- How far the calls have come. In `asked` it was a shutdown that began to drain, while the run call
still waits for its stream. -/
inductive Stage (s : Calls) : Prop
  | idle (hlife : s.life = ⟨[], .idle⟩) (hruns : s.proceeded = [])
  | stopped (hlife : s.life = ⟨[.idle], .stopped⟩) (hruns : s.proceeded = [])
  | running (hlife : s.life = ⟨[.idle], .running⟩) (hruns : s.proceeded = [.streaming])
  | asked (hlife : s.life = ⟨[.idle, .running], .draining⟩) (hruns : s.proceeded = [.streaming])
  | draining (hlife : s.life = ⟨[.idle, .running], .draining⟩) (hruns : s.proceeded = [.draining])
  | ended (clean : Bool)
      (hlife : s.life = ⟨[.idle, .running, .draining], if clean then .stopped else .failed⟩)
      (hruns : s.proceeded = [.returned clean])

/-- The call at a place has become another one, in a life that may have changed. -/
def put (s : Calls) (place : Nat) (call : Call) (life : Lifecycle) : Calls :=
  ⟨life, s.calls.set place call⟩

variable {s s' : Calls} {place : Nat} {old : Call}

theorem exists_of_step? {choice : Bool} (hold : s.calls[place]? = some old)
    (h : s.step? place choice = some s') :
    ∃ call life, old.step? s.life choice = some (call, life) ∧ s' = s.put place call life := by
  simp only [step?, hold, Option.bind_eq_bind, Option.bind_some] at h
  obtain ⟨⟨call, life⟩, hstep, h⟩ := Option.bind_eq_some_iff.1 h
  exact ⟨call, life, hstep, (Option.some.inj h).symm⟩

theorem exists_proceeded_put (h : s.calls[place]? = some old) (call : Call) (life : Lifecycle) :
    ∃ before after, s.proceeded = before ++ (old.proceeded?.toList ++ after) ∧
      (s.put place call life).proceeded = before ++ (call.proceeded?.toList ++ after) := by
  obtain ⟨hplace, hold⟩ := List.getElem?_eq_some_iff.1 h
  have hsplit : s.calls = s.calls.take place ++ old :: s.calls.drop (place + 1) := by
    rw [← hold, List.getElem_cons_drop, List.take_append_drop]
  refine ⟨(s.calls.take place).filterMap Call.proceeded?,
    (s.calls.drop (place + 1)).filterMap Call.proceeded?,
    (congrArg (List.filterMap Call.proceeded?) hsplit).trans ?_, ?_⟩
  · cases hp : old.proceeded? <;> simp [hp]
  · rw [proceeded, put, List.set_eq_take_append_cons_drop, if_pos hplace]
    cases hp : call.proceeded? <;> simp [hp]

/-- A call that did not begin a run, and does not now. -/
theorem proceeded_put_of_none (h : s.calls[place]? = some old) (hold : old.proceeded? = none)
    {call : Call} (hcall : call.proceeded? = none) (life : Lifecycle) :
    (s.put place call life).proceeded = s.proceeded := by
  obtain ⟨before, after, hbefore, hafter⟩ := exists_proceeded_put h call life
  rw [hafter, hbefore, hold, hcall]

theorem proceeded_put_of_nil (h : s.calls[place]? = some old) (hruns : s.proceeded = [])
    (call : Call) (life : Lifecycle) :
    (s.put place call life).proceeded = call.proceeded?.toList := by
  obtain ⟨before, after, hbefore, hafter⟩ := exists_proceeded_put h call life
  rw [hbefore] at hruns
  obtain ⟨rfl, hrest⟩ := List.append_eq_nil_iff.1 hruns
  obtain ⟨-, rfl⟩ := List.append_eq_nil_iff.1 hrest
  rw [hafter, List.nil_append, List.append_nil]

namespace Stage

theorem of_eq (h : s.Stage) (hlife : s'.life = s.life) (hruns : s'.proceeded = s.proceeded) :
    s'.Stage := by
  cases h with
  | idle hl hr => exact .idle (hlife.trans hl) (hruns.trans hr)
  | stopped hl hr => exact .stopped (hlife.trans hl) (hruns.trans hr)
  | running hl hr => exact .running (hlife.trans hl) (hruns.trans hr)
  | asked hl hr => exact .asked (hlife.trans hl) (hruns.trans hr)
  | draining hl hr => exact .draining (hlife.trans hl) (hruns.trans hr)
  | ended clean hl hr => exact .ended clean (hlife.trans hl) (hruns.trans hr)

theorem length_proceeded_le (h : s.Stage) : s.proceeded.length ≤ 1 := by
  cases h with
  | idle _ hr | stopped _ hr | running _ hr | asked _ hr | draining _ hr | ended _ _ hr => simp [hr]

/-- The only call that began a run goes on. -/
theorem proceeded_put (h : s.Stage) {run : RunCall} (hcall : s.calls[place]? = some (.run run))
    (hrun : run.proceeded) (run' : RunCall) (hrun' : run'.proceeded) (life : Lifecycle) :
    s.proceeded = [run] ∧ (s.put place (.run run') life).proceeded = [run'] := by
  obtain ⟨before, after, hbefore, hafter⟩ := exists_proceeded_put hcall (.run run') life
  have hold : (Call.run run).proceeded? = some run := if_pos hrun
  have hnew : (Call.run run').proceeded? = some run' := if_pos hrun'
  rw [hold] at hbefore
  rw [hnew] at hafter
  have hlength := h.length_proceeded_le
  rw [hbefore] at hlength
  simp only [List.length_append, Option.toList_some, List.length_singleton] at hlength
  obtain rfl : before = [] := List.length_eq_zero_iff.1 (by omega)
  obtain rfl : after = [] := List.length_eq_zero_iff.1 (by omega)
  exact ⟨hbefore, hafter⟩

theorem of_idle (h : s.Stage) (hidle : s.life.state = .idle) :
    s.life = ⟨[], .idle⟩ ∧ s.proceeded = [] := by
  cases h with
  | idle hl hr => exact ⟨hl, hr⟩
  | stopped hl _ | running hl _ | asked hl _ | draining hl _ =>
    rw [hl] at hidle
    contradiction
  | ended clean hl _ =>
    rw [hl] at hidle
    cases clean <;> contradiction

theorem of_stopped (h : s.Stage) (hlife : s.life = ⟨[.idle], .stopped⟩) : s.proceeded = [] := by
  cases h with
  | stopped _ hr => exact hr
  | idle hl _ | running hl _ | asked hl _ | draining hl _ | ended _ hl _ =>
    cases hl.symm.trans hlife

theorem of_running (h : s.Stage) (hrunning : s.life.state = .running) :
    s.proceeded = [.streaming] := by
  cases h with
  | running _ hr => exact hr
  | idle hl _ | stopped hl _ | asked hl _ | draining hl _ =>
    rw [hl] at hrunning
    contradiction
  | ended clean hl _ =>
    rw [hl] at hrunning
    cases clean <;> contradiction

theorem of_draining (h : s.Stage) (hruns : s.proceeded = [.draining]) :
    s.life = ⟨[.idle, .running], .draining⟩ := by
  cases h with
  | draining hl _ => exact hl
  | idle _ hr | stopped _ hr | running _ hr | asked _ hr | ended _ _ hr =>
    cases hr.symm.trans hruns

/-- Once its stream is over, a run drains, whether or not a shutdown has begun to drain before. -/
theorem drain_of_streaming (h : s.Stage) (hruns : s.proceeded = [.streaming]) :
    s.life.drain = ⟨[.idle, .running], .draining⟩ := by
  cases h with
  | running hl _ | asked hl _ =>
    rw [hl]
    rfl
  | idle _ hr | stopped _ hr | draining _ hr | ended _ _ hr => cases hr.symm.trans hruns

/-- A shutdown begins to drain a pipeline that runs, and changes nothing else. -/
theorem drain (h : s.Stage) (hlife : s'.life = s.life.drain) (hruns : s'.proceeded = s.proceeded) :
    s'.Stage := by
  by_cases hrunning : s.life.state = .running
  · have hstreaming := h.of_running hrunning
    exact .asked (hlife.trans (h.drain_of_streaming hstreaming)) (hruns.trans hstreaming)
  · exact h.of_eq (hlife.trans (drain_of_ne hrunning)) hruns

theorem states_prefix (h : s.Stage) :
    s.life.states <+: [.idle, .running, .draining, .stopped] ∨
      s.life.states <+: [.idle, .running, .draining, .failed] ∨
      s.life.states <+: [.idle, .stopped] := by
  cases h with
  | idle hl _ | running hl _ | asked hl _ | draining hl _ =>
    rw [hl]
    exact .inl (by decide)
  | stopped hl _ =>
    rw [hl]
    exact .inr (.inr (by decide))
  | ended clean hl _ =>
    rw [hl]
    cases clean with
    | true => exact .inl (by decide)
    | false => exact .inr (.inl (by decide))

/-- The state tells how the run has ended, if one has begun. -/
theorem returned_iff (h : s.Stage) {run : RunCall} (hrun : run ∈ s.proceeded) (clean : Bool) :
    run = .returned clean ↔ s.life.state = if clean then .stopped else .failed := by
  cases h with
  | idle _ hr | stopped _ hr =>
    rw [hr] at hrun
    contradiction
  | running hl hr | asked hl hr | draining hl hr =>
    rw [hr, List.mem_singleton] at hrun
    rw [hl, hrun]
    cases clean <;> decide
  | ended clean' hl hr =>
    rw [hr, List.mem_singleton] at hrun
    rw [hl, hrun]
    cases clean <;> cases clean' <;> decide

end Stage
end Calls
end Lifecycle
end PlaybackRelay
