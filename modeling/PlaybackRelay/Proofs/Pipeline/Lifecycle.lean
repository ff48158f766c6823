import PlaybackRelay.Proofs.Pipeline.Conservation
import PlaybackRelay.Proofs.Pipeline.Operation

/-!
The life of a pipeline, whichever calls are made on it and however they take turns with its tasks.
Main statement: `operated_of_follow?`.
-/
namespace PlaybackRelay.Pipeline

open Lifecycle (Call Calls RunCall ShutdownCall Request)

namespace Operation

variable {σ : Type} [SessionCache σ] {p : Plan} {o o' : Operation σ}

theorem stage_step (hstep : Step p o o') (h : o.calls.Stage) : o'.calls.Stage := by
  cases hstep with
  | begin hcall hidle =>
    obtain ⟨hlife, hruns⟩ := h.of_idle hidle
    have hput := Calls.proceeded_put_of_nil hcall hruns (.run .streaming)
      (o.calls.life.finish .running)
    exact .running (congrArg (Lifecycle.finish · .running) hlife) hput
  | refuse hcall _ => exact h.of_eq rfl (Calls.proceeded_put_of_none hcall rfl rfl _)
  | drain hcall _ =>
    obtain ⟨hruns, hput⟩ := h.proceeded_put hcall rfl .draining rfl _
    exact .draining (h.drain_of_streaming hruns) hput
  | @finish place r hcall _ =>
    obtain ⟨hruns, hput⟩ := h.proceeded_put hcall rfl (.returned r.isOk) rfl _
    exact .ended r.isOk (congrArg (Lifecycle.finishRun · r.isOk) (h.of_draining hruns)) hput
  | stopIdle hcall hidle =>
    obtain ⟨hlife, hruns⟩ := h.of_idle hidle
    have hput := Calls.proceeded_put_of_nil hcall hruns (.shutdown (.returned true))
      (o.calls.life.finish .stopped)
    exact .stopped (congrArg (Lifecycle.finish · .stopped) hlife) hput
  | ask hcall _ | answer hcall => exact h.of_eq rfl (Calls.proceeded_put_of_none hcall rfl rfl _)
  | cancel hcall => exact h.drain rfl (Calls.proceeded_put_of_none hcall rfl rfl _)
  | task _ _ _ | crashStream _ _ | crashBatcher _ _ => exact h

/-- A state that is terminal is never left. -/
theorem life_step_of_terminal (hstep : Step p o o') (h : o.calls.Stage)
    (hterminal : o.calls.life.state.isTerminal) : o'.calls.life = o.calls.life := by
  cases hstep with
  | begin _ hidle | stopIdle _ hidle =>
    rw [hidle] at hterminal
    contradiction
  | drain hcall _ | cancel hcall =>
    have hne : o.calls.life.state ≠ .running := by
      intro hrunning
      rw [hrunning] at hterminal
      contradiction
    exact Lifecycle.drain_of_ne hne
  | @finish place r hcall _ =>
    obtain ⟨hruns, -⟩ := h.proceeded_put hcall rfl (.returned r.isOk) rfl o.calls.life
    rw [h.of_draining hruns] at hterminal
    contradiction
  | refuse _ _ | ask _ _ | answer _ | task _ _ _ | crashStream _ _ | crashBatcher _ _ => rfl

omit [SessionCache σ] in
theorem over_of_result? {r : Except RunError Snapshot} (h : o.result? = some r) :
    o.streamOver ∧ o.world.batcher.isOver := by
  unfold result? at h
  unfold streamOver
  split at h
  case isTrue hcrashed =>
    rw [hcrashed]
    split at h
    case isTrue hover => exact ⟨rfl, hover⟩
    case isFalse => contradiction
  case isFalse hsound =>
    split at h
    case isTrue hclosed =>
      obtain ⟨houtcome, hover⟩ := World.over_of_result? h
      rw [houtcome, hclosed]
      exact ⟨Bool.or_true _, hover⟩
    case isFalse => contradiction

omit [SessionCache σ] in
theorem isOk_result?_of_eq {clean : Bool} (h : o.result?.map (·.isOk) = some clean)
    (hcrashed : o'.streamCrashed = o.streamCrashed)
    (hclosed : o.world.queue.closed → o'.world.queue.closed)
    (hstream : ¬ o.streamCrashed → o'.world.stream = o.world.stream)
    (hbatcher : o'.world.batcher = o.world.batcher) : o'.result?.map (·.isOk) = some clean := by
  unfold result? at h ⊢
  rw [hcrashed, hbatcher]
  split at h
  case isTrue hc =>
    rw [if_pos hc]
    exact h
  case isFalse hc =>
    rw [if_neg hc]
    split at h
    case isTrue hq =>
      rw [if_pos (hclosed hq), World.isOk_result?_of_eq (hstream hc) hbatcher]
      exact h
    case isFalse => contradiction

/-- Once there is a result, none of the tasks that are left can change it. -/
theorem result_step {clean : Bool} (hstep : Step p o o')
    (h : o.result?.map (·.isOk) = some clean) : o'.result?.map (·.isOk) = some clean := by
  obtain ⟨r, hresult, -⟩ := Option.map_eq_some_iff.1 h
  obtain ⟨hstream, hbatcher⟩ := over_of_result? hresult
  cases hstep with
  | begin _ _ | refuse _ _ | finish _ _ | stopIdle _ _ | ask _ _ | cancel _ | answer _ => exact h
  | drain _ _ => exact isOk_result?_of_eq h rfl (fun _ => rfl) (fun _ => rfl) rfl
  | @task a world _ hallows hstep =>
    have hsame := World.batcher_step_of_over hstep hbatcher
    refine isOk_result?_of_eq h rfl (World.closed_step hstep) (fun hsound => ?_) hsame
    have houtcome : o.world.stream.outcome?.isSome := by
      simp only [streamOver, hsound, Bool.false_or, Bool.and_eq_true] at hstream
      exact hstream.1
    exact World.stream_step_of_over hstep houtcome
  | crashStream _ hgoing => exact absurd hstream hgoing
  | crashBatcher _ hgoing => exact absurd hbatcher hgoing

/-- What every step preserves. A pipeline whose run has not begun is as it was. -/
structure Sound (initial : World σ) (o : Operation σ) : Prop where
  stage : o.calls.Stage
  untouched : o.calls.proceeded = [] → o.world = initial
  result : ∀ clean, .returned clean ∈ o.calls.proceeded → o.result?.map (·.isOk) = some clean

omit [SessionCache σ] in
theorem proceeded_ne_nil_of_begun (h : o.begun) : o.calls.proceeded ≠ [] := by
  intro hnil
  rw [begun, hnil] at h
  contradiction

/-- No task does anything before a run has begun. -/
theorem untouched_step {initial : World σ} (hstep : Step p o o') (h : o.Sound initial)
    (hnil : o'.calls.proceeded = []) : o'.world = initial := by
  cases hstep with
  | begin _ hidle | stopIdle _ hidle => exact h.untouched (h.stage.of_idle hidle).2
  | refuse hcall _ | ask hcall _ | cancel hcall | answer hcall =>
    exact h.untouched ((Calls.proceeded_put_of_none hcall rfl rfl _).symm.trans hnil)
  | drain hcall _ =>
    obtain ⟨-, hput⟩ := h.stage.proceeded_put hcall rfl .draining rfl o.calls.life.drain
    cases hput.symm.trans hnil
  | @finish place r hcall _ =>
    obtain ⟨-, hput⟩ := h.stage.proceeded_put hcall rfl (.returned r.isOk) rfl
      (o.calls.life.finishRun r.isOk)
    cases hput.symm.trans hnil
  | task hbegun _ _ | crashStream hbegun _ | crashBatcher hbegun _ =>
    exact absurd hnil (proceeded_ne_nil_of_begun hbegun)

/-- A run call that comes back does so with the result. -/
theorem returned_step {initial : World σ} {clean : Bool} (hstep : Step p o o')
    (h : o.Sound initial) (hmem : .returned clean ∈ o'.calls.proceeded) :
    o'.result?.map (·.isOk) = some clean := by
  by_cases hbefore : .returned clean ∈ o.calls.proceeded
  · exact result_step hstep (h.result clean hbefore)
  · cases hstep with
    | begin hcall hidle | stopIdle hcall hidle =>
      rw [Calls.proceeded_put_of_nil hcall (h.stage.of_idle hidle).2] at hmem
      contradiction
    | refuse hcall _ | ask hcall _ | cancel hcall | answer hcall =>
      rw [Calls.proceeded_put_of_none hcall rfl rfl] at hmem
      contradiction
    | drain hcall _ =>
      obtain ⟨-, hput⟩ := h.stage.proceeded_put hcall rfl .draining rfl o.calls.life.drain
      rw [hput] at hmem
      contradiction
    | @finish place r hcall hresult =>
      obtain ⟨-, hput⟩ := h.stage.proceeded_put hcall rfl (.returned r.isOk) rfl
        (o.calls.life.finishRun r.isOk)
      rw [hput, List.mem_singleton] at hmem
      obtain rfl : clean = r.isOk := RunCall.returned.inj hmem
      exact congrArg (Option.map (·.isOk)) hresult
    | task _ _ _ | crashStream _ _ | crashBatcher _ _ => contradiction

theorem sound_step {initial : World σ} (hstep : Step p o o') (h : o.Sound initial) :
    o'.Sound initial where
  stage := stage_step hstep h.stage
  untouched := untouched_step hstep h
  result _ := returned_step hstep h

omit [SessionCache σ] in
theorem sound_start (cache : σ) (capacity batchSize : Nat) (requests : List Request) :
    (start (ofCache cache capacity batchSize) requests).Sound
      (ofCache cache capacity batchSize).world := by
  have hruns : (start (ofCache cache capacity batchSize) requests).calls.proceeded = [] := by
    refine List.filterMap_eq_nil_iff.2 fun call hcall => ?_
    obtain ⟨request, -, rfl⟩ := List.mem_map.1 hcall
    cases request <;> rfl
  refine ⟨.idle rfl hruns, fun _ => rfl, fun clean hmem => ?_⟩
  rw [hruns] at hmem
  contradiction

theorem sound_of_follow? {initial : World σ} {moves : List Move}
    (hrun : o.follow? p moves = some o') (h : o.Sound initial) : o'.Sound initial :=
  follow_induction (fun _ _ => sound_step) hrun h

theorem life_of_follow? {initial : World σ} {moves : List Move}
    (hrun : o.follow? p moves = some o') (h : o.Sound initial)
    (hterminal : o.calls.life.state.isTerminal) : o'.calls.life = o.calls.life := by
  have hboth : o'.Sound initial ∧ o'.calls.life = o.calls.life := by
    refine follow_induction (motive := fun o' => o'.Sound initial ∧
      o'.calls.life = o.calls.life) (fun next next' hstep hnext => ?_) hrun ⟨h, rfl⟩
    obtain ⟨hsound, hlife⟩ := hnext
    rw [← hlife] at hterminal
    exact ⟨sound_step hstep hsound,
      (life_step_of_terminal hstep hsound.stage hterminal).trans hlife⟩
  exact hboth.2

omit [SessionCache σ] in
/-- A shutdown that finds the pipeline idle stops it. -/
theorem stepCall?_of_idle {place : Nat} (patient : Bool)
    (hcall : o.calls.calls[place]? = some (.shutdown .called))
    (hidle : o.calls.life.state = .idle) :
    o.stepCall? place patient = some { o with
      calls := o.calls.put place (.shutdown (.returned true)) (o.calls.life.finish .stopped) } := by
  have hstep : (Call.shutdown .called).step? o.calls.life patient =
      some (.shutdown (.returned true), o.calls.life.finish .stopped) := by
    rw [Call.step?, ShutdownCall.step?, Lifecycle.stopIdle, Lifecycle.move_of_eq hidle]
    rfl
  exact stepCall?_eq hcall rfl hstep

/-- A pipeline that was stopped before a run began does nothing any more. -/
theorem stopped_of_follow? {initial : World σ} {place : Nat} {patient : Bool} {moves : List Move}
    (hcall : o.calls.calls[place]? = some (.shutdown .called))
    (hidle : o.calls.life.state = .idle) (h : o.Sound initial)
    (hrun : o.follow? p (.call place patient :: moves) = some o') :
    o'.calls.life.states = [.idle, .stopped] ∧ o'.calls.proceeded = [] ∧ o'.world = initial := by
  obtain ⟨next, hnext, hrest⟩ := Option.bind_eq_some_iff.1 hrun
  obtain rfl := Option.some.inj ((stepCall?_of_idle patient hcall hidle).symm.trans hnext)
  have hnextSound := sound_step (.stopIdle (p := p) hcall hidle) h
  have hlife : o'.calls.life = ⟨[.idle], .stopped⟩ :=
    (life_of_follow? hrest hnextSound rfl).trans
      (congrArg (Lifecycle.finish · .stopped) (h.stage.of_idle hidle).1)
  have hend := sound_of_follow? hrest hnextSound
  have hruns := hend.stage.of_stopped hlife
  refine ⟨?_, hruns, hend.untouched hruns⟩
  rw [hlife]
  rfl

end Operation

/-- Any calls may be made on a pipeline, any number of them at the same time, and a task may crash at
any time. Of the calls that run it at most one is not refused, and it comes back well if and only if
the pipeline is stopped in the end. A pipeline that was shut down while it was idle stays as it is:
no connection is opened, nothing is written. -/
theorem operated_of_follow? [SessionCache σ] (p : Plan) (cache : σ) (capacity batchSize : Nat)
    (requests : List Request) (moves : List Move) {o : Operation σ}
    (hrun : (Operation.start (ofCache cache capacity batchSize) requests).follow? p moves =
      some o) :
    (o.calls.life.states <+: [.idle, .running, .draining, .stopped] ∨
        o.calls.life.states <+: [.idle, .running, .draining, .failed] ∨
        o.calls.life.states <+: [.idle, .stopped]) ∧
      o.calls.proceeded.length ≤ 1 ∧
      (∀ run ∈ o.calls.proceeded, ∀ clean,
        (run = .returned clean ↔ o.calls.life.state = if clean then .stopped else .failed) ∧
          (run = .returned clean → o.result?.map (·.isOk) = some clean)) ∧
      (∀ moves' o', o.follow? p moves' = some o' → o.calls.life.state.isTerminal →
        o'.calls.life = o.calls.life) ∧
      ∀ place patient moves' o', o.calls.calls[place]? = some (.shutdown .called) →
        o.calls.life.state = .idle → o.follow? p (.call place patient :: moves') = some o' →
        o'.calls.life.states = [.idle, .stopped] ∧ o'.calls.proceeded = [] ∧
          o'.world = (ofCache cache capacity batchSize).world := by
  have hstart := Operation.sound_start cache capacity batchSize requests
  have h := Operation.sound_of_follow? hrun hstart
  refine ⟨h.stage.states_prefix, h.stage.length_proceeded_le, fun run hmem clean => ?_,
    fun moves' o' hrun' hterminal => ?_, fun place patient moves' o' hcall hidle hrun' => ?_⟩
  · refine ⟨h.stage.returned_iff hmem clean, ?_⟩
    rintro rfl
    exact h.result clean hmem
  · exact Operation.life_of_follow? hrun' h hterminal
  · exact Operation.stopped_of_follow? hcall hidle h hrun'

/-- The second of two run calls begins the run, and both shutdowns come while it lasts. -/
def rivalRequests : List Request := [.run, .run, .shutdown, .shutdown]

def rivalMoves : List Move := List.flatten [
  [.call 1 true, .call 0 true],
  (openActions.take 13).map .task,
  [.call 2 true, .call 2 true],
  ((openActions.drop 13).take 2).map .task,
  [.call 1 true],
  (openActions.drop 15).map .task,
  [.call 1 true, .call 3 true, .call 3 true, .call 3 true, .call 2 true]]

theorem operated_of_rivalMoves :
    ∃ o, (Operation.start (ofCache (RecentSessions.ofCapacity 1) 1 5) rivalRequests).follow?
        openPlan rivalMoves = some o ∧
      o.calls.calls = [.run .refused, .run (.returned true), .shutdown (.returned true),
        .shutdown (.returned true)] ∧
      o.calls.life.state = .stopped ∧ o.result?.map (·.isOk) = some true ∧
      ∀ moves' o', o.follow? openPlan moves' = some o' → o'.calls.life = o.calls.life := by
  have hend :
      ((Operation.start (ofCache (RecentSessions.ofCapacity 1) 1 5) rivalRequests).follow?
        openPlan rivalMoves).any (fun o => o.calls.calls == [.run .refused, .run (.returned true),
          .shutdown (.returned true), .shutdown (.returned true)]) = true := by
    decide +kernel
  obtain ⟨o, hrun, hcalls⟩ := (Option.any_eq_true _ _).1 hend
  have hcalls := eq_of_beq hcalls
  obtain ⟨-, -, hreturned, hterminal, -⟩ :=
    operated_of_follow? openPlan _ 1 5 rivalRequests rivalMoves hrun
  have hmem : .returned true ∈ o.calls.proceeded := by
    rw [Calls.proceeded, hcalls]
    exact List.mem_singleton_self _
  obtain ⟨hstate, hresult⟩ := hreturned _ hmem true
  have hstopped : o.calls.life.state = .stopped := hstate.1 rfl
  refine ⟨o, hrun, hcalls, hstopped, hresult rfl, fun moves' o' hrun' => ?_⟩
  exact hterminal moves' o' hrun' (by rw [hstopped]; rfl)

end PlaybackRelay.Pipeline
