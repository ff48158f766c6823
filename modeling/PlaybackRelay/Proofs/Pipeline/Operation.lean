import PlaybackRelay.Proofs.Pipeline.Handover
import PlaybackRelay.Proofs.Pipeline.Stages

/-!
The steps of a pipeline in operation, one by one; the run that a pipeline takes by itself consists
of such steps. Main statements: `Operation.step_of_step?` and `Operation.exists_follow?_run`.
-/
namespace PlaybackRelay.Pipeline

open Lifecycle (Call Calls RunCall ShutdownCall Request)

namespace World

variable {σ : Type} {w w' : World σ}

theorem over_of_result? {r : Except RunError Snapshot} (h : w.result? = some r) :
    w.stream.outcome?.isSome ∧ w.batcher.isOver := by
  unfold result? at h
  split at h
  case h_1 houtcome hbatcher | h_2 houtcome hbatcher | h_3 houtcome hbatcher =>
    rw [houtcome, hbatcher]
    exact ⟨rfl, rfl⟩
  case h_4 => contradiction

/-- Whether a run has ended well depends neither on its queue nor on what it counted. -/
theorem isOk_result?_of_eq (hstream : w'.stream = w.stream) (hbatcher : w'.batcher = w.batcher) :
    w'.result?.map (·.isOk) = w.result?.map (·.isOk) := by
  unfold result?
  rw [hstream, hbatcher]
  split <;> rfl

variable [SessionCache σ] {p : Plan} {a : Action}

/-- A stream that has ended by itself has closed its queue. -/
theorem closed_run {s : Surroundings} (h : (w.run p s).stream.outcome?.isSome) :
    (w.run p s).queue.closed := by
  have hstuck : (w.run p s).next? p s = none := by
    fun_induction run p s w with
    | case1 w next hnext ih => exact ih h
    | case2 w hnone => exact hnone
  have hstream : (w.run p s).stepStream? p = none := by
    refine List.findSome?_eq_none_iff.1 hstuck .stream ?_
    simp [actions]
  obtain ⟨outcome, houtcome⟩ := Option.isSome_iff_exists.1 h
  by_contra hopen
  simp [stepStream?, houtcome, hopen] at hstream

theorem closed_step (hstep : Step p w a w') (h : w.queue.closed) : w'.queue.closed := by
  cases hstep with
  | stream hstep => exact (Stream.Task.closed_of_step hstep).trans h
  | close _ => rfl
  | receive _ hreceive =>
    obtain ⟨-, hclosed, -⟩ := Queue.items_of_receive_item hreceive
    exact hclosed.trans h
  | leave _ | finish _ _ | call _ _ | crash _ _ | handOver _ _ | drain _ _ | save _
  | giveUp _ _ => exact h

theorem stream_step_of_over (hstep : Step p w a w') (h : w.stream.outcome?.isSome) :
    w'.stream = w.stream := by
  cases hstep with
  | stream hstep =>
    rw [Stream.Task.outcome?_of_step hstep] at h
    contradiction
  | leave hwait =>
    obtain ⟨outcome, houtcome⟩ := Option.isSome_iff_exists.1 h
    rw [Stream.Task.phase_of_outcome? houtcome] at hwait
    contradiction
  | close _ | receive _ _ | finish _ _ | call _ _ | crash _ _ | handOver _ _ | drain _ _ | save _
  | giveUp _ _ => rfl

theorem batcher_step_of_over (hstep : Step p w a w') (h : w.batcher.isOver) :
    w'.batcher = w.batcher := by
  cases hstep with
  | stream _ | close _ | leave _ | save _ => rfl
  | receive hbatcher _ | finish hbatcher _ | handOver hbatcher _ | drain hbatcher _
  | giveUp hbatcher _ =>
    rw [hbatcher] at h
    contradiction
  | call hbatcher _ | crash hbatcher _ =>
    cases hnext : w.batcher with
    | ended | crashed =>
      rw [hnext] at hbatcher
      contradiction
    | _ =>
      rw [hnext] at h
      contradiction

end World

namespace Operation

variable {σ : Type} [SessionCache σ]

/-- What a step of a pipeline in operation does. -/
inductive Step (p : Plan) (o : Operation σ) : Operation σ → Prop
  | begin {place : Nat} (hcall : o.calls.calls[place]? = some (.run .called))
      (hidle : o.calls.life.state = .idle) :
    Step p o { o with calls := o.calls.put place (.run .streaming) (o.calls.life.finish .running) }
  | refuse {place : Nat} (hcall : o.calls.calls[place]? = some (.run .called))
      (hbusy : o.calls.life.state ≠ .idle) :
    Step p o { o with calls := o.calls.put place (.run .refused) o.calls.life }
  | drain {place : Nat} (hcall : o.calls.calls[place]? = some (.run .streaming))
      (hover : o.streamOver) :
    Step p o { o with
      calls := o.calls.put place (.run .draining) o.calls.life.drain
      world := o.world.withQueue o.world.queue.close }
  | finish {place : Nat} {r : Except RunError Snapshot}
      (hcall : o.calls.calls[place]? = some (.run .draining)) (hresult : o.result? = some r) :
    Step p o { o with
      calls := o.calls.put place (.run (.returned r.isOk)) (o.calls.life.finishRun r.isOk) }
  | stopIdle {place : Nat} (hcall : o.calls.calls[place]? = some (.shutdown .called))
      (hidle : o.calls.life.state = .idle) :
    Step p o { o with
      calls := o.calls.put place (.shutdown (.returned true)) (o.calls.life.finish .stopped) }
  | ask {place : Nat} (hcall : o.calls.calls[place]? = some (.shutdown .called))
      (hbusy : o.calls.life.state ≠ .idle) :
    Step p o { o with calls := o.calls.put place (.shutdown .asking) o.calls.life }
  | cancel {place : Nat} (hcall : o.calls.calls[place]? = some (.shutdown .asking)) :
    Step p o { o with
      calls := o.calls.put place (.shutdown .waiting) o.calls.life.drain
      cancelled := true }
  | answer {place : Nat} {inTime : Bool}
      (hcall : o.calls.calls[place]? = some (.shutdown .waiting)) :
    Step p o { o with calls := o.calls.put place (.shutdown (.returned inTime)) o.calls.life }
  | task {a : Action} {world : World σ} (hbegun : o.begun) (hallows : o.allows a)
      (hstep : World.Step p o.world a world) : Step p o { o with world }
  | crashStream (hbegun : o.begun) (hgoing : ¬ o.streamOver) :
    Step p o { o with streamCrashed := true }
  | crashBatcher (hbegun : o.begun) (hgoing : ¬ o.world.batcher.isOver) :
    Step p o { o with world := o.world.endBatcher .crashed }

variable {p : Plan} {o o' : Operation σ}

section

variable {place : Nat} {answer patient : Bool} {call : Call} {life : Lifecycle}

private theorem step_of_run {old : RunCall} (hcall : o.calls.calls[place]? = some (.run old))
    (hanswer : o.answer? patient (.run old) = some answer)
    (hstep : (Call.run old).step? o.calls.life answer = some (call, life)) :
    Step p o { o.act (.run old) with calls := o.calls.put place call life } := by
  cases old with
  | called =>
    by_cases hidle : o.calls.life.state = .idle
    · rw [Call.step?, RunCall.step?, Lifecycle.begin, Lifecycle.move_of_eq hidle] at hstep
      obtain ⟨rfl, rfl⟩ := Prod.mk.inj (Option.some.inj hstep)
      exact .begin hcall hidle
    · rw [Call.step?, RunCall.step?, Lifecycle.begin, Lifecycle.move_of_ne hidle] at hstep
      obtain ⟨rfl, rfl⟩ := Prod.mk.inj (Option.some.inj hstep)
      exact .refuse hcall hidle
  | streaming =>
    obtain ⟨rfl, rfl⟩ := Prod.mk.inj (Option.some.inj hstep)
    unfold answer? at hanswer
    by_cases hover : o.streamOver
    · exact .drain hcall hover
    · simp [hover] at hanswer
  | draining =>
    obtain ⟨rfl, rfl⟩ := Prod.mk.inj (Option.some.inj hstep)
    obtain ⟨r, hresult, rfl⟩ := Option.map_eq_some_iff.1 hanswer
    exact .finish hcall hresult
  | refused | returned _ => contradiction

private theorem step_of_shutdown {old : ShutdownCall}
    (hcall : o.calls.calls[place]? = some (.shutdown old))
    (hstep : (Call.shutdown old).step? o.calls.life answer = some (call, life)) :
    Step p o { o.act (.shutdown old) with calls := o.calls.put place call life } := by
  cases old with
  | called =>
    by_cases hidle : o.calls.life.state = .idle
    · rw [Call.step?, ShutdownCall.step?, Lifecycle.stopIdle, Lifecycle.move_of_eq hidle] at hstep
      obtain ⟨rfl, rfl⟩ := Prod.mk.inj (Option.some.inj hstep)
      exact .stopIdle hcall hidle
    · rw [Call.step?, ShutdownCall.step?, Lifecycle.stopIdle, Lifecycle.move_of_ne hidle] at hstep
      obtain ⟨rfl, rfl⟩ := Prod.mk.inj (Option.some.inj hstep)
      exact .ask hcall hidle
  | asking =>
    obtain ⟨rfl, rfl⟩ := Prod.mk.inj (Option.some.inj hstep)
    exact .cancel hcall
  | waiting =>
    rw [Call.step?, ShutdownCall.step?] at hstep
    by_cases hterminal : o.calls.life.state.isTerminal
    · rw [if_pos hterminal] at hstep
      obtain ⟨rfl, rfl⟩ := Prod.mk.inj (Option.some.inj hstep)
      exact .answer hcall
    · rw [if_neg hterminal] at hstep
      cases answer with
      | true => contradiction
      | false =>
        obtain ⟨rfl, rfl⟩ := Prod.mk.inj (Option.some.inj hstep)
        exact .answer hcall
  | returned _ => contradiction

private theorem step_of_stepCall? (h : o.stepCall? place patient = some o') : Step p o o' := by
  obtain ⟨old, hcall, h⟩ := Option.bind_eq_some_iff.1 h
  obtain ⟨answer, hanswer, h⟩ := Option.bind_eq_some_iff.1 h
  obtain ⟨calls, hcalls, h⟩ := Option.bind_eq_some_iff.1 h
  obtain ⟨call, life, hstep, rfl⟩ := Calls.exists_of_step? hcall hcalls
  obtain rfl := Option.some.inj h
  cases old with
  | run old => exact step_of_run hcall hanswer hstep
  | shutdown old => exact step_of_shutdown hcall hstep

end

theorem step_of_step? {move : Move} (h : o.step? p move = some o') : Step p o o' := by
  cases move with
  | call place patient => exact step_of_stepCall? h
  | task a =>
    have h : o.stepTask? p a = some o' := h
    unfold stepTask? at h
    split at h
    case isTrue hgo =>
      obtain ⟨world, hstep, rfl⟩ := Option.map_eq_some_iff.1 h
      exact .task hgo.1 hgo.2 (World.step_of_step? hstep)
    case isFalse => contradiction
  | crashStream =>
    have h : o.crashStream? = some o' := h
    unfold crashStream? at h
    split at h
    case isTrue hgo =>
      obtain rfl := Option.some.inj h
      exact .crashStream hgo.1 hgo.2
    case isFalse => contradiction
  | crashBatcher =>
    have h : o.crashBatcher? = some o' := h
    unfold crashBatcher? at h
    split at h
    case isTrue hgo =>
      obtain rfl := Option.some.inj h
      exact .crashBatcher hgo.1 hgo.2
    case isFalse => contradiction

/-- What every step preserves holds at the end if it held at the start. -/
theorem follow_induction {motive : Operation σ → Prop} {moves : List Move}
    (hstep : ∀ o o', Step p o o' → motive o → motive o') (hrun : o.follow? p moves = some o')
    (h : motive o) : motive o' := by
  induction moves generalizing o with
  | nil =>
    obtain rfl := Option.some.inj hrun
    exact h
  | cons move moves ih =>
    obtain ⟨next, hnext, hrest⟩ := Option.bind_eq_some_iff.1 hrun
    exact ih hrest (hstep o next (step_of_step? hnext) h)

theorem follow?_append {next : Operation σ} {moves moves' : List Move}
    (h : o.follow? p moves = some next) (h' : next.follow? p moves' = some o') :
    o.follow? p (moves ++ moves') = some o' := by
  rw [follow?, List.foldlM_append]
  exact Option.bind_eq_some_iff.2 ⟨next, h, h'⟩

omit [SessionCache σ] in
/-- The step of a call, from what it finds out. -/
theorem stepCall?_eq {place : Nat} {patient answer : Bool} {old call : Call} {life : Lifecycle}
    (hcall : o.calls.calls[place]? = some old) (hanswer : o.answer? patient old = some answer)
    (hstep : old.step? o.calls.life answer = some (call, life)) :
    o.stepCall? place patient =
      some { o.act old with calls := o.calls.put place call life } := by
  simp [stepCall?, hcall, hanswer, Calls.step?, hstep, Calls.put]

/-- A pipeline that one call runs while another one, which shuts it down, waits for its end. -/
def stopping (run : RunCall) (life : Lifecycle) (world : World σ) : Operation σ :=
  ⟨⟨life, [.run run, .shutdown .waiting]⟩, world, false, true⟩

/-- The tasks of a pipeline that is about to end go on as they would by themselves. -/
theorem follow?_stopping {actions : List Action} {world world' : World σ} (life : Lifecycle)
    (hrun : world.follow? p actions = some world') :
    (stopping .streaming life world).follow? p (actions.map .task) =
      some (stopping .streaming life world') := by
  induction actions generalizing world with
  | nil =>
    obtain rfl := Option.some.inj hrun
    rfl
  | cons a actions ih =>
    obtain ⟨next, hnext, hrest⟩ := Option.bind_eq_some_iff.1 hrun
    have hgo : (stopping .streaming life world).begun ∧
        (stopping .streaming life world).allows a := by
      cases a <;> exact ⟨rfl, rfl⟩
    have hstep : (stopping .streaming life world).step? p (.task a) =
        some (stopping .streaming life next) :=
      (if_pos hgo).trans (congrArg (Option.map (stopping .streaming life)) hnext)
    exact Option.bind_eq_some_iff.2 ⟨_, hstep, ih hrest⟩

/-- A batcher that cannot build its permits crashes. -/
theorem exists_follow?_withPermits {world : World σ} (life : Lifecycle)
    (hgoing : ¬ world.batcher.isOver) :
    ∃ moves, (stopping .streaming life world).follow? p moves =
      some (stopping .streaming life (world.withPermits p)) := by
  unfold World.withPermits
  by_cases hfits : (Part.permits p.writeLimit).fits
  · refine ⟨[], ?_⟩
    rw [if_pos hfits]
    rfl
  · refine ⟨[.crashBatcher], ?_⟩
    rw [if_neg hfits]
    have hgo : (stopping .streaming life world).begun ∧
        ¬ (stopping .streaming life world).world.batcher.isOver := ⟨rfl, hgoing⟩
    have hstep : (stopping .streaming life world).step? p .crashBatcher =
        some (stopping .streaming life (world.endBatcher .crashed)) := if_pos hgo
    exact Option.bind_eq_some_iff.2 ⟨_, hstep, rfl⟩

/-- The run call comes back once both tasks are over. -/
theorem follow?_return {world : World σ} {r : Except RunError Snapshot} (life : Lifecycle)
    (hresult : world.result? = some r) (hclosed : world.queue.closed) :
    (stopping .streaming life world).follow? p [.call 0 true, .call 0 true] =
      some (stopping (.returned r.isOk) (life.drain.finishRun r.isOk) world) := by
  have hsame : world.withQueue world.queue.close = world := by
    obtain ⟨stream, ⟨⟨capacity, items, closed⟩, stats⟩⟩ := world
    obtain rfl : closed = true := hclosed
    rfl
  have hover : (stopping .streaming life world).streamOver := by
    unfold streamOver stopping
    rw [(World.over_of_result? hresult).1, hclosed]
    rfl
  have hstreaming : (stopping .streaming life world).answer? true (.run .streaming) = some true :=
    if_pos hover
  have hdrain : (stopping .streaming life world).step? p (.call 0 true) =
      some (stopping .draining life.drain world) := by
    refine (stepCall?_eq rfl hstreaming rfl).trans ?_
    exact congrArg (some ∘ stopping .draining life.drain) hsame
  have hdraining : (stopping .draining life.drain world).answer? true (.run .draining) =
      some r.isOk := by
    have hreturn : (stopping .draining life.drain world).result? = some r :=
      (if_pos hclosed).trans hresult
    exact congrArg (Option.map (·.isOk)) hreturn
  have hreturn : (stopping .draining life.drain world).step? p (.call 0 true) =
      some (stopping (.returned r.isOk) (life.drain.finishRun r.isOk) world) :=
    stepCall?_eq rfl hdraining rfl
  exact Option.bind_eq_some_iff.2 ⟨_, hdrain, Option.bind_eq_some_iff.2 ⟨_, hreturn, rfl⟩⟩

/-- The run that a pipeline takes by itself is one of these. -/
theorem exists_follow?_run {cache : σ} {capacity batchSize : Nat} {s : Surroundings}
    {r : Except RunError Snapshot} {pipeline : Pipeline σ}
    (hrun : (ofCache cache capacity batchSize).run p s = (some r, pipeline)) :
    ∃ moves o, (start (ofCache cache capacity batchSize) [.run, .shutdown]).follow? p moves =
        some o ∧ o.calls.life = pipeline.life ∧ o.world = pipeline.world ∧
      .returned r.isOk ∈ o.calls.proceeded := by
  have hbegin : (ofCache cache capacity batchSize).life.begin = (true, ⟨[.idle], .running⟩) := rfl
  obtain ⟨actions, hactions⟩ :=
    World.exists_follow?_run p s ((ofCache cache capacity batchSize).world.withPermits p)
  rw [Pipeline.run, hbegin] at hrun
  dsimp only at hrun
  generalize hworld : ((ofCache cache capacity batchSize).world.withPermits p).run p s = world
    at hactions hrun
  cases hresult : world.result? with
  | none =>
    rw [hresult] at hrun
    cases hrun
  | some result =>
    rw [hresult] at hrun
    obtain ⟨hr, rfl⟩ := Prod.mk.inj hrun
    obtain rfl := Option.some.inj hr
    have hclosed : world.queue.closed := by
      have houtcome := (World.over_of_result? hresult).1
      rw [← hworld] at houtcome ⊢
      exact World.closed_run houtcome
    have hask : (start (ofCache cache capacity batchSize) [.run, .shutdown]).follow? p
        [.call 0 true, .call 1 true, .call 1 true] = some (stopping .streaming
          ⟨[.idle, .running], .draining⟩ (ofCache cache capacity batchSize).world) := rfl
    have hreceiving : ¬ (ofCache cache capacity batchSize).world.batcher.isOver := nofun
    obtain ⟨moves, hpermits⟩ := exists_follow?_withPermits ⟨[.idle, .running], .draining⟩ hreceiving
    have htasks := follow?_stopping ⟨[.idle, .running], .draining⟩ hactions
    have hreturn := follow?_return (p := p) ⟨[.idle, .running], .draining⟩ hresult hclosed
    have hrest := follow?_append hpermits (follow?_append htasks hreturn)
    have hall := follow?_append hask hrest
    exact ⟨_, _, hall, rfl, rfl, List.mem_singleton_self _⟩

end Operation
end PlaybackRelay.Pipeline
