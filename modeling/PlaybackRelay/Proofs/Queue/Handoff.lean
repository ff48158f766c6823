import PlaybackRelay.Proofs.Queue
import PlaybackRelay.Queue.Handoff

/-!
A producer and a consumer of one queue, whose steps may alternate in any way. Nothing that was
pushed is lost, and the consumer never sleeps while there is something for it to do, unless the
producer is about to wake it. Main statement: `nothing_lost_of_follow?`.
-/
namespace PlaybackRelay.Queue.Handoff

variable {α : Type}

namespace Move

def pushed : Move α → List α
  | .push a => [a]
  | .close | .notify | .consume | .abandon => []

end Move

/-- The producer pushes nothing once it has closed the queue. -/
def ClosesLast (moves : List (Move α)) : Prop :=
  moves.Pairwise fun earlier later => earlier = .close → later.pushed = []

/-- Makes some moves one after the other, if each can be made at its time. -/
def follow? (h : Handoff α) (moves : List (Move α)) : Option (Handoff α) := moves.foldlM step? h

/-- What a move does. -/
inductive Step (h : Handoff α) : Move α → Handoff α → Prop
  | push {a : α} (hidle : h.notifying = false) : Step h (.push a) (h.push a)
  | close (hidle : h.notifying = false) :
    Step h .close { h with queue := h.queue.close, notifying := true }
  | notify (hnotifying : h.notifying = true) :
    Step h .notify { h with permit := true, notifying := false }
  | receive {a : α} {rest : List α} (hitems : h.queue.items = a :: rest)
      (hconsumer : h.consumer = .popping ∨ h.consumer = .poppingLast) :
    Step h .consume { h with
      queue := { h.queue with items := rest }
      consumer := .popping
      received := h.received ++ [a] }
  | miss (hconsumer : h.consumer = .popping) (hitems : h.queue.items = []) :
    Step h .consume { h with consumer := .checking }
  | seeClosed (hconsumer : h.consumer = .checking) (hclosed : h.queue.closed = true) :
    Step h .consume { h with consumer := .poppingLast }
  | park (hconsumer : h.consumer = .checking) (hopen : h.queue.closed = false) :
    Step h .consume { h with consumer := .parked }
  | finish (hconsumer : h.consumer = .poppingLast) (hitems : h.queue.items = []) :
    Step h .consume { h with consumer := .ended }
  | wake (hconsumer : h.consumer = .parked) (hpermit : h.permit = true) :
    Step h .consume { h with permit := false, consumer := .popping }
  | abandon (hconsumer : h.consumer = .parked) : Step h .abandon { h with consumer := .popping }

variable {h h' : Handoff α} {m : Move α}

theorem popOr_of_cons {a : α} {rest : List α} (hitems : h.queue.items = a :: rest)
    (next : Consumer) :
    h.popOr next = { h with
      queue := { h.queue with items := rest }
      consumer := .popping
      received := h.received ++ [a] } := by
  simp [popOr, pop, hitems]

theorem popOr_of_nil (hitems : h.queue.items = []) (next : Consumer) :
    h.popOr next = { h with consumer := next } := by
  simp [popOr, pop, hitems]

private theorem step_of_consume? (hstep : h.consume? = some h') : Step h .consume h' := by
  unfold consume? at hstep
  split at hstep
  case h_1 hconsumer =>
    obtain rfl := Option.some.inj hstep
    cases hitems : h.queue.items with
    | nil =>
      rw [popOr_of_nil hitems]
      exact .miss hconsumer hitems
    | cons a rest =>
      rw [popOr_of_cons hitems]
      exact .receive hitems (.inl hconsumer)
  case h_2 hconsumer =>
    obtain rfl := Option.some.inj hstep
    cases hclosed : h.queue.closed with
    | true => exact .seeClosed hconsumer hclosed
    | false => exact .park hconsumer hclosed
  case h_3 hconsumer =>
    obtain rfl := Option.some.inj hstep
    cases hitems : h.queue.items with
    | nil =>
      rw [popOr_of_nil hitems]
      exact .finish hconsumer hitems
    | cons a rest =>
      rw [popOr_of_cons hitems]
      exact .receive hitems (.inr hconsumer)
  case h_4 hconsumer =>
    split at hstep
    case isTrue hpermit =>
      obtain rfl := Option.some.inj hstep
      exact .wake hconsumer hpermit
    case isFalse => contradiction
  case h_5 => contradiction

theorem step_of_step? (hstep : h.step? m = some h') : Step h m h' := by
  cases m with
  | consume => exact step_of_consume? hstep
  | push a | close | notify | abandon =>
    simp only [step?, Option.ite_none_left_eq_some, Option.ite_none_right_eq_some,
      Option.some.injEq, Bool.not_eq_true] at hstep
    obtain ⟨hguard, rfl⟩ := hstep
    constructor
    exact hguard

theorem closed_of_step (hstep : Step h m h') :
    h'.queue.closed = true ↔ h.queue.closed = true ∨ m = .close := by
  cases hstep with
  | @push a => simp [Handoff.push]
  | close => simp [Queue.close]
  | _ => simp

/-- Every item that was pushed is still in the queue or has left it on one of two ways, on each of
which the order is kept. -/
structure Conserved (pushed : List α) (h : Handoff α) : Prop where
  perm : (h.evicted ++ h.received ++ h.queue.items).Perm pushed
  evicted : (h.evicted ++ h.queue.items).Sublist pushed
  received : (h.received ++ h.queue.items).Sublist pushed

/-- What the consumer has seen of the queue still holds, unless a notification is under way. -/
structure Attentive (h : Handoff α) : Prop where
  checking : h.consumer = .checking → h.permit = false → h.notifying = false → h.queue.items = []
  parked : h.consumer = .parked → h.permit = false → h.notifying = false →
    h.queue.items = [] ∧ h.queue.closed = false
  poppingLast : h.consumer = .poppingLast → h.queue.closed = true
  ended : h.consumer = .ended → h.queue.closed = true ∧ h.queue.items = []

theorem Conserved.start (capacity : Nat) : Conserved [] (start capacity : Handoff α) :=
  ⟨.refl _, List.Sublist.refl _, List.Sublist.refl _⟩

theorem Conserved.push {pushed : List α} (hh : Conserved pushed h) (a : α) :
    Conserved (pushed ++ [a]) (h.push a) := by
  have hitems := items_push h.queue a
  refine ⟨?_, ?_, ?_⟩
  · have hperm := hh.perm.append_right [a]
    rw [List.append_assoc _ h.queue.items, ← hitems] at hperm
    refine List.Perm.trans ?_ hperm
    simp only [Handoff.push, List.append_assoc]
    exact (List.perm_append_comm_assoc _ _ _).append_left h.evicted
  · have hevicted := hh.evicted.append (List.Sublist.refl [a])
    rw [List.append_assoc, ← hitems, ← List.append_assoc] at hevicted
    exact hevicted
  · have hreceived := hh.received.append (List.Sublist.refl [a])
    rw [List.append_assoc, ← hitems] at hreceived
    exact ((List.sublist_append_right _ _).append_left _).trans hreceived

theorem Conserved.step {pushed : List α} (hh : Conserved pushed h) (hstep : Step h m h') :
    Conserved (pushed ++ m.pushed) h' := by
  cases hstep with
  | @push a => exact hh.push a
  | @receive a rest hitems =>
    obtain ⟨hperm, hevicted, hreceived⟩ := hh
    rw [hitems] at hperm hevicted hreceived
    rw [Move.pushed, List.append_nil]
    refine ⟨?_, ?_, ?_⟩
    · simpa using hperm
    · exact (((List.sublist_cons_self a rest).append_left _).trans hevicted)
    · simpa using hreceived
  | _ =>
    rw [Move.pushed, List.append_nil]
    exact ⟨hh.perm, hh.evicted, hh.received⟩

theorem Attentive.start (capacity : Nat) : Attentive (start capacity : Handoff α) :=
  ⟨nofun, nofun, nofun, nofun⟩

/-- Only a push into a closed queue could bring an item that no one looks for any more. -/
theorem Attentive.step (hh : Attentive h) (hstep : Step h m h')
    (hopen : m.pushed ≠ [] → h.queue.closed = false) : Attentive h' := by
  obtain ⟨hchecking, hparked, hlast, hended⟩ := hh
  cases hstep with
  | @push a hidle =>
    have hclosed : h.queue.closed = false := hopen (List.cons_ne_nil a [])
    have hstill : (h.push a).queue.closed = false := (closed_push h.queue a).trans hclosed
    refine ⟨nofun, nofun, fun hconsumer => ?_, fun hconsumer => ?_⟩
    · rw [hlast hconsumer] at hclosed
      contradiction
    · rw [(hended hconsumer).1] at hclosed
      contradiction
  | close hidle => exact ⟨nofun, nofun, fun _ => rfl, fun hconsumer => ⟨rfl, (hended hconsumer).2⟩⟩
  | notify hnotifying => exact ⟨nofun, nofun, hlast, hended⟩
  | receive hitems hconsumer => exact ⟨nofun, nofun, nofun, nofun⟩
  | miss hconsumer hitems => exact ⟨fun _ _ _ => hitems, nofun, nofun, nofun⟩
  | seeClosed hconsumer hclosed => exact ⟨nofun, nofun, fun _ => hclosed, nofun⟩
  | park hconsumer hclosed =>
    exact ⟨nofun, fun _ hpermit hidle => ⟨hchecking hconsumer hpermit hidle, hclosed⟩, nofun, nofun⟩
  | finish hconsumer hitems => exact ⟨nofun, nofun, nofun, fun _ => ⟨hlast hconsumer, hitems⟩⟩
  | wake hconsumer hpermit => exact ⟨nofun, nofun, nofun, nofun⟩
  | abandon hconsumer => exact ⟨nofun, nofun, nofun, nofun⟩

/-- Both invariants hold behind any moves that push nothing into a closed queue. -/
theorem invariants_of_follow? {moves : List (Move α)} (hlast : ClosesLast moves)
    (hrun : h.follow? moves = some h')
    (hopen : h.queue.closed = true → ∀ m ∈ moves, m.pushed = [])
    {pushed : List α} (hconserved : Conserved pushed h) (hattentive : Attentive h) :
    Conserved (pushed ++ moves.flatMap Move.pushed) h' ∧ Attentive h' := by
  induction moves generalizing h pushed with
  | nil =>
    obtain rfl := Option.some.inj hrun
    rw [List.flatMap_nil, List.append_nil]
    exact ⟨hconserved, hattentive⟩
  | cons m moves ih =>
    obtain ⟨next, hnext, hrest⟩ := Option.bind_eq_some_iff.1 hrun
    obtain ⟨hm, hmoves⟩ := List.pairwise_cons.1 hlast
    have hstep := step_of_step? hnext
    have hopenNext : next.queue.closed = true → ∀ later ∈ moves, later.pushed = [] := by
      intro hclosed later hlater
      rcases (closed_of_step hstep).1 hclosed with hbefore | hclose
      · exact hopen hbefore later (List.mem_cons_of_mem m hlater)
      · exact hm later hlater hclose
    have hattentiveNext : Attentive next := by
      refine hattentive.step hstep fun hpushed => Bool.eq_false_iff.2 fun hclosed => ?_
      exact hpushed (hopen hclosed m List.mem_cons_self)
    rw [List.flatMap_cons, ← List.append_assoc]
    exact ih hmoves hrest hopenNext (hconserved.step hstep) hattentiveNext

/-- How many steps of its own a consumer of a closed queue has before it at most. -/
def left (h : Handoff α) : Nat :=
  5 * h.queue.items.length +
    match h.consumer with
    | .parked => 4
    | .popping => 3
    | .checking => 2
    | .poppingLast => 1
    | .ended => 0

private theorem left_consume_lt (hclosed : h.queue.closed = true) (hstep : Step h .consume h') :
    h'.left < h.left := by
  cases hstep with
  | receive hitems hconsumer =>
    rcases hconsumer with hconsumer | hconsumer
    · simp [left, hitems, hconsumer]
    · simp only [left, hitems, hconsumer, List.length_cons]
      omega
  | park hconsumer hopen =>
    rw [hclosed] at hopen
    contradiction
  | miss hconsumer _ | seeClosed hconsumer _ | finish hconsumer _ | wake hconsumer _ =>
    simp [left, hconsumer]

private theorem exists_consume (hattentive : Attentive h) (hclosed : h.queue.closed = true)
    (hidle : h.notifying = false) (hconsumer : h.consumer ≠ .ended) :
    ∃ h', h.step? .consume = some h' := by
  cases hc : h.consumer with
  | popping | checking | poppingLast => exact ⟨_, by rw [step?, consume?, hc]⟩
  | parked =>
    cases hpermit : h.permit with
    | true => exact ⟨_, by rw [step?, consume?, hc, hpermit]; rfl⟩
    | false =>
      have hopen := (hattentive.parked hc hpermit hidle).2
      rw [hclosed] at hopen
      contradiction
  | ended => contradiction

/-- Once the producer is done the consumer needs no one else to get to its end. -/
theorem exists_ended (hattentive : Attentive h) (hclosed : h.queue.closed = true)
    (hidle : h.notifying = false) :
    ∃ n h', h.follow? (List.replicate n .consume) = some h' ∧ h'.consumer = .ended := by
  induction hleft : h.left using Nat.strongRecOn generalizing h with
  | ind steps ih =>
    by_cases hconsumer : h.consumer = .ended
    · exact ⟨0, h, rfl, hconsumer⟩
    · obtain ⟨next, hnext⟩ := exists_consume hattentive hclosed hidle hconsumer
      have hstep := step_of_step? hnext
      have hlt := left_consume_lt hclosed hstep
      have hidleNext : next.notifying = false := by
        cases hstep <;> exact hidle
      obtain ⟨n, last, hrun, hended⟩ := ih next.left (hleft ▸ hlt)
        (hattentive.step hstep (absurd rfl)) ((closed_of_step hstep).2 (.inl hclosed)) hidleNext rfl
      exact ⟨n + 1, last, Option.bind_eq_some_iff.2 ⟨next, hnext, hrun⟩, hended⟩

/-- The consumer learns of the end when every item that was pushed has been received or evicted. If
it is parked and no notification is kept for it, there is nothing to do, or the producer is about to
notify it. Once the producer is done, the consumer gets to the end by itself. -/
theorem nothing_lost_of_follow? (capacity : Nat) {moves : List (Move α)}
    (hlast : ClosesLast moves) (hrun : (start capacity).follow? moves = some h) :
    (h.evicted ++ h.received ++ h.queue.items).Perm (moves.flatMap Move.pushed) ∧
      (h.evicted ++ h.queue.items).Sublist (moves.flatMap Move.pushed) ∧
      (h.received ++ h.queue.items).Sublist (moves.flatMap Move.pushed) ∧
      (h.consumer = .ended →
        h.queue.closed = true ∧ (h.evicted ++ h.received).Perm (moves.flatMap Move.pushed)) ∧
      (h.consumer = .parked → h.permit = false →
        (h.queue.items = [] ∧ h.queue.closed = false) ∨ h.notifying = true) ∧
      (h.queue.closed = true → h.notifying = false →
        ∃ n h', h.follow? (List.replicate n .consume) = some h' ∧ h'.consumer = .ended) := by
  obtain ⟨hconserved, hattentive⟩ := invariants_of_follow? hlast hrun
    (fun hclosed => absurd hclosed Bool.false_ne_true) (.start capacity) (.start capacity)
  rw [List.nil_append] at hconserved
  refine ⟨hconserved.perm, hconserved.evicted, hconserved.received, fun hended => ?_,
    fun hparked hpermit => ?_, exists_ended hattentive⟩
  · obtain ⟨hclosed, hitems⟩ := hattentive.ended hended
    have hperm := hconserved.perm
    rw [hitems, List.append_nil] at hperm
    exact ⟨hclosed, hperm⟩
  · cases hnotifying : h.notifying with
    | true => exact .inr rfl
    | false => exact .inl (hattentive.parked hparked hpermit hnotifying)

/-- Items arrive between the look for an item and the look at the flag, and the close between that
and the second look for an item; one item has to make room. -/
def crossingMoves : List (Move Nat) := [
  .consume, .push 1, .consume, .notify, .push 2, .consume, .consume, .notify, .consume, .consume,
  .consume, .consume, .push 3, .notify, .close, .consume, .consume, .consume, .notify, .consume,
  .consume]

theorem nothing_lost_of_crossingMoves :
    ∃ h, (start 1).follow? crossingMoves = some h ∧ h.consumer = .ended ∧
      (h.evicted ++ h.received).Perm [1, 2, 3] := by
  have hlast : ClosesLast crossingMoves := by simp [ClosesLast, crossingMoves, Move.pushed]
  obtain ⟨h, hrun, hended⟩ : ∃ h, (start 1).follow? crossingMoves = some h ∧ h.consumer = .ended :=
    ⟨_, rfl, rfl⟩
  exact ⟨h, hrun, hended, ((nothing_lost_of_follow? 1 hlast hrun).2.2.2.1 hended).2⟩

end PlaybackRelay.Queue.Handoff
