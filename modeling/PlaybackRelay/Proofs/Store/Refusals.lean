import Mathlib.Algebra.Order.BigOperators.Group.List
import PlaybackRelay.Proofs.Pipeline.Writers
import PlaybackRelay.Store.Save

/-!
How many documents of a batch the store refused. Each result with an error counts as one, so it is
up to the store to send no more of them than there are documents. Main statement: `failed_le_sent`.
-/
namespace PlaybackRelay

namespace Store

/-- A batch is saved just if the response is complete, successful and a reply. -/
theorem save_eq_ok_iff {batch : List Event} {exchange : Network.Exchange} {saved : Saved} :
    save batch exchange = .ok saved ↔
      ∃ code body reply, exchange = .response code body .complete ∧
        Network.Status.isSuccess code ∧ Reply.parse body = .ok reply ∧
        saved = ⟨batch.length, reply.rejections batch⟩ := by
  constructor
  · intro h
    unfold save at h
    split at h
    case h_1 => contradiction
    case h_2 code body bodyEnd =>
      split at h
      case isTrue => contradiction
      case isFalse hcode =>
        split at h
        case h_1 | h_2 => contradiction
        case h_3 =>
          split at h
          case h_1 => contradiction
          case h_2 reply hreply =>
            have hsuccess : Network.Status.isSuccess code := by simpa using hcode
            exact ⟨code, body, reply, rfl, hsuccess, hreply, (Except.ok.inj h).symm⟩
  · rintro ⟨code, body, reply, rfl, hsuccess, hreply, rfl⟩
    simp only [save, hsuccess, hreply, Bool.not_true, Bool.false_eq_true, if_false]

theorem sent_of_save {batch : List Event} {exchange : Network.Exchange} {saved : Saved}
    (h : save batch exchange = .ok saved) : saved.sent = batch.length := by
  obtain ⟨-, -, -, -, -, -, rfl⟩ := save_eq_ok_iff.1 h
  rfl

namespace Reply

/-- The results with an error in the item of a document. -/
def refusedIn (item : List (String × Result)) : Nat := item.countP (·.2.error.isSome)

def refusals (r : Reply) : Nat := if r.errors then (r.items.map refusedIn).sum else 0

theorem length_rejections (r : Reply) (batch : List Event) :
    (r.rejections batch).length = r.refusals := by
  have hitem (x : List (String × Result) × Nat) :
      ((x.1.filterMap (Rejection.ofResult? batch x.2)).mergeSort Rejection.le).length =
        refusedIn x.1 := by
    rw [List.length_mergeSort, List.length_filterMap_eq_countP]
    simp only [Rejection.ofResult?, Option.isSome_map, refusedIn]
  have hitems : r.items.zipIdx.map (refusedIn ∘ Prod.fst) = r.items.map refusedIn := by
    rw [← List.map_map, List.zipIdx_map_fst]
  unfold rejections refusals
  split
  · rw [List.length_flatMap, ← hitems]
    exact congrArg List.sum (List.map_congr_left fun x _ => hitem x)
  · rfl

/-- A reply to a request for so many documents: there is no item without a document, and at most one
result of each item has an error. -/
structure Answers (size : Nat) (r : Reply) : Prop where
  items : r.items.length ≤ size
  single : ∀ item ∈ r.items, refusedIn item ≤ 1

theorem Answers.refusals_le {size : Nat} {r : Reply} (h : r.Answers size) :
    r.refusals ≤ size := by
  have hsum : (r.items.map refusedIn).sum ≤ (r.items.map refusedIn).length • 1 := by
    apply List.sum_le_card_nsmul
    intro n hn
    obtain ⟨item, hitem, rfl⟩ := List.mem_map.1 hn
    exact h.single item hitem
  have hitems := h.items
  rw [List.length_map, Nat.nsmul_eq_mul] at hsum
  unfold refusals
  split <;> omega

end Reply

theorem exists_reply_of_save {batch : List Event} {exchange : Network.Exchange} {saved : Saved}
    (h : save batch exchange = .ok saved) :
    ∃ code body reply, exchange = .response code body .complete ∧ Reply.parse body = .ok reply ∧
      saved.failed = reply.refusals := by
  obtain ⟨code, body, reply, hexchange, -, hreply, rfl⟩ := save_eq_ok_iff.1 h
  exact ⟨code, body, reply, hexchange, hreply, reply.length_rejections batch⟩

/-- Whatever can be read as a reply is one to a request for so many documents. -/
def Answering (size : Nat) (exchange : Network.Exchange) : Prop :=
  ∀ code body reply, exchange = .response code body .complete → Reply.parse body = .ok reply →
    reply.Answers size

theorem failed_le_length {batch : List Event} {exchange : Network.Exchange} {saved : Saved}
    (h : save batch exchange = .ok saved) (hanswering : Answering batch.length exchange) :
    saved.failed ≤ batch.length := by
  obtain ⟨code, body, reply, hexchange, hreply, hfailed⟩ := exists_reply_of_save h
  rw [hfailed]
  exact (hanswering code body reply hexchange hreply).refusals_le

end Store

namespace Pipeline

/-- How the write of a batch ends that the store was asked to take. -/
inductive Ending.OfSave (batch : List Event) (exchange : Network.Exchange) : Ending → Prop where
  | written {saved : Store.Saved} (h : Store.save batch exchange = .ok saved)
    (elapsed : Duration) : OfSave batch exchange (.written saved.failed elapsed)
  | refused {e : Store.SaveError} (h : Store.save batch exchange = .error e)
    (elapsed : Duration) : OfSave batch exchange (.refused elapsed)
  | crashed : OfSave batch exchange .crashed

/-- One write: no more documents of its batch are refused than are sent. -/
theorem addedBy_documentFailures_le {write : Write} {ending : Ending}
    {exchange : Network.Exchange} (h : ending.OfSave write.batch exchange)
    (hanswering : Store.Answering write.batch.length exchange) :
    addedBy .documentFailures (write, some ending) ≤ addedBy .persisted (write, some ending) := by
  cases h with
  | written hsave elapsed => exact Store.failed_le_length hsave hanswering
  | refused _ elapsed => exact Nat.le_refl 0
  | crashed => exact Nat.le_refl 0

variable {σ : Type}

/-- The writes that are over ended with what the store sent back, each for its own batch. -/
def World.SavedBy (store : Nat → Network.Exchange) (w : World σ) : Prop :=
  ∀ write ending, (write, some ending) ∈ w.done →
    ending.OfSave write.batch (store write.number) ∧
      Store.Answering write.batch.length (store write.number)

theorem World.settled_documentFailures_le {store : Nat → Network.Exchange} {w : World σ}
    (h : w.SavedBy store) : w.settled .documentFailures ≤ w.settled .persisted := by
  apply List.sum_le_sum
  rintro ⟨write, _ | ending⟩ hdone
  · exact Nat.le_refl 0
  · obtain ⟨hsave, hanswering⟩ := h write ending hdone
    exact addedBy_documentFailures_le hsave hanswering

end Pipeline

open Pipeline (World Plan Action)

/-- A batch that is saved was sent as a whole, and as many of its documents count as refused as
there are results with an error in the reply. These are no more than were sent if the reply answers
the documents of the batch; and where all replies do, the counters of a run agree with that. -/
theorem failed_le_sent {σ : Type} [SessionCache σ] :
    (∀ (batch : List Event) (exchange : Network.Exchange) (saved : Store.Saved),
      Store.save batch exchange = .ok saved →
      saved.sent = batch.length ∧
      ∃ code body reply, exchange = .response code body .complete ∧
        Store.Reply.parse body = .ok reply ∧ saved.failed = reply.refusals ∧
        (reply.Answers batch.length → saved.failed ≤ saved.sent)) ∧
    ∀ (p : Plan) (cache : σ) (capacity batchSize : Nat) (actions : List Action)
      (store : Nat → Network.Exchange) (w : World σ),
      (Pipeline.ofCache cache capacity batchSize).world.follow? p actions = some w →
      w.SavedBy store →
      w.settled .documentFailures ≤ w.settled .persisted ∧
      (w.settled .persisted < UInt64.size →
        w.stats.counts.documentFailures ≤ w.stats.counts.persisted) := by
  constructor
  · intro batch exchange saved hsave
    obtain ⟨code, body, reply, hexchange, hreply, hfailed⟩ := Store.exists_reply_of_save hsave
    have hsent := Store.sent_of_save hsave
    refine ⟨hsent, code, body, reply, hexchange, hreply, hfailed, fun hanswers => ?_⟩
    rw [hfailed, hsent]
    exact hanswers.refusals_le
  · intro p cache capacity batchSize actions store w hrun hsaved
    have hle := World.settled_documentFailures_le hsaved
    have hcounted := ((Pipeline.Writers.start p cache capacity batchSize).follow hrun).counted
    refine ⟨hle, fun hsize => ?_⟩
    have hfailures : w.stats.counts.documentFailures = UInt64.ofNat (w.settled .documentFailures) :=
      hcounted .documentFailures rfl
    have hpersisted : w.stats.counts.persisted = UInt64.ofNat (w.settled .persisted) :=
      hcounted .persisted rfl
    rw [hfailures, hpersisted, UInt64.le_iff_toNat_le, UInt64.toNat_ofNat_of_lt' hsize,
      UInt64.toNat_ofNat_of_lt' (Nat.lt_of_le_of_lt hle hsize)]
    exact hle

namespace Store

/-- A body is a reply with errors, and this many results of its items have one. -/
def hasRefusals (refused : List Nat) (body : List UInt8) : Bool :=
  match Reply.parse body with
  | .ok reply => reply.errors && reply.items.map Reply.refusedIn == refused
  | .error _ => false

theorem exists_reply_of_hasRefusals {refused : List Nat} {body : List UInt8}
    (h : hasRefusals refused body) :
    ∃ reply, Reply.parse body = .ok reply ∧ reply.items.map Reply.refusedIn = refused ∧
      reply.refusals = refused.sum := by
  unfold hasRefusals at h
  cases hreply : Reply.parse body with
  | ok reply =>
    rw [hreply] at h
    obtain ⟨herrors, hitems⟩ := Bool.and_eq_true_iff.1 h
    have hrefused : reply.items.map Reply.refusedIn = refused := eq_of_beq hitems
    refine ⟨reply, rfl, hrefused, ?_⟩
    rw [Reply.refusals, if_pos herrors, hrefused]
  | error fault =>
    rw [hreply] at h
    contradiction

/-- The document was refused. A member that nobody asks for is no text. -/
def oneRefusal : List UInt8 :=
  Text.Utf8.encode "\x7b\"took\":\"".toList ++ 0xFF ::
    Text.Utf8.encode ("\",\"errors\":true,\"items\":" ++
      "[\x7b\"create\":\x7b\"error\":1\x7d\x7d]\x7d").toList

/-- The document was refused for two actions, although it was to be created only. -/
def twoRefusals : List UInt8 :=
  Text.Utf8.encode ("\x7b\"errors\":true,\"items\":" ++
    "[\x7b\"create\":\x7b\"error\":1\x7d,\"index\":\x7b\"error\":2\x7d\x7d]\x7d").toList

theorem hasRefusals_oneRefusal : hasRefusals [1] oneRefusal := by
  decide +kernel

theorem answering_oneRefusal : Answering 1 (.response 200 oneRefusal .complete) := by
  intro code body reply hexchange hreply
  obtain ⟨-, rfl, -⟩ := Network.Exchange.response.inj hexchange
  obtain ⟨read, hread, hitems, -⟩ := exists_reply_of_hasRefusals hasRefusals_oneRefusal
  obtain rfl := Except.ok.inj (hreply.symm.trans hread)
  constructor
  · have hlength := congrArg List.length hitems
    rw [List.length_map] at hlength
    exact Nat.le_of_eq hlength
  · intro item hitem
    have hmem : Reply.refusedIn item ∈ reply.items.map Reply.refusedIn := List.mem_map_of_mem hitem
    rw [hitems, List.mem_singleton] at hmem
    exact Nat.le_of_eq hmem

theorem exists_save_of_hasRefusals {refused : List Nat} {body : List UInt8}
    (h : hasRefusals refused body) (batch : List Event) :
    ∃ saved, save batch (.response 200 body .complete) = .ok saved ∧
      saved.sent = batch.length ∧ saved.failed = refused.sum := by
  obtain ⟨reply, hreply, -, hrefusals⟩ := exists_reply_of_hasRefusals h
  have hsave : save batch (.response 200 body .complete) =
      .ok ⟨batch.length, reply.rejections batch⟩ :=
    save_eq_ok_iff.2 ⟨200, body, reply, rfl, by decide, hreply, rfl⟩
  refine ⟨_, hsave, rfl, ?_⟩
  rw [← hrefusals]
  exact reply.length_rejections batch

def sampleBatch : List Event := [⟨"a", "START", 1, none, 1, [], none⟩]

end Store

namespace Pipeline

/-- A write ended with so many refused documents. -/
def Ending.refuses (count : Nat) : Ending → Bool
  | .written failed _ => failed == count
  | .refused _ | .crashed => false

/-- The store refuses the document of every batch. -/
def refusingStore (_ : Nat) : Network.Exchange := .response 200 Store.oneRefusal .complete

end Pipeline

theorem failed_le_sent_of_oneRefusal :
    (∃ saved, Store.save Store.sampleBatch (Pipeline.refusingStore 0) = .ok saved ∧
      saved.failed = 1 ∧ saved.sent = 1 ∧
      (Store.Answering 1 (Pipeline.refusingStore 0) ∧ saved.failed ≤ saved.sent)) ∧
    ∃ w, (Pipeline.ofCache (RecentSessions.ofCapacity 1) 3 1).world.follow? Pipeline.crowdedPlan
        Pipeline.crowdedActions = some w ∧
      w.SavedBy Pipeline.refusingStore ∧ w.settled .persisted = 1 ∧
      w.stats.counts.documentFailures ≤ w.stats.counts.persisted := by
  have hall := @failed_le_sent RecentSessions _
  constructor
  · obtain ⟨saved, hsave, hsent, hfailed⟩ :=
      Store.exists_save_of_hasRefusals Store.hasRefusals_oneRefusal Store.sampleBatch
    obtain ⟨-, code, body, reply, hexchange, hreply, -, hle⟩ := hall.1 _ _ saved hsave
    refine ⟨saved, hsave, hfailed, hsent, Store.answering_oneRefusal, hle ?_⟩
    exact Store.answering_oneRefusal code body reply hexchange hreply
  · have hend : ((Pipeline.ofCache (RecentSessions.ofCapacity 1) 3 1).world.follow?
        Pipeline.crowdedPlan Pipeline.crowdedActions).any (fun w =>
          w.settled .persisted == 1 &&
            w.done.all fun x => x.1.batch.length == 1 && x.2.all (·.refuses 1)) = true := by
      decide +kernel
    obtain ⟨w, hrun, hw⟩ := (Option.any_eq_true _ _).1 hend
    obtain ⟨hpersisted, hdone⟩ := Bool.and_eq_true_iff.1 hw
    have hpersisted : w.settled .persisted = 1 := eq_of_beq hpersisted
    have hsaved : w.SavedBy Pipeline.refusingStore := by
      intro write ending hmem
      obtain ⟨hbatch, hwritten⟩ := Bool.and_eq_true_iff.1 (List.all_eq_true.1 hdone _ hmem)
      have hbatch : write.batch.length = 1 := eq_of_beq hbatch
      constructor
      · cases ending with
        | written failed elapsed =>
          -- Only here: with the reply in sight, the other cases would be closed by reading it.
          obtain ⟨saved, hsave, -, hfailed⟩ :=
            Store.exists_save_of_hasRefusals Store.hasRefusals_oneRefusal write.batch
          obtain rfl : failed = saved.failed := (eq_of_beq hwritten).trans hfailed.symm
          exact .written hsave elapsed
        | refused elapsed | crashed => contradiction
      · rw [hbatch]
        exact Store.answering_oneRefusal
    have hrest := hall.2 _ _ 3 1 _ Pipeline.refusingStore w hrun hsaved
    refine ⟨w, hrun, hsaved, hpersisted, hrest.2 ?_⟩
    rw [hpersisted]
    decide

/-- One document was sent, and two are said to have been refused. -/
theorem sent_lt_failed_of_twoRefusals :
    ∃ saved, Store.save Store.sampleBatch (.response 200 Store.twoRefusals .complete) = .ok saved ∧
      saved.sent = 1 ∧ saved.failed = 2 ∧ ¬ saved.failed ≤ saved.sent := by
  have hrefusals : Store.hasRefusals [2] Store.twoRefusals := by decide +kernel
  obtain ⟨saved, hsave, hsent, hfailed⟩ :=
    Store.exists_save_of_hasRefusals hrefusals Store.sampleBatch
  have hsent : saved.sent = 1 := hsent
  have hfailed : saved.failed = 2 := hfailed
  refine ⟨saved, hsave, hsent, hfailed, ?_⟩
  omega

end PlaybackRelay
