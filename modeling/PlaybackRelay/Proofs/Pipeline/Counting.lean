import Mathlib
import PlaybackRelay.Proofs.Pipeline.Handover
import PlaybackRelay.Proofs.Session.Conservation

/-!
The counters of a pipeline agree with its ledger and with its writes. Main statement:
`counted_step`.
-/
namespace PlaybackRelay.Pipeline

open Correlator (Call)

def Ending.isWritten : Ending → Bool
  | .written _ _ => true
  | .refused _ | .crashed => false

def Ending.isRefused : Ending → Bool
  | .refused _ => true
  | .written _ _ | .crashed => false

namespace World

variable {σ : Type}

/-- The number of documents in all writes that ended in some way. -/
def documents (how : Ending → Bool) (w : World σ) : Nat :=
  ((w.done.filter (·.2.any how)).map (·.1.batch.length)).sum

structure Counted (w : World σ) (l : Ledger) : Prop where
  incoming : w.stats.counts.get .incoming = UInt64.ofNat l.decoded.length
  evicted : w.stats.counts.get .evicted = UInt64.ofNat l.evicted.length
  batched : w.stats.counts.get .batched = UInt64.ofNat l.batched.length
  unresolved : w.stats.counts.get .unresolved = UInt64.ofNat l.unresolved.length
  persisted : w.stats.counts.get .persisted = UInt64.ofNat (w.documents Ending.isWritten)

variable [SessionCache σ] {p : Plan} {w w' : World σ} {l : Ledger} {a : Action}

omit [SessionCache σ] in
private theorem counted_stepStream {stream : Stream.Task} {intake : Stream.Intake}
    (hstep : Stream.Task.Step p.backoff p.connection w.stream w.intake stream intake)
    (h : w.Counted l) : { w with stream, intake : World σ }.Counted (w.enterStream l) := by
  obtain ⟨hincoming, hevicted, hbatched, hunresolved, hpersisted⟩ := h
  simp only [stats] at hincoming hevicted hbatched hunresolved hpersisted
  cases hstep with
  | connect hphase | exhaust hphase _ | reconnect hphase =>
    simp only [enterStream, hphase]
    exact ⟨hincoming, hevicted, hbatched, hunresolved, hpersisted⟩
  | retry hphase _ =>
    simp only [enterStream, hphase]
    constructor <;> simp [stats, documents, *]
  | malformed hphase hmessage =>
    simp only [enterStream, hphase, hmessage, Except.toOption, Option.toList_none, List.append_nil]
    constructor <;> simp [stats, documents, *]
  | event hphase hmessage =>
    simp only [enterStream, hphase, hmessage, Except.toOption, Option.toList_some]
    constructor <;> simp [stats, documents, *]
  | @push e rest loss hphase =>
    simp only [enterStream, hphase, queue]
    cases (w.intake.queue.push e).1 with
    | none => constructor <;> simp [stats, documents, *]
    | some oldest => constructor <;> simp [stats, documents, *]

private theorem counted_call {x : Call} (hbatcher : w.batcher.call? = some x)
    (hcache : p.brokenCache → w.correlator.dropped x = []) (h : w.Counted l) :
    (w.afterCall x (w.correlator.call w.stats x)).Counted (w.enterBatcher p l) := by
  have hcounts (d : Counter) (hd : d ≠ .cacheHits) :=
    Correlator.get_counts_call w.correlator w.stats x hd
  rw [enterBatcher_of_call hbatcher hcache]
  constructor
  · exact (hcounts .incoming (by decide)).trans (by rw [h.incoming]; exact UInt64.add_zero _)
  · exact (hcounts .evicted (by decide)).trans (by rw [h.evicted]; exact UInt64.add_zero _)
  · refine (hcounts .batched (by decide)).trans ?_
    rw [h.batched, List.length_append, UInt64.ofNat_add]
  · refine (hcounts .unresolved (by decide)).trans ?_
    rw [h.unresolved, List.length_append, UInt64.ofNat_add]
  · exact (hcounts .persisted (by decide)).trans (by rw [h.persisted]; exact UInt64.add_zero _)

omit [SessionCache σ] in
theorem counted_endBatcher (h : w.Counted l) (batcher : Batcher) :
    (w.endBatcher batcher).Counted l := by
  have hdocuments : documents Ending.isWritten (w.endBatcher batcher) =
      documents Ending.isWritten w := by
    simp [documents, endBatcher, List.filter_map, Function.comp_def]
  exact ⟨h.incoming, h.evicted, h.batched, h.unresolved, h.persisted.trans (by rw [hdocuments])⟩

omit [SessionCache σ] in
theorem documents_concat (how : Ending → Bool) (w : World σ) (write : Write) (ending : Ending) :
    documents how { w with done := w.done ++ [(write, some ending)] } =
      documents how w + if how ending then write.batch.length else 0 := by
  by_cases hhow : how ending <;> simp [documents, List.filter_append, hhow]

/-- The counters of a ledger do not change when a write ends, but for the one of saved documents. -/
theorem get_counts_ending (ending : Ending) (size : Nat) (s : Stats) {d : Counter}
    (hd : d ≠ .documentFailures ∧ d ≠ .batchesWritten ∧ d ≠ .batchesFailed) :
    (ending.record size s).counts.get d =
      s.counts.get d + UInt64.ofNat (if d = .persisted ∧ ending.isWritten then size else 0) := by
  obtain ⟨hfailures, hwritten, hfailed⟩ := hd
  cases ending with
  | written failed elapsed =>
    by_cases hpersisted : d = .persisted <;>
      simp [Ending.record, Ending.isWritten, Stats.get_counts_recordWrite, hpersisted, hfailures,
        hwritten]
  | refused elapsed => simp [Ending.record, Ending.isWritten, Stats.recordWriteFailed, hfailed]
  | crashed => simp [Ending.record, Ending.isWritten]

omit [SessionCache σ] in
private theorem counted_save (h : w.Counted l) (write : Write) (ending : Ending)
    (writes : List Write) :
    { w.withStats (ending.record write.batch.length w.stats) with
      writes
      done := w.done ++ [(write, some ending)] : World σ }.Counted l := by
  have hcounts (d : Counter) (hd : d ≠ .documentFailures ∧ d ≠ .batchesWritten ∧
      d ≠ .batchesFailed) := get_counts_ending ending write.batch.length w.stats hd
  constructor
  · exact (hcounts .incoming (by decide)).trans (by simp [h.incoming])
  · exact (hcounts .evicted (by decide)).trans (by simp [h.evicted])
  · exact (hcounts .batched (by decide)).trans (by simp [h.batched])
  · exact (hcounts .unresolved (by decide)).trans (by simp [h.unresolved])
  · refine (hcounts .persisted (by decide)).trans ?_
    rw [h.persisted, ← UInt64.ofNat_add]
    congr 1
    simpa [documents, withStats] using (documents_concat Ending.isWritten w write ending).symm

theorem counted_step (hstep : Step p w a w') (h : w.Counted l) :
    w'.Counted (w.enter p l a) := by
  cases hstep with
  | stream hstep => exact counted_stepStream hstep h
  | close houtcome =>
    rw [enter, enterStream_of_outcome houtcome]
    exact ⟨h.incoming, h.evicted, h.batched, h.unresolved, h.persisted⟩
  | leave _ => exact ⟨h.incoming, h.evicted, h.batched, h.unresolved, h.persisted⟩
  | receive hbatcher _ | finish hbatcher _ | handOver hbatcher _ | drain hbatcher _ =>
    rw [enter, enterBatcher_of_none (by rw [hbatcher]; rfl)]
    exact ⟨h.incoming, h.evicted, h.batched, h.unresolved, h.persisted⟩
  | call hbatcher hcache => exact counted_call hbatcher hcache h
  | @crash x hbatcher hcache =>
    rw [enter, enterBatcher_of_crash hbatcher hcache]
    refine counted_endBatcher ?_ _
    have hcounts (d : Counter) := Correlator.get_counts_record x w.stats d
    constructor
    · exact (hcounts .incoming).trans (by simp [h.incoming])
    · exact (hcounts .evicted).trans (by simp [h.evicted])
    · exact (hcounts .batched).trans (by simp [h.batched])
    · exact (hcounts .unresolved).trans (by simp [h.unresolved])
    · exact (hcounts .persisted).trans (by simp [h.persisted, documents, withStats])
  | save _ => exact counted_save h _ _ _
  | giveUp _ _ => exact counted_endBatcher h _

end World
end PlaybackRelay.Pipeline
