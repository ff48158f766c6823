import Mathlib.Data.List.Perm.Basic
import PlaybackRelay.Proofs.Event.Footprint

/-!
The order in which enrichments are run. Of all that are known only two pairs have to keep theirs:
the device is named once the browser has told it, and a failure is sorted once it is known to be no
restriction. Main statement: `enrichWith_eq_enrich_iff`.
-/
namespace PlaybackRelay

section Steps

variable {α β : Type} {step : β → α → β}

private theorem step_foldl {y : α} {before : List α}
    (h : ∀ x ∈ before, ∀ b, step (step b x) y = step (step b y) x) (b : β) :
    step (before.foldl step b) y = before.foldl step (step b y) := by
  induction before generalizing b with
  | nil => rfl
  | cons x before ih =>
    obtain ⟨hx, hbefore⟩ := List.forall_mem_cons.1 h
    rw [List.foldl_cons, ih hbefore, hx b, List.foldl_cons]

/-- Only steps of which one stands in front of the other in the one list and behind it in the other
have to commute. -/
theorem foldl_eq_of_perm {xs ys : List α} (hperm : xs.Perm ys)
    (hcomm : ∀ x y, [x, y].Sublist xs → [y, x].Sublist ys →
      ∀ b, step (step b x) y = step (step b y) x) (b : β) :
    xs.foldl step b = ys.foldl step b := by
  induction ys generalizing xs b with
  | nil => rw [hperm.eq_nil]
  | cons y ys ih =>
    -- The head of the second list is moved to the front of the first one.
    obtain ⟨before, after, rfl⟩ := List.append_of_mem (hperm.mem_iff.2 List.mem_cons_self)
    have hrest : (before ++ after).Perm ys := (List.perm_middle.symm.trans hperm).cons_inv
    have hfirst : ∀ x ∈ before, ∀ b, step (step b x) y = step (step b y) x := by
      intro x hx
      have hmem : x ∈ ys := hrest.mem_iff.1 (List.mem_append_left after hx)
      refine hcomm x y ?_ ((List.singleton_sublist.2 hmem).cons_cons y)
      exact (List.singleton_sublist.2 hx).append ((List.nil_sublist after).cons_cons y)
    rw [List.foldl_append, List.foldl_cons, step_foldl hfirst, ← List.foldl_append, List.foldl_cons]
    refine ih hrest (fun x x' hxs hys => hcomm x x' (hxs.trans ?_) (hys.cons y)) _
    exact (List.Sublist.refl before).append (List.sublist_cons_self y after)

private theorem not_sublist_swap {xs : List α} (hnodup : xs.Nodup) {x y : α}
    (h : [x, y].Sublist xs) : ¬[y, x].Sublist xs := by
  induction xs with
  | nil => exact fun hswap => nomatch hswap
  | cons z xs ih =>
    obtain ⟨hz, hxs⟩ := List.nodup_cons.1 hnodup
    intro hswap
    cases h with
    | cons _ h =>
      cases hswap with
      | cons _ hswap => exact ih hxs h hswap
      | cons_cons _ hswap => exact hz (h.subset (List.mem_cons_of_mem _ List.mem_cons_self))
    | cons_cons _ h =>
      cases hswap with
      | cons _ hswap => exact hz (hswap.subset (List.mem_cons_of_mem _ List.mem_cons_self))
      | cons_cons _ hswap => exact hz (hswap.subset List.mem_cons_self)

end Steps

namespace Event

open Enrichment (act Precedes)

variable {order other : List Enrichment}

theorem enrichWith_congr {e : Event} (hperm : order.Perm other)
    (hcomm : ∀ x y, [x, y].Sublist order → [y, x].Sublist other →
      Function.Commute (act e.name x) (act e.name y)) : e.enrichWith order = e.enrichWith other := by
  have hdata : Enrichment.actAll e.name order e.data = Enrichment.actAll e.name other e.data :=
    foldl_eq_of_perm hperm (fun x y hx hy data => ((hcomm x y hx hy).eq data).symm) e.data
  rw [Enrichment.enrichWith_eq, Enrichment.enrichWith_eq, hdata]

/-- Two dependent enrichments in the wrong order, and all the others. -/
def swapped (x y : Enrichment) : List Enrichment := y :: x :: (Enrichment.all.erase x).erase y

private theorem enrichWith_eq_swapped {e : Event} {x y : Enrichment} (hpair : Precedes x y)
    (hperm : order.Perm Enrichment.all) (hidle : ∀ z w, Precedes z w → (z, w) ≠ (x, y) →
      act e.name w = id) (h : ¬[x, y].Sublist order) :
    e.enrichWith order = e.enrichWith (swapped x y) := by
  have hswapped : ¬[x, y].Sublist (swapped x y) ∧ Enrichment.all.Perm (swapped x y) := by
    revert hpair
    cases x <;> cases y <;> decide
  refine enrichWith_congr (hperm.trans hswapped.2) fun z w hz hw => ?_
  by_cases hzw : Precedes z w
  · rw [hidle z w hzw fun heq => ?_]
    · exact .id_right
    · obtain ⟨rfl, rfl⟩ := Prod.mk.inj heq
      exact h hz
  by_cases hwz : Precedes w z
  · rw [hidle w z hwz fun heq => ?_]
    · exact .id_left
    · obtain ⟨rfl, rfl⟩ := Prod.mk.inj heq
      exact hswapped.1 hw
  · exact Enrichment.commute_act hzw hwz e.name

theorem sublist_of_enrichWith_eq {e : Event} {x y : Enrichment} (hpair : Precedes x y)
    (hperm : order.Perm Enrichment.all) (hidle : ∀ z w, Precedes z w → (z, w) ≠ (x, y) →
      act e.name w = id) (hne : e.enrichWith (swapped x y) ≠ e.enrich)
    (h : e.enrichWith order = e.enrich) : [x, y].Sublist order := by
  by_contra hsublist
  exact hne ((enrichWith_eq_swapped hpair hperm hidle hsublist).symm.trans h)

theorem enrichWith_eq_enrich (hperm : order.Perm Enrichment.all)
    (hdependent : ∀ x y, Precedes x y → [x, y].Sublist order) (e : Event) :
    e.enrichWith order = e.enrich := by
  have hnodup : order.Nodup := hperm.nodup_iff.2 (by decide)
  refine enrichWith_congr hperm fun x y hx hy => Enrichment.commute_act ?_ ?_ e.name
  · intro h
    have hall : ¬[y, x].Sublist Enrichment.all := by
      revert h
      cases x <;> cases y <;> decide
    exact hall hy
  · intro h
    exact not_sublist_swap hnodup (hdependent y x h) hx

/-- A browser that tells the hardware identifier of its device. -/
def startOnWatch : Event :=
  ⟨"3f2a", startName, 0, none, 1,
    [("browser", .object [("user_agent", .string "Android 9; Watch1,1")])], none⟩

def deviceModel? (e : Event) : Option String := (e.data.object? "device").bind (·.string? "model")

def errorAbroad : Event :=
  ⟨"3f2a", errorName, 0, none, 1,
    [("message", .string "This content is not available outside Switzerland.")], none⟩

def errorType? (e : Event) : Option String := e.data.string? "error_type"

/-- No other two enrichments have to keep their order, and these have to. -/
theorem enrichWith_eq_enrich_iff (hperm : order.Perm Enrichment.all) :
    (∀ e : Event, e.enrichWith order = e.enrich) ↔
      [Enrichment.agent, .deviceName].Sublist order ∧
        [Enrichment.restriction, .failure].Sublist order := by
  constructor
  · intro h
    constructor
    · have hmodel : deviceModel? (startOnWatch.enrichWith (swapped .agent .deviceName)) ≠
          deviceModel? startOnWatch.enrich := by decide +kernel
      refine sublist_of_enrichWith_eq (by decide) hperm (fun x y hxy hne => ?_)
        (ne_of_apply_ne deviceModel? hmodel) (h startOnWatch)
      rcases Enrichment.precedes_iff.1 hxy with ⟨rfl, rfl⟩ | ⟨rfl, rfl⟩
      · exact absurd rfl hne
      · exact Enrichment.act_eq_id fun _ => rfl
    · have htype : errorType? (errorAbroad.enrichWith (swapped .restriction .failure)) ≠
          errorType? errorAbroad.enrich := by decide +kernel
      refine sublist_of_enrichWith_eq (by decide) hperm (fun x y hxy hne => ?_)
        (ne_of_apply_ne errorType? htype) (h errorAbroad)
      rcases Enrichment.precedes_iff.1 hxy with ⟨rfl, rfl⟩ | ⟨rfl, rfl⟩
      · exact Enrichment.act_eq_id fun _ => rfl
      · exact absurd rfl hne
  · rintro ⟨hagent, hrestriction⟩
    refine enrichWith_eq_enrich hperm fun x y hxy => ?_
    rcases Enrichment.precedes_iff.1 hxy with ⟨rfl, rfl⟩ | ⟨rfl, rfl⟩
    · exact hagent
    · exact hrestriction

theorem enrichWith_eq_enrich_integersFirst :
    let order := [Enrichment.integers, .origin, .restriction, .mediaUrn, .failure, .agent, .deviceName]
    order.Perm Enrichment.all ∧ ∀ e : Event, e.enrichWith order = e.enrich :=
  ⟨by decide, (enrichWith_eq_enrich_iff (by decide)).2 (by decide)⟩

end Event
end PlaybackRelay
