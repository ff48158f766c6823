import Mathlib.Data.List.Nodup
import Mathlib.Data.List.Pairwise
import PlaybackRelay.Proofs.Event.Explanation
import PlaybackRelay.Proofs.Text.Edit

/-!
How exactly a restriction is known by its message. No two messages of the table are one edit apart,
so that a text with a single character more, less or other than a message tells nothing. Main
statement: `unrestricted_of_edit`.
-/
namespace PlaybackRelay

namespace Failure.Restriction

variable {reason other : Restriction} {message text : String}

/-- Every message of the table. -/
def known : List String := all.flatMap messages

theorem mem_all (reason : Restriction) : reason ∈ all := by
  cases reason <;> decide

theorem mem_known (h : message ∈ reason.messages) : message ∈ known :=
  List.mem_flatMap.2 ⟨reason, mem_all reason, h⟩

private theorem map_ofList_cons {cs : List Char} {texts : List String} {css : List (List Char)}
    (h : texts = css.map String.ofList) :
    String.ofList cs :: texts = (cs :: css).map String.ofList := by
  rw [List.map_cons, h]

/-- The messages that come closest, like those for the hours of the night, are two edits apart. -/
theorem exists_spellings : ∃ css : List (List Char), known = css.map String.ofList ∧
    css.Pairwise Text.Apart := by
  apply Exists.intro
  constructor
  -- The characters are taken from the literals, as it is slow to decode the bytes of a text.
  · simp only [known, all, messages, List.flatMap_cons, List.flatMap_nil, List.cons_append,
      List.nil_append]
    repeat apply map_ofList_cons
    exact List.map_nil.symm
  · decide +kernel

theorem nodup_known : known.Nodup := by
  obtain ⟨css, hknown, hapart⟩ := exists_spellings
  have hnodup : css.Nodup := hapart.imp And.left
  rw [hknown]
  exact hnodup.map fun _ _ => String.ofList_inj.1

theorem not_edit_of_known (hmessage : message ∈ known) (htext : text ∈ known) :
    ¬Text.Edit message.toList text.toList := by
  obtain ⟨css, hknown, hapart⟩ := exists_spellings
  rw [hknown] at hmessage htext
  obtain ⟨cs, hcs, rfl⟩ := List.mem_map.1 hmessage
  obtain ⟨ds, hds, rfl⟩ := List.mem_map.1 htext
  rw [String.toList_ofList, String.toList_ofList]
  intro hedit
  exact (hapart.forall hcs hds hedit.ne).2 hedit

/-- A message stands for one restriction only. -/
theorem eq_of_mem_messages (h : message ∈ reason.messages) (hother : message ∈ other.messages) :
    other = reason := by
  have hdisjoint := (List.nodup_flatMap.1 nodup_known).2
  have : Std.Symm (Function.onFun List.Disjoint messages) := ⟨fun _ _ hd => List.disjoint_symm hd⟩
  by_contra hne
  exact hdisjoint.forall (mem_all other) (mem_all reason) hne hother h

theorem ofMessage?_eq_some_iff : ofMessage? message = some reason ↔ message ∈ reason.messages := by
  constructor
  · intro h
    have hcontains := List.find?_some h
    exact List.contains_iff_mem.1 hcontains
  · intro h
    have hfound : (ofMessage? message).isSome := by
      rw [ofMessage?, List.find?_isSome]
      exact ⟨reason, mem_all reason, List.contains_iff_mem.2 h⟩
    obtain ⟨other, hother⟩ := Option.isSome_iff_exists.1 hfound
    have hcontains := List.find?_some hother
    rw [hother, eq_of_mem_messages h (List.contains_iff_mem.1 hcontains)]

theorem ofMessage?_eq_none_of_edit (h : message ∈ reason.messages)
    (hedit : Text.Edit message.toList text.toList) : ofMessage? text = none := by
  rw [Option.eq_none_iff_forall_ne_some]
  intro other hother
  have htext := mem_known (ofMessage?_eq_some_iff.1 hother)
  exact not_edit_of_known (mem_known h) htext hedit

end Failure.Restriction

namespace Enrichment

open Failure (Restriction)

section Unrestricted

variable {reason : Restriction} {message text : String}

theorem restriction?_eq_none_of_edit (h : message ∈ reason.messages)
    (hedit : Text.Edit message.toList text.toList) {data : Payload}
    (hdata : data.string? "message" = some text) : restriction? data = none := by
  rw [restriction?, hdata, Option.bind_some]
  exact Restriction.ofMessage?_eq_none_of_edit h hedit

theorem run_restriction_of_none {data : Payload} (h : restriction? data = none) :
    run .restriction data = data.insert "business_error" (.bool false) := by
  simp only [run, addRestriction_eq, h, writeRestriction]

/-- Every message of the table tells its own restriction, and no text that is one edit away from a
message tells any. With such a text nothing is written down but that there is no restriction, which
is what a player's failure is then stored with. -/
theorem unrestricted_of_edit (h : message ∈ reason.messages)
    (hedit : Text.Edit message.toList text.toList) :
    Restriction.ofMessage? message = some reason ∧ Restriction.ofMessage? text = none ∧
      (∀ data : Payload, data.string? "message" = some text →
        run .restriction data = data.insert "business_error" (.bool false) ∧
          (run .restriction data).get? "business_error" = some (.bool false)) ∧
      ∀ e : Event, e.name = Event.errorName → e.data.string? "message" = some text →
        e.enrich.data.get? "business_error" = some (.bool false) := by
  refine ⟨Restriction.ofMessage?_eq_some_iff.2 h, Restriction.ofMessage?_eq_none_of_edit h hedit,
    fun data hdata => ?_, fun e he hdata => ?_⟩
  · have hrun := run_restriction_of_none (restriction?_eq_none_of_edit h hedit hdata)
    refine ⟨hrun, ?_⟩
    rw [hrun]
    exact Json.Members.get?_insert_self _ _ _
  · have hnone := restriction?_eq_none_of_edit h hedit hdata
    rw [Event.data_enrich_of_error he, get?_explain_verdict, restriction?_clampMembers, hnone]
    rfl

/-- A printer's apostrophe in place of the one that is typed. -/
theorem unrestricted_of_edit_apostrophe :
    let message := "Ce contenu n'est plus disponible."
    let text := "Ce contenu n’est plus disponible."
    let data : Payload := [("message", .string text)]
    message ∈ Restriction.endDate.messages ∧ Text.Edit message.toList text.toList ∧
      Restriction.ofMessage? message = some .endDate ∧ Restriction.ofMessage? text = none ∧
      data.string? "message" = some text ∧
      (run .restriction data).get? "business_error" = some (.bool false) := by
  intro message text data
  have hmessage : message ∈ Restriction.endDate.messages := by decide +kernel
  have hedit : Text.Edit message.toList text.toList := by decide +kernel
  obtain ⟨hknown, hunknown, hwritten, -⟩ := unrestricted_of_edit hmessage hedit
  exact ⟨hmessage, hedit, hknown, hunknown, rfl, (hwritten data rfl).2⟩

end Unrestricted

end Enrichment

end PlaybackRelay
