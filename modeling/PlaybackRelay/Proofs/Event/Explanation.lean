import PlaybackRelay.Proofs.Event.Frame
import PlaybackRelay.Proofs.Event.WellFormed

/-!
How a failure is explained: by the restriction that its message names or else by a category. The
verdict depends on the message alone and takes the place of one that the player sent; what belongs
to the other explanation is not taken away. Main statements: `explainedOnce_enrich_iff` and
`explained_alike`.
-/
namespace PlaybackRelay

namespace Json.Members

variable {ms ns : Members} {name : String}

theorem Ordered.nodup (h : ms.Ordered) : ms.Nodup :=
  h.imp fun hlt heq => absurd (congrArg Prod.fst heq) hlt.ne

theorem Ordered.get?_eq_some_iff (h : ms.Ordered) {value : Json} :
    ms.get? name = some value ↔ (name, value) ∈ ms := by
  refine ⟨mem_of_get?_eq_some, fun hmem => ?_⟩
  induction ms with
  | nil => contradiction
  | cons m ms ih =>
    obtain ⟨hfirst, hrest⟩ := List.pairwise_cons.1 h
    rcases List.mem_cons.1 hmem with rfl | hmem
    · rw [get?, if_pos rfl]
    · have hne : m.1 ≠ name := (hfirst _ hmem).ne
      rw [get?, if_neg hne, ih hrest hmem]

/-- Objects whose members are in order are told apart by what is read of them. -/
theorem Ordered.ext (h : ms.Ordered) (h' : ns.Ordered)
    (hget : ∀ name, ms.get? name = ns.get? name) : ms = ns := by
  have hperm : ms.Perm ns := by
    rw [List.perm_ext_iff_of_nodup h.nodup h'.nodup]
    rintro ⟨name, value⟩
    rw [← h.get?_eq_some_iff, ← h'.get?_eq_some_iff, hget]
  exact hperm.eq_of_pairwise (fun m n _ _ hmn hnm => absurd hnm hmn.asymm) h h'

theorem Ordered.insert_congr (h : ms.Ordered) (h' : ns.Ordered)
    (hget : ∀ other ≠ name, ms.get? other = ns.get? other) (value : Json) :
    ms.insert name value = ns.insert name value := by
  refine (h.insert name value).ext (h'.insert name value) fun other => ?_
  by_cases hother : other = name
  · rw [hother, get?_insert_self, get?_insert_self]
  · rw [get?_insert_of_ne hother, get?_insert_of_ne hother, hget other hother]

end Json.Members

namespace Enrichment

open Json (clampMembers Members)

section Explain

/-- What is written down of a failure: a verdict, and the explanation that belongs to it. -/
def explain (data : Payload) : Payload :=
  match restriction? data with
  | some reason =>
    (data.insert "business_error" (.bool true)).insert "block_reason" (.string reason.code)
  | none =>
    (data.insert "business_error" (.bool false)).insert "error_type" (.string (category data).code)

variable {data : Payload} {reason : Failure.Restriction}

theorem explain_of_some (h : restriction? data = some reason) : explain data =
    (data.insert "business_error" (.bool true)).insert "block_reason" (.string reason.code) := by
  rw [explain, h]

theorem explain_of_none (h : restriction? data = none) : explain data =
    (data.insert "business_error" (.bool false)).insert "error_type"
      (.string (category data).code) := by
  rw [explain, h]

theorem isBusinessError_insert (data : Payload) (verdict : Bool) :
    isBusinessError (data.insert "business_error" (.bool verdict)) = verdict := by
  cases verdict <;> simp [isBusinessError, Json.bool?]

private theorem category_insert_verdict (data : Payload) (verdict : Json) :
    category (data.insert "business_error" verdict) = category data := by
  have hreads : Members.ReadsOnly ["log", "name"] category :=
    readsOnly_category (by decide) (by decide)
  exact hreads data "business_error" verdict (by decide)

theorem act_failure_insert (data : Payload) (verdict : Bool) :
    act Event.errorName .failure (data.insert "business_error" (.bool verdict)) =
      if verdict then data.insert "business_error" (.bool true)
      else (data.insert "business_error" (.bool false)).insert "error_type"
        (.string (category data).code) := by
  rw [act, applies, isBusinessError_insert, run]
  cases verdict with
  | true => rfl
  | false => rw [addCategory, category_insert_verdict]; rfl

private theorem act_failure_act_restriction (data : Payload) :
    act Event.errorName .failure (act Event.errorName .restriction data) = explain data := by
  have hrestriction : act Event.errorName .restriction data =
      writeRestriction (restriction? data) data := by
    rw [act_eq_run fun _ => rfl, run, addRestriction_eq]
  rw [hrestriction]
  cases hreason : restriction? data with
  | none =>
    rw [explain_of_none hreason, writeRestriction, act_failure_insert]
    rfl
  | some reason =>
    rw [explain_of_some hreason, writeRestriction, Function.comp_apply, act_failure_insert]
    exact Members.insert_comm (by decide) data _ _

/-- A player's failure passes through all other enrichments unchanged. -/
theorem actAll_error (data : Payload) :
    actAll Event.errorName (all.erase .integers) data = explain data := by
  have hagent : act Event.errorName .agent = id := act_eq_id fun _ => rfl
  have hdevice : act Event.errorName .deviceName = id := act_eq_id fun _ => rfl
  have hurn : act Event.errorName .mediaUrn = id := act_eq_id fun _ => rfl
  have horigin : act Event.errorName .origin = id := act_eq_id fun _ => rfl
  have horder : all.erase .integers =
      [.agent, .deviceName, .restriction, .failure, .mediaUrn, .origin] := by decide
  rw [horder, actAll]
  simp only [List.foldl_cons, List.foldl_nil, hagent, hdevice, hurn, horigin, id_eq,
    act_failure_act_restriction]

theorem get?_explain_verdict (data : Payload) :
    (explain data).get? "business_error" = some (.bool (restriction? data).isSome) := by
  cases hreason : restriction? data with
  | none =>
    rw [explain_of_none hreason, Members.get?_insert_of_ne (by decide), Members.get?_insert_self]
    rfl
  | some reason =>
    rw [explain_of_some hreason, Members.get?_insert_of_ne (by decide), Members.get?_insert_self]
    rfl

theorem get?_explain_reason (data : Payload) : (explain data).get? "block_reason" =
    (restriction? data).elim (data.get? "block_reason") fun reason => some (.string reason.code) := by
  cases hreason : restriction? data with
  | none =>
    rw [explain_of_none hreason, Members.get?_insert_of_ne (by decide),
      Members.get?_insert_of_ne (by decide), Option.elim_none]
  | some reason => rw [explain_of_some hreason, Members.get?_insert_self, Option.elim_some]

theorem get?_explain_category (data : Payload) : (explain data).get? "error_type" =
    (restriction? data).elim (some (.string (category data).code)) fun _ =>
      data.get? "error_type" := by
  cases hreason : restriction? data with
  | none => rw [explain_of_none hreason, Members.get?_insert_self, Option.elim_none]
  | some reason =>
    rw [explain_of_some hreason, Members.get?_insert_of_ne (by decide),
      Members.get?_insert_of_ne (by decide), Option.elim_some]

theorem restriction?_congr {data data' : Payload}
    (h : data.get? "message" = data'.get? "message") : restriction? data = restriction? data' := by
  rw [restriction?, restriction?, Members.string?, Members.string?, h]

theorem category_congr {data data' : Payload} (hlog : data.get? "log" = data'.get? "log")
    (hname : data.get? "name" = data'.get? "name") : category data = category data' := by
  simp only [category, Members.string?, hlog, hname]

/-- A verdict that is there already is not read. -/
theorem explain_congr {data data' : Payload} (h : data.Ordered) (h' : data'.Ordered)
    (hget : ∀ name ≠ "business_error", data.get? name = data'.get? name) :
    explain data = explain data' := by
  have hrestriction := restriction?_congr (hget "message" (by decide))
  have hcategory := category_congr (hget "log" (by decide)) (hget "name" (by decide))
  have hverdict := h.insert_congr h' hget
  cases hreason : restriction? data with
  | none =>
    rw [explain_of_none hreason, explain_of_none (hrestriction ▸ hreason), hverdict, hcategory]
  | some reason =>
    rw [explain_of_some hreason, explain_of_some (hrestriction ▸ hreason), hverdict]

/-- The verdict and what belongs to it depend on the restriction and the category alone. -/
theorem exists_verdict_explain {data data' : Payload}
    (hrestriction : restriction? data = restriction? data')
    (hcategory : category data = category data') :
    ∃ verdict, (explain data).get? "business_error" = some (.bool verdict) ∧
      (explain data').get? "business_error" = some (.bool verdict) ∧
      (verdict = true →
        (explain data).get? "block_reason" = (explain data').get? "block_reason") ∧
      (verdict = false → (explain data).get? "error_type" = (explain data').get? "error_type") := by
  refine ⟨_, get?_explain_verdict data, ?_, fun hverdict => ?_, fun hverdict => ?_⟩
  · rw [get?_explain_verdict, hrestriction]
  · obtain ⟨reason, hreason⟩ := Option.isSome_iff_exists.1 hverdict
    rw [get?_explain_reason, get?_explain_reason, ← hrestriction, hreason, Option.elim_some,
      Option.elim_some]
  · have hnone := Option.isNone_iff_eq_none.1 (Option.isSome_eq_false_iff.1 hverdict)
    rw [get?_explain_category, get?_explain_category, ← hrestriction, hnone, Option.elim_none,
      Option.elim_none, hcategory]

/-- There is one explanation: a reason if the failure is a restriction, else a category. -/
structure ExplainedOnce (data : Payload) : Prop where
  verdict : ∃ verdict, data.get? "business_error" = some (.bool verdict)
  reason : (data.get? "block_reason").isSome ↔ data.get? "business_error" = some (.bool true)
  category : (data.get? "error_type").isSome ↔ data.get? "business_error" = some (.bool false)

/-- The member that belongs to the explanation which does not apply. -/
def otherMember (data : Payload) : String :=
  if (restriction? data).isSome then "error_type" else "block_reason"

private theorem otherMember_of_some (h : restriction? data = some reason) :
    otherMember data = "error_type" := by
  rw [otherMember, h]
  rfl

private theorem otherMember_of_none (h : restriction? data = none) :
    otherMember data = "block_reason" := by
  rw [otherMember, h]
  rfl

theorem explainedOnce_explain_iff (data : Payload) :
    ExplainedOnce (explain data) ↔ (data.get? (otherMember data)).isNone := by
  have hverdict := get?_explain_verdict data
  have hreason := get?_explain_reason data
  have hcategory := get?_explain_category data
  cases hrestriction : restriction? data with
  | none =>
    rw [hrestriction] at hverdict hreason hcategory
    rw [otherMember_of_none hrestriction]
    constructor
    · intro h
      simpa [hverdict, hreason] using h.reason
    · intro h
      exact ⟨⟨_, hverdict⟩, by simpa [hverdict, hreason] using h, by simp [hverdict, hcategory]⟩
  | some reason =>
    rw [hrestriction] at hverdict hreason hcategory
    rw [otherMember_of_some hrestriction]
    constructor
    · intro h
      simpa [hverdict, hcategory] using h.category
    · intro h
      exact ⟨⟨_, hverdict⟩, by simp [hverdict, hreason], by simpa [hverdict, hcategory] using h⟩

theorem otherMember_clampMembers (data : Payload) :
    otherMember (clampMembers data) = otherMember data := by
  rw [otherMember, restriction?_clampMembers, otherMember]

end Explain

end Enrichment

namespace Event

open Enrichment (ExplainedOnce category explain otherMember restriction?)
open Json (clampMembers)

variable {e f : Event}

theorem data_enrich_of_error (h : e.name = errorName) :
    e.enrich.data = explain (clampMembers e.data) := by
  rw [enrich, Enrichment.enrichWith_eq, h, Enrichment.actAll_all, Enrichment.actAll_error]

/-- The verdict and what belongs to it are written down for every failure, and they are the only
explanation unless the player itself gave the other one. -/
theorem explainedOnce_enrich_iff (h : e.name = errorName) :
    e.enrich.data.get? "business_error" = some (.bool (restriction? e.data).isSome) ∧
      (∀ reason, restriction? e.data = some reason →
        e.enrich.data.get? "block_reason" = some (.string reason.code)) ∧
      (restriction? e.data = none →
        e.enrich.data.get? "error_type" = some (.string (category e.data).code)) ∧
      (ExplainedOnce e.enrich.data ↔ (e.data.get? (otherMember e.data)).isNone) := by
  have hrestriction := Enrichment.restriction?_clampMembers e.data
  rw [data_enrich_of_error h]
  refine ⟨?_, fun reason hreason => ?_, fun hnone => ?_, ?_⟩
  · rw [Enrichment.get?_explain_verdict, hrestriction]
  · rw [Enrichment.get?_explain_reason, hrestriction, hreason, Option.elim_some]
  · rw [Enrichment.get?_explain_category, hrestriction, hnone, Option.elim_none,
      Enrichment.category_clampMembers]
  · rw [Enrichment.explainedOnce_explain_iff, Enrichment.otherMember_clampMembers,
      Json.Members.get?_clampMembers, Option.isNone_map]

/-- A failure of which the player says something by itself. -/
def failure (data : Payload) : Event := ⟨"3f2a", errorName, 0, none, 1, data, none⟩

theorem explainedOnce_enrich_geoblock :
    let e := failure [("block_reason", .null),
      ("message", .string "This content is not available outside Switzerland.")]
    e.name = errorName ∧ ExplainedOnce e.enrich.data :=
  ⟨rfl, (explainedOnce_enrich_iff rfl).2.2.2.2 (by decide +kernel)⟩

/-- A reason that the player gave stays there beside the category. -/
theorem not_explainedOnce_reasonGiven :
    ¬∀ e : Event, e.name = errorName → ExplainedOnce e.enrich.data := by
  intro h
  have honce := h (failure [("block_reason", .string "GEOBLOCK"), ("message", .string "boom")]) rfl
  rw [data_enrich_of_error rfl, Enrichment.explainedOnce_explain_iff] at honce
  revert honce
  decide +kernel

/-- What a player says of the verdict changes nothing in a payload that is in order, as readers leave
it, and the verdict with its explanation depends on the message, the log and the name alone. -/
theorem explained_alike (he : e.name = errorName) (hf : f.name = errorName) :
    (e.data.Ordered → f.data.Ordered →
      (∀ name ≠ "business_error", e.data.get? name = f.data.get? name) →
      e.enrich.data = f.enrich.data) ∧
    ((∀ name ∈ ["message", "log", "name"], e.data.get? name = f.data.get? name) →
      ∃ verdict, e.enrich.data.get? "business_error" = some (.bool verdict) ∧
        f.enrich.data.get? "business_error" = some (.bool verdict) ∧
        (verdict = true →
          e.enrich.data.get? "block_reason" = f.enrich.data.get? "block_reason") ∧
        (verdict = false →
          e.enrich.data.get? "error_type" = f.enrich.data.get? "error_type")) := by
  rw [data_enrich_of_error he, data_enrich_of_error hf]
  constructor
  · intro hordered hordered' hget
    refine Enrichment.explain_congr hordered.clampMembers hordered'.clampMembers fun name hname => ?_
    rw [Json.Members.get?_clampMembers, Json.Members.get?_clampMembers, hget name hname]
  · intro hget
    have hrestriction := Enrichment.restriction?_congr (hget "message" (by decide))
    have hcategory := Enrichment.category_congr (hget "log" (by decide)) (hget "name" (by decide))
    rw [← Enrichment.restriction?_clampMembers, ← Enrichment.restriction?_clampMembers f.data]
      at hrestriction
    rw [← Enrichment.category_clampMembers, ← Enrichment.category_clampMembers f.data] at hcategory
    exact Enrichment.exists_verdict_explain hrestriction hcategory

/-- The same failure, once with a verdict of the player. -/
theorem explained_alike_verdictGiven :
    let e := failure [("log", .string "MEDIA_ERR_DECODE"), ("message", .string "boom")]
    let f := { e with data := e.data.insert "business_error" (.bool true) }
    e.name = errorName ∧ f.name = errorName ∧ e.data.Ordered ∧ f.data.Ordered ∧
      (∀ name ≠ "business_error", e.data.get? name = f.data.get? name) ∧
      e.enrich.data = f.enrich.data ∧
      (∀ name ∈ ["message", "log", "name"], e.data.get? name = f.data.get? name) ∧
      ∃ verdict, e.enrich.data.get? "business_error" = some (.bool verdict) ∧
        f.enrich.data.get? "business_error" = some (.bool verdict) ∧
        (verdict = true →
          e.enrich.data.get? "block_reason" = f.enrich.data.get? "block_reason") ∧
        (verdict = false →
          e.enrich.data.get? "error_type" = f.enrich.data.get? "error_type") := by
  intro e f
  have hordered : e.data.Ordered := List.pairwise_pair.2 (by decide)
  have hget : ∀ name ≠ "business_error", e.data.get? name = f.data.get? name := fun name hname =>
    (Json.Members.get?_insert_of_ne hname e.data (.bool true)).symm
  have hread : ∀ name ∈ ["message", "log", "name"], e.data.get? name = f.data.get? name := by
    intro name hname
    refine hget name ?_
    rintro rfl
    revert hname
    decide
  have h := explained_alike (e := e) (f := f) rfl rfl
  have hordered' : f.data.Ordered := hordered.insert "business_error" (.bool true)
  exact ⟨rfl, rfl, hordered, hordered', hget, h.1 hordered hordered' hget, hread, h.2 hread⟩

end Event

end PlaybackRelay
