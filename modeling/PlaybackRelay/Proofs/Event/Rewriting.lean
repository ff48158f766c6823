import PlaybackRelay.Proofs.Event.Drafts
import PlaybackRelay.Proofs.Event.Receive
import PlaybackRelay.Proofs.Json.Passage

/-!
A message may be rewritten in many ways that leave its event alone, and none of its known members
may stand there twice. Main statement: `decode_of_rewrites`.
-/
namespace PlaybackRelay.Event

open Json (Source StringToken Spaced Delimited Yields)

/-- The event that the members of a message make, if its session and its name are not empty. -/
def record? (ms : List Member) : Option Event :=
  (fill? (Json.maxDepth - 1) Draft.empty ms).bind Draft.finish

/-- The event that is made of an array with a value for each field. -/
def listed? (xs : List Source) : Option Event :=
  ((Field.order.zip xs).foldlM (fun d e => take? (Json.maxDepth - 1) d e.1 e.2) Draft.empty).bind
    Draft.finish

/-- The members stand in another order, one that is not known is put among them, one stands under
another name of its field, or a null is written for an address that is missing; or the other way
round, and any number of times. -/
inductive Rewrites : List Member → List Member → Prop
  | permute {ms ns : List Member} : ms.Perm ns → Rewrites ms ns
  | insert (before after : List Member) {m : Member} :
      m.Other → Rewrites (before ++ after) (before ++ m :: after)
  | rename (before after : List Member) {name name' : StringToken} {x : Source} {f : Field} :
      field? name = some f → field? name' = some f →
      Rewrites (before ++ (name, x) :: after) (before ++ (name', x) :: after)
  | address (before after : List Member) {name : StringToken} :
      field? name = some .clientIp → (∀ m ∈ before ++ after, field? m.1 ≠ some .clientIp) →
      Rewrites (before ++ after) (before ++ (name, .null) :: after)
  | symm {ms ns : List Member} : Rewrites ms ns → Rewrites ns ms
  | trans {ms ns os : List Member} : Rewrites ms ns → Rewrites ns os → Rewrites ms os

/-- The values of the known members in order; null stands for an address that is missing. -/
def Lists (ms : List Member) (xs : List Source) : Prop :=
  List.Forall₂ (fun f x => (∃ name, (name, x) ∈ ms ∧ field? name = some f) ∨
    f = .clientIp ∧ x = .null ∧ ∀ m ∈ ms, field? m.1 ≠ some .clientIp) Field.order xs

section Decoding

variable {message : String} {e : Event} {ms ns : List Member} {xs : List Source}

theorem decode_eq_ok_iff {value : Option Event}
    (h : Yields value (Json.whole (shape.readRecord Json.maxDepth) message)) :
    decode message = .ok e ↔
      value = some e ∧ e.sessionId.isEmpty = false ∧ e.name.isEmpty = false := by
  cases value with
  | none =>
    obtain ⟨fault, hfault⟩ := h.exists_eq_error
    simp [decode, hfault]
  | some e' =>
    rw [decode, h.eq_ok]
    dsimp only
    constructor
    · intro hok
      split at hok
      · contradiction
      split at hok
      · contradiction
      rename_i hsession hname
      obtain rfl := Except.ok.inj hok
      exact ⟨rfl, Bool.eq_false_of_not_eq_true hsession, Bool.eq_false_of_not_eq_true hname⟩
    · rintro ⟨hvalue, hsession, hname⟩
      obtain rfl := Option.some.inj hvalue
      simp [hsession, hname]

private theorem exists_unreadable {value : Option Event}
    (h : Yields value (Json.whole (shape.readRecord Json.maxDepth) message))
    (hvalue : value = none) : ∃ fault, decode message = .error (.unreadable fault) := by
  subst hvalue
  obtain ⟨fault, hfault⟩ := h.exists_eq_error
  exact ⟨fault, by rw [decode, hfault]⟩

theorem yields_object (h : (Source.object ms).Spells message) :
    Yields (record? ms) (Json.whole (shape.readRecord Json.maxDepth) message) := by
  obtain ⟨rest, hspaced, hrest⟩ := h
  exact (Json.Shape.yields_readRecord_object interprets_take? hspaced).whole hrest

private theorem yields_array (hlength : Field.order.length = xs.length)
    (h : (Source.array xs).Spells message) :
    Yields (listed? xs) (Json.whole (shape.readRecord Json.maxDepth) message) := by
  obtain ⟨rest, hspaced, hrest⟩ := h
  exact (Json.Shape.yields_readRecord_array interprets_take? hlength hspaced).whole hrest

end Decoding

section Rewriting

variable {e : Event} {ms ns : List Member} {d : Draft} {xs : List Source}

/-- An address that was given as null is none. -/
theorem finish_put_null (h : d.get? .clientIp = none) :
    (d.put (.clientIp none)).finish = d.finish := by
  have hnone : d.clientIp = none := by simpa [Draft.get?] using h
  simp [Draft.finish, Draft.put, hnone]

theorem record?_insert (before after : List Member) {m : Member} (hm : m.Other) :
    record? (before ++ m :: after) = record? (before ++ after) := by
  rw [record?, fill?_perm List.perm_middle, fill?_cons, enter?_of_other hm]
  rfl

theorem record?_rename (before after : List Member) {name name' : StringToken} {x : Source}
    {f : Field} (h : field? name = some f) (h' : field? name' = some f) :
    record? (before ++ (name, x) :: after) = record? (before ++ (name', x) :: after) := by
  rw [record?, record?, fill?_perm List.perm_middle, fill?_perm List.perm_middle, fill?_cons,
    fill?_cons, enter?_of_field h, enter?_of_field h']

theorem record?_address (before after : List Member) {name : StringToken}
    (h : field? name = some .clientIp)
    (hnone : ∀ m ∈ before ++ after, field? m.1 ≠ some .clientIp) :
    record? (before ++ (name, .null) :: after) = record? (before ++ after) := by
  have hlast : (before ++ (name, .null) :: after).Perm ((before ++ after) ++ [(name, .null)]) :=
    List.perm_middle.trans (List.perm_append_singleton _ _).symm
  rw [record?, record?, fill?_perm hlast, fill?_append, Option.bind_assoc]
  cases hfill : fill? (Json.maxDepth - 1) Draft.empty (before ++ after) with
  | none => rfl
  | some d =>
    have hget : d.get? .clientIp = none := by
      rw [get?_of_fill?_of_forall_ne hfill hnone, Draft.get?_empty]
    have henter : enter? (Json.maxDepth - 1) d (name, .null) = some (d.put (.clientIp none)) := by
      rw [enter?_of_field h, Draft.seen_eq, hget]
      rfl
    rw [Option.bind_some, fill?_cons, henter]
    exact finish_put_null hget

theorem Rewrites.record?_eq (h : Rewrites ms ns) : record? ms = record? ns := by
  induction h with
  | permute hperm => rw [record?, record?, fill?_perm hperm]
  | insert before after hm => exact (record?_insert before after hm).symm
  | rename before after h h' => exact record?_rename before after h h'
  | address before after h hnone => exact (record?_address before after h hnone).symm
  | symm _ ih => exact ih.symm
  | trans _ _ ih ih' => exact ih.trans ih'

/-- No known member may stand there twice, whatever it holds and wherever it stands. -/
theorem record?_eq_none_of_twice (before after : List Member) {m n : Member} {f : Field}
    (hm : field? m.1 = some f) (hn : field? n.1 = some f) (hmem : n ∈ before ++ after) :
    record? (before ++ m :: after) = none := by
  rw [record?, fill?_perm List.perm_middle, fill?_cons]
  rcases enter?_eq_put (Json.maxDepth - 1) Draft.empty hm with hnone | ⟨p, hp, hput⟩
  · rw [hnone]
    rfl
  · have hseen : (Draft.empty.put p).seen f = true := by simp [Draft.seen_eq, hp]
    rw [hput, Option.bind_some, fill?_eq_none_of_seen hseen hmem hn]
    rfl

/-- Every field but the address is needed. -/
theorem isSome_get?_of_finish (h : d.finish = some e) {f : Field} (hf : f ≠ .clientIp) :
    (d.get? f).isSome := by
  simp only [Draft.finish, Option.bind_eq_bind, Option.bind_eq_some_iff] at h
  obtain ⟨sessionId, hsession, name, hname, timestamp, htimestamp, version, hversion, data, hdata,
    -⟩ := h
  cases f <;> simp_all [Draft.get?]

/-- The members of an event can be listed. -/
theorem exists_lists (h : record? ms = some e) : ∃ xs, Lists ms xs := by
  obtain ⟨d, hfill, hfinish⟩ := Option.bind_eq_some_iff.1 h
  have hfound (f : Field) : ∃ x, (∃ name, (name, x) ∈ ms ∧ field? name = some f) ∨
      f = .clientIp ∧ x = .null ∧ ∀ m ∈ ms, field? m.1 ≠ some .clientIp := by
    by_cases hmem : ∃ m ∈ ms, field? m.1 = some f
    · obtain ⟨⟨name, x⟩, hm, hname⟩ := hmem
      exact ⟨x, Or.inl ⟨name, hm, hname⟩⟩
    · have hmissing : ∀ m ∈ ms, field? m.1 ≠ some f := fun m hm hname => hmem ⟨m, hm, hname⟩
      have hget := get?_of_fill?_of_forall_ne hfill hmissing
      rw [Draft.get?_empty] at hget
      have hf : f = .clientIp := by
        by_contra hf
        have hsome := isSome_get?_of_finish hfinish hf
        rw [hget] at hsome
        contradiction
      subst hf
      exact ⟨.null, Or.inr ⟨rfl, rfl, hmissing⟩⟩
  choose value hvalue using hfound
  refine ⟨Field.order.map value, ?_⟩
  rw [Lists, List.forall₂_map_right_iff, List.forall₂_same]
  exact fun f _ => hvalue f

/-- Values that denote the parts of a draft make that draft of the fields they are listed for. -/
theorem exists_foldlM_take? {depth : Nat} {target : Draft} {entries : List (Field × Source)}
    (h : ∀ entry ∈ entries, ∃ p, part? depth entry.1 entry.2 = some p ∧
      target.get? entry.1 = some p) (d : Draft) :
    ∃ d', entries.foldlM (fun d entry => take? depth d entry.1 entry.2) d = some d' ∧
      ∀ f, d'.get? f = if f ∈ entries.map Prod.fst then target.get? f else d.get? f := by
  induction entries generalizing d with
  | nil => exact ⟨d, rfl, fun f => by simp⟩
  | cons entry entries ih =>
    obtain ⟨⟨p, hpart, htarget⟩, hentries⟩ := List.forall_mem_cons.1 h
    obtain ⟨d', hfold, hget⟩ := ih hentries (d.put p)
    refine ⟨d', ?_, fun f => ?_⟩
    · rw [List.foldlM_cons, take?, hpart]
      exact hfold
    · have hfield := field_of_part? hpart
      rw [hget, Draft.get?_put, hfield]
      by_cases hf : f = entry.1
      · simp [hf, htarget]
      · have hmem : f ∈ (entry :: entries).map Prod.fst ↔ f ∈ entries.map Prod.fst := by simp [hf]
        rw [if_neg (Ne.symm hf)]
        exact if_congr hmem.symm rfl rfl

theorem Field.mem_order (f : Field) : f ∈ Field.order := by
  cases f <;> decide

/-- A missing address makes no other event than one that is null. -/
theorem exists_target (hfill : fill? (Json.maxDepth - 1) Draft.empty ms = some d)
    (h : Lists ms xs) :
    ∃ target : Draft, target.finish = d.finish ∧ ∀ entry ∈ Field.order.zip xs,
      ∃ p, part? (Json.maxDepth - 1) entry.1 entry.2 = some p ∧ target.get? entry.1 = some p := by
  obtain ⟨-, hlisted⟩ := List.forall₂_iff_zip.1 h
  by_cases hmem : ∃ m ∈ ms, field? m.1 = some .clientIp
  · refine ⟨d, rfl, fun entry hentry => ?_⟩
    rcases hlisted hentry with ⟨name, hm, hname⟩ | ⟨-, -, hnone⟩
    · exact get?_of_fill?_of_mem hfill hm hname
    · obtain ⟨m, hm, hname⟩ := hmem
      exact absurd hname (hnone m hm)
  · have hnone : ∀ m ∈ ms, field? m.1 ≠ some .clientIp := fun m hm hname => hmem ⟨m, hm, hname⟩
    have hget : d.get? .clientIp = none := by
      rw [get?_of_fill?_of_forall_ne hfill hnone, Draft.get?_empty]
    refine ⟨d.put (.clientIp none), finish_put_null hget, fun entry hentry => ?_⟩
    rcases hlisted hentry with ⟨name, hm, hname⟩ | ⟨hf, hx, -⟩
    · obtain ⟨p, hpart, hp⟩ := get?_of_fill?_of_mem hfill hm hname
      have hne : Field.clientIp ≠ entry.1 := by
        intro hf
        exact hnone _ hm (hf ▸ hname)
      exact ⟨p, hpart, by rw [Draft.get?_put, Part.field, if_neg hne, hp]⟩
    · exact ⟨.clientIp none, by rw [hf, hx]; rfl, by rw [hf]; rfl⟩

theorem listed?_eq (h : Lists ms xs) (hrecord : record? ms = some e) : listed? xs = some e := by
  obtain ⟨d, hfill, hfinish⟩ := Option.bind_eq_some_iff.1 hrecord
  obtain ⟨target, htarget, hentries⟩ := exists_target hfill h
  obtain ⟨d', hfold, hget⟩ := exists_foldlM_take? hentries Draft.empty
  obtain rfl : d' = target := by
    refine Draft.ext_get? fun f => ?_
    rw [hget, List.map_fst_zip h.length_eq.le, if_pos f.mem_order]
  rw [listed?, hfold]
  exact htarget.trans hfinish

end Rewriting

private theorem recognizes : shape.Recognizes := by
  intro depth d d' f cs rest h
  have hmap {α β : Type} {result : Except Json.Fault (Json.Scanned α)} {b : β}
      {make : Json.Scanned α → Json.Scanned β} (h : result.map make = .ok (b, rest))
      (hmake : ∀ scanned, (make scanned).2 = scanned.2) : ∃ v, result = .ok (v, rest) := by
    obtain ⟨⟨v, behind⟩, hread, heq⟩ := Json.map_eq_ok.1 h
    have hbehind := hmake (v, behind)
    rw [heq] at hbehind
    obtain rfl : rest = behind := hbehind
    exact ⟨v, hread⟩
  have hint {i : Int64} (h : Draft.readInt64 cs = .ok (i, rest)) :
      ∃ x : Source, Spaced x.tokens cs rest := by
    obtain ⟨v, hread⟩ := hmap h fun _ => rfl
    exact Json.exists_spaced_of_readInteger hread
  cases f with
  | sessionId =>
    obtain ⟨v, hread⟩ := hmap h fun _ => rfl
    exact Json.exists_spaced_of_readString hread
  | name =>
    obtain ⟨v, hread⟩ := hmap h fun _ => rfl
    exact Json.exists_spaced_of_readString hread
  | timestamp =>
    obtain ⟨v, hread⟩ := hmap h fun _ => rfl
    exact hint hread
  | clientIp =>
    obtain ⟨v, hread⟩ := hmap h fun _ => rfl
    exact Json.exists_spaced_of_readOptional hread
  | version =>
    obtain ⟨v, hread⟩ := hmap h fun _ => rfl
    exact hint hread
  | data =>
    obtain ⟨v, hread⟩ := hmap h fun _ => rfl
    exact Json.exists_spaced_of_readObject hread

/-- An accepted message is spelled. -/
theorem exists_spells_of_decode {message : String} {e : Event} (h : decode message = .ok e) :
    (∃ ms, (Source.object ms).Spells message) ∨ ∃ xs, (Source.array xs).Spells message := by
  obtain ⟨-, -, rest, hread, hend⟩ := exists_of_decode h
  have hblank := Json.skipBlanks_eq_nil_iff.1 hend
  exact (Json.Shape.exists_spaced_of_readRecord recognizes hread).imp
    (fun ⟨ms, hms⟩ => ⟨ms, rest, hms, hblank⟩) fun ⟨xs, hxs⟩ => ⟨xs, rest, hxs, hblank⟩

/-- An accepted message is a spelled object or array, and has no session. Whatever rewriting its
members undergo, and however they are spelled then, the event is the same, and so it is if their
values are listed; but a known member that is added once more is always a fault. -/
theorem decode_of_rewrites {message : String} {e : Event} (h : decode message = .ok e) :
    e.session = none ∧
      ((∃ ms, (Source.object ms).Spells message) ∨ ∃ xs, (Source.array xs).Spells message) ∧
      ∀ ms ns : List Member, (Source.object ms).Spells message → Rewrites ms ns →
        (∀ other, (Source.object ns).Spells other → decode other = .ok e) ∧
        (∃ xs, Lists ns xs) ∧
        (∀ xs other, Lists ns xs → (Source.array xs).Spells other → decode other = .ok e) ∧
        ∀ before after m n f other, ns = before ++ after → n ∈ ns → field? n.1 = some f →
          field? m.1 = some f → (Source.object (before ++ m :: after)).Spells other →
            ∃ fault, decode other = .error (.unreadable fault) := by
  refine ⟨session_of_decode h, exists_spells_of_decode h, fun ms ns hms hrewrites => ?_⟩
  obtain ⟨hrecord, hsession, hname⟩ := (decode_eq_ok_iff (yields_object hms)).1 h
  rw [hrewrites.record?_eq] at hrecord
  refine ⟨fun other hother => ?_, exists_lists hrecord, fun xs other hlists hother => ?_, ?_⟩
  · exact (decode_eq_ok_iff (yields_object hother)).2 ⟨hrecord, hsession, hname⟩
  · have hlisted := listed?_eq hlists hrecord
    exact (decode_eq_ok_iff (yields_array hlists.length_eq hother)).2 ⟨hlisted, hsession, hname⟩
  · rintro before after m n f other rfl hn hnf hmf hother
    exact exists_unreadable (yields_object hother) (record?_eq_none_of_twice before after hmf hnf hn)

/-- The members of a message that tells a session, which nobody reads. -/
def sampleMembers : List Member :=
  let one : Source := .number ⟨.ofInt 1, 'e', false, Or.inl rfl⟩
  [(.unescaped "session", .array [.null, .object []]),
    (.unescaped "session_id", .string (.unescaped "s")),
    (.unescaped "event_name", .string (.unescaped "END")),
    (.unescaped "timestamp", one),
    (.unescaped "user_ip", .null),
    (.unescaped "version", one),
    (.unescaped "data", .object [])]

def sampleEnd : Event := ⟨"s", "END", 1, none, 1, [], none⟩

theorem record?_sampleMembers : record? sampleMembers = some sampleEnd := by
  with_unfolding_all rfl

/-- Without the session, in reverse, and with a second time stamp. -/
theorem decode_of_rewrites_sampleMembers :
    decode (String.ofList (Source.object sampleMembers).tokens.flatten) = .ok sampleEnd ∧
      Rewrites sampleMembers sampleMembers.tail.reverse ∧
      (∀ other, (Source.object sampleMembers.tail.reverse).Spells other →
        decode other = .ok sampleEnd) ∧
      ∀ other, (Source.object ((.unescaped "@timestamp", .null) ::
        sampleMembers.tail.reverse)).Spells other →
          ∃ fault, decode other = .error (.unreadable fault) := by
  have hspells := Source.spells_flatten (.object sampleMembers)
  have hdecode := (decode_eq_ok_iff (yields_object hspells)).2
    ⟨record?_sampleMembers, rfl, rfl⟩
  have hother : Member.Other (.unescaped "session", .array [.null, .object []]) :=
    ⟨"session", rfl, rfl⟩
  have hrewrites : Rewrites sampleMembers sampleMembers.tail.reverse :=
    (Rewrites.insert [] sampleMembers.tail hother).symm.trans
      (.permute (List.reverse_perm _).symm)
  obtain ⟨-, -, hall⟩ := decode_of_rewrites hdecode
  obtain ⟨hsame, -, -, htwice⟩ := hall _ _ hspells hrewrites
  refine ⟨hdecode, hrewrites, hsame, fun other hother => ?_⟩
  exact htwice [] _ _ _ .timestamp other rfl (List.mem_of_getElem? (i := 3) rfl) rfl rfl hother

end PlaybackRelay.Event
