import PlaybackRelay.Proofs.Event.Document
import PlaybackRelay.Proofs.Event.WellFormed
import PlaybackRelay.Session.Correlator

/-!
All events that come to be written, and what reading their documents gives. Main statement:
`decode_document`.
-/
namespace PlaybackRelay

namespace Correlator

variable {σ : Type} [SessionCache σ]

private theorem exists_of_mem_attach {events : List Event} {cache : σ} {stats : Stats} {e : Event}
    (h : e ∈ (attach events cache stats).1) :
    ∃ e' ∈ events, ∃ session, e = { e' with session := some session } := by
  induction events generalizing cache stats with
  | nil => simp [attach] at h
  | cons first rest ih =>
    rw [attach] at h
    split at h
    · rename_i session cache' hget
      rcases List.mem_cons.1 h with rfl | h
      · exact ⟨first, List.mem_cons_self, session, rfl⟩
      · obtain ⟨e', he', heq⟩ := ih h
        exact ⟨e', List.mem_cons_of_mem _ he', heq⟩
    · obtain ⟨e', he', heq⟩ := ih h
      exact ⟨e', List.mem_cons_of_mem _ he', heq⟩

/-- Every event of a batch is one that arrived, which gave its payload to its session or got one. -/
theorem exists_of_mem_resolve {events : List Event} {cache : σ} {stats : Stats} {e : Event}
    (h : e ∈ (resolve events cache stats).1) :
    ∃ e' ∈ events, e = ofStart e' ∨ ∃ session, e = { e' with session := some session } := by
  rcases List.mem_append.1 h with h | h
  · obtain ⟨e', he', rfl⟩ := List.mem_map.1 h
    exact ⟨e', (List.mem_filter.1 he').1, Or.inl rfl⟩
  · obtain ⟨e', he', hsession⟩ := exists_of_mem_attach h
    exact ⟨e', (List.mem_filter.1 he').1, Or.inr hsession⟩

end Correlator

namespace Event

/-- An event that may be written: it was decoded, may have been enriched, and may have gone through
the end of a batch, whatever was in the cache. -/
inductive Written : Event → Prop where
  | decoded {message : String} {e : Event} : decode message = .ok e → Written e
  | enriched {e : Event} : Written e → Written e.enrich
  | resolved {σ : Type} [SessionCache σ] {events : List Event} {cache : σ} {stats : Stats}
      {e : Event} : (∀ e ∈ events, Written e) →
      e ∈ (Correlator.resolve events cache stats).1 → Written e

theorem Written.wellFormed {e : Event} (h : Written e) : e.WellFormed := by
  induction h with
  | decoded hdecode => exact wellFormed_of_decode hdecode
  | enriched _ ih => exact ih.enrichWith Enrichment.all
  | resolved _ hmem ih =>
    obtain ⟨e', he', rfl | ⟨session, rfl⟩⟩ := Correlator.exists_of_mem_resolve hmem
    · have hwellFormed := ih e' he'
      exact ⟨hwellFormed.sessionId, hwellFormed.name, .nil⟩
    · have hwellFormed := ih e' he'
      exact ⟨hwellFormed.sessionId, hwellFormed.name, hwellFormed.data⟩

/-- A document is read as the event without its session, which makes the same document if it had
none; only a payload that is too deep or looks like a wrapped value is refused. -/
theorem decode_document {e : Event} (h : Written e) :
    (decode (String.ofList e.document) = .ok { e with session := none } ↔ e.isReadable = true) ∧
      ((∃ fault, decode (String.ofList e.document) = .error (.unreadable fault)) ↔
        e.isReadable = false) ∧
      (e.session = none → e.isReadable = true →
        (decode (String.ofList e.document)).map document = .ok e.document) := by
  obtain ⟨hsession, hname, hdata⟩ := h.wellFormed
  have hread := decode_document_of_isReadable hdata hsession hname
  have hrefused := decode_document_of_not_isReadable hdata
  refine ⟨⟨fun hok => ?_, hread⟩, ⟨fun ⟨fault, herror⟩ => ?_, hrefused⟩, fun hnone hreadable => ?_⟩
  · by_contra hreadable
    obtain ⟨fault, herror⟩ := hrefused (by simpa using hreadable)
    rw [herror] at hok
    contradiction
  · by_contra hreadable
    rw [hread (by simpa using hreadable)] at herror
    contradiction
  · have hsame : { e with session := none } = e := by rw [← hnone]
    rw [hread hreadable, hsame]
    rfl

/-- The start of a session as a player reports it. -/
def sampleStart : Event :=
  ⟨"s", "START", 1, some "203.0.113.7", 2,
    [("media", .object [("id", .string "urn:rts:video:1")]), ("position", .number (.ofInt (-5)))],
    none⟩

theorem written_sampleStart : Written sampleStart := by
  have hvalues : ∀ m ∈ sampleStart.data, m.2.WellFormed := by
    simp only [sampleStart, List.forall_mem_cons]
    refine ⟨?_, .number _, by simp⟩
    exact (Json.Members.WellFormed.nil.insert "id" (.string _)).object (.insert rfl [] _)
  have hordered : Json.Members.Ordered sampleStart.data := by
    simp only [Json.Members.Ordered, sampleStart]
    decide
  exact .decoded (decode_document_of_isReadable ⟨hordered, hvalues⟩ rfl rfl rfl)

theorem decode_document_sampleStart :
    Written sampleStart ∧ sampleStart.isReadable = true ∧ sampleStart.session = none ∧
      decode (String.ofList sampleStart.document) = .ok sampleStart ∧
      (decode (String.ofList sampleStart.document)).map document = .ok sampleStart.document := by
  obtain ⟨hread, -, hsame⟩ := decode_document written_sampleStart
  exact ⟨written_sampleStart, rfl, rfl, hread.2 rfl, hsame rfl rfl⟩

/-- A message with an object whose reserved name does not stand first, as it does in the
document. -/
def hiddenNumber : String :=
  String.ofList (Json.object [("session_id", .string "s"), ("event_name", .string "START"),
    ("@timestamp", .number (.ofInt 1)), ("version", .number (.ofInt 1)),
    ("data", .object [("v", .object [("a", .number (.ofInt 2)),
      ("$serde_json::private::Number", .string "1")])])]).text

theorem exists_unreadable_document :
    ∃ (e : Event) (fault : Json.Fault), decode hiddenNumber = .ok e ∧
      decode (String.ofList e.document) = .error (.unreadable fault) := by
  have haccepted : (decode hiddenNumber).toOption.any (fun e => !e.isReadable) = true := by
    decide +kernel
  cases hdecode : decode hiddenNumber with
  | error fault => simp [hdecode, Except.toOption] at haccepted
  | ok e =>
    have hreadable : e.isReadable = false := by simpa [hdecode, Except.toOption] using haccepted
    obtain ⟨fault, hfault⟩ :=
      decode_document_of_not_isReadable (wellFormed_of_decode hdecode).data hreadable
    exact ⟨e, fault, rfl, hfault⟩

end Event
end PlaybackRelay
