import PlaybackRelay.Event.Enrichment
import PlaybackRelay.Proofs.Json.Record

/-! No event has a session yet when it is received. Main statement: `Event.session_of_receive`. -/
namespace PlaybackRelay.Event

theorem Draft.session_of_finish {d : Draft} {e : Event} (h : d.finish = some e) :
    e.session = none := by
  simp only [Draft.finish, Option.bind_eq_bind, Option.bind_eq_some_iff, Option.pure_def,
    Option.some.injEq] at h
  obtain ⟨_, -, _, -, _, -, _, -, _, -, rfl⟩ := h
  rfl

theorem exists_of_decode {message : String} {e : Event} (h : decode message = .ok e) :
    e.sessionId.isEmpty = false ∧ e.name.isEmpty = false ∧
      ∃ rest, shape.readRecord Json.maxDepth message.toList = .ok (e, rest) ∧
        Json.skipBlanks rest = [] := by
  unfold decode at h
  split at h
  case h_1 => contradiction
  case h_2 e' hwhole =>
    have hread := Json.exists_of_whole hwhole
    split at h
    · contradiction
    split at h
    · contradiction
    rename_i hsession hname
    obtain rfl := Except.ok.inj h
    exact ⟨by simpa using hsession, by simpa using hname, hread⟩

/-- A message is accepted if the draft made of it is complete and has a session and a name. -/
theorem exists_finish_of_decode {good : Draft → Prop} (hkeeps : shape.Keeps good)
    (hempty : good Draft.empty) {message : String} {e : Event} (h : decode message = .ok e) :
    e.sessionId.isEmpty = false ∧ e.name.isEmpty = false ∧ ∃ d, good d ∧ d.finish = some e := by
  obtain ⟨hsession, hname, rest, hread, -⟩ := exists_of_decode h
  exact ⟨hsession, hname, Json.Shape.exists_finish_of_readRecord hkeeps hempty hread⟩

theorem session_of_decode {message : String} {e : Event} (h : decode message = .ok e) :
    e.session = none := by
  have hkeeps : shape.Keeps fun _ => True := fun _ _ => trivial
  obtain ⟨-, -, d, -, hfinish⟩ := exists_finish_of_decode hkeeps trivial h
  exact Draft.session_of_finish hfinish

@[simp] theorem session_step (e : Event) (enrichment : Enrichment) :
    (enrichment.step e).session = e.session := by
  unfold Enrichment.step
  split <;> rfl

@[simp] theorem session_enrichWith (enrichments : List Enrichment) (e : Event) :
    (e.enrichWith enrichments).session = e.session := by
  induction enrichments generalizing e with
  | nil => rfl
  | cons enrichment enrichments ih =>
    rw [enrichWith, List.foldl_cons]
    exact (ih _).trans (session_step e enrichment)

theorem toOption_receive (message : String) :
    (receive message).toOption = (decode message).toOption.map enrich := by
  rw [receive]
  cases decode message <;> rfl

theorem session_of_receive {message : String} {e : Event} (h : receive message = .ok e) :
    e.session = none := by
  unfold receive at h
  cases hdecode : decode message with
  | error => rw [hdecode] at h; contradiction
  | ok e' =>
    rw [hdecode] at h
    obtain rfl := Except.ok.inj h
    exact (session_enrichWith _ _).trans (session_of_decode hdecode)

end PlaybackRelay.Event
