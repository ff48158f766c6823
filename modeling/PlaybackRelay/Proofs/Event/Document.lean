import PlaybackRelay.Event.Decode
import PlaybackRelay.Proofs.Json.Integer
import PlaybackRelay.Proofs.Json.Members

/-!
A stored document is read as an event again, and nothing but the session is lost. Main statement:
`decided_readRecord_document`.
-/
namespace PlaybackRelay.Event

open Json (Decided Delimited Shape)

/-- The payload can be read from the document, whose own braces and those of the payload are open
around its members. -/
def isReadable (e : Event) : Bool := Json.membersReadable (Json.maxDepth - 2) e.data

theorem members_eq (e : Event) :
    e.members =
      [("session_id", .string e.sessionId), ("event_name", .string e.name),
        ("@timestamp", .number (.ofInt e.timestamp.toInt))] ++
      (match e.clientIp with | some ip => [("user_ip", .string ip)] | none => []) ++
      [("version", .number (.ofInt e.version.toInt)), ("data", .object e.data)] ++
      (match e.session with | some s => [("session", .object s)] | none => []) := rfl

theorem readInt64_text (i : Int64) {rest : List Char} (h : Delimited rest) :
    Draft.readInt64 ((Json.number (.ofInt i.toInt)).text ++ rest) = .ok (i, rest) := by
  have hleast := Int64.le_toInt i
  have hmost := Int64.toInt_lt i
  have hmin : Int64.minValue.toInt = -2 ^ 63 := rfl
  have hmax : Int64.maxValue.toInt = 2 ^ 63 - 1 := rfl
  have hwidth : i.toInt.natAbs < UInt64.size := by
    unfold UInt64.size
    omega
  have hread : Json.readInteger Int64.minValue.toInt Int64.maxValue.toInt
      ((Json.Number.ofInt i.toInt).text ++ rest) = .ok (i.toInt, rest) :=
    Json.readInteger_ofInt (by omega) (by omega) hwidth h
  rw [Draft.readInt64, Json.text, hread]
  simp [Except.map]

/-- An address that stands there is not null. -/
theorem readOptional_text (s : String) (rest : List Char) :
    Json.readOptional Json.readString ((Json.string s).text ++ rest) = .ok (some s, rest) := by
  have hread := Json.readString_string s rest
  obtain ⟨cs, hquote, -⟩ := Json.scanString_quote s rest
  rw [Json.readOptional, Json.skipBlanks_text]
  rw [Json.text, hquote] at hread ⊢
  simp [hread, Except.map]

variable {d : Draft} {depth : Nat}

private theorem takes_session (session : Option Payload) :
    shape.Takes depth d (match session with | some s => [("session", .object s)] | none => [])
      true d := by
  cases session with
  | none => exact .nil d
  | some s => exact .unknown rfl (.nil d)

private theorem takes_clientIp (hd : d.clientIp = none) (clientIp : Option String) :
    shape.Takes depth d (match clientIp with | some ip => [("user_ip", .string ip)] | none => [])
      true { d with clientIp := clientIp.map some } := by
  cases clientIp with
  | none =>
    have heq : { d with clientIp := none } = d := by rw [← hd]
    rw [Option.map_none, heq]
    exact .nil d
  | some ip =>
    refine .read rfl (by simp [shape, Draft.seen, hd]) (fun rest _ => ?_) (.nil _)
    simp only [shape, Draft.read, readOptional_text]
    rfl

private theorem takes_names (sessionId name : String) (timestamp : Int64) :
    shape.Takes depth Draft.empty
      [("session_id", .string sessionId), ("event_name", .string name),
        ("@timestamp", .number (.ofInt timestamp.toInt))] true
      ⟨some sessionId, some name, some timestamp, none, none, none⟩ := by
  have htimestamp : shape.Takes depth ⟨some sessionId, some name, none, none, none, none⟩
      [("@timestamp", .number (.ofInt timestamp.toInt))] true
      ⟨some sessionId, some name, some timestamp, none, none, none⟩ := by
    refine .read rfl rfl (fun rest hrest => ?_) (.nil _)
    simp only [shape, Draft.read, readInt64_text timestamp hrest]
    rfl
  have hname : shape.Takes depth ⟨some sessionId, none, none, none, none, none⟩
      [("event_name", .string name), ("@timestamp", .number (.ofInt timestamp.toInt))] true
      ⟨some sessionId, some name, some timestamp, none, none, none⟩ := by
    refine .read rfl rfl (fun rest _ => ?_) htimestamp
    simp only [shape, Draft.read, Json.readString_string]
    rfl
  refine .read rfl rfl (fun rest _ => ?_) hname
  simp only [shape, Draft.read, Json.readString_string]
  rfl

/-- Of the members of a document only the payload may be unreadable. -/
theorem takes_payload (hversion : d.version = none) (hdata : d.data = none) (version : Int64)
    {data : Payload} (h : data.WellFormed) :
    shape.Takes (depth + 1) d
      [("version", .number (.ofInt version.toInt)), ("data", .object data)]
      (Json.membersReadable depth data)
      { d with version := some version, data := some data } := by
  have hread : ∀ rest, Delimited rest →
      Decided (Json.membersReadable depth data)
        ({ d with version := some version, data := some data }, rest)
        (shape.read (depth + 1) { d with version := some version } .data
          ((Json.object data).text ++ rest)) := by
    intro rest _
    exact (Json.decided_readObject h depth rest).map fun (v, rest) =>
      ({ d with version := some version, data := some v }, rest)
  have hpayload : shape.Takes (depth + 1) { d with version := some version }
      [("data", .object data)] (Json.membersReadable depth data)
      { d with version := some version, data := some data } := by
    rw [← Bool.and_true (Json.membersReadable depth data)]
    exact .known rfl (by simp [shape, Draft.seen, hdata]) hread (.nil _)
  refine .read rfl (by simp [shape, Draft.seen, hversion]) (fun rest hrest => ?_) hpayload
  simp only [shape, Draft.read, readInt64_text version hrest]
  rfl

/-- What reading the document leaves. -/
def draft (e : Event) : Draft :=
  ⟨some e.sessionId, some e.name, some e.timestamp, e.clientIp.map some, some e.version,
    some e.data⟩

theorem finish_draft (e : Event) : e.draft.finish = some { e with session := none } := by
  obtain ⟨sessionId, name, timestamp, clientIp, version, data, session⟩ := e
  cases clientIp <;> rfl

theorem takes_members {e : Event} (h : e.data.WellFormed) :
    shape.Takes (depth + 1) Draft.empty e.members (Json.membersReadable depth e.data) e.draft := by
  have hnames : shape.Takes (depth + 1) Draft.empty _ true _ :=
    takes_names e.sessionId e.name e.timestamp
  have hmembers := ((hnames.append (takes_clientIp rfl e.clientIp)).append
    (takes_payload rfl rfl e.version h)).append (takes_session e.session)
  rw [Bool.and_true, Bool.and_true, Bool.true_and] at hmembers
  rw [members_eq]
  exact hmembers

theorem decided_readRecord_document {e : Event} (h : e.data.WellFormed) :
    Decided e.isReadable { e with session := none }
      (Json.whole (shape.readRecord Json.maxDepth) (String.ofList e.document)) := by
  have htakes : shape.Takes (Json.maxDepth - 2 + 1) shape.empty e.members e.isReadable e.draft :=
    takes_members h
  have hread := htakes.decided_readRecord (finish_draft e) []
  rw [List.append_nil] at hread
  rw [Json.whole, String.toList_ofList, document, ← Bool.and_true e.isReadable]
  exact hread.bind (Json.decided_ok _)

/-- The document of an event with a session and a name is read as that event. -/
theorem decode_document_of_isReadable {e : Event} (h : e.data.WellFormed)
    (hsession : e.sessionId.isEmpty = false) (hname : e.name.isEmpty = false)
    (hreadable : e.isReadable = true) :
    decode (String.ofList e.document) = .ok { e with session := none } := by
  rw [decode, (decided_readRecord_document h).ok hreadable]
  simp [hsession, hname]

theorem decode_document_of_not_isReadable {e : Event} (h : e.data.WellFormed)
    (hreadable : e.isReadable = false) :
    ∃ fault, decode (String.ofList e.document) = .error (.unreadable fault) := by
  obtain ⟨fault, hfault⟩ := (decided_readRecord_document h).error hreadable
  exact ⟨fault, by rw [decode, hfault]⟩

end PlaybackRelay.Event
