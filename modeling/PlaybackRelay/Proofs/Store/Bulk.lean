import PlaybackRelay.Proofs.Json.Reread
import PlaybackRelay.Proofs.Stream.Framing
import PlaybackRelay.Proofs.Text.Utf8
import PlaybackRelay.Store.Bulk

/-!
The body of a bulk request is framed as it was put together: each line is one message, whatever the
events and the names of the indexes hold. Main statement: `framed_bulkBody`.
-/
namespace PlaybackRelay

open Text.Utf8 (encode encode_append)

namespace Framing

/-- A line with a brace in front and no control character is one message. -/
theorem feed_line {cs : List Char} (hcs : Json.Printable ('{' :: cs)) :
    start.feed (encode ('{' :: cs ++ ['\n'])) = ([String.ofList ('{' :: cs)], start) := by
  have hline : lineEnd ∉ encode ('{' :: cs) := by
    intro hmem
    obtain ⟨c, hc, hcode⟩ := Text.Utf8.exists_mem_of_mem_encode (by decide) hmem
    have hprintable := hcs c hc
    have hlineEnd : lineEnd.toNat = 10 := rfl
    omega
  have hreturn : ('{' :: cs).getLast? ≠ some '\r' := by
    intro hlast
    have hprintable := hcs '\r' (List.mem_of_getLast? hlast)
    contradiction
  have hread : readLine [] (encode ('{' :: cs)) = (some (String.ofList ('{' :: cs)), []) := by
    rw [readLine, Text.Utf8.decodeLossy_encode, stripReturn, if_neg hreturn]
    rfl
  have hend : encode ['\n'] = [lineEnd] := rfl
  rw [feed_eq_readLines start (by simp [start]), encode_append, hend]
  have hsplit : (encode ('{' :: cs) ++ [lineEnd]).splitOn lineEnd = [encode ('{' :: cs), []] := by
    rw [List.splitOn_append_cons_self_of_not_mem hline]
    rfl
  simp only [start, List.reverse_nil, List.nil_append, hsplit]
  simp [readLines, hread]

end Framing

namespace Json

theorem newline_not_mem {cs : List Char} (h : Printable cs) : '\n' ∉ cs := by
  intro hmem
  have hprintable := h '\n' hmem
  contradiction

/-- The text of an object is a line of its own. -/
theorem feed_object (ms : Members) :
    Framing.start.feed (encode ((object ms).text ++ ['\n'])) =
      ([String.ofList (object ms).text], Framing.start) := by
  have hprintable := text_printable (object ms)
  rw [text_object] at hprintable ⊢
  exact Framing.feed_line hprintable

end Json

namespace Store

/-- The messages that belong to an event. -/
def messagesOf (indexes : Indexes) (e : Event) : List String :=
  [String.ofList (directive (indexes.indexOf e)).text, String.ofList e.document]

private theorem feed_entry (indexes : Indexes) (e : Event) :
    Framing.start.feed (encode (entry indexes e)) = (messagesOf indexes e, Framing.start) := by
  have hentry : entry indexes e =
      ((directive (indexes.indexOf e)).text ++ ['\n']) ++ (e.document ++ ['\n']) := by
    simp [entry]
  have hdirective : Framing.start.feed (encode ((directive (indexes.indexOf e)).text ++ ['\n'])) =
      ([String.ofList (directive (indexes.indexOf e)).text], Framing.start) := Json.feed_object _
  have hdocument : Framing.start.feed (encode (e.document ++ ['\n'])) =
      ([String.ofList e.document], Framing.start) := Json.feed_object _
  rw [hentry, encode_append, Framing.feed_append, hdirective, hdocument]
  rfl

theorem feed_bulkBody (indexes : Indexes) (batch : List Event) :
    Framing.start.feed (encode (bulkBody indexes batch)) =
      (batch.flatMap (messagesOf indexes), Framing.start) := by
  induction batch with
  | nil => rfl
  | cons e batch ih =>
    have hbody : bulkBody indexes (e :: batch) = entry indexes e ++ bulkBody indexes batch := rfl
    rw [hbody, encode_append, Framing.feed_append, feed_entry, ih, List.flatMap_cons]

theorem length_messages (indexes : Indexes) (batch : List Event) :
    (batch.flatMap (messagesOf indexes)).length = 2 * batch.length := by
  induction batch with
  | nil => rfl
  | cons e batch ih =>
    rw [List.flatMap_cons, List.length_append, ih, List.length_cons]
    simp only [messagesOf, List.length_cons, List.length_nil]
    omega

theorem getElem?_messages (indexes : Indexes) (batch : List Event) (i : Nat) {j : Nat}
    (hj : j < 2) :
    (batch.flatMap (messagesOf indexes))[2 * i + j]? =
      batch[i]?.bind fun e => (messagesOf indexes e)[j]? := by
  induction batch generalizing i with
  | nil => simp
  | cons e batch ih =>
    rw [List.flatMap_cons]
    cases i with
    | zero =>
      rw [Nat.mul_zero, Nat.zero_add, List.getElem?_append_left hj]
      rfl
    | succ i =>
      have hskip : 2 * (i + 1) + j = (messagesOf indexes e).length + (2 * i + j) := by
        simp only [messagesOf, List.length_cons, List.length_nil]
        omega
      rw [hskip, List.getElem?_append_right (Nat.le_add_right _ _), Nat.add_sub_cancel_left, ih]
      rfl

theorem indexOf_eq (indexes : Indexes) (e : Event) :
    indexes.indexOf e = if e.name = "HEARTBEAT" then indexes.heartbeat else indexes.core := by
  by_cases hname : e.name = "HEARTBEAT"
  · simp [Indexes.indexOf, Event.isHeartbeat, Event.heartbeatName, hname]
  · simp [Indexes.indexOf, Event.isHeartbeat, Event.heartbeatName, hname]

private theorem parse_directive (index : String) :
    Json.parse (String.ofList (directive index).text) = .ok (directive index) := by
  have hinner := (Json.Members.WellFormed.nil.insert "_index" (.string index)).object
    (.insert rfl [] _)
  have houter := (Json.Members.WellFormed.nil.insert "create" hinner).object (.insert rfl [] _)
  exact (Json.decided_parse houter).ok rfl

private theorem getLast?_entry (indexes : Indexes) (e : Event) :
    (entry indexes e).getLast? = some '\n' := by
  rw [entry, List.getLast?_append]
  rfl

private theorem getLast?_bulkBody (indexes : Indexes) (batch : List Event) :
    (bulkBody indexes batch).getLast? = if batch.isEmpty then none else some '\n' := by
  induction batch with
  | nil => rfl
  | cons e batch ih =>
    have hbody : bulkBody indexes (e :: batch) = entry indexes e ++ bulkBody indexes batch := rfl
    rw [hbody, List.getLast?_append, ih, getLast?_entry]
    cases batch <;> rfl

/-- The body holds two messages for each event and nothing else: the directive, which names the
index, and the document. -/
theorem framed_bulkBody (indexes : Indexes) (batch : List Event) :
    (Framing.start.feed (encode (bulkBody indexes batch))).1.length = 2 * batch.length ∧
      (Framing.start.feed (encode (bulkBody indexes batch))).2.finish = ([], Framing.start) ∧
      (∀ i : Fin batch.length, ∃ line,
        (Framing.start.feed (encode (bulkBody indexes batch))).1[2 * i.val]? = some line ∧
        Json.parse line = .ok (.object [("create", .object [("_index", .string
          (if batch[i].name = "HEARTBEAT" then indexes.heartbeat else indexes.core))])]) ∧
        (Framing.start.feed (encode (bulkBody indexes batch))).1[2 * i.val + 1]? =
          some (String.ofList batch[i].document)) ∧
      (∀ e : Event, '\n' ∉ (directive (indexes.indexOf e)).text ∧ '\n' ∉ e.document) ∧
      (bulkBody indexes batch).getLast? = if batch.isEmpty then none else some '\n' := by
  rw [feed_bulkBody]
  refine ⟨length_messages indexes batch, Framing.finish_start, fun i => ?_, fun e => ?_,
    getLast?_bulkBody indexes batch⟩
  · have hevent : batch[i.val]? = some batch[i] := List.getElem?_eq_getElem i.isLt
    have hdirective := getElem?_messages indexes batch i.val (j := 0) (by decide)
    have hdocument := getElem?_messages indexes batch i.val (j := 1) (by decide)
    rw [hevent, Option.bind_some] at hdirective hdocument
    refine ⟨String.ofList (directive (indexes.indexOf batch[i])).text, hdirective, ?_, hdocument⟩
    rw [parse_directive, indexOf_eq]
    rfl
  · have hdirective := Json.text_printable (directive (indexes.indexOf e))
    have hdocument : Json.Printable e.document := Json.text_printable _
    exact ⟨Json.newline_not_mem hdirective, Json.newline_not_mem hdocument⟩

/-- Nothing is written for an empty batch, not even the end of a line. -/
theorem bulkBody_nil_not_ended :
    ¬ (bulkBody ⟨"core", "beats"⟩ []).getLast? = some '\n' := by
  decide

end Store
end PlaybackRelay
