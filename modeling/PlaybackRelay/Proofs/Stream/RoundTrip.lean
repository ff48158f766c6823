import Mathlib.Data.List.Forall2
import Mathlib.Data.List.TakeWhile
import PlaybackRelay.Proofs.Stream.Framing
import PlaybackRelay.Proofs.Text.Utf8

/-!
Messages that are written to a body, as blocks of data lines or as bare lines, are read from it
again, whatever else there is between their lines. Main statement: `feed_of_written`.
-/
namespace PlaybackRelay.Framing

open Text (Utf8.encode Utf8.decodeLossy)

/-- The lines of a message. There is at least one, which may be empty. -/
def messageLines (message : String) : List (List Char) := message.toList.splitOn '\n'

/-- The lines in which a message is written, each without the line end that closes it. There may be
a return before every line end, and there has to be one if a line itself ends in a return. -/
inductive Written (message : String) : List (List Char) → Prop
  | block (ending : List Char) (hending : ending = ['\r'] ∨
      ending = [] ∧ ∀ line ∈ messageLines message, line.getLast? ≠ some '\r') :
    Written message
      ((messageLines message).map (fun line => "data: ".toList ++ line ++ ending) ++ [ending])
  | bare (hbrace : message.toList.head? = some '{') (hline : '\n' ∉ message.toList)
      (hreturn : message.toList.getLast? ≠ some '\r') :
    Written message [message.toList]

/-- What stands before the first colon of a line. -/
def fieldName (line : List Char) : List Char :=
  (if ':' ∈ line then line else stripReturn line).takeWhile (· ≠ ':')

/-- A comment or a line of any field but the data. -/
structure Idle (line : List Char) : Prop where
  ne_nil : line ≠ []
  ne_return : line ≠ ['\r']
  head_ne : line.head? ≠ some '{'
  field : line.head? = some ':' ∨ fieldName line ≠ "data".toList

theorem idle_iff {line : List Char} : Idle line ↔
    line ≠ [] ∧ line ≠ ['\r'] ∧ line.head? ≠ some '{' ∧
      (line.head? = some ':' ∨ fieldName line ≠ "data".toList) :=
  ⟨fun h => ⟨h.ne_nil, h.ne_return, h.head_ne, h.field⟩, fun ⟨hn, hr, hh, hf⟩ => ⟨hn, hr, hh, hf⟩⟩

instance (line : List Char) : Decidable (Idle line) := decidable_of_iff' _ idle_iff

/-- The bytes of some lines, with idle lines anywhere among them. -/
inductive AmongIdle : List (List UInt8) → List (List UInt8) → Prop
  | nil : AmongIdle [] []
  | line {lines all : List (List UInt8)} (bytes : List UInt8) :
    AmongIdle lines all → AmongIdle (bytes :: lines) (bytes :: all)
  | idle {lines all : List (List UInt8)} (bytes : List UInt8) :
    lineEnd ∉ bytes → Idle (Utf8.decodeLossy bytes) → AmongIdle lines all →
      AmongIdle lines (bytes :: all)

/-- Takes in some whole lines. -/
def readAll (data : List (List Char)) : List (List UInt8) → List String × List (List Char)
  | [] => ([], data)
  | bytes :: lines =>
    let (message, data) := readLine data bytes
    let (messages, data) := readAll data lines
    (message.toList ++ messages, data)

theorem readAll_append (data : List (List Char)) (first second : List (List UInt8)) :
    readAll data (first ++ second) =
      ((readAll data first).1 ++ (readAll (readAll data first).2 second).1,
        (readAll (readAll data first).2 second).2) := by
  induction first generalizing data with
  | nil => rfl
  | cons bytes first ih => simp [readAll, ih]

section Lines

variable {data : List (List Char)} {line ending : List Char} {bytes : List UInt8}

@[simp] theorem stripReturn_concat (line : List Char) : stripReturn (line ++ ['\r']) = line := by
  simp [stripReturn]

theorem stripReturn_of_ne (h : line.getLast? ≠ some '\r') : stripReturn line = line := if_neg h

theorem exists_concat_or_stripReturn_eq (line : List Char) :
    line = stripReturn line ++ ['\r'] ∨ stripReturn line = line := by
  by_cases h : line.getLast? = some '\r'
  · obtain ⟨init, rfl⟩ := List.getLast?_eq_some_iff.1 h
    exact Or.inl (by rw [stripReturn_concat])
  · exact Or.inr (stripReturn_of_ne h)

private theorem takeWhile_stripReturn (line : List Char) :
    (stripReturn line).takeWhile (· ≠ ':') = fieldName line := by
  unfold fieldName
  split
  · rename_i hcolon
    rcases exists_concat_or_stripReturn_eq line with hline | hline
    · generalize stripReturn line = init at hline
      -- The colon stands before the return, which is then no part of the name.
      have hinit : ':' ∈ init := by simpa [hline] using hcolon
      have hname : (init.takeWhile (· ≠ ':')).length ≠ init.length := by
        intro hlength
        have hall := (List.takeWhile_prefix (· ≠ ':')).eq_of_length hlength
        exact absurd (List.mem_takeWhile_imp (hall.symm ▸ hinit)) (by decide)
      rw [hline, List.takeWhile_append, if_neg hname]
    · rw [hline]
  · rfl

private theorem readLine_idle (h : Idle (Utf8.decodeLossy bytes)) (data : List (List Char)) :
    readLine data bytes = (none, data) := by
  obtain ⟨hnil, hreturn, hbrace, hfield⟩ := h
  unfold readLine
  generalize Utf8.decodeLossy bytes = line at *
  have hname := takeWhile_stripReturn line
  have hvalue : dataValue? (stripReturn line) = none := by
    have hne : fieldName line ≠ "data".toList := by
      rcases hfield with hcolon | hne
      · obtain ⟨rest, rfl⟩ := List.head?_eq_some_iff.1 hcolon
        simp [fieldName]
      · exact hne
    rw [dataValue?, hname]
    exact if_neg hne
  split
  · rename_i hstrip
    rcases exists_concat_or_stripReturn_eq line with hline | hline
    · exact absurd (by rw [hline, hstrip, List.nil_append]) hreturn
    · exact absurd (hline.symm.trans hstrip) hnil
  · rename_i rest hstrip
    rcases exists_concat_or_stripReturn_eq line with hline | hline
    · exact absurd (by rw [hline, hstrip]; rfl) hbrace
    · exact absurd (by rw [← hline, hstrip]; rfl) hbrace
  · rw [hvalue]

private theorem readLine_data (h : ending = ['\r'] ∨ ending = [] ∧ line.getLast? ≠ some '\r')
    (data : List (List Char)) :
    readLine data (Utf8.encode ("data: ".toList ++ line ++ ending)) = (none, line :: data) := by
  have hstrip : stripReturn ("data: ".toList ++ line ++ ending) = "data: ".toList ++ line := by
    rcases h with rfl | ⟨rfl, hline⟩
    · exact stripReturn_concat _
    · rw [List.append_nil]
      refine stripReturn_of_ne ?_
      rw [List.getLast?_append]
      cases hlast : line.getLast? with
      | none => decide
      | some c => rwa [hlast] at hline
  rw [readLine, Text.Utf8.decodeLossy_encode, hstrip]
  rfl

private theorem readLine_ending (h : ending = ['\r'] ∨ ending = []) (data : List (List Char)) :
    readLine data (Utf8.encode ending) = takeBlock data := by
  have hstrip : stripReturn ending = [] := by
    rcases h with rfl | rfl <;> rfl
  rw [readLine, Text.Utf8.decodeLossy_encode, hstrip]

private theorem readLine_bare {message : String} (hbrace : message.toList.head? = some '{')
    (hreturn : message.toList.getLast? ≠ some '\r') (data : List (List Char)) :
    readLine data (Utf8.encode message.toList) = (some message, data) := by
  obtain ⟨rest, hmessage⟩ := List.head?_eq_some_iff.1 hbrace
  have htext : message = String.ofList ('{' :: rest) := by rw [← hmessage, String.ofList_toList]
  rw [readLine, Text.Utf8.decodeLossy_encode, stripReturn_of_ne hreturn, hmessage, htext]
  rfl

end Lines

section Messages

variable {message : String} {lines all : List (List UInt8)}

private theorem readAll_of_amongIdle (h : AmongIdle lines all) (data : List (List Char)) :
    readAll data all = readAll data lines := by
  induction h generalizing data with
  | nil => rfl
  | line bytes _ ih => simp only [readAll, ih]
  | idle bytes _ hidle _ ih =>
    simp only [readAll, readLine_idle hidle, ih, Option.toList_none, List.nil_append]

private theorem readAll_data {ending : List Char} {values : List (List Char)}
    (h : ending = ['\r'] ∨ ending = [] ∧ ∀ value ∈ values, value.getLast? ≠ some '\r')
    (data : List (List Char)) :
    readAll data ((values.map fun value => "data: ".toList ++ value ++ ending).map Utf8.encode) =
      ([], values.reverse ++ data) := by
  induction values generalizing data with
  | nil => rfl
  | cons value values ih =>
    have hvalue := readLine_data (h.imp_right fun h => ⟨h.1, h.2 value List.mem_cons_self⟩) data
    have hrest := ih (h.imp_right fun h => ⟨h.1, fun v hv => h.2 v (List.mem_cons_of_mem _ hv)⟩)
    rw [List.map_cons, List.map_cons, readAll, hvalue, List.reverse_cons, List.append_assoc]
    simp only [hrest, Option.toList_none, List.nil_append, List.singleton_append]

private theorem takeBlock_messageLines (message : String) :
    takeBlock (messageLines message).reverse = (some message, []) := by
  have hempty : (messageLines message).reverse.isEmpty = false := by
    simp [messageLines]
  rw [takeBlock, hempty, List.reverse_reverse, messageLines, List.intercalate_splitOn,
    String.ofList_toList]
  rfl

private theorem readAll_of_written {block : List (List Char)} (h : Written message block) :
    readAll [] (block.map Utf8.encode) = ([message], []) := by
  cases h with
  | block ending hending =>
    have hclosed := readLine_ending (hending.imp_right And.left) (messageLines message).reverse
    rw [List.map_append, readAll_append, readAll_data hending, List.append_nil, List.map_singleton,
      readAll, hclosed, takeBlock_messageLines]
    rfl
  | bare hbrace hline hreturn =>
    rw [List.map_singleton, readAll, readLine_bare hbrace hreturn]
    rfl

private theorem readAll_of_forall_written {messages : List String}
    {blocks : List (List (List Char))} (h : List.Forall₂ Written messages blocks) :
    readAll [] (blocks.flatten.map Utf8.encode) = (messages, []) := by
  induction h with
  | nil => rfl
  | cons hblock _ ih =>
    rw [List.flatten_cons, List.map_append, readAll_append, readAll_of_written hblock]
    simp only [ih, List.singleton_append]

end Messages

section Bytes

theorem lineEnd_not_mem_encode {line : List Char} (h : '\n' ∉ line) :
    lineEnd ∉ Utf8.encode line := by
  intro hmem
  obtain ⟨c, hc, hcode⟩ := Text.Utf8.exists_mem_of_mem_encode (by decide) hmem
  have hnewline : c = '\n' := Char.toNat_inj.1 hcode
  exact h (hnewline ▸ hc)

private theorem newline_not_mem_of_mem_splitOn {text line : List Char}
    (h : line ∈ text.splitOn '\n') : '\n' ∉ line := by
  induction text generalizing line with
  | nil => simp_all
  | cons c text ih =>
    rw [List.splitOn_cons_eq_if_modifyHead] at h
    split at h
    · rcases List.mem_cons.1 h with rfl | h
      · exact List.not_mem_nil
      · exact ih h
    · rename_i hc
      obtain ⟨first, rest, hsplit⟩ := List.exists_cons_of_ne_nil (List.splitOn_ne_nil '\n' text)
      rw [hsplit, List.modifyHead_cons] at h
      rcases List.mem_cons.1 h with rfl | h
      · have hfirst : '\n' ∉ first := ih (hsplit ▸ List.mem_cons_self)
        have hne : c ≠ '\n' := by simpa using hc
        exact fun hmem => (List.mem_cons.1 hmem).elim (hne ·.symm) hfirst
      · exact ih (hsplit ▸ List.mem_cons_of_mem _ h)

private theorem newline_not_mem_of_written {message : String} {block : List (List Char)}
    (h : Written message block) : ∀ line ∈ block, '\n' ∉ line := by
  cases h with
  | block ending hending =>
    have hreturn : '\n' ∉ ending := by
      rcases hending with rfl | ⟨rfl, -⟩ <;> decide
    intro line hline
    rcases List.mem_append.1 hline with hline | hline
    · obtain ⟨value, hvalue, rfl⟩ := List.mem_map.1 hline
      simp [newline_not_mem_of_mem_splitOn hvalue, hreturn]
    · rwa [List.mem_singleton.1 hline]
  | bare hbrace hline hreturn => simpa using hline

private theorem newline_not_mem_of_forall_written {messages : List String}
    {blocks : List (List (List Char))} (h : List.Forall₂ Written messages blocks) :
    ∀ line ∈ blocks.flatten, '\n' ∉ line := by
  induction h with
  | nil => exact fun line hline => absurd hline List.not_mem_nil
  | cons hblock _ ih =>
    intro line hline
    rcases List.mem_append.1 hline with hline | hline
    · exact newline_not_mem_of_written hblock line hline
    · exact ih line hline

private theorem lineEnd_not_mem_of_amongIdle {lines all : List (List UInt8)}
    (h : AmongIdle lines all) (hlines : ∀ bytes ∈ lines, lineEnd ∉ bytes) :
    ∀ bytes ∈ all, lineEnd ∉ bytes := by
  induction h with
  | nil => exact hlines
  | line bytes _ ih =>
    obtain ⟨hbytes, hrest⟩ := List.forall_mem_cons.1 hlines
    exact List.forall_mem_cons.2 ⟨hbytes, ih hrest⟩
  | idle bytes hbytes _ _ ih => exact List.forall_mem_cons.2 ⟨hbytes, ih hlines⟩

/-- An idle line may be any text. -/
theorem AmongIdle.text {lines all : List (List UInt8)} {line : List Char} (hline : '\n' ∉ line)
    (hidle : Idle line) (h : AmongIdle lines all) : AmongIdle lines (Utf8.encode line :: all) :=
  .idle _ (lineEnd_not_mem_encode hline) (by rwa [Text.Utf8.decodeLossy_encode]) h

/-- The bytes of a line are gathered until its end. -/
theorem feed_of_not_mem (f : Framing) {bytes : List UInt8} (h : lineEnd ∉ bytes) :
    f.feed bytes = ([], { f with line := bytes.reverse ++ f.line }) := by
  induction bytes generalizing f with
  | nil => rfl
  | cons b bytes ih =>
    obtain ⟨hb, hrest⟩ := not_or.1 (List.mem_cons.not.1 h)
    rw [feed, step_of_ne (Ne.symm hb)]
    simp [ih _ hrest]

private theorem feed_lines (data : List (List Char)) {lines : List (List UInt8)}
    (h : ∀ bytes ∈ lines, lineEnd ∉ bytes) :
    (Framing.mk [] data).feed (lines.flatMap (· ++ [lineEnd])) =
      ((readAll data lines).1, ⟨[], (readAll data lines).2⟩) := by
  induction lines generalizing data with
  | nil => rfl
  | cons bytes lines ih =>
    obtain ⟨hbytes, hrest⟩ := List.forall_mem_cons.1 h
    rw [List.flatMap_cons, List.append_assoc, feed_append, feed_of_not_mem _ hbytes,
      List.singleton_append, feed, step_lineEnd]
    simp only [List.append_nil, List.reverse_reverse, List.nil_append, ih _ hrest, readAll]

end Bytes

/-- A body of written messages yields these messages, in their order, with comments and other fields
anywhere between its lines, and nothing is left at its end. -/
theorem feed_of_written {messages : List String} {blocks : List (List (List Char))}
    {all : List (List UInt8)} (hblocks : List.Forall₂ Written messages blocks)
    (hall : AmongIdle (blocks.flatten.map Utf8.encode) all) :
    let f := start.feed (all.flatMap (· ++ [lineEnd]))
    f.1 = messages ∧ f.2.finish = ([], start) := by
  have hlines : ∀ bytes ∈ blocks.flatten.map Utf8.encode, lineEnd ∉ bytes := by
    intro bytes hbytes
    obtain ⟨line, hline, rfl⟩ := List.mem_map.1 hbytes
    exact lineEnd_not_mem_encode (newline_not_mem_of_forall_written hblocks line hline)
  have hfeed := feed_lines [] (lineEnd_not_mem_of_amongIdle hall hlines)
  rw [readAll_of_amongIdle hall, readAll_of_forall_written hblocks] at hfeed
  intro f
  have hf : f = (messages, start) := hfeed
  rw [hf]
  exact ⟨rfl, finish_start⟩

/-- An empty message, a bare line, and a message with a blank before and a return inside it. There
is a field before the first block, and there are a comment and a field inside the last one. -/
theorem feed_of_written_mixed :
    let messages := ["", "{}", " a\r\nb"]
    let blocks : List (List (List Char)) := [["data: ".toList, []], ["{}".toList],
      ["data:  a\r\r".toList, "data: b\r".toList, ['\r']]]
    let all : List (List Char) := ["id".toList, "data: ".toList, [], "{}".toList,
      "data:  a\r\r".toList, ": data\r".toList, "event: data".toList, "data: b\r".toList, ['\r']]
    let f := start.feed ((all.map Utf8.encode).flatMap (· ++ [lineEnd]))
    List.Forall₂ Written messages blocks ∧
      AmongIdle (blocks.flatten.map Utf8.encode) (all.map Utf8.encode) ∧
      f.1 = messages ∧ f.2.finish = ([], start) := by
  intro messages blocks all f
  have hblocks : List.Forall₂ Written messages blocks :=
    .cons (.block [] (.inr (by decide))) (.cons (.bare (by decide) (by decide) (by decide))
      (.cons (.block ['\r'] (.inl rfl)) .nil))
  have hall : AmongIdle (blocks.flatten.map Utf8.encode) (all.map Utf8.encode) :=
    .text (by decide) (by decide) (.line _ (.line _ (.line _ (.line _
      (.text (by decide) (by decide) (.text (by decide) (by decide) (.line _ (.line _ .nil))))))))
  exact ⟨hblocks, hall, feed_of_written hblocks hall⟩

end PlaybackRelay.Framing
