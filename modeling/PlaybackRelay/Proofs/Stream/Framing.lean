import PlaybackRelay.Stream.Framing

/-!
What framing makes of a body depends on its lines alone and not on the pieces in which it arrives.
Main statement: `feedAll_eq_feed_flatten`.
-/
namespace PlaybackRelay.Framing

/-- Takes in the pieces of a body one after the other. -/
def feedAll (f : Framing) : List (List UInt8) → List String × Framing
  | [] => ([], f)
  | piece :: pieces =>
    let (messages, f) := f.feed piece
    let (later, f) := f.feedAll pieces
    (messages ++ later, f)

/-- Reads what stands between the line ends of a body, the last of which is no whole line yet. -/
def readLines (data : List (List Char)) : List (List UInt8) → List String × Framing
  | [] => ([], ⟨[], data⟩)
  | [rest] => ([], ⟨rest.reverse, data⟩)
  | line :: lines =>
    let (message, data) := readLine data line
    let (messages, f) := readLines data lines
    (message.toList ++ messages, f)

private theorem readLines_cons {lines : List (List UInt8)} (h : lines ≠ [])
    (data : List (List Char)) (line : List UInt8) :
    readLines data (line :: lines) =
      ((readLine data line).1.toList ++ (readLines (readLine data line).2 lines).1,
        (readLines (readLine data line).2 lines).2) := by
  cases lines with
  | nil => exact absurd rfl h
  | cons next lines => rfl

theorem step_lineEnd (f : Framing) :
    f.step lineEnd =
      ((readLine f.data f.line.reverse).1, ⟨[], (readLine f.data f.line.reverse).2⟩) := by
  simp [step, endLine]

theorem step_of_ne {b : UInt8} (hb : b ≠ lineEnd) (f : Framing) :
    f.step b = (none, { f with line := b :: f.line }) := by
  simp [step, hb]

/-- The unfinished line holds no line end, so that the lines of a body are those that begin with
what was left unfinished before it. -/
theorem feed_eq_readLines (f : Framing) (hf : lineEnd ∉ f.line) (body : List UInt8) :
    f.feed body = readLines f.data ((f.line.reverse ++ body).splitOn lineEnd) := by
  induction body generalizing f with
  | nil =>
    have hline : lineEnd ∉ f.line.reverse := by simpa using hf
    rw [List.append_nil, List.splitOn_eq_singleton hline]
    simp [feed, readLines]
  | cons b bs ih =>
    by_cases hb : b = lineEnd
    · subst hb
      have hline : lineEnd ∉ f.line.reverse := by simpa using hf
      rw [List.splitOn_append_cons_self_of_not_mem hline,
        readLines_cons (List.splitOn_ne_nil _ _), feed, step_lineEnd]
      have hrest := ih ⟨[], (readLine f.data f.line.reverse).2⟩ (by simp)
      simp only [List.reverse_nil, List.nil_append] at hrest
      simp only [hrest]
    · have hline : lineEnd ∉ b :: f.line := by simp [hf, Ne.symm hb]
      have hrest := ih { f with line := b :: f.line } hline
      simp only [List.reverse_cons, List.append_assoc, List.singleton_append] at hrest
      rw [feed, step_of_ne hb]
      simp only [hrest, Option.toList_none, List.nil_append]

/-- A line end is never kept. -/
theorem lineEnd_not_mem_line_feed {f : Framing} (hf : lineEnd ∉ f.line) (body : List UInt8) :
    lineEnd ∉ (f.feed body).2.line := by
  induction body generalizing f with
  | nil => exact hf
  | cons b bs ih =>
    by_cases hb : b = lineEnd
    · subst hb
      rw [feed, step_lineEnd]
      exact ih List.not_mem_nil
    · rw [feed, step_of_ne hb]
      exact ih (by simp [hf, Ne.symm hb])

theorem feed_append (f : Framing) (first second : List UInt8) :
    f.feed (first ++ second) =
      ((f.feed first).1 ++ ((f.feed first).2.feed second).1, ((f.feed first).2.feed second).2) := by
  induction first generalizing f with
  | nil => simp [feed]
  | cons b bs ih => simp [feed, ih]

theorem feedAll_eq (f : Framing) (pieces : List (List UInt8)) :
    f.feedAll pieces = f.feed pieces.flatten := by
  induction pieces generalizing f with
  | nil => rfl
  | cons piece pieces ih => simp only [feedAll, ih, List.flatten_cons, feed_append]

private theorem takeBlock_snd (data : List (List Char)) : (takeBlock data).2 = [] := by
  cases data <;> rfl

/-- Nothing outlives the end of a body. -/
@[simp] theorem finish_snd (f : Framing) : f.finish.2 = start := by
  have hline : (if f.line.isEmpty then (none, f) else f.endLine).2.line = [] := by
    split
    · exact List.isEmpty_iff.1 ‹_›
    · rfl
  simp only [finish, hline, takeBlock_snd, start]

theorem finish_start : start.finish = ([], start) := rfl

/-- A body yields the same messages in whatever pieces it arrives, those of its lines, and its end
leaves nothing behind. After any pieces, the next one is read in lines that begin with what these
have left unfinished. -/
theorem feedAll_eq_feed_flatten (pieces : List (List UInt8)) :
    (start.feedAll pieces).1 = (start.feed pieces.flatten).1 ∧
      (start.feedAll pieces).2.finish.1 = (start.feed pieces.flatten).2.finish.1 ∧
      (start.feedAll pieces).2.finish.2 = start ∧
      (start.feed pieces.flatten).2.finish.2 = start ∧
      start.finish = ([], start) ∧
      start.feed pieces.flatten = readLines [] (pieces.flatten.splitOn lineEnd) ∧
      ∀ piece : List UInt8,
        (start.feedAll pieces).2.feed piece = readLines (start.feedAll pieces).2.data
          (((start.feedAll pieces).2.line.reverse ++ piece).splitOn lineEnd) := by
  have hall := feedAll_eq start pieces
  have hstart : lineEnd ∉ start.line := List.not_mem_nil
  refine ⟨by rw [hall], by rw [hall], finish_snd _, finish_snd _, finish_start, ?_, fun piece => ?_⟩
  · exact feed_eq_readLines start hstart pieces.flatten
  · rw [hall]
    exact feed_eq_readLines _ (lineEnd_not_mem_line_feed hstart pieces.flatten) piece

end PlaybackRelay.Framing
