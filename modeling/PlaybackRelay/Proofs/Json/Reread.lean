import PlaybackRelay.Proofs.Json.WellFormed

/-!
Written values are read again. Two things stand in the way: containers may lie too deep inside each
other, and an object whose first name is reserved is taken for a wrapped value. Main statements:
`WellFormed.rereads`, `decided_parse` and `decided_readObject`.
-/
namespace PlaybackRelay.Json

/-- The first name that is written of the object is reserved. -/
def Members.looksWrapped (ms : Members) : Bool :=
  ms.head?.any fun m => (Wrapped.ofName? m.1).isSome

mutual

/-- The text of the value can be read where `depth` more containers may be opened. -/
def readable (depth : Nat) : Json → Bool
  | .null => true
  | .bool _ => true
  | .number _ => true
  | .string _ => true
  | .array items => 0 < depth && itemsReadable (depth - 1) items
  | .object ms => 0 < depth && !Members.looksWrapped ms && membersReadable (depth - 1) ms

def itemsReadable (depth : Nat) : List Json → Bool
  | [] => true
  | v :: items => readable depth v && itemsReadable depth items

def membersReadable (depth : Nat) : List (String × Json) → Bool
  | [] => true
  | (_, v) :: ms => readable depth v && membersReadable depth ms

end

/-- A reader returns `a` where `possible` holds, and a fault elsewhere. -/
structure Decided {α : Type} (possible : Bool) (a : α) (result : Except Fault α) : Prop where
  ok : possible = true → result = .ok a
  error : possible = false → ∃ fault, result = .error fault

section Decided

variable {α β : Type} {possible : Bool} {a : α} {b : β} {result : Except Fault α}

theorem decided_ok (a : α) : Decided true a (.ok a) := ⟨fun _ => rfl, by simp⟩

theorem decided_error (a : α) (fault : Fault) : Decided false a (.error fault) :=
  ⟨by simp, fun _ => ⟨fault, rfl⟩⟩

/-- What is read first decides, and then what is read behind it. -/
theorem Decided.bind {later : Bool} {f : α → Except Fault β} (h : Decided possible a result)
    (hlater : Decided later b (f a)) : Decided (possible && later) b (result >>= f) := by
  cases possible with
  | true =>
    rw [h.ok rfl]
    exact hlater
  | false =>
    obtain ⟨fault, hresult⟩ := h.error rfl
    rw [hresult]
    exact decided_error b fault

theorem Decided.map (h : Decided possible a result) (f : α → β) :
    Decided possible (f a) (result.map f) := by
  cases possible with
  | true =>
    rw [h.ok rfl]
    exact decided_ok (f a)
  | false =>
    obtain ⟨fault, hresult⟩ := h.error rfl
    rw [hresult]
    exact decided_error (f a) fault

end Decided

private theorem readItems_succ (fuel depth : Nat) (done : List Json) (v : Json)
    (items : List (List Char)) (rest : List Char) :
    readItems (fuel + 1) depth done (listed done.isEmpty (v.text :: items) ++ rest) =
      (do
        let (v, rest) ← readSteps fuel depth (v.text ++ (behind items ++ rest))
        readItems fuel depth (v :: done) rest) := by
  rw [readItems, nextItem_listed]
  simp only
  cases readSteps fuel depth (v.text ++ (behind items ++ rest)) <;> rfl

private theorem readMembers_succ (fuel depth : Nat) (first : Bool) (done : Members)
    (m : String × Json) (items : List (List Char)) (rest : List Char) :
    readMembers (fuel + 1) depth first done (listed first (memberText m :: items) ++ rest) =
      (do
        let (v, rest) ← readSteps fuel depth (m.2.text ++ (behind items ++ rest))
        readMembers fuel depth false (done.insert m.1 v) rest) := by
  rw [readMembers, nextName_listed]
  simp only [scanColon_colon]
  cases readSteps fuel depth (m.2.text ++ (behind items ++ rest)) <;> rfl

/-- The value is read behind any text and in front of any other. -/
def Rereads (v : Json) : Prop :=
  ∀ {fuel depth : Nat} {rest : List Char}, 2 * v.text.length ≤ fuel → Delimited rest →
    Decided (v.readable depth) (v, rest) (readSteps fuel depth (v.text ++ rest))

private theorem decided_readItems {items : List Json} (hitems : ∀ v ∈ items, Rereads v)
    {fuel depth : Nat} {done : List Json} (rest : List Char)
    (hfuel : 2 * (listed done.isEmpty (itemTexts items)).length + 1 ≤ fuel) :
    Decided (itemsReadable depth items) (.array (done.reverse ++ items), rest)
      (readItems fuel depth done (listed done.isEmpty (itemTexts items) ++ ']' :: rest)) := by
  induction items generalizing fuel done with
  | nil =>
    obtain ⟨fuel, rfl⟩ := Nat.exists_eq_add_one_of_ne_zero (n := fuel) (by omega)
    rw [itemTexts, listed_nil, List.nil_append, readItems, nextItem_close, List.append_nil]
    exact decided_ok _
  | cons v items ih =>
    obtain ⟨hv, hitems⟩ := List.forall_mem_cons.1 hitems
    have hpos := length_text_pos v
    have hlength : v.text.length + (behind (itemTexts items)).length ≤
        (listed done.isEmpty (itemTexts (v :: items))).length := by
      rw [itemTexts]
      cases done.isEmpty <;> simp
    obtain ⟨fuel, rfl⟩ := Nat.exists_eq_add_one_of_ne_zero (n := fuel) (by omega)
    have hrest : Decided (itemsReadable depth items) (.array (done.reverse ++ v :: items), rest)
        (readItems fuel depth (v :: done) (behind (itemTexts items) ++ ']' :: rest)) := by
      have hitem := @ih hitems fuel (v :: done) (by
        simp only [List.isEmpty_cons, listed_false]
        omega)
      simpa using hitem
    rw [itemTexts, readItems_succ, itemsReadable]
    exact (hv (by omega) (delimited_behind _ (delimited_bracket rest))).bind hrest

/-- The names that are left lie behind those that were read, so that each member goes to the end. -/
theorem decided_readMembers {ms : Members} (hms : ∀ m ∈ ms, Rereads m.2) {fuel depth : Nat}
    {first : Bool} {done : Members} (hordered : Members.Ordered (done ++ ms)) (rest : List Char)
    (hfuel : 2 * (listed first (memberTexts ms)).length + 1 ≤ fuel) :
    Decided (membersReadable depth ms) (.object (done ++ ms), rest)
      (readMembers fuel depth first done (listed first (memberTexts ms) ++ '}' :: rest)) := by
  induction ms generalizing fuel first done with
  | nil =>
    obtain ⟨fuel, rfl⟩ := Nat.exists_eq_add_one_of_ne_zero (n := fuel) (by omega)
    rw [memberTexts, listed_nil, List.nil_append, readMembers, nextName_close, List.append_nil]
    exact decided_ok _
  | cons m ms ih =>
    obtain ⟨hm, hms⟩ := List.forall_mem_cons.1 hms
    have hpos := length_text_pos m.2
    have hlength : m.2.text.length + (behind (memberTexts ms)).length + 1 ≤
        (listed first (memberTexts (m :: ms))).length := by
      rw [memberTexts]
      cases first <;> simp [quote] <;> omega
    obtain ⟨fuel, rfl⟩ := Nat.exists_eq_add_one_of_ne_zero (n := fuel) (by omega)
    have hinsert : done.insert m.1 m.2 = done ++ [m] :=
      Members.insert_of_forall_lt fun n hn =>
        (List.pairwise_append.1 hordered).2.2 n hn m List.mem_cons_self
    have hrest : Decided (membersReadable depth ms) (.object (done ++ m :: ms), rest)
        (readMembers fuel depth false (done.insert m.1 m.2)
          (behind (memberTexts ms) ++ '}' :: rest)) := by
      rw [hinsert]
      have hmember := @ih hms fuel false (done ++ [m]) (by simpa using hordered)
        (by rw [listed_false]; omega)
      simpa using hmember
    have hread : Decided (m.2.readable depth) (m.2, behind (memberTexts ms) ++ '}' :: rest)
        (readSteps fuel depth (m.2.text ++ (behind (memberTexts ms) ++ '}' :: rest))) :=
      hm (by omega) (delimited_behind (memberTexts ms) (delimited_brace rest))
    rw [memberTexts, membersReadable, ← memberText, readMembers_succ]
    exact hread.bind hrest

private theorem readSteps_null (fuel depth : Nat) (rest : List Char) :
    readSteps (fuel + 1) depth (text .null ++ rest) = .ok (.null, rest) := by
  rw [readSteps, skipBlanks_text]
  simp [text, scanLiteral, Except.map]

private theorem readSteps_bool (fuel depth : Nat) (b : Bool) (rest : List Char) :
    readSteps (fuel + 1) depth (text (.bool b) ++ rest) = .ok (.bool b, rest) := by
  rw [readSteps, skipBlanks_text]
  cases b with
  | true => simp [text, scanLiteral, Except.map]
  | false => simp [text, scanLiteral, Except.map]

private theorem readSteps_number (fuel depth : Nat) (n : Number) {rest : List Char}
    (h : Delimited rest) :
    readSteps (fuel + 1) depth (text (.number n) ++ rest) = .ok (.number n, rest) := by
  have hscan := scanNumber_text .truncated n h
  obtain ⟨c, cs, htext, hc⟩ := n.exists_text_eq_cons
  obtain ⟨hn, ht, hf, hquote, hbracket, hbrace⟩ := ne_of_number hc
  rw [readSteps, skipBlanks_text]
  rw [htext, List.cons_append] at hscan
  rw [text, htext, List.cons_append]
  simp [hc, hscan, Except.map]

private theorem readSteps_string (fuel depth : Nat) (s : String) (rest : List Char) :
    readSteps (fuel + 1) depth (text (.string s) ++ rest) = .ok (.string s, rest) := by
  obtain ⟨cs, hquote, hscan⟩ := scanString_quote s rest
  rw [readSteps, skipBlanks_text, text, hquote]
  simp [scanText, hscan, Except.map]

theorem readString_string (s : String) (rest : List Char) :
    readString (text (.string s) ++ rest) = .ok (s, rest) := by
  obtain ⟨cs, hquote, hscan⟩ := scanString_quote s rest
  rw [readString, skipBlanks_text, text, hquote]
  exact hscan true

/-- A string that is wanted is the value that stands there. -/
theorem readString_text {v : Json} {s : String} {rest cs : List Char}
    (h : readString (v.text ++ rest) = .ok (s, cs)) : cs = rest := by
  cases v with
  | string s' =>
    rw [readString_string] at h
    exact (Prod.mk.inj (Except.ok.inj h)).2.symm
  | number n =>
    obtain ⟨c, cs', htext, hc⟩ := n.exists_text_eq_cons
    obtain ⟨-, -, -, hquote, -, -⟩ := ne_of_number hc
    rw [readString, skipBlanks_text, text, htext, List.cons_append] at h
    simp [hquote] at h
  | bool b =>
    rw [readString, skipBlanks_text] at h
    cases b <;> simp [text] at h
  | _ =>
    rw [readString, skipBlanks_text] at h
    simp [text] at h

theorem exists_bind_eq_error {α β : Type} {x : Except Fault α} {f : α → Except Fault β}
    (h : ∀ a, x = .ok a → ∃ fault, f a = .error fault) : ∃ fault, (x >>= f) = .error fault := by
  cases x with
  | error fault => exact ⟨fault, rfl⟩
  | ok a => exact h a rfl

theorem closeWrapped_comma {α : Type} (a : α) (rest : List Char) :
    closeWrapped a (',' :: rest) = .error .malformed := rfl

/-- Another member behind the wrapped text is a fault. -/
theorem exists_readWrappedNumber_eq_error (v : Json) (rest : List Char) :
    ∃ fault, readWrappedNumber (':' :: (v.text ++ ',' :: rest)) = .error fault := by
  refine exists_bind_eq_error fun ⟨s, cs⟩ hread => ?_
  obtain rfl := readString_text hread
  cases hnumber : Number.ofText? s with
  | none => exact ⟨.mismatched, by simp only [hnumber]; rfl⟩
  | some n => exact ⟨.malformed, by simp only [hnumber, closeWrapped_comma]⟩

private theorem exists_readWrappedValue_eq_error (fuel : Nat) (v : Json) (rest : List Char) :
    ∃ fault, readWrappedValue fuel (':' :: (v.text ++ ',' :: rest)) = .error fault := by
  cases fuel with
  | zero => exact ⟨.truncated, rfl⟩
  | succ fuel =>
    rw [readWrappedValue]
    refine exists_bind_eq_error fun scanned hread => ?_
    obtain ⟨s, cs⟩ := scanned
    obtain rfl := readString_text hread
    cases hvalue : readSteps fuel maxDepth s.toList with
    | error fault => exact ⟨.mismatched, by simp only [hvalue]; rfl⟩
    | ok scanned =>
      obtain ⟨w, after⟩ := scanned
      by_cases hafter : skipBlanks after = []
      · exact ⟨.malformed, by simp only [hvalue, if_pos hafter, closeWrapped_comma]⟩
      · exact ⟨.mismatched, by simp only [hvalue, if_neg hafter]; rfl⟩

private theorem wrapped?_close (rest : List Char) : wrapped? ('}' :: rest) = none := rfl

theorem wrapped?_listed (m : String × Json) (items : List (List Char)) (rest : List Char) :
    wrapped? (listed true (memberText m :: items) ++ rest) =
      (Wrapped.ofName? m.1).map (·, ':' :: (m.2.text ++ (behind items ++ rest))) := by
  rw [wrapped?, nextName_listed]

/-- A genuine object that begins with a reserved name has another member, which is a fault. -/
theorem exists_readSteps_eq_error {ms : Members} (hms : ms.Genuine) (hwrapped : ms.looksWrapped)
    (fuel depth : Nat) (rest : List Char) :
    ∃ fault, readSteps (fuel + 1) depth ((object ms).text ++ rest) = .error fault := by
  rcases ms with _ | ⟨m, _ | ⟨n, ms⟩⟩
  · simp [Members.looksWrapped] at hwrapped
  · rcases hms with hms | ⟨m', hm', hname⟩
    · contradiction
    · obtain rfl := List.mem_singleton.1 hm'
      simp [Members.looksWrapped, hname] at hwrapped
  · obtain ⟨w, hw⟩ : ∃ w, Wrapped.ofName? m.1 = some w :=
      Option.isSome_iff_exists.1 (by simpa [Members.looksWrapped] using hwrapped)
    have htexts : memberTexts (m :: n :: ms) = memberText m :: memberTexts (n :: ms) := rfl
    have hbehind : behind (memberTexts (n :: ms)) ++ (['}'] ++ rest) =
        ',' :: (memberText n ++ (behind (memberTexts ms) ++ '}' :: rest)) := by
      simp [memberTexts, memberText]
    have hfirst := wrapped?_listed m (memberTexts (n :: ms)) (['}'] ++ rest)
    rw [hw, hbehind] at hfirst
    rw [readSteps, skipBlanks_text, text_object, htexts, List.cons_append, List.append_assoc]
    simp only [hfirst, Option.map_some]
    by_cases hdepth : depth = 0
    · exact ⟨.malformed, if_pos hdepth⟩
    · rw [if_neg hdepth]
      cases w with
      | number =>
        obtain ⟨fault, hfault⟩ := exists_readWrappedNumber_eq_error m.2
          (memberText n ++ (behind (memberTexts ms) ++ '}' :: rest))
        exact ⟨fault, by simp only [hfault]; rfl⟩
      | value => exact exists_readWrappedValue_eq_error fuel m.2 _

/-- A scalar is read in one step. -/
theorem Scalar.rereads {v : Json} (h : Scalar v) : Rereads v := by
  intro fuel depth rest hfuel hrest
  have hpos := length_text_pos v
  obtain ⟨fuel, rfl⟩ := Nat.exists_eq_add_one_of_ne_zero (n := fuel) (by omega)
  cases h with
  | null =>
    rw [readSteps_null]
    exact decided_ok _
  | bool b =>
    rw [readSteps_bool]
    exact decided_ok _
  | number n =>
    rw [readSteps_number fuel depth n hrest]
    exact decided_ok _
  | string s =>
    rw [readSteps_string]
    exact decided_ok _

private theorem rereads_array {items : List Json} (hitems : ∀ v ∈ items, Rereads v) :
    Rereads (array items) := by
  intro fuel depth rest hfuel hrest
  rw [text_array, List.length_cons, List.length_append, List.length_singleton] at hfuel
  obtain ⟨fuel, rfl⟩ := Nat.exists_eq_add_one_of_ne_zero (n := fuel) (by omega)
  have hread : Decided (itemsReadable (depth - 1) items) (array items, rest)
      (readItems fuel (depth - 1) [] (listed true (itemTexts items) ++ ']' :: rest)) :=
    @decided_readItems items hitems fuel (depth - 1) [] rest (by rw [List.isEmpty_nil]; omega)
  rw [readSteps, skipBlanks_text, text_array, List.cons_append, List.append_assoc, readable]
  simp only [List.singleton_append]
  by_cases hdepth : depth = 0
  · simp only [hdepth]
    exact decided_error _ _
  · simp only [if_neg hdepth, Nat.pos_of_ne_zero hdepth, decide_true, Bool.true_and]
    exact hread

private theorem wrapped?_eq_none {ms : Members} (h : ms.looksWrapped = false) (rest : List Char) :
    wrapped? (listed true (memberTexts ms) ++ '}' :: rest) = none := by
  cases ms with
  | nil => exact wrapped?_close rest
  | cons m ms =>
    have hname : Wrapped.ofName? m.1 = none := by
      simpa [Members.looksWrapped] using h
    rw [memberTexts, ← memberText, wrapped?_listed, hname]
    rfl

private theorem rereads_object {ms : Members} (hordered : ms.Ordered) (hgenuine : ms.Genuine)
    (hms : ∀ m ∈ ms, Rereads m.2) : Rereads (object ms) := by
  intro fuel depth rest hfuel hrest
  rw [text_object, List.length_cons, List.length_append, List.length_singleton] at hfuel
  obtain ⟨fuel, rfl⟩ := Nat.exists_eq_add_one_of_ne_zero (n := fuel) (by omega)
  rw [readable]
  cases hwrapped : ms.looksWrapped with
  | true =>
    obtain ⟨fault, hfault⟩ := exists_readSteps_eq_error hgenuine hwrapped fuel depth rest
    rw [hfault]
    simpa using decided_error (object ms, rest) fault
  | false =>
    have hread : Decided (membersReadable (depth - 1) ms) (object ms, rest)
        (readMembers fuel (depth - 1) true [] (listed true (memberTexts ms) ++ '}' :: rest)) :=
      @decided_readMembers ms hms fuel (depth - 1) true [] hordered rest (by omega)
    have hfirst := wrapped?_eq_none hwrapped rest
    rw [readSteps, skipBlanks_text, text_object, List.cons_append, List.append_assoc]
    simp only [List.singleton_append, hfirst]
    by_cases hdepth : depth = 0
    · simp only [hdepth]
      exact decided_error _ _
    · simp only [if_neg hdepth, Nat.pos_of_ne_zero hdepth, decide_true, Bool.not_false,
        Bool.true_and]
      exact hread

theorem WellFormed.rereads {v : Json} (h : v.WellFormed) : Rereads v := by
  induction h with
  | null => exact Scalar.null.rereads
  | bool b => exact (Scalar.bool b).rereads
  | number n => exact (Scalar.number n).rereads
  | string s => exact (Scalar.string s).rereads
  | array _ ih => exact rereads_array ih
  | object hordered hgenuine _ ih => exact rereads_object hordered hgenuine ih

/-- A text that holds a written value alone is parsed as that value. -/
theorem decided_parse {v : Json} (h : v.WellFormed) :
    Decided (v.readable maxDepth) v (parse (String.ofList v.text)) := by
  have hread : Decided (v.readable maxDepth) (v, []) (readValue maxDepth v.text) := by
    have hsteps : Decided (v.readable maxDepth) (v, [])
        (readSteps (2 * v.text.length + 2) maxDepth (v.text ++ [])) :=
      h.rereads (by omega) delimited_nil
    rwa [List.append_nil] at hsteps
  rw [parse, whole, readWhole, String.toList_ofList, ← Bool.and_true (v.readable maxDepth)]
  exact hread.bind (decided_ok v)

example : (object [("$serde_json::private::Number", .string "1"), ("a", .null)]).readable maxDepth =
    false := rfl

/-- A payload is read again if its members can be, whatever names it has itself. -/
theorem decided_readObject {ms : Members} (h : ms.WellFormed) (depth : Nat) (rest : List Char) :
    Decided (membersReadable depth ms) (ms, rest) (readObject (depth + 1) (ms.text ++ rest)) := by
  have hread : Decided (membersReadable depth ms) (object ms, rest)
      (readMembers (2 * (ms.text ++ rest).length + 2) depth true []
        (listed true (memberTexts ms) ++ '}' :: rest)) := by
    have hvalues : ∀ m ∈ ms, Rereads m.2 := fun m hm => (h.values m hm).rereads
    refine @decided_readMembers ms hvalues _ depth true [] h.ordered rest ?_
    rw [Members.text, text_object]
    simp only [List.length_append, List.length_cons]
    omega
  have hskip : skipBlanks (ms.text ++ rest) =
      '{' :: (listed true (memberTexts ms) ++ '}' :: rest) := by
    rw [Members.text, skipBlanks_text, text_object]
    simp
  rw [readObject, hskip]
  simp only [Nat.add_one_ne_zero, if_false, Nat.add_sub_cancel]
  rw [← Bool.and_true (membersReadable depth ms)]
  exact hread.bind (decided_ok (ms, rest))

end PlaybackRelay.Json
