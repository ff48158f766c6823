import PlaybackRelay.Proofs.Agent.Verdict

/-!
What a text says in brackets about the platform makes no robot of it: whichever such comment stands
at a place, the same text is searched for a crawler. Main statement: `comments_alike`.
-/
namespace PlaybackRelay.Agent

section Brackets

variable {p comment : List Char}

/-- Every opening bracket has a closing one somewhere behind it. -/
def ClosesBrackets : List Char → Prop
  | [] => True
  | c :: cs => (c = '(' → ')' ∈ cs) ∧ ClosesBrackets cs

instance : DecidablePred ClosesBrackets := fun cs => by
  induction cs with
  | nil => exact inferInstanceAs (Decidable True)
  | cons c cs ih => exact inferInstanceAs (Decidable (_ ∧ _))

/-- What stands between two brackets and is not meant for servers that crawlers call on. -/
def IsPlatformComment (comment : List Char) : Prop :=
  ')' ∉ comment ∧ ¬"compatible".toList <+: Text.lowerAscii (Text.trimStart comment)

instance (comment : List Char) : Decidable (IsPlatformComment comment) :=
  inferInstanceAs (Decidable (_ ∧ _))

theorem ClosesBrackets.of_append {before : List Char} (h : ClosesBrackets (before ++ p)) :
    ClosesBrackets p := by
  induction before with
  | nil => exact h
  | cons c before ih => exact ih h.2

/-- Behind closed brackets the reading starts anew, also where it begins within a comment. -/
theorem candidatesFrom_append (hp : ClosesBrackets p) {opened : Option (List Char)}
    (hopened : opened = none ∨ ')' ∈ p) (rest : List Char) :
    candidatesFrom opened (p ++ rest) = candidatesFrom opened p ++ candidatesFrom none rest := by
  induction p generalizing opened with
  | nil =>
    cases opened with
    | none => rfl
    | some inside => simp at hopened
  | cons c p ih =>
    obtain ⟨hc, hp⟩ := hp
    cases opened with
    | none =>
      rw [List.cons_append, candidatesFrom, candidatesFrom]
      split
      · exact ih hp (Or.inr (hc ‹_›))
      · rw [ih hp (Or.inl rfl), List.cons_append]
    | some inside =>
      rw [List.cons_append, candidatesFrom, candidatesFrom]
      split
      · rw [ih hp (Or.inl rfl), List.append_assoc]
      · rename_i hne
        -- The bracket that closes this comment is not the character in front.
        have hclose : ')' ∈ c :: p := hopened.resolve_left (Option.some_ne_none inside)
        exact ih hp (Or.inr ((List.mem_cons.1 hclose).resolve_left (Ne.symm hne)))

private theorem candidatesFrom_comment (hcomment : ')' ∉ comment) (inside rest : List Char) :
    candidatesFrom (some inside) (comment ++ ')' :: rest) =
      (if isProductComment (inside.reverse ++ comment) then
        '(' :: (inside.reverse ++ comment) ++ [')'] else [' ']) ++ candidatesFrom none rest := by
  induction comment generalizing inside with
  | nil => rw [List.nil_append, candidatesFrom, if_pos rfl, List.append_nil]
  | cons c comment ih =>
    obtain ⟨hc, hcomment⟩ := not_or.1 (mt List.mem_cons.2 hcomment)
    rw [List.cons_append, candidatesFrom, if_neg (Ne.symm hc), ih hcomment]
    simp

theorem isProductComment_iff : isProductComment comment = true ↔
    "compatible".toList <+: Text.lowerAscii (Text.trimStart comment) := Text.startsWith_iff

/-- A comment on the platform counts as a blank. -/
theorem robotCandidates_comment (hp : ClosesBrackets p) (hcomment : IsPlatformComment comment)
    (rest : List Char) : robotCandidates (p ++ '(' :: (comment ++ ')' :: rest)) =
      robotCandidates p ++ ' ' :: robotCandidates rest := by
  have hproduct : isProductComment comment = false :=
    Bool.eq_false_iff.2 (mt isProductComment_iff.1 hcomment.2)
  rw [robotCandidates, candidatesFrom_append hp (Or.inl rfl), candidatesFrom, if_pos rfl,
    candidatesFrom_comment hcomment.1, List.reverse_nil, List.nil_append, hproduct]
  rfl

end Brackets

section Alike

variable {p s comment c₁ c₂ : List Char}

/-- A text with a comment in it. -/
def withComment (p s comment : List Char) : List Char := p ++ '(' :: (comment ++ ')' :: s)

theorem trim_withComment (p s comment : List Char) : Text.trim (withComment p s comment) =
    withComment (Text.trimStart p) (Text.trimEnd s) comment := by
  have hopen : Text.isBlank '(' = false := by decide
  have hclose : Text.isBlank ')' = false := by decide
  have hend := Text.trimEnd_append_cons hclose (Text.trimStart p ++ '(' :: comment) s
  rw [Text.trim, withComment, withComment, Text.trimStart_append_cons hopen]
  simpa using hend

theorem ClosesBrackets.trimStart (hp : ClosesBrackets p) : ClosesBrackets (Text.trimStart p) :=
  have hwhole : p.takeWhile Text.isBlank ++ Text.trimStart p = p := List.takeWhile_append_dropWhile
  ClosesBrackets.of_append (hwhole ▸ hp)

/-- Without an attack or a robot that is known by name, the verdict comes from the candidates. -/
theorem ofText_withComment (hp : ClosesBrackets p) (hcomment : IsPlatformComment comment)
    (hrobot : ¬NamesKnownRobot (withComment p s comment))
    (hattack : ¬ShowsAttack (withComment p s comment)) : ofText (withComment p s comment) =
      (crawler? (robotCandidates (Text.trimStart p) ++
        ' ' :: robotCandidates (Text.trimEnd s))).getD
          (ofBrowser (Text.trim (withComment p s comment))) := by
  have hwithin := Text.trim_isInfix (withComment p s comment)
  have hnonempty : (Text.trim (withComment p s comment)).isEmpty = false := by
    rw [trim_withComment, withComment, List.isEmpty_eq_false_iff]
    exact List.append_ne_nil_of_right_ne_nil _ (List.cons_ne_nil _ _)
  have hpeaceful : isAttack (Text.trim (withComment p s comment)) = false :=
    Bool.eq_false_iff.2 fun h => hattack ((isAttack_iff.1 h).of_isInfix hwithin)
  have hunknown : knownRobot? (Text.trim (withComment p s comment)) = none := by
    rw [← Option.not_isSome_iff_eq_none, isSome_knownRobot?_iff]
    rintro ⟨r, hr, hstands⟩
    exact hrobot ⟨r, hr, hstands.trans hwithin⟩
  have hcandidates : robotCandidates (Text.trim (withComment p s comment)) =
      robotCandidates (Text.trimStart p) ++ ' ' :: robotCandidates (Text.trimEnd s) := by
    rw [trim_withComment, withComment, robotCandidates_comment hp.trimStart hcomment]
  simp only [ofText, hnonempty, hpeaceful, robot?, hunknown, hcandidates, Option.none_or,
    Bool.false_eq_true, if_false]

/-- The comment is not searched for a crawler, and has no part in what is read of one that stands
around it. -/
theorem comments_alike (hp : ClosesBrackets p)
    (hc₁ : IsPlatformComment c₁) (hc₂ : IsPlatformComment c₂) :
    robotCandidates (withComment p s c₁) = robotCandidates (withComment p s c₂) ∧
      ((∀ ua ∈ [withComment p s c₁, withComment p s c₂], ¬NamesKnownRobot ua ∧ ¬ShowsAttack ua) →
        (ofText (withComment p s c₁)).isSuspect = (ofText (withComment p s c₂)).isSuspect ∧
          ((ofText (withComment p s c₁)).kind = "Robot" ↔
            (ofText (withComment p s c₂)).kind = "Robot") ∧
          ((ofText (withComment p s c₁)).kind = "Robot" →
            (ofText (withComment p s c₁)).name = (ofText (withComment p s c₂)).name ∧
              (ofText (withComment p s c₁)).version = (ofText (withComment p s c₂)).version)) := by
  refine ⟨?_, fun hharmless => ?_⟩
  · rw [withComment, withComment, robotCandidates_comment hp hc₁, robotCandidates_comment hp hc₂]
  · obtain ⟨hrobot₁, hattack₁⟩ := hharmless _ List.mem_cons_self
    obtain ⟨hrobot₂, hattack₂⟩ := hharmless _ (List.mem_cons_of_mem _ List.mem_cons_self)
    rw [ofText_withComment hp hc₁ hrobot₁ hattack₁, ofText_withComment hp hc₂ hrobot₂ hattack₂]
    cases crawler? (robotCandidates (Text.trimStart p) ++
        ' ' :: robotCandidates (Text.trimEnd s)) with
    | some a => exact ⟨rfl, Iff.rfl, fun _ => ⟨rfl, rfl⟩⟩
    | none =>
      have hkind (ua : List Char) : (ofBrowser ua).kind ≠ "Robot" := by
        rcases kind_ofBrowser ua with h | h <;> rw [h] <;> decide
      rw [Option.getD_none, Option.getD_none, isSuspect_ofBrowser, isSuspect_ofBrowser]
      exact ⟨rfl, iff_of_false (hkind _) (hkind _), fun h => absurd h (hkind _)⟩

/-- A crawler stands in one of the comments and another behind them both: the latter is found. -/
theorem comments_alike_spider :
    let p := "Mozilla/5.0 (a (b) ".toList
    let s := " Foo-spider/2".toList
    let c₁ := "Linux; AhrefsBot/7.0".toList
    let c₂ := "Windows NT 10.0".toList
    ClosesBrackets p ∧ IsPlatformComment c₁ ∧ IsPlatformComment c₂ ∧
      (∀ ua ∈ [withComment p s c₁, withComment p s c₂], ¬NamesKnownRobot ua ∧ ¬ShowsAttack ua) ∧
      (ofText (withComment p s c₁)).kind = "Robot" ∧
      robotCandidates (withComment p s c₁) = robotCandidates (withComment p s c₂) ∧
      (ofText (withComment p s c₁)).isSuspect = (ofText (withComment p s c₂)).isSuspect ∧
      (ofText (withComment p s c₁)).name = (ofText (withComment p s c₂)).name ∧
      (ofText (withComment p s c₁)).version = (ofText (withComment p s c₂)).version := by
  intro p s c₁ c₂
  have hp : ClosesBrackets p := by decide
  have hc₁ : IsPlatformComment c₁ := by decide
  have hc₂ : IsPlatformComment c₂ := by decide
  have hharmless : ∀ ua ∈ [withComment p s c₁, withComment p s c₂],
      ¬NamesKnownRobot ua ∧ ¬ShowsAttack ua := by decide +kernel
  have hkind : (ofText (withComment p s c₁)).kind = "Robot" := by decide +kernel
  obtain ⟨hcandidates, hverdicts⟩ := comments_alike (s := s) hp hc₁ hc₂
  obtain ⟨hsuspect, -, hrobot⟩ := hverdicts hharmless
  obtain ⟨hname, hversion⟩ := hrobot hkind
  exact ⟨hp, hc₁, hc₂, hharmless, hkind, hcandidates, hsuspect, hname, hversion⟩

end Alike

end PlaybackRelay.Agent
