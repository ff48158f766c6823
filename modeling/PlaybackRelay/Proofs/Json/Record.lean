import PlaybackRelay.Json.Record

/-! What a reader of records returns was made of a draft, which has every property that the empty
draft has and reading keeps. Main statement: `Shape.exists_finish_of_readRecord`. -/
namespace PlaybackRelay.Json

theorem bind_eq_ok {α β ε : Type} {x : Except ε α} {f : α → Except ε β} {b : β} :
    (x >>= f) = .ok b ↔ ∃ a, x = .ok a ∧ f a = .ok b := by
  cases x with
  | error e => simp [Bind.bind, Except.bind]
  | ok a => simp [Bind.bind, Except.bind]

theorem exists_of_whole {α : Type} {read : List Char → Except Fault (Scanned α)} {text : String}
    {a : α} (h : whole read text = .ok a) :
    ∃ rest, read text.toList = .ok (a, rest) ∧ skipBlanks rest = [] := by
  obtain ⟨⟨b, rest⟩, hread, hend⟩ := bind_eq_ok.1 h
  dsimp only at hend
  split at hend
  · rename_i hblank
    obtain rfl := Except.ok.inj hend
    exact ⟨rest, hread, List.isEmpty_iff.1 hblank⟩
  · contradiction

namespace Shape

variable {field draft record : Type} {shape : Shape field draft record} {depth : Nat}
variable {d : draft} {cs rest : List Char} {r : record} {good : draft → Prop}

/-- Reading a member leaves a good draft good. -/
def Keeps (shape : Shape field draft record) (good : draft → Prop) : Prop :=
  ∀ {depth : Nat} {d d' : draft} {f : field} {cs rest : List Char}, good d →
    shape.read depth d f cs = .ok (d', rest) → good d'

theorem exists_finish_of_close (hd : good d) (h : shape.close d cs = .ok (r, rest)) :
    ∃ d, good d ∧ shape.finish d = some r := by
  unfold close at h
  split at h
  case h_1 r' hfinish =>
    obtain ⟨rfl, rfl⟩ := Prod.mk.inj (Except.ok.inj h)
    exact ⟨d, hd, hfinish⟩
  case h_2 => contradiction

private theorem exists_finish_of_readMembers (hkeeps : shape.Keeps good) {fuel : Nat} {first : Bool}
    (hd : good d) (h : shape.readMembers depth fuel first d cs = .ok (r, rest)) :
    ∃ d, good d ∧ shape.finish d = some r := by
  induction fuel generalizing first d cs with
  | zero => contradiction
  | succ fuel ih =>
    rw [readMembers] at h
    obtain ⟨⟨name, cs⟩, -, h⟩ := bind_eq_ok.1 h
    cases name with
    | none => exact exists_finish_of_close hd h
    | some name =>
      simp only at h
      split at h
      · obtain ⟨cs, -, h⟩ := bind_eq_ok.1 h
        obtain ⟨cs, -, h⟩ := bind_eq_ok.1 h
        exact ih hd h
      · split at h
        · contradiction
        · obtain ⟨cs, -, h⟩ := bind_eq_ok.1 h
          obtain ⟨⟨d', cs⟩, hread, h⟩ := bind_eq_ok.1 h
          exact ih (hkeeps hd hread) h

private theorem exists_finish_of_closeArray (hd : good d)
    (h : shape.closeArray d cs = .ok (r, rest)) : ∃ d, good d ∧ shape.finish d = some r := by
  obtain ⟨⟨r', cs'⟩, hclose, hend⟩ := bind_eq_ok.1 h
  simp only at hend
  split at hend
  · contradiction
  · obtain ⟨rfl, -⟩ := Prod.mk.inj (Except.ok.inj hend)
    exact exists_finish_of_close hd hclose
  · contradiction

private theorem exists_finish_of_readArray (hkeeps : shape.Keeps good) {fields : List field}
    {first : Bool} (hd : good d) (h : shape.readArray depth fields first d cs = .ok (r, rest)) :
    ∃ d, good d ∧ shape.finish d = some r := by
  induction fields generalizing first d cs with
  | nil => exact exists_finish_of_closeArray hd h
  | cons f fields ih =>
    rw [readArray] at h
    obtain ⟨⟨more, cs⟩, -, h⟩ := bind_eq_ok.1 h
    cases more with
    | false =>
      simp only at h
      split at h
      · exact exists_finish_of_close hd h
      · contradiction
    | true =>
      obtain ⟨⟨d', cs⟩, hread, h⟩ := bind_eq_ok.1 h
      exact ih (hkeeps hd hread) h

theorem exists_finish_of_readRecord (hkeeps : shape.Keeps good) (hempty : good shape.empty)
    (h : shape.readRecord depth cs = .ok (r, rest)) : ∃ d, good d ∧ shape.finish d = some r := by
  unfold readRecord at h
  split at h
  · split at h
    · contradiction
    · exact exists_finish_of_readMembers hkeeps hempty h
  · split at h
    · contradiction
    · exact exists_finish_of_readArray hkeeps hempty h
  · contradiction

end Shape
end PlaybackRelay.Json
