import Mathlib.Data.List.TakeWhile
import PlaybackRelay.Url.Basic

/-!
What follows the path of a URL. Two texts that differ in a query or a fragment alone are read as the
same scheme, host and segments, or are refused for the same reason. Main statement: `parse_append`.
-/
namespace PlaybackRelay.Url

/-- What begins a query or a fragment. -/
def endsPath (c : Char) : Bool := c = '?' || c = '#'

theorem forall_endsPath_iff {P : Char → Prop} :
    (∀ c, endsPath c = true → P c) ↔ P '?' ∧ P '#' := by
  simp [endsPath]

/-- Two texts that agree up to where a query or a fragment begins in both. -/
inductive Alike : List Char → List Char → Prop
  | ended {c d : Char} (cs ds : List Char) :
    endsPath c = true → endsPath d = true → Alike (c :: cs) (d :: ds)
  | cons (c : Char) {cs ds : List Char} : Alike cs ds → Alike (c :: cs) (c :: ds)

namespace Alike

section Texts

variable {cs ds : List Char} {p : Char → Bool}

theorem append (h : Alike cs ds) (before : List Char) : Alike (before ++ cs) (before ++ ds) := by
  induction before with
  | nil => exact h
  | cons c before ih => exact .cons c ih

theorem ne_nil (h : Alike cs ds) : cs ≠ [] ∧ ds ≠ [] := by
  cases h <;> exact ⟨List.cons_ne_nil _ _, List.cons_ne_nil _ _⟩

protected theorem symm (h : Alike cs ds) : Alike ds cs := by
  induction h with
  | ended cs ds hc hd => exact .ended ds cs hd hc
  | cons c h ih => exact .cons c ih

theorem exists_of_cons {c : Char} (h : Alike (c :: cs) ds) (hc : endsPath c = false) :
    ∃ rest, ds = c :: rest ∧ Alike cs rest := by
  cases h with
  | ended cs ds hmark => exact absurd hmark (by simp [hc])
  | cons c h => exact ⟨_, rfl, h⟩

theorem takeWhile_eq (h : Alike cs ds) (hp : ∀ c, endsPath c = true → p c = false) :
    cs.takeWhile p = ds.takeWhile p := by
  induction h with
  | ended cs ds hc hd =>
    rw [List.takeWhile_cons_of_neg (by simp [hp _ hc]),
      List.takeWhile_cons_of_neg (by simp [hp _ hd])]
  | cons c h ih => rw [List.takeWhile_cons, List.takeWhile_cons, ih]

theorem dropWhile (h : Alike cs ds) (hp : ∀ c, endsPath c = true → p c = false) :
    Alike (cs.dropWhile p) (ds.dropWhile p) := by
  induction h with
  | ended cs ds hc hd =>
    rw [List.dropWhile_cons_of_neg (by simp [hp _ hc]),
      List.dropWhile_cons_of_neg (by simp [hp _ hd])]
    exact .ended cs ds hc hd
  | cons c h ih =>
    rw [List.dropWhile_cons, List.dropWhile_cons]
    split
    · exact ih
    · exact .cons c h

theorem drop (h : Alike cs ds) (hp : ∀ c, endsPath c = true → p c = false) {n : Nat}
    (hn : n ≤ (cs.takeWhile p).length) : Alike (cs.drop n) (ds.drop n) := by
  induction h generalizing n with
  | ended cs ds hc hd =>
    rw [List.takeWhile_cons_of_neg (by simp [hp _ hc])] at hn
    rw [Nat.le_zero.1 hn]
    exact .ended cs ds hc hd
  | cons c h ih =>
    cases n with
    | zero => exact .cons c h
    | succ n =>
      rw [List.takeWhile_cons] at hn
      split at hn
      · exact ih (Nat.le_of_succ_le_succ hn)
      · contradiction

theorem filter (h : Alike cs ds) (hp : ∀ c, endsPath c = true → p c = true) :
    Alike (cs.filter p) (ds.filter p) := by
  induction h with
  | ended cs ds hc hd =>
    rw [List.filter_cons_of_pos (hp _ hc), List.filter_cons_of_pos (hp _ hd)]
    exact .ended _ _ hc hd
  | cons c h ih =>
    rw [List.filter_cons, List.filter_cons]
    split
    · exact .cons c ih
    · exact ih

/-- What is dropped at the end belongs to the query or the fragment. -/
theorem dropEnd (h : Alike cs ds) (hp : ∀ c, endsPath c = true → p c = false) :
    Alike (cs.reverse.dropWhile p).reverse (ds.reverse.dropWhile p).reverse := by
  -- In front of a character that stays, or of a text of which something stays, all characters stay.
  have hstays (c : Char) (cs : List Char)
      (hc : p c = false ∨ (cs.reverse.dropWhile p).reverse ≠ []) :
      ((c :: cs).reverse.dropWhile p).reverse = c :: (cs.reverse.dropWhile p).reverse := by
    rw [List.reverse_cons, List.dropWhile_append]
    split
    case isTrue hempty =>
      rw [List.isEmpty_iff] at hempty
      have hc : p c = false := by simpa [hempty] using hc
      rw [hempty, List.dropWhile_cons_of_neg (by simp [hc])]
      rfl
    case isFalse => rw [List.reverse_append, List.reverse_singleton, List.singleton_append]
  induction h with
  | ended cs ds hc hd =>
    rw [hstays _ cs (.inl (hp _ hc)), hstays _ ds (.inl (hp _ hd))]
    exact .ended _ _ hc hd
  | cons c h ih =>
    rw [hstays c _ (.inr ih.ne_nil.1), hstays c _ (.inr ih.ne_nil.2)]
    exact .cons c ih

/-- A question about the first character that does not tell the two marks apart. -/
theorem head?_congr {β : Sort*} (h : Alike cs ds) (f : Option Char → β)
    (hf : f (some '?') = f (some '#')) : f cs.head? = f ds.head? := by
  cases h with
  | ended cs ds hc hd =>
    have hmark : ∀ c, endsPath c = true → f (some c) = f (some '#') :=
      forall_endsPath_iff.2 ⟨hf, rfl⟩
    exact (hmark _ hc).trans (hmark _ hd).symm
  | cons => rfl

end Texts

section Parts

variable {cs ds : List Char} {kind : Kind}

theorem unbroken (h : Alike cs ds) : Alike (Path.unbroken cs) (Path.unbroken ds) :=
  h.filter (forall_endsPath_iff.2 (by decide))

theorem trim (h : Alike cs ds) : Alike (Url.trim cs) (Url.trim ds) := by
  have hmark : ∀ c, endsPath c = true → (decide (c ≤ ' ')) = false :=
    forall_endsPath_iff.2 (by decide)
  exact (h.dropWhile hmark).dropEnd hmark

theorem pathText_eq (h : Alike cs ds) : Path.text cs = Path.text ds :=
  h.takeWhile_eq (forall_endsPath_iff.2 (by decide))

theorem afterAuthority_eq (h : Alike cs ds) (backslashes : Bool) :
    Path.afterAuthority backslashes cs = Path.afterAuthority backslashes ds := by
  rw [Path.afterAuthority, Path.afterAuthority, h.pathText_eq]

theorem endsAuthority_of_endsPath : ∀ c, endsPath c = true → endsAuthority kind c = true :=
  forall_endsPath_iff.2 ⟨rfl, rfl⟩

theorem splitHost (h : Alike cs ds) (kind : Kind) (inBrackets : Bool) :
    (splitHost kind inBrackets cs).1 = (splitHost kind inBrackets ds).1 ∧
      Alike (splitHost kind inBrackets cs).2 (splitHost kind inBrackets ds).2 := by
  induction h generalizing inBrackets with
  | ended cs ds hc hd =>
    rw [Url.splitHost, Url.splitHost, if_pos (Or.inl (endsAuthority_of_endsPath _ hc)),
      if_pos (Or.inl (endsAuthority_of_endsPath _ hd))]
    exact ⟨rfl, .ended cs ds hc hd⟩
  | cons c h ih =>
    rw [Url.splitHost, Url.splitHost]
    split
    · exact ⟨rfl, .cons c h⟩
    · obtain ⟨hhost, hrest⟩ := ih (c = '[' || (inBrackets && c ≠ ']'))
      exact ⟨congrArg (c :: ·) hhost, hrest⟩

end Parts
end Alike

/-- Both texts are read with related results, or both are refused for the same reason. -/
inductive Together {α : Type} (r : α → α → Prop) :
    Except ParseError α → Except ParseError α → Prop
  | ok {a b : α} : r a b → Together r (.ok a) (.ok b)
  | error (e : ParseError) : Together r (.error e) (.error e)

theorem Together.bind_eq {α β : Type} {r : α → α → Prop} {x y : Except ParseError α}
    {f g : α → Except ParseError β} (h : Together r x y) (hfg : ∀ a b, r a b → f a = g b) :
    x >>= f = y >>= g := by
  cases h with
  | ok hab => exact hfg _ _ hab
  | error e => rfl

namespace Alike

section Readers

variable {cs ds : List Char}

theorem afterCredentials (h : Alike cs ds) (kind : Kind) :
    Together (fun x y => Alike x.1 y.1 ∧ x.2 = y.2)
      (afterCredentials kind cs) (afterCredentials kind ds) := by
  have hmark : ∀ c, endsPath c = true → (!endsAuthority kind c) = false := fun c hc => by
    rw [endsAuthority_of_endsPath c hc, Bool.not_true]
  unfold Url.afterCredentials
  dsimp only
  rw [← h.takeWhile_eq hmark]
  -- Credentials and the sign behind them are dropped from the authority, which both texts share.
  have hrest := fun n => h.drop (n := n) hmark
  generalize cs.takeWhile (!endsAuthority kind ·) = authority at hrest ⊢
  have hlength : (authority.reverse.takeWhile (· ≠ '@')).reverse.length ≤ authority.length := by
    have hprefix := List.takeWhile_prefix (· ≠ '@') (l := authority.reverse)
    simpa only [List.length_reverse] using hprefix.length_le
  generalize (authority.reverse.takeWhile (· ≠ '@')).reverse = host at hlength ⊢
  split
  case isTrue => exact .ok ⟨h, rfl⟩
  case isFalse hne =>
    have hn : (authority.take (authority.length - host.length - 1)).length + 1 ≤
        authority.length := by
      rw [List.length_take]
      omega
    specialize hrest _ hn
    generalize authority.take (authority.length - host.length - 1) = credentials at hrest ⊢
    rw [hrest.head?_congr (·.any (endsAuthority kind)) rfl]
    split
    · exact .error .emptyHost
    · exact .ok ⟨hrest, rfl⟩

theorem afterPort (h : Alike cs ds) : Together Alike (afterPort cs) (afterPort ds) := by
  cases h with
  | ended cs ds hc hd =>
    have hmark (cs : List Char) :
        ∀ c, endsPath c = true → Url.afterPort (c :: cs) = .ok (c :: cs) :=
      forall_endsPath_iff.2 ⟨rfl, rfl⟩
    rw [hmark cs _ hc, hmark ds _ hd]
    exact .ok (.ended cs ds hc hd)
  | @cons c cs ds h =>
    by_cases hcolon : c = ':'
    · subst hcolon
      have hmark : ∀ c, endsPath c = true → c.isDigit = false := forall_endsPath_iff.2 (by decide)
      simp only [Url.afterPort, ← h.takeWhile_eq hmark]
      have hrest := h.drop hmark (Nat.le_refl _)
      generalize cs.takeWhile Char.isDigit = digits at hrest ⊢
      split
      case isTrue => exact .error .invalidPort
      case isFalse =>
        rw [hrest.head?_congr (·.all fun c => c = '/' || c = '\\' || c = '?' || c = '#') rfl]
        split
        · exact .ok hrest
        · exact .error .invalidPort
    · have hother (cs : List Char) : Url.afterPort (c :: cs) = .ok (c :: cs) := by
        simp [Url.afterPort, hcolon]
      rw [hother, hother]
      exact .ok (.cons c h)

theorem withAuthority_eq (h : Alike cs ds) (scheme : List Char) (kind : Kind) :
    withAuthority scheme kind cs = withAuthority scheme kind ds := by
  unfold withAuthority
  refine (h.afterCredentials kind).bind_eq ?_
  rintro ⟨cs, flag⟩ ⟨ds, _⟩ ⟨h, rfl⟩
  dsimp only at h ⊢
  obtain ⟨hhost, hrest⟩ := h.splitHost kind false
  have hhead := hrest.head?_congr (· = some ':') (by decide)
  simp only [hhost, hhead]
  have htail (host : List Char) := hrest.afterPort.bind_eq (β := Url) fun a b hab =>
    congrArg (fun path => Except.ok (Url.mk scheme (if host.isEmpty then none else some host)
      (Path.Resolved.segments path))) (hab.afterAuthority_eq (kind = .network))
  split
  · rfl
  · split
    · exact bind_congr htail
    · exact bind_congr htail

/-- The files of a host are told from those of none by slashes, which no query hides. -/
theorem behindSlash? (h : Alike cs ds) :
    Option.Rel Alike (behindSlash? cs) (behindSlash? ds) := by
  have hmark : ∀ c, endsPath c = true → Path.isBreak c = false := forall_endsPath_iff.2 (by decide)
  unfold Url.behindSlash?
  have h := h.dropWhile hmark
  generalize cs.dropWhile Path.isBreak = cs at h ⊢
  generalize ds.dropWhile Path.isBreak = ds at h ⊢
  have hslash : ∀ c, endsPath c = true → isSlash c = false := forall_endsPath_iff.2 (by decide)
  cases h with
  | ended cs ds hc hd =>
    simp only [hslash _ hc, hslash _ hd]
    exact .none
  | cons c h =>
    dsimp only
    split
    · exact .some h
    · exact .none

theorem ofFile_eq (h : Alike cs ds) (scheme : List Char) (host : Option (List Char)) :
    ofFile scheme host cs = ofFile scheme host ds := by
  rw [ofFile, ofFile, h.afterAuthority_eq]

private theorem parseFile_eq (h : Alike cs ds) (scheme : List Char) :
    parseFile scheme cs = parseFile scheme ds := by
  have hbehind : Option.Rel Alike ((Url.behindSlash? cs).bind Url.behindSlash?)
      ((Url.behindSlash? ds).bind Url.behindSlash?) := by
    have hfirst := h.behindSlash?
    generalize Url.behindSlash? cs = first at hfirst ⊢
    generalize Url.behindSlash? ds = first' at hfirst ⊢
    cases hfirst with
    | none => exact .none
    | some h => exact h.behindSlash?
  unfold parseFile
  generalize (Url.behindSlash? cs).bind Url.behindSlash? = behind at hbehind ⊢
  generalize (Url.behindSlash? ds).bind Url.behindSlash? = behind' at hbehind ⊢
  cases hbehind with
  | none => exact congrArg Except.ok (h.ofFile_eq scheme none)
  | @some cs ds h =>
    have hmark : ∀ c, endsPath c = true → (!isSlash c && c ≠ '?' && c ≠ '#') = false :=
      forall_endsPath_iff.2 (by decide)
    have hrest := h.drop hmark (Nat.le_refl _)
    dsimp only
    rw [← h.takeWhile_eq hmark]
    generalize cs.takeWhile (fun c => !isSlash c && c ≠ '?' && c ≠ '#') = written at hrest ⊢
    simp only [h.ofFile_eq, hrest.ofFile_eq]

theorem scheme? (h : Alike cs ds) :
    Option.Rel (fun x y => x.1 = y.1 ∧ Alike x.2 y.2) (scheme? cs) (scheme? ds) := by
  have hmark : ∀ c, endsPath c = true → (isInScheme c || Path.isBreak c) = false :=
    forall_endsPath_iff.2 (by decide)
  unfold Url.scheme?
  dsimp only
  rw [← h.takeWhile_eq hmark]
  have hrest := h.drop hmark (Nat.le_refl _)
  generalize cs.takeWhile (fun c => isInScheme c || Path.isBreak c) = written at hrest ⊢
  generalize cs.drop written.length = cs at hrest ⊢
  generalize ds.drop written.length = ds at hrest ⊢
  split
  case h_1 first tail rest hscheme =>
    obtain ⟨rest', rfl, hbehind⟩ := hrest.exists_of_cons (by decide)
    simp only [hscheme]
    split
    · exact .some ⟨rfl, hbehind⟩
    · exact .none
  case h_2 hother =>
    split
    case h_1 first tail rest hscheme =>
      obtain ⟨rest', rfl, -⟩ := hrest.symm.exists_of_cons (by decide)
      exact (hother first tail rest' hscheme rfl).elim
    case h_2 => exact .none

/-- How a text goes on behind its slashes, where it has any. -/
theorem slashes_eq {α : Type} {two one : List Char → α} (other : α)
    (htwo : ∀ cs ds, Alike cs ds → two cs = two ds)
    (hone : ∀ cs ds, Alike cs ds → one cs = one ds) : Alike cs ds →
    (match cs with | '/' :: '/' :: rest => two rest | '/' :: rest => one rest | _ => other) =
      match ds with | '/' :: '/' :: rest => two rest | '/' :: rest => one rest | _ => other := by
  intro h
  have hslash : endsPath '/' = false := by decide
  split
  case h_1 rest =>
    obtain ⟨ds, rfl, hfirst⟩ := h.exists_of_cons hslash
    obtain ⟨ds, rfl, hsecond⟩ := hfirst.exists_of_cons hslash
    exact htwo _ _ hsecond
  case h_2 rest hrest =>
    obtain ⟨ds, hds, hfirst⟩ := h.exists_of_cons hslash
    have hsingle : ∀ second, ds = '/' :: second → False := by
      rintro second rfl
      obtain ⟨rest, rfl, -⟩ := hfirst.symm.exists_of_cons hslash
      exact hrest rest rfl
    rw [hone _ _ hfirst, hds]
    split
    case h_1 second heq => exact (hsingle second (List.cons.inj heq).2).elim
    case h_2 heq => rw [(List.cons.inj heq).2]
    case h_3 hnone => exact (hnone ds rfl).elim
  case h_3 hnone =>
    have hother : ∀ rest, ds ≠ '/' :: rest := by
      rintro rest rfl
      obtain ⟨rest, rfl, -⟩ := h.symm.exists_of_cons hslash
      exact hnone rest rfl
    simp [hother]

theorem parse_eq (h : Alike cs ds) : parse cs = parse ds := by
  have hscheme := h.trim.scheme?
  unfold parse
  generalize Url.scheme? (Url.trim cs) = x at hscheme ⊢
  generalize Url.scheme? (Url.trim ds) = y at hscheme ⊢
  cases hscheme with
  | none => rfl
  | @some x y hscheme =>
    obtain ⟨scheme, cs⟩ := x
    obtain ⟨_, ds⟩ := y
    obtain ⟨rfl, h⟩ : scheme = _ ∧ Alike cs ds := hscheme
    dsimp only
    cases Kind.ofScheme scheme with
    | file => exact h.parseFile_eq scheme
    | network =>
      have hslash : ∀ c, endsPath c = true → isSlash c = false := forall_endsPath_iff.2 (by decide)
      exact (h.unbroken.dropWhile hslash).withAuthority_eq scheme .network
    | other =>
      refine slashes_eq _ (fun _ _ h => ?_) (fun _ _ h => ?_) h.unbroken
      · exact h.withAuthority_eq scheme .other
      · exact congrArg (fun path => Except.ok (Url.mk scheme none
          (Path.resolve .root (Path.split false path)).segments)) h.pathText_eq

end Readers
end Alike

theorem alike_of_head? {cs ds : List Char} (hcs : cs.head?.any endsPath = true)
    (hds : ds.head?.any endsPath = true) : Alike cs ds := by
  cases cs with
  | nil => contradiction
  | cons c cs =>
    cases ds with
    | nil => contradiction
    | cons d ds => exact .ended cs ds hcs hds

/-- Neither the scheme nor the host nor a segment comes from a query or a fragment. -/
theorem parse_append {first second : List Char} (page : List Char)
    (hfirst : first.head?.any endsPath = true) (hsecond : second.head?.any endsPath = true) :
    parse (page ++ first) = parse (page ++ second) :=
  ((alike_of_head? hfirst hsecond).append page).parse_eq

end PlaybackRelay.Url
