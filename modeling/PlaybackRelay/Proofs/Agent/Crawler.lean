import Mathlib.Data.List.Basic
import Mathlib.Data.List.TakeWhile
import PlaybackRelay.Agent.Robot
import PlaybackRelay.Proofs.Text.Word

/-!
Names of crawlers. The search looks at the beginning of a run of name characters only, at the first
word in it, and finds a name wherever one begins at the border of a word: a name that begins further
down the run can be read from that first word on. Main statement: `isSome_crawler?_iff`.
-/
namespace PlaybackRelay.Agent

section Names

variable {name after cs : List Char}

/-- A word that crawlers' names end with, in any case. -/
def IsCrawlerEnding (cs : List Char) : Prop :=
  ∃ ending ∈ ["bot", "crawler", "spider"], Text.fold cs = ending.toList

/-- Name characters, then the ending, and no word goes on behind it. -/
def BeginsWithCrawler (cs : List Char) : Prop :=
  ∃ stem ending after, cs = stem ++ (ending ++ after) ∧ (∀ c ∈ stem, isNameChar c = true) ∧
    IsCrawlerEnding ending ∧ Text.isWordBoundary ending.getLast? after.head? = true

theorem isNameChar_of_isWord {c : Char} (h : Text.isWord c = true) : isNameChar c = true := by
  rw [isNameChar, h, Bool.true_or, Bool.true_or]

private theorem isWord_of_not_isNameChar {c : Char} (h : isNameChar c = false) :
    Text.isWord c = false := by
  rw [isNameChar, Bool.or_eq_false_iff, Bool.or_eq_false_iff] at h
  exact h.1.1

theorem isNameChar_of_dropWhile {d : Char} {behind : List Char}
    (h : cs.dropWhile isNameChar = d :: behind) : isNameChar d = false := by
  have hhead := List.head?_dropWhile_not isNameChar cs
  rwa [h] at hhead

theorem IsCrawlerEnding.ne_nil (h : IsCrawlerEnding cs) : cs ≠ [] := by
  rintro rfl
  obtain ⟨ending, hending, hfold⟩ := h
  have hne : ∀ ending ∈ crawlerEndings, [] ≠ ending.toList := by decide
  exact hne ending hending hfold

theorem IsCrawlerEnding.isNameChar (h : IsCrawlerEnding cs) : ∀ c ∈ cs, isNameChar c = true := by
  intro c hc
  obtain ⟨ending, hending, hfold⟩ := h
  have hlower : ∀ ending ∈ crawlerEndings, ending.toList.all Char.isLower = true := by decide
  have hmem : Text.foldChar c ∈ ending.toList := hfold ▸ List.mem_map_of_mem hc
  have hletter := List.all_eq_true.1 (hlower ending hending) _ hmem
  exact isNameChar_of_isWord (Text.isWord_of_isLower_foldChar hletter)

theorem BeginsWithCrawler.append (h : BeginsWithCrawler cs) {between : List Char}
    (hbetween : ∀ c ∈ between, isNameChar c = true) : BeginsWithCrawler (between ++ cs) := by
  obtain ⟨stem, ending, after, rfl, hstem, hrest⟩ := h
  refine ⟨between ++ stem, ending, after, (List.append_assoc _ _ _).symm, ?_, hrest⟩
  exact List.forall_mem_append.2 ⟨hbetween, hstem⟩

theorem endsCrawlerName_iff : endsCrawlerName name after = true ↔
    ∃ stem ending, name.reverse = stem ++ ending ∧ IsCrawlerEnding ending ∧
      Text.isWordBoundary ending.getLast? after.head? = true := by
  simp only [endsCrawlerName, Bool.and_eq_true, List.any_eq_true, decide_eq_true_eq]
  constructor
  · rintro ⟨⟨ending, hending, hfold⟩, hboundary⟩
    have hlast : (name.take ending.length).reverse.getLast? = name.head? := by
      have hpos : ∀ ending ∈ crawlerEndings, 0 < ending.length := by decide
      have := hpos ending hending
      rw [List.getLast?_reverse, List.head?_take, if_neg (by omega)]
    refine ⟨(name.drop ending.length).reverse, (name.take ending.length).reverse, ?_,
      ⟨ending, hending, ?_⟩, ?_⟩
    · rw [← List.reverse_append, List.take_append_drop]
    · rw [Text.fold, List.map_reverse, ← Text.fold, hfold, List.reverse_reverse]
    · rwa [hlast]
  · rintro ⟨stem, cs, hname, hcs, hboundary⟩
    obtain ⟨ending, hending, hfold⟩ := hcs
    have hname : name = cs.reverse ++ stem.reverse := by
      rw [← List.reverse_append, ← hname, List.reverse_reverse]
    have hlength : ending.length = cs.reverse.length := by
      rw [List.length_reverse, ← String.length_toList, ← hfold, Text.fold, List.length_map]
    have hhead : name.head? = cs.getLast? := by
      have hne : cs.reverse ≠ [] :=
        List.reverse_ne_nil_iff.2 (IsCrawlerEnding.ne_nil ⟨ending, hending, hfold⟩)
      rw [hname, List.head?_append_of_ne_nil _ hne, List.head?_reverse]
    refine ⟨⟨ending, hending, ?_⟩, ?_⟩
    · rw [hname, hlength, List.take_left, Text.fold, List.map_reverse, ← Text.fold, hfold]
    · rwa [hhead]

private theorem isSome_longestCrawlerName?_iff : (longestCrawlerName? name after).isSome ↔
    ∃ kept dropped, name.reverse = kept ++ dropped ∧
      endsCrawlerName kept.reverse (dropped ++ after) = true := by
  fun_induction longestCrawlerName? name after with
  | case1 after =>
    refine iff_of_false Bool.false_ne_true ?_
    rintro ⟨kept, dropped, hname, hends⟩
    obtain ⟨rfl, rfl⟩ := List.append_eq_nil_iff.1 hname.symm
    obtain ⟨stem, ending, hempty, hending, -⟩ := endsCrawlerName_iff.1 hends
    exact hending.ne_nil (List.append_eq_nil_iff.1 hempty.symm).2
  | case2 c before after hends =>
    exact iff_of_true rfl ⟨(c :: before).reverse, [], (List.append_nil _).symm,
      by rwa [List.reverse_reverse]⟩
  | case3 c before after hends ih =>
    rw [ih]
    constructor
    · rintro ⟨kept, dropped, hname, hkept⟩
      refine ⟨kept, dropped ++ [c], ?_, ?_⟩
      · rw [List.reverse_cons, hname, List.append_assoc]
      · rwa [List.append_assoc]
    · rintro ⟨kept, dropped, hname, hkept⟩
      rcases List.eq_nil_or_concat dropped with rfl | ⟨dropped, c', rfl⟩
      · rw [List.append_nil] at hname
        rw [← hname, List.reverse_reverse] at hkept
        contradiction
      · rw [List.concat_eq_append, List.reverse_cons, ← List.append_assoc] at hname
        obtain ⟨hbefore, hc⟩ := List.append_inj' hname rfl
        obtain rfl := List.singleton_inj.1 hc
        exact ⟨kept, dropped, hbefore, by simpa using hkept⟩

private theorem drop_length_takeWhile (p : Char → Bool) (cs : List Char) :
    cs.drop (cs.takeWhile p).length = cs.dropWhile p := by
  induction cs with
  | nil => rfl
  | cons c cs ih => by_cases h : p c <;> simp [h, ih]

private theorem isSome_crawlerAt?_iff : (crawlerAt? cs).isSome ↔ BeginsWithCrawler cs := by
  rw [crawlerAt?, Option.isSome_map, isSome_longestCrawlerName?_iff, List.reverse_reverse]
  simp only [endsCrawlerName_iff, List.reverse_reverse, drop_length_takeWhile]
  constructor
  · rintro ⟨kept, dropped, hrun, stem, ending, rfl, hending, hboundary⟩
    refine ⟨stem, ending, dropped ++ cs.dropWhile isNameChar, ?_, fun c hc => ?_, hending,
      hboundary⟩
    · rw [← List.append_assoc, ← List.append_assoc, ← hrun, List.takeWhile_append_dropWhile]
    · refine List.all_eq_true.1 (List.all_takeWhile (l := cs)) c ?_
      rw [hrun]
      exact List.mem_append_left _ (List.mem_append_left _ hc)
  · rintro ⟨stem, ending, after, rfl, hstem, hending, hboundary⟩
    have hname : ∀ c ∈ stem ++ ending, isNameChar c = true :=
      List.forall_mem_append.2 ⟨hstem, hending.isNameChar⟩
    refine ⟨stem ++ ending, after.takeWhile isNameChar, ?_, stem, ending, rfl, hending, ?_⟩
    · rw [← List.append_assoc, List.takeWhile_append_of_pos hname]
    · rw [← List.append_assoc stem, List.dropWhile_append_of_pos hname,
        List.takeWhile_append_dropWhile]
      exact hboundary

end Names

section Search

variable {cs skipped : List Char} {c : Char} {last : Option Char}

/-- Somewhere in the text, at the border of a word, begins the name of a crawler. -/
def NamesCrawler (cs : List Char) : Prop :=
  ∃ before rest, cs = before ++ rest ∧ BeginsWithCrawler rest ∧
    Text.isWordBoundary before.getLast? rest.head? = true

/-- The same of a text that stands behind a last character. -/
def NamesCrawlerBehind (last : Option Char) (cs : List Char) : Prop :=
  ∃ before rest, cs = before ++ rest ∧ BeginsWithCrawler rest ∧
    Text.isWordBoundary (before.getLast?.or last) rest.head? = true

theorem namesCrawlerBehind_none : NamesCrawlerBehind none cs ↔ NamesCrawler cs := by
  simp only [NamesCrawlerBehind, Option.or_none, NamesCrawler]

theorem NamesCrawlerBehind.append (h : NamesCrawlerBehind (skipped.getLast?.or last) cs) :
    NamesCrawlerBehind last (skipped ++ cs) := by
  obtain ⟨before, rest, rfl, hbegins, hboundary⟩ := h
  refine ⟨skipped ++ before, rest, (List.append_assoc _ _ _).symm, hbegins, ?_⟩
  rwa [List.getLast?_append, Option.or_assoc]

theorem getLast?_or (before behind : List Char) :
    (before ++ c :: behind).getLast?.or last = behind.getLast?.or (some c) := by
  rw [List.getLast?_append_cons, List.getLast?_cons]
  cases behind.getLast? <;> rfl

theorem not_namesCrawlerBehind_nil : ¬NamesCrawlerBehind last [] := by
  rintro ⟨before, rest, hempty, ⟨stem, ending, after, rfl, -, hending, -⟩, -⟩
  simp [hending.ne_nil] at hempty

/-- No name begins between two characters that belong to no word. -/
theorem namesCrawlerBehind_cons_of_not_isWord (hlast : last.any Text.isWord = false)
    (hc : Text.isWord c = false) :
    NamesCrawlerBehind last (c :: cs) ↔ NamesCrawlerBehind (some c) cs := by
  constructor
  · rintro ⟨before, rest, hcs, hbegins, hboundary⟩
    cases before with
    | nil =>
      rw [List.nil_append] at hcs
      simp [← hcs, Text.isWordBoundary, hlast, hc] at hboundary
    | cons c' before =>
      obtain ⟨rfl, rfl⟩ := List.cons.inj hcs
      refine ⟨before, rest, rfl, hbegins, ?_⟩
      rwa [← List.nil_append (c :: before), getLast?_or] at hboundary
  · intro h
    have hskipped : NamesCrawlerBehind ([c].getLast?.or last) cs := h
    exact hskipped.append

/-- A name that begins in the same run of name characters can be read from the first word on. -/
theorem namesCrawlerBehind_cons_of_isWord (hlast : last.any Text.isWord = false)
    (hc : Text.isWord c = true) : NamesCrawlerBehind last (c :: cs) ↔ BeginsWithCrawler (c :: cs) ∨
      ∃ d behind, cs.dropWhile isNameChar = d :: behind ∧ NamesCrawlerBehind (some d) behind := by
  have hname : isNameChar c = true := isNameChar_of_isWord hc
  constructor
  · rintro ⟨before, rest, hcs, hbegins, hboundary⟩
    -- Either all that stands before the name belongs to the run, or the name lies behind the run.
    have hbefore : before.takeWhile isNameChar ++ before.dropWhile isNameChar = before :=
      List.takeWhile_append_dropWhile
    cases hend : before.dropWhile isNameChar with
    | nil =>
      rw [hcs]
      exact Or.inl (hbegins.append (List.dropWhile_eq_nil_iff.1 hend))
    | cons d further =>
      rw [hend] at hbefore
      have hd := isNameChar_of_dropWhile hend
      refine Or.inr ⟨d, further ++ rest, ?_, further, rest, rfl, hbegins, ?_⟩
      · have hall := List.all_eq_true.1 (List.all_takeWhile (p := isNameChar) (l := before))
        rw [← List.dropWhile_cons_of_pos hname, hcs, ← hbefore, List.append_assoc,
          List.dropWhile_append_of_pos hall, List.cons_append,
          List.dropWhile_cons_of_neg (by simp [hd])]
      · rwa [← hbefore, getLast?_or] at hboundary
  · rintro (hbegins | ⟨d, behind, hrest, hnames⟩)
    · refine ⟨[], c :: cs, rfl, hbegins, ?_⟩
      simp [Text.isWordBoundary, hlast, hc]
    · have hcs : c :: cs = (c :: cs.takeWhile isNameChar ++ [d]) ++ behind := by
        rw [List.append_assoc, List.cons_append, List.singleton_append, ← hrest,
          List.takeWhile_append_dropWhile]
      rw [hcs]
      refine NamesCrawlerBehind.append ?_
      rwa [getLast?_or]

/-- In a name the search goes on behind the run of name characters and the one that ends it. -/
theorem crawlerFrom_true (cs : List Char) :
    crawlerFrom true cs = crawlerFrom false (cs.dropWhile isNameChar).tail := by
  induction cs with
  | nil => rfl
  | cons c cs ih =>
    rw [crawlerFrom, if_pos rfl]
    cases h : isNameChar c with
    | true => rw [ih, List.dropWhile_cons_of_pos h]
    | false => rw [List.dropWhile_cons_of_neg (by simp [h]), List.tail_cons]

/-- What the search finds stands in front of some rest of the text. -/
theorem exists_crawlerAt?_of_crawlerFrom {inName : Bool} {a : Agent}
    (h : crawlerFrom inName cs = some a) : ∃ rest, crawlerAt? rest = some a := by
  induction cs generalizing inName with
  | nil => contradiction
  | cons c cs ih =>
    rw [crawlerFrom] at h
    split at h
    · exact ih h
    split at h
    · rcases Option.or_eq_some_iff.1 h with h | ⟨-, h⟩
      · exact ⟨c :: cs, h⟩
      · exact ih h
    · exact ih h

private theorem isSome_crawlerFrom_iff (hlast : last.any Text.isWord = false) :
    (crawlerFrom false cs).isSome ↔ NamesCrawlerBehind last cs := by
  -- The search leaves a whole run at once, so that what remains is no tail of the text.
  induction hlength : cs.length using Nat.strongRecOn generalizing cs last with
  | ind n ih =>
    cases cs with
    | nil => exact iff_of_false Bool.false_ne_true not_namesCrawlerBehind_nil
    | cons c cs =>
      rw [List.length_cons] at hlength
      cases hword : Text.isWord c with
      | false =>
        rw [namesCrawlerBehind_cons_of_not_isWord hlast hword, crawlerFrom,
          if_neg Bool.false_ne_true, hword, if_neg Bool.false_ne_true]
        exact ih cs.length (by omega) hword rfl
      | true =>
        rw [namesCrawlerBehind_cons_of_isWord hlast hword, crawlerFrom, if_neg Bool.false_ne_true,
          hword, if_pos rfl, Option.isSome_or, Bool.or_eq_true, isSome_crawlerAt?_iff,
          crawlerFrom_true]
        refine or_congr_right ?_
        cases hrest : cs.dropWhile isNameChar with
        | nil => simp [crawlerFrom]
        | cons d behind =>
          have hd := isWord_of_not_isNameChar (isNameChar_of_dropWhile hrest)
          have hshorter : (cs.dropWhile isNameChar).length ≤ cs.length :=
            (List.dropWhile_suffix isNameChar).length_le
          rw [hrest, List.length_cons] at hshorter
          have hbehind : (crawlerFrom false behind).isSome ↔ NamesCrawlerBehind (some d) behind :=
            ih behind.length (by omega) hd rfl
          rw [List.tail_cons, hbehind]
          constructor
          · exact fun h => ⟨d, behind, rfl, h⟩
          · rintro ⟨d, behind, ⟨⟩, h⟩
            exact h

theorem isSome_crawler?_iff : (crawler? cs).isSome ↔ NamesCrawler cs :=
  (isSome_crawlerFrom_iff rfl).trans namesCrawlerBehind_none

end Search

end PlaybackRelay.Agent
