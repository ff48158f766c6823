import Mathlib.Data.List.Sort
import PlaybackRelay.Event.Enrichment
import PlaybackRelay.Proofs.Text.Folding
import PlaybackRelay.Proofs.Text.Search

/-!
The cause of a failure, read off the log and the name without the tables: first what the web player
says, then the name of the error, then the trace of calls. Main statement: `code_category`.
-/
namespace PlaybackRelay

namespace Failure.Category

section Names

variable {domain : String} {cs name : List Char}

/-- The name is this one, whatever its case and the white space around it. -/
def IsCalled (name : List Char) (error : String) : Prop :=
  Text.fold (Text.trim name) = Text.fold error.toList

instance (name : List Char) (error : String) : Decidable (IsCalled name error) :=
  inferInstanceAs (Decidable (_ = _))

/-- The name is that of a family with one error in brackets, which holds no line end. -/
def IsOneOf (name : List Char) (family : String) : Prop :=
  ∃ written error, Text.trim name = written ++ '(' :: (error ++ [')']) ∧
    Text.fold written = Text.fold family.toList ∧ '\n' ∉ error

theorem isOfDomain_fold_iff : isOfDomain domain (Text.fold cs) = true ↔
    ∃ written error, cs = written ++ '(' :: (error ++ [')']) ∧
      Text.fold written = Text.fold domain.toList ∧ '\n' ∉ error := by
  have hopen : ∀ rest, Text.fold cs = Text.fold domain.toList ++ ['('] ++ rest ↔
      ∃ written error, cs = written ++ '(' :: error ∧
        Text.fold written = Text.fold domain.toList ∧ Text.fold error = rest := fun rest => by
    rw [List.append_assoc]
    exact Text.fold_eq_append_cons_iff (by decide) (by decide)
  constructor
  · intro h
    rw [isOfDomain] at h
    split at h
    · rename_i rest hrest
      obtain ⟨written, bracketed, rfl, hwritten, rfl⟩ :=
        (hopen rest).1 (Text.behind?_eq_some_iff.1 hrest)
      rw [Bool.and_eq_true, decide_eq_true_eq, List.getLast?_eq_some_iff] at h
      obtain ⟨⟨inside, hinside⟩, hline⟩ := h
      obtain ⟨error, behind, rfl, -, hbehind⟩ :=
        (Text.fold_eq_append_cons_iff (by decide) (by decide)).1 hinside
      obtain rfl := List.map_eq_nil_iff.1 hbehind
      refine ⟨written, error, rfl, hwritten, fun hmem => ?_⟩
      have hmem' : '\n' ∈ Text.fold (error ++ [')']) :=
        (Text.mem_fold_iff (by decide) (by decide)).2 (List.mem_append_left _ hmem)
      simp [hmem'] at hline
    · contradiction
  · rintro ⟨written, error, rfl, hwritten, hline⟩
    have hrest := (hopen _).2 ⟨written, error ++ [')'], rfl, hwritten, rfl⟩
    have hclose : Text.fold (error ++ [')']) = Text.fold error ++ [')'] := Text.fold_append _ _
    have hnoline : '\n' ∉ Text.fold error := by
      rwa [Text.mem_fold_iff (by decide) (by decide)]
    rw [isOfDomain, Text.behind?_eq_some_iff.2 hrest]
    simp [hnoline, hclose]

theorem isOneOf_iff : IsOneOf name domain ↔ isOfDomain domain (Text.fold (Text.trim name)) = true :=
  isOfDomain_fold_iff.symm

instance (name : List Char) (family : String) : Decidable (IsOneOf name family) :=
  decidable_of_iff' _ isOneOf_iff

end Names

section Priorities

/-- The first of two errors keeps its place in front of the second. -/
def Precedes (e other : NamedError) : Prop := other.priority ≤ e.priority

instance : DecidableRel Precedes := fun e other =>
  inferInstanceAs (Decidable (other.priority ≤ e.priority))

instance : Std.Total Precedes := ⟨fun e other => Nat.le_total other.priority e.priority⟩

instance : IsTrans NamedError Precedes := ⟨fun _ _ _ h h' => Nat.le_trans h' h⟩

/-- The errors in order of priority, and those of one priority as they are declared. -/
def byPriority (errors : List NamedError) : List NamedError := errors.insertionSort Precedes

variable {errors : List NamedError} {fits : NamedError → Bool}

private theorem find?_orderedInsert (hsorted : errors.Pairwise Precedes) (e : NamedError) :
    (errors.orderedInsert Precedes e).find? fits =
      if fits e then foremost e (errors.find? fits) else errors.find? fits := by
  induction errors with
  | nil => cases h : fits e <;> simp [foremost, h]
  | cons first errors ih =>
    obtain ⟨hfirst, hrest⟩ := List.pairwise_cons.1 hsorted
    rw [List.orderedInsert_cons]
    split
    · rename_i hprecedes
      rw [List.find?_cons]
      cases hfits : fits e with
      | false => rfl
      | true =>
        rw [if_pos rfl]
        cases hfound : (first :: errors).find? fits with
        | none => rfl
        | some other =>
          have hother : Precedes first other := by
            rcases List.mem_cons.1 (List.mem_of_find?_eq_some hfound) with rfl | hmem
            · exact Nat.le_refl _
            · exact hfirst other hmem
          exact congrArg some (if_pos (Nat.le_trans hother hprecedes)).symm
    · rename_i hprecedes
      rw [List.find?_cons, List.find?_cons]
      cases fits first with
      | false => exact ih hrest
      | true =>
        have hforemost : foremost e (some first) = some first := congrArg some (if_neg hprecedes)
        simp only [hforemost, ite_self]

/-- Of the errors that fit the first one in order of priority is kept. -/
theorem foldr_foremost_filter (errors : List NamedError) (fits : NamedError → Bool) :
    (errors.filter fits).foldr foremost none = (byPriority errors).find? fits := by
  induction errors with
  | nil => rfl
  | cons e errors ih =>
    have hsorted : (byPriority errors).Pairwise Precedes :=
      List.pairwise_insertionSort Precedes errors
    rw [byPriority, List.insertionSort_cons, ← byPriority, find?_orderedInsert hsorted]
    cases hfits : fits e with
    | true => rw [List.filter_cons_of_pos hfits, List.foldr_cons, ih, if_pos rfl]
    | false => rw [List.filter_cons_of_neg (by simp [hfits]), ih, if_neg Bool.false_ne_true]

end Priorities

section Causes

variable {log name : List Char}

theorem map_find?_cons {α β : Type} (p : α → Bool) (f : α → β) (a : α) (as : List α) :
    ((a :: as).find? p).map f = if p a then some (f a) else (as.find? p).map f := by
  rw [List.find?_cons]
  cases p a <;> rfl

private theorem fits_exact_iff {error : String} :
    NamePattern.fits (Text.fold (Text.trim name)) (.exact error) = true ↔ IsCalled name error := by
  rw [NamePattern.fits, decide_eq_true_eq, IsCalled, eq_comm]

private theorem fits_family_iff {family : String} :
    NamePattern.fits (Text.fold (Text.trim name)) (.family family) = true ↔ IsOneOf name family :=
  isOneOf_iff.symm

/-- What the name of an error tells. -/
def causeOfName? (name : List Char) : Option String :=
  if IsCalled name "PillarboxCoreBusiness.DataError(1)" then some "IL_ERROR"
  else if IsCalled name "AVFoundationErrorDomain(-11870)" then some "DRM_ERROR"
  else if IsCalled name "NSURLErrorDomain(-1009)" then some "CONNECTION_ERROR"
  else if IsOneOf name "AVFoundationErrorDomain" ∨ IsOneOf name "CoreMediaErrorDomain" ∨
      IsOneOf name "NSCocoaErrorDomain" then some "PLAYBACK_MEDIA_SOURCE_ERROR"
  else if IsOneOf name "NSURLErrorDomain" then some "PLAYBACK_NETWORK_ERROR"
  else none

theorem code_ofErrorName? (name : List Char) :
    (ofErrorName? name).map code = causeOfName? name := by
  have hsorted : byPriority namedErrors = [
      ⟨.integrationLayer, [.exact "PillarboxCoreBusiness.DataError(1)"], 10⟩,
      ⟨.drm, [.exact "AVFoundationErrorDomain(-11870)"], 10⟩,
      ⟨.connection, [.exact "NSURLErrorDomain(-1009)"], 10⟩,
      ⟨.mediaSource, [.family "AVFoundationErrorDomain", .family "CoreMediaErrorDomain",
        .family "NSCocoaErrorDomain"], 0⟩,
      ⟨.network, [.family "NSURLErrorDomain"], 0⟩] := rfl
  rw [ofErrorName?, foldr_foremost_filter, hsorted, causeOfName?, Option.map_map]
  simp only [map_find?_cons, NamedError.fits, List.any_cons, List.any_nil, Bool.or_eq_true,
    Bool.or_false, fits_exact_iff, fits_family_iff]
  rfl

/-- The player's own first line tells of a time-out. -/
def ShowsTimeout (log : List Char) : Prop :=
  ∃ line rest, log = "androidx.media3.exoplayer.".toList ++ (line ++ ("timeout".toList ++ rest)) ∧
    '\n' ∉ line

theorem occurs_firstLine_iff {part : String} (hpart : '\n' ∉ part.toList) {cs : List Char} :
    Text.occurs part (firstLine cs) = true ↔
      ∃ line rest, cs = line ++ (part.toList ++ rest) ∧ '\n' ∉ line := by
  rw [Text.occurs_iff, firstLine]
  constructor
  · rintro ⟨line, rest, hline⟩
    refine ⟨line, rest ++ cs.dropWhile (· ≠ '\n'), ?_, fun hmem => ?_⟩
    · rw [← List.append_assoc part.toList, ← List.append_assoc, ← List.append_assoc, hline,
        List.takeWhile_append_dropWhile]
    · have hall : '\n' ∈ cs.takeWhile (· ≠ '\n') := by
        rw [← hline, List.append_assoc]
        exact List.mem_append_left _ hmem
      simpa using List.all_eq_true.1 List.all_takeWhile _ hall
  · rintro ⟨line, rest, rfl, hline⟩
    have hall : ∀ c ∈ line ++ part.toList, decide (c ≠ '\n') = true := by
      intro c hc
      rw [decide_eq_true_eq]
      rintro rfl
      exact (List.mem_append.1 hc).elim hline hpart
    rw [← List.append_assoc, List.takeWhile_append_of_pos hall]
    exact ⟨line, _, rfl⟩

theorem fits_playerTimeout_iff : playerTimeout.fits log = true ↔ ShowsTimeout log := by
  rw [playerTimeout, TracePattern.fits, ShowsTimeout]
  split
  · rename_i behind hbehind
    obtain rfl := Text.behind?_eq_some_iff.1 hbehind
    rw [occurs_firstLine_iff (by decide)]
    simp only [playerCall, List.append_cancel_left_eq]
  · rename_i hbehind
    refine iff_of_false Bool.false_ne_true ?_
    rintro ⟨line, rest, rfl, -⟩
    rw [playerCall, Text.behind?_append] at hbehind
    contradiction

instance (log : List Char) : Decidable (ShowsTimeout log) :=
  decidable_of_iff _ fits_playerTimeout_iff

/-- The exception is this one, whatever its case in ASCII. -/
def IsException (name : List Char) (exception : String) : Prop :=
  Text.lowerAscii name = Text.lowerAscii exception.toList

instance (name : List Char) (exception : String) : Decidable (IsException name exception) :=
  inferInstanceAs (Decidable (_ = _))

/-- What a trace of calls tells, with the name of the exception. -/
def causeOfTrace? (log name : List Char) : Option String :=
  if "drm".toList <:+: log then some "DRM_ERROR"
  else if "SRGAssetLoader.loadAsset".toList <:+: log ∧
      (IsException name "HttpResultException" ∨ IsException name "IOException") then some "IL_ERROR"
  else if "SRGAssetLoader.loadAsset".toList <:+: log ∧ IsException name "ResourceNotFoundException"
    then some "PLAYBACK_UNSUPPORTED_MEDIA"
  else if "androidx.media3.datasource.HttpDataSource".toList <+: log ∨ ShowsTimeout log then
    some "PLAYBACK_NETWORK_ERROR"
  else if "androidx.media3.common.ParserException".toList <+: log ∨
      "androidx.media3.exoplayer.".toList <+: log then some "PLAYBACK_MEDIA_SOURCE_ERROR"
  else none

private theorem fits_anywhere_iff {part : String} :
    TracePattern.fits log (.anywhere part) = true ↔ part.toList <:+: log := Text.occurs_iff

private theorem fits_atStart_iff {start : String} :
    TracePattern.fits log (.atStart start) = true ↔ start.toList <+: log := Text.startsWith_iff

private theorem fits_sign_iff {sign : TraceSign} : sign.fits log = true ↔
    sign.pattern.fits log = true ∧ ∀ bar, sign.barring = some bar → ¬bar.fits log = true := by
  rw [TraceSign.fits, Bool.and_eq_true]
  cases sign.barring <;> simp

private theorem fits_tracedError_iff {e : TracedError} : e.fits log name = true ↔
    (e.exceptions = [] ∨ ∃ exception ∈ e.exceptions, IsException name exception) ∧
      ∃ sign ∈ e.signs, sign.fits log = true := by
  simp only [TracedError.fits, Bool.and_eq_true, Bool.or_eq_true, List.isEmpty_iff, isNamed,
    List.any_eq_true, Text.equalIgnoringAsciiCase, beq_iff_eq, IsException,
    eq_comm (a := Text.lowerAscii name)]

theorem code_ofTrace? (log name : List Char) :
    (ofTrace? log name).map code = causeOfTrace? log name := by
  rw [ofTrace?, causeOfTrace?, Option.map_map]
  simp only [tracedErrors, loaderCall, playerCall, map_find?_cons, fits_tracedError_iff,
    fits_sign_iff, fits_anywhere_iff, fits_atStart_iff, fits_playerTimeout_iff, List.exists_mem_cons_iff,
    List.not_mem_nil, false_and, exists_false, or_false, true_and, false_or, reduceCtorEq,
    false_implies, implies_true, and_true, Option.some.injEq, forall_eq',
    and_comm (a := _ ∨ IsException name "IOException"),
    and_comm (a := IsException name "ResourceNotFoundException")]
  by_cases htimeout : ShowsTimeout log
  -- A time-out has been taken for an error of the network before the pattern that it bars is tried.
  · simp only [htimeout, or_true, if_true]
    rfl
  · simp only [htimeout, not_false_eq_true, and_true]
    rfl

/-- The cause by the log of a web player, by the name of the error, and by the trace of calls. -/
def cause (log name : Option (List Char)) : String :=
  ((((log.bind ofWebLog?).map code).or (name.bind causeOfName?)).or
    (log.bind fun log => causeOfTrace? log (name.getD []))).getD "UNKNOWN_ERROR"

theorem code_classify (log name : Option (List Char)) :
    (classify log name).code = cause log name := by
  have hname : (name.bind ofErrorName?).map code = name.bind causeOfName? := by
    rw [Option.map_bind]
    exact congrArg name.bind (funext code_ofErrorName?)
  have htrace : (log.bind fun log => ofTrace? log (name.getD [])).map code =
      log.bind fun log => causeOfTrace? log (name.getD []) := by
    rw [Option.map_bind]
    exact congrArg log.bind (funext fun log => code_ofTrace? log (name.getD []))
  rw [cause, classify, ← hname, ← htrace, ← Option.map_or, ← Option.map_or]
  exact (Option.getD_map code .unknown _).symm

end Causes

end Failure.Category

namespace Enrichment

/-- The text that a member holds; a value of another kind is none. -/
def text? (name : String) (data : Payload) : Option (List Char) :=
  match data.get? name with
  | some (.string text) => some text.toList
  | _ => none

theorem map_string?_eq_text? (name : String) (data : Payload) :
    (data.string? name).map String.toList = text? name data := by
  rw [Json.Members.string?, text?]
  cases data.get? name with
  | none => rfl
  | some value => cases value <;> rfl

/-- The category that is written down is the one that the log and the name tell, whatever else the
payload holds. -/
theorem code_category (data : Payload) : (category data).code =
    Failure.Category.cause (text? "log" data) (text? "name" data) := by
  rw [category, Failure.Category.code_classify, map_string?_eq_text?, map_string?_eq_text?]

/-- The long s counts as an s, and the exact name outweighs its family. -/
example : (category [("name", .string " NſURLerrorDomain(-1009)\t")]).code = "CONNECTION_ERROR" ∧
    (category [("name", .string "NſURLerrorDomain(-1009))")]).code = "PLAYBACK_NETWORK_ERROR" := by
  decide +kernel

end Enrichment
end PlaybackRelay
