import PlaybackRelay.Proofs.Pipeline.Operation
import PlaybackRelay.Relay

/-!
Which valid settings ask for a part that cannot be built. Settings are looked at for zeros only,
while the size of the cache, its idle seconds and the number of writes have a largest value, too.
Main statements: `builds_parts_iff`, `relay_settings_eq_ok_iff` and `run_of_not_fits`.
-/
namespace PlaybackRelay

namespace Part

/-- No table is built for more sessions. -/
def maxSessions : Nat := 7 * 1 <<< 55

theorem one_shiftLeft_le_iff {m n : Nat} : 1 <<< m ≤ 1 <<< n ↔ m ≤ n := by
  rw [Nat.one_shiftLeft, Nat.one_shiftLeft]
  exact Nat.pow_le_pow_iff_right (by decide)

theorem tableCells_le_iff (capacity : Nat) :
    tableCells capacity ≤ 1 <<< 58 ↔ capacity ≤ maxSessions := by
  unfold tableCells maxSessions
  split
  case isTrue hsmall => exact iff_of_true (by decide) (by omega)
  case isFalse hlarge =>
    have hpositive : 8 * capacity / 7 - 1 ≠ 0 := by omega
    have hlog := Nat.log2_lt (k := 58) hpositive
    rw [one_shiftLeft_le_iff, Nat.add_one_le_iff, hlog]
    omega

/-- A table that does not have so few cells has twice as many at least. -/
theorem tableBytes_le_iff (capacity : Nat) :
    tableBytes capacity ≤ maxBytes ↔ capacity ≤ maxSessions := by
  rw [← tableCells_le_iff]
  have hstep : ¬ tableCells capacity ≤ 1 <<< 58 → 1 <<< 59 ≤ tableCells capacity := by
    unfold tableCells
    split
    case isTrue =>
      intro hlarge
      exact absurd (by decide) hlarge
    case isFalse =>
      rw [one_shiftLeft_le_iff, one_shiftLeft_le_iff]
      omega
  unfold tableBytes maxBytes
  omega

/-- What is documented about building parts: the table and the room for events are each one piece of
memory, and the clocks and the permits have bounds of their own. -/
structure Documented (builds : Part → Bool) : Prop where
  sessions : ∀ capacity, builds (.sessions capacity) ↔ tableBytes capacity ≤ maxBytes
  idleClock : ∀ seconds, builds (.idleClock seconds) ↔ seconds ≤ maxIdleSeconds
  events : ∀ room, room * eventBytes ≤ maxBytes → builds (.events room)
  permits : ∀ count, builds (.permits count) ↔ count ≤ maxPermits
  ticker : ∀ period, builds (.ticker period) ↔ ¬ period.isZero

theorem documented_fits : Documented fits where
  sessions _ := decide_eq_true_iff
  idleClock _ := decide_eq_true_iff
  events _ h := decide_eq_true h
  permits _ := decide_eq_true_iff
  ticker _ := by rw [fits, Bool.not_eq_true', Bool.not_eq_true]

end Part

namespace Pipeline

variable {σ : Type} [SessionCache σ] {p : Plan}

namespace World

variable {w w' : World σ} {a : Action}

private theorem handed_step_of_over (hstep : Step p w a w') (h : w.batcher.isOver) :
    w'.handed = w.handed := by
  cases hstep with
  | handOver hbatcher _ =>
    rw [hbatcher] at h
    contradiction
  | stream _ | close _ | leave _ | receive _ _ | finish _ _ | call _ _ | crash _ _ | drain _ _
  | save _ | giveUp _ _ => rfl

/-- Without its batcher a pipeline goes on, but hands nothing over. -/
theorem run_of_over (s : Surroundings) (h : w.batcher.isOver) :
    (w.run p s).batcher = w.batcher ∧ (w.run p s).handed = w.handed := by
  fun_induction run p s w with
  | case1 w next hnext ih =>
    obtain ⟨a, -, ha⟩ := List.exists_of_findSome?_eq_some hnext
    have hstep := step_of_step? ha
    have hbatcher := batcher_step_of_over hstep h
    obtain ⟨hsame, hhanded⟩ := ih (by rwa [hbatcher])
    exact ⟨hsame.trans hbatcher, hhanded.trans (handed_step_of_over hstep h)⟩
  | case2 w hnone => exact ⟨rfl, rfl⟩

omit [SessionCache σ] in
private theorem eq_of_result?_of_crashed {r : Except RunError Snapshot} (h : w.batcher = .crashed)
    (hresult : w.result? = some r) : r = .error .task := by
  unfold result? at hresult
  rw [h] at hresult
  cases houtcome : w.stream.outcome? with
  | none =>
    rw [houtcome] at hresult
    contradiction
  | some outcome =>
    rw [houtcome] at hresult
    exact (Option.some.inj hresult).symm

end World

/-- A batcher without permits is missed only once the stream has ended: nothing is ever handed over,
and the run fails then. -/
theorem run_of_not_fits (cache : σ) (capacity batchSize : Nat) (s : Surroundings)
    (h : ¬ (Part.permits p.writeLimit).fits) :
    ((ofCache cache capacity batchSize).run p s).2.world.handed = [] ∧
      ∀ r ∈ ((ofCache cache capacity batchSize).run p s).1, r = .error .task := by
  have hcrashed : (ofCache cache capacity batchSize).world.withPermits p =
      (ofCache cache capacity batchSize).world.endBatcher .crashed := if_neg h
  obtain ⟨hbatcher, hhanded⟩ := World.run_of_over
    (w := (ofCache cache capacity batchSize).world.endBatcher .crashed) (p := p) s rfl
  have hbegin : (ofCache cache capacity batchSize).life.begin = (true, ⟨[.idle], .running⟩) := rfl
  rw [Pipeline.run, hbegin, hcrashed]
  dsimp only
  generalize ((ofCache cache capacity batchSize).world.endBatcher .crashed).run p s = world
    at hbatcher hhanded
  cases hresult : world.result? with
  | none =>
    refine ⟨hhanded, fun r hmem => ?_⟩
    contradiction
  | some result =>
    refine ⟨hhanded, fun r hmem => ?_⟩
    obtain rfl := Option.some.inj hmem
    exact World.eq_of_result?_of_crashed hbatcher hresult

end Pipeline

namespace Settings

/-- The environment describes settings that are valid. -/
structure Accepted (env : Environment) (s : Settings) : Prop where
  described : ofEnvironment env = .ok s
  valid : s.validate = .ok ()

variable {builds : Part → Bool} {env : Environment} {s : Settings}

theorem positive_of_validate (h : s.validate = .ok ()) : ∀ x ∈ s.positive, x.2 = true := by
  unfold validate at h
  split at h
  case h_1 => contradiction
  case h_2 hnone =>
    intro x hx
    have hpositive := List.find?_eq_none.1 hnone x hx
    rwa [Bool.not_eq_true', Bool.not_eq_false] at hpositive

theorem not_isZero_statsInterval (h : s.validate = .ok ()) : ¬ s.statsInterval.isZero := by
  have hinterval := positive_of_validate h ("STATS_INTERVAL_MS", !s.statsInterval.isZero)
    (by simp [positive])
  rwa [Bool.not_eq_true', ← Bool.not_eq_true] at hinterval

/-- Settings are used as soon as they are valid and what the relay builds by itself fits. -/
theorem relay_settings_eq_ok_iff :
    Relay.settings env = .ok s ↔ Accepted env s ∧ ∀ part ∈ s.ownParts, part.fits := by
  unfold Relay.settings
  cases hread : ofEnvironment env with
  | error e =>
    refine iff_of_false nofun fun h => ?_
    have hdescribed := hread.symm.trans h.1.described
    contradiction
  | ok read =>
    cases hvalid : read.validate with
    | error e =>
      refine iff_of_false (fun hok => ?_) fun h => ?_
      · simp only [hvalid] at hok
        have hrefused : Except.error [e.message] = Except.ok s := hok
        contradiction
      · obtain rfl := Except.ok.inj (hread.symm.trans h.1.described)
        have hvalid := hvalid.symm.trans h.1.valid
        contradiction
    | ok _ =>
      cases hfind : read.ownParts.find? (!·.fits) with
      | some part =>
        refine iff_of_false (fun hok => ?_) fun h => ?_
        · simp only [hvalid, hfind] at hok
          have hrefused : Except.error [part.message] = Except.ok s := hok
          contradiction
        · obtain rfl := Except.ok.inj (hread.symm.trans h.1.described)
          have hunfit := List.find?_some hfind
          rw [h.2 part (List.mem_of_find?_eq_some hfind)] at hunfit
          contradiction
      | none =>
        have hfits : ∀ part ∈ read.ownParts, part.fits := by
          simpa using List.find?_eq_none.1 hfind
        constructor
        · intro hok
          simp only [hvalid, hfind] at hok
          obtain rfl := Except.ok.inj hok
          exact ⟨⟨hread, hvalid⟩, hfits⟩
        · intro h
          obtain rfl := Except.ok.inj (hread.symm.trans h.1.described)
          simp only [hvalid, hfind]
          rfl

theorem builds_cachePart_iff (hbuilds : Part.Documented builds) (s : Settings) :
    (∀ part ∈ s.cachePart?, builds part) ↔
      (s.cacheIdleSeconds = none → s.cacheSize.toNat ≤ Part.maxSessions) ∧
      ∀ seconds ∈ s.cacheIdleSeconds, seconds.toNat ≤ Part.maxIdleSeconds := by
  unfold cachePart?
  cases hidle : s.cacheIdleSeconds with
  | some seconds => simp [hbuilds.idleClock]
  | none =>
    by_cases hzero : s.cacheSize = 0
    · simp [hzero]
    · simp [hzero, hbuilds.sessions, Part.tableBytes_le_iff]

theorem builds_events (hbuilds : Part.Documented builds) {room : Nat} (h : room ≤ 8192) :
    builds (.events room) := by
  apply hbuilds.events
  unfold Part.eventBytes Part.maxBytes
  omega

/-- Whatever the environment holds: the queue, the batch and the reports can be built of valid
settings. The rest can be built just if none of three numbers is too large. -/
theorem builds_parts_iff (hbuilds : Part.Documented builds) (h : Accepted env s) :
    ((∀ part ∈ s.parts, builds part) ↔
      (s.cacheIdleSeconds = none → s.cacheSize.toNat ≤ Part.maxSessions) ∧
      (∀ seconds ∈ s.cacheIdleSeconds, seconds.toNat ≤ Part.maxIdleSeconds) ∧
      s.maxWrites.toNat ≤ Part.maxPermits) ∧
    builds (.events (min s.bufferCapacity.toNat 4096)) ∧
    builds (.events (min (max 1 s.batchSize.toNat) 8192)) ∧
    builds (.ticker s.statsInterval) := by
  have hqueue : builds (.events (min s.bufferCapacity.toNat 4096)) :=
    builds_events hbuilds (by omega)
  have hbatch : builds (.events (min (max 1 s.batchSize.toNat) 8192)) :=
    builds_events hbuilds (by omega)
  have hticker : builds (.ticker s.statsInterval) :=
    (hbuilds.ticker _).2 (not_isZero_statsInterval h.valid)
  have hpermits : builds (.permits (max 1 s.maxWrites.toNat)) ↔
      s.maxWrites.toNat ≤ Part.maxPermits := by
    rw [hbuilds.permits]
    unfold Part.maxPermits
    omega
  -- What is left of the parts are those that a valid number can be too large for.
  have hparts : (∀ part ∈ s.parts, builds part) ↔
      (∀ part ∈ s.cachePart?, builds part) ∧ builds (.permits (max 1 s.maxWrites.toNat)) := by
    simp [parts, ownParts, taskParts, or_imp, forall_and, hqueue, hbatch, hticker]
  refine ⟨?_, hqueue, hbatch, hticker⟩
  rw [hparts, builds_cachePart_iff hbuilds, hpermits, and_assoc]

/-- A stream and a store on the same host, and some more variables. -/
def onThisHost (others : Environment) : Environment :=
  [("DISPATCH_URI", "http://[::1]:8080"), ("OPENSEARCH_URI", "http://[::1]:9200")] ++ others

theorem exists_accepted {check : Settings → Bool}
    (h : (ofEnvironment env).toOption.any (fun s => s.validate == .ok () && check s) = true) :
    ∃ s, Accepted env s ∧ check s := by
  obtain ⟨s, hs, hcheck⟩ := (Option.any_eq_true _ _).1 h
  obtain ⟨hvalid, hcheck⟩ := Bool.and_eq_true_iff.1 hcheck
  refine ⟨s, ⟨?_, eq_of_beq hvalid⟩, hcheck⟩
  cases hread : ofEnvironment env with
  | ok read =>
    rw [hread] at hs
    rw [Option.some.inj hs]
  | error e =>
    rw [hread] at hs
    contradiction

/-- The largest numbers that parts can be built of. -/
def largestNumbers : Environment :=
  onThisHost [("SESSION_CACHE_SIZE", "252201579132747776"),
    ("MAX_CONCURRENT_WRITES", "2305843009213693951")]

theorem builds_parts_of_largestNumbers :
    ∃ s, Accepted largestNumbers s ∧ s.cacheSize.toNat = Part.maxSessions ∧
      s.maxWrites.toNat = Part.maxPermits ∧ ∀ part ∈ s.parts, part.fits := by
  have hread : (ofEnvironment largestNumbers).toOption.any (fun s => s.validate == .ok () &&
      (s.cacheIdleSeconds == none && (s.cacheSize.toNat == Part.maxSessions &&
        s.maxWrites.toNat == Part.maxPermits))) = true := by
    decide +kernel
  obtain ⟨s, haccepted, hs⟩ := exists_accepted hread
  obtain ⟨hidle, hs⟩ := Bool.and_eq_true_iff.1 hs
  obtain ⟨hsize, hwrites⟩ := Bool.and_eq_true_iff.1 hs
  have hidle : s.cacheIdleSeconds = none := eq_of_beq hidle
  have hsize : s.cacheSize.toNat = Part.maxSessions := eq_of_beq hsize
  have hwrites : s.maxWrites.toNat = Part.maxPermits := eq_of_beq hwrites
  refine ⟨s, haccepted, hsize, hwrites, ?_⟩
  apply (builds_parts_iff Part.documented_fits haccepted).1.2
  refine ⟨fun _ => Nat.le_of_eq hsize, ?_, Nat.le_of_eq hwrites⟩
  rw [hidle]
  nofun

/-- Settings are accepted, but a relay cannot be built of them. -/
def Unbuildable (env : Environment) : Prop :=
  ∃ s, Accepted env s ∧ ¬ ∀ part ∈ s.parts, part.fits

theorem unbuildable_of_any
    (h : (ofEnvironment env).toOption.any
      (fun s => s.validate == .ok () && !s.parts.all Part.fits) = true) : Unbuildable env := by
  obtain ⟨s, haccepted, hs⟩ := exists_accepted h
  refine ⟨s, haccepted, fun hfits => ?_⟩
  rw [List.all_eq_true.2 hfits] at hs
  contradiction

/-- Each of these numbers is too large by one. -/
theorem unbuildable_largerNumbers :
    Unbuildable (onThisHost [("SESSION_CACHE_SIZE", "252201579132747777")]) ∧
      Unbuildable (onThisHost [("SESSION_CACHE_TTL_SECONDS", "31536000001")]) ∧
      Unbuildable (onThisHost [("MAX_CONCURRENT_WRITES", "2305843009213693952")]) := by
  refine ⟨unbuildable_of_any ?_, unbuildable_of_any ?_, unbuildable_of_any ?_⟩ <;> decide +kernel

end Settings
end PlaybackRelay
