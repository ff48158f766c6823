import PlaybackRelay.Proofs.Settings.Reading

/-!
What is said about an environment that a relay cannot run with. If all that is set can be read, the
rules on the values are looked at in an order of their own, and again the first fault is the one
that is reported. Main statement: `report_first_fault`.
-/
namespace PlaybackRelay

namespace Settings

/-- What has to hold of the values. An address that is not set has a default. -/
inductive Rule where
  | positive (name : String)
  | absolute (name default : String)

/-- The rules in the order in which values are looked at: sizes, lengths of time, then addresses. -/
def rules : List Rule :=
  ["BATCH_SIZE", "BUFFER_CAPACITY", "MAX_CONCURRENT_WRITES", "REQUEST_TIMEOUT_MS",
    "CONNECT_TIMEOUT_MS", "SHUTDOWN_TIMEOUT_MS", "STATS_INTERVAL_MS",
    "STREAM_RETRY_INITIAL_INTERVAL_MS", "STREAM_RETRY_MAX_INTERVAL_MS"].map .positive ++
  [.absolute "DISPATCH_URI" "http://localhost:8080",
    .absolute "OPENSEARCH_URI" "http://localhost:9200"]

/-- The environment breaks a rule. What is not set is not zero. -/
inductive Rule.Fault (env : Environment) : Rule → Invalid → Prop where
  | zero {name text : String} (hset : env.lookup name = some text)
      (hzero : Denotes 0 text.toList) : Fault env (.positive name) (.zero name)
  | uri {name default uri : String} {error : Url.ParseError}
      (huri : uri = (env.lookup name).getD default) (herror : Url.parse uri.toList = .error error) :
      Fault env (.absolute name default) (.uri name uri error)

def sizes (s : Settings) : List UInt64 := [s.batchSize, s.bufferCapacity, s.maxWrites]

def durations (s : Settings) : List Duration := [
  s.requestTimeout, s.connectTimeout, s.shutdownTimeout, s.statsInterval, s.backoff.initial,
  s.backoff.maximum]

/-- A relay can run with these settings. -/
structure Usable (s : Settings) : Prop where
  sizes : ∀ n ∈ s.sizes, n ≠ 0
  durations : ∀ d ∈ s.durations, d.toNanos ≠ 0
  uris : ∀ uri ∈ [s.streamUri, s.storeUri], ∃ url, Url.parse uri.toList = .ok url

/-- Values that rules are about are read from variables of their own. -/
structure Described (env : Environment) (s : Settings) : Prop where
  streamUri : read env "DISPATCH_URI" some "http://localhost:8080" = .ok s.streamUri
  storeUri : read env "OPENSEARCH_URI" some "http://localhost:9200" = .ok s.storeUri
  bufferCapacity : read env "BUFFER_CAPACITY" uint64? 30000 = .ok s.bufferCapacity
  batchSize : read env "BATCH_SIZE" uint64? 6000 = .ok s.batchSize
  maxWrites : read env "MAX_CONCURRENT_WRITES" uint64? 4 = .ok s.maxWrites
  requestTimeout : read env "REQUEST_TIMEOUT_MS" duration? (.ofMillis 10000) = .ok s.requestTimeout
  connectTimeout : read env "CONNECT_TIMEOUT_MS" duration? (.ofMillis 10000) = .ok s.connectTimeout
  shutdownTimeout :
    read env "SHUTDOWN_TIMEOUT_MS" duration? (.ofMillis 30000) = .ok s.shutdownTimeout
  statsInterval : read env "STATS_INTERVAL_MS" duration? (.ofMillis 60000) = .ok s.statsInterval
  initial :
    read env "STREAM_RETRY_INITIAL_INTERVAL_MS" duration? (.ofMillis 5000) = .ok s.backoff.initial
  maximum :
    read env "STREAM_RETRY_MAX_INTERVAL_MS" duration? (.ofMillis 60000) = .ok s.backoff.maximum

section Rules

variable {α : Type} {env : Environment} {s : Settings} {name : String}
variable {value? : String → Option α} {a default : α}

private theorem described_of_ofEnvironment (h : ofEnvironment env = .ok s) : Described env s := by
  unfold ofEnvironment at h
  simp only [Json.bind_eq_ok] at h
  obtain ⟨host, -, port, -, streamUri, hstreamUri, storeUri, hstoreUri, core, -, heartbeat, -,
    cacheSize, -, cacheIdleSeconds, -, bufferCapacity, hbufferCapacity, batchSize, hbatchSize,
    maxWrites, hmaxWrites, requestTimeout, hrequestTimeout, connectTimeout, hconnectTimeout,
    shutdownTimeout, hshutdownTimeout, statsInterval, hstatsInterval, maxAttempts, -, initial,
    hinitial, maximum, hmaximum, printOnly, -, h⟩ := h
  obtain rfl := Except.ok.inj h
  exact ⟨hstreamUri, hstoreUri, hbufferCapacity, hbatchSize, hmaxWrites, hrequestTimeout,
    hconnectTimeout, hshutdownTimeout, hstatsInterval, hinitial, hmaximum⟩

theorem read_eq_ok_iff : read env name value? default = .ok a ↔
    (env.lookup name = none ∧ default = a) ∨
      ∃ text, env.lookup name = some text ∧ value? text = some a := by
  unfold read readOptional
  cases env.lookup name with
  | none => simp [Except.map]
  | some text => cases hvalue : value? text <;> simp [Except.map, hvalue]

theorem zero_iff_of_read (isZero : α → Prop)
    (hzero : ∀ {text a}, value? text = some a → (isZero a ↔ Denotes 0 text.toList))
    (hdefault : ¬isZero default) (h : read env name value? default = .ok a) :
    isZero a ↔ ∃ text, env.lookup name = some text ∧ Denotes 0 text.toList := by
  rcases read_eq_ok_iff.1 h with ⟨hunset, rfl⟩ | ⟨text, hset, hvalue⟩
  · rw [hunset]
    refine iff_of_false hdefault ?_
    rintro ⟨text, hset, -⟩
    contradiction
  · rw [hset, hzero hvalue]
    simp

theorem eq_of_read_some {uri default : String}
    (h : read env name some default = .ok uri) : uri = (env.lookup name).getD default := by
  rcases read_eq_ok_iff.1 h with ⟨hunset, rfl⟩ | ⟨text, hset, hvalue⟩
  · rw [hunset, Option.getD_none]
  · rw [hset, Option.getD_some, Option.some.inj hvalue]

theorem Rule.Fault.unique {rule : Rule} {e e' : Invalid} (h : rule.Fault env e)
    (h' : rule.Fault env e') : e = e' := by
  cases h with
  | zero => cases h' with | zero => rfl
  | uri huri herror =>
    cases h' with
    | uri huri' herror' =>
      obtain rfl := huri.trans huri'.symm
      rw [Except.error.inj (herror.symm.trans herror')]

private theorem fault_positive_iff {e : Invalid} : (Rule.positive name).Fault env e ↔
    (∃ text, env.lookup name = some text ∧ Denotes 0 text.toList) ∧ e = .zero name := by
  constructor
  · intro h
    cases h with
    | zero hset hzero => exact ⟨⟨_, hset, hzero⟩, rfl⟩
  · rintro ⟨⟨text, hset, hzero⟩, rfl⟩
    exact .zero hset hzero

def validatePositive (value : String × Bool) : Except Invalid Unit :=
  if value.2 then .ok () else .error (.zero value.1)

theorem validate_eq (s : Settings) : s.validate =
    (s.positive.forM validatePositive >>= fun _ => s.uris.forM validateUri) := by
  unfold validate
  induction s.positive with
  | nil => rfl
  | cons value values ih =>
    obtain ⟨name, isPositive⟩ := value
    cases isPositive with
    | true => exact ih
    | false => rfl

/-- A rule is looked at by a check that fails with its faults. -/
def Checks {β : Type} (env : Environment) (check : β → Except Invalid Unit) (rule : Rule) (b : β) :
    Prop :=
  ∀ e, rule.Fault env e ↔ check b = .error e

theorem checks_positive {isZero : Prop} [Decidable isZero]
    (hzero : isZero ↔ ∃ text, env.lookup name = some text ∧ Denotes 0 text.toList) :
    Checks env validatePositive (.positive name) (name, !decide isZero) := by
  intro e
  rw [fault_positive_iff, ← hzero]
  by_cases h : isZero
  · simp [validatePositive, h, eq_comm]
  · simp [validatePositive, h]

theorem checks_size {n default : UInt64} (hdefault : default ≠ 0)
    (h : read env name uint64? default = .ok n) :
    Checks env validatePositive (.positive name) (name, n ≠ 0) := by
  rw [decide_not]
  exact checks_positive (zero_iff_of_read (· = 0) eq_zero_iff_of_uint64? hdefault h)

theorem checks_duration {d default : Duration} (hdefault : ¬default.isZero)
    (h : read env name duration? default = .ok d) :
    Checks env validatePositive (.positive name) (name, !d.isZero) := by
  have hchecks := checks_positive (zero_iff_of_read (·.isZero) isZero_iff_of_duration? hdefault h)
  rwa [Bool.decide_eq_true] at hchecks

theorem checks_uri {uri default : String} (h : read env name some default = .ok uri) :
    Checks env validateUri (.absolute name default) (name, uri) := by
  have huri := eq_of_read_some h
  intro e
  unfold validateUri
  constructor
  · intro hfault
    cases hfault with
    | uri hother herror =>
      obtain rfl := huri.trans hother.symm
      rw [herror]
  · intro herror
    split at herror
    · contradiction
    · rename_i error hparse
      obtain rfl := Except.error.inj herror
      exact .uri huri hparse

theorem reports_validate (h : ofEnvironment env = .ok s) :
    Reports (Rule.Fault env) rules s.validate := by
  obtain ⟨hstream, hstore, hcapacity, hbatch, hwrites, hrequest, hconnect, hshutdown, hstats,
    hinitial, hmaximum⟩ := described_of_ofEnvironment h
  rw [validate_eq]
  refine (reports_forM ?_).bind fun _ => reports_forM ?_
  · refine .cons (checks_size (by decide) hbatch) ?_
    refine .cons (checks_size (by decide) hcapacity) ?_
    refine .cons (checks_size (by decide) hwrites) ?_
    refine .cons (checks_duration (by decide) hrequest) ?_
    refine .cons (checks_duration (by decide) hconnect) ?_
    refine .cons (checks_duration (by decide) hshutdown) ?_
    refine .cons (checks_duration (by decide) hstats) ?_
    refine .cons (checks_duration (by decide) hinitial) ?_
    exact .cons (checks_duration (by decide) hmaximum) .nil
  · refine .cons (checks_uri hstream) ?_
    exact .cons (checks_uri hstore) .nil

theorem validatePositive_eq_ok_iff (value : String × Bool) :
    validatePositive value = .ok () ↔ value.2 = true := by
  unfold validatePositive
  split
  case isTrue h => exact iff_of_true rfl h
  case isFalse h => exact iff_of_false nofun h

theorem validateUri_eq_ok_iff (uri : String × String) :
    validateUri uri = .ok () ↔ ∃ url, Url.parse uri.2.toList = .ok url := by
  unfold validateUri
  split
  case h_1 url hparse => exact iff_of_true rfl ⟨url, hparse⟩
  case h_2 error hparse =>
    refine iff_of_false nofun ?_
    rintro ⟨url, hurl⟩
    rw [hparse] at hurl
    contradiction

private theorem not_isZero_eq_true_iff (d : Duration) : (!d.isZero) = true ↔ d.toNanos ≠ 0 := by
  rw [Bool.not_eq_true', ← Bool.not_eq_true, Duration.isZero_iff]

private theorem forall_positive_iff (s : Settings) : (∀ value ∈ s.positive, value.2 = true) ↔
    (∀ n ∈ s.sizes, n ≠ 0) ∧ ∀ d ∈ s.durations, d.toNanos ≠ 0 := by
  have hvalues : s.positive.map (·.2) =
      s.sizes.map (fun n => decide (n ≠ 0)) ++ s.durations.map (!·.isZero) := rfl
  have hmap : (∀ value ∈ s.positive, value.2 = true) ↔
      ∀ isPositive ∈ s.positive.map (·.2), isPositive = true := by
    rw [List.forall_mem_map]
  rw [hmap, hvalues]
  simp only [List.forall_mem_append, List.forall_mem_map, decide_eq_true_eq,
    not_isZero_eq_true_iff]

private theorem forall_uris_iff (s : Settings) :
    (∀ uri ∈ s.uris, ∃ url, Url.parse uri.2.toList = .ok url) ↔
      ∀ uri ∈ [s.streamUri, s.storeUri], ∃ url, Url.parse uri.toList = .ok url := by
  have haddresses : s.uris.map (·.2) = [s.streamUri, s.storeUri] := rfl
  rw [← haddresses, List.forall_mem_map]

theorem validate_eq_ok_iff (s : Settings) : s.validate = .ok () ↔ s.Usable := by
  rw [validate_eq, bind_unit_eq_ok_iff, forM_eq_ok_iff, forM_eq_ok_iff]
  simp only [validatePositive_eq_ok_iff, validateUri_eq_ok_iff]
  rw [forall_positive_iff, forall_uris_iff, and_assoc]
  exact ⟨fun ⟨hsizes, hdurations, huris⟩ => ⟨hsizes, hdurations, huris⟩,
    fun h => ⟨h.sizes, h.durations, h.uris⟩⟩

end Rules

/-- Reading fails just if some variable is set to a text that is no value of its kind. The first
such variable is named then, and what else is set does not matter. Settings that have been read are
valid just if a relay can run with them, and otherwise the first rule that is broken is reported. -/
theorem report_first_fault (env : Environment) :
    ((∃ e, ofEnvironment env = .error e) ↔ ∃ v ∈ declared, v.Malformed env) ∧
    (∀ e, ofEnvironment env = .error e ↔ FirstFault (Variable.Fault env) declared e) ∧
    (∀ other : Environment, (∀ name ∈ variableNames, other.lookup name = env.lookup name) →
      ofEnvironment other = ofEnvironment env) ∧
    ∀ s, ofEnvironment env = .ok s →
      (s.validate = .ok () ↔ s.Usable) ∧
      ∀ e, s.validate = .error e ↔ FirstFault (Rule.Fault env) rules e := by
  have hreports := reads_ofEnvironment.reports env
  have hunique : ∀ {v e e'}, Variable.Fault env v e → Variable.Fault env v e' → e = e' :=
    fun h h' => h.2.trans h'.2.symm
  refine ⟨?_, fun e => hreports.error_iff hunique, fun other hlookup => ?_, fun s hs => ?_⟩
  · rw [hreports.exists_error_iff]
    simp [Variable.Fault]
  · rw [← map_name_declared, List.forall_mem_map] at hlookup
    exact reads_ofEnvironment.congr hlookup
  · have hvalidate := reports_validate hs
    exact ⟨s.validate_eq_ok_iff, fun e => hvalidate.error_iff Rule.Fault.unique⟩

/-- All that is set is a value of its kind, but a size, a length of time and both addresses break
rules. -/
def brokenRules : Environment := [
  ("OPENSEARCH_URI", ""), ("DISPATCH_URI", "localhost"), ("STATS_INTERVAL_MS", "+0"),
  ("MAX_CONCURRENT_WRITES", "000"), ("BIND_PORT", "+065535")]

/-- Two variables are no values of their kinds, besides. -/
def malformed : Environment :=
  [("PRINT_SINK", "True"), ("STREAM_RETRY_MAX_ATTEMPTS", "4294967296")] ++ brokenRules

theorem report_first_fault_brokenRules :
    (∃ s, ofEnvironment brokenRules = .ok s ∧ ¬s.Usable ∧
      FirstFault (Rule.Fault brokenRules) rules (.zero "MAX_CONCURRENT_WRITES")) ∧
    ofEnvironment (("PATH", "") :: brokenRules) = ofEnvironment brokenRules ∧
    FirstFault (Variable.Fault malformed) declared ⟨"STREAM_RETRY_MAX_ATTEMPTS"⟩ := by
  obtain ⟨-, -, hsame, hvalidate⟩ := report_first_fault brokenRules
  obtain ⟨-, hfirst, -⟩ := report_first_fault malformed
  refine ⟨?_, hsame _ (by decide +kernel), (hfirst _).1 rfl⟩
  have hread : (ofEnvironment brokenRules).toOption.any
      (·.validate == .error (.zero "MAX_CONCURRENT_WRITES")) = true := by
    decide +kernel
  obtain ⟨s, hs, hreport⟩ := exists_of_any_toOption hread
  obtain ⟨husable, herror⟩ := hvalidate s hs
  have hreport : s.validate = .error (.zero "MAX_CONCURRENT_WRITES") := eq_of_beq hreport
  refine ⟨s, hs, fun h => ?_, (herror _).1 hreport⟩
  have hvalid := hreport.symm.trans (husable.2 h)
  contradiction

end Settings
end PlaybackRelay
