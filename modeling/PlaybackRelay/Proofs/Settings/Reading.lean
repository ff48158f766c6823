import PlaybackRelay.Proofs.Json.Record
import PlaybackRelay.Proofs.Settings.Grammar

/-!
What is read from an environment. Variables are looked at in the order in which they are declared,
and the first one that is malformed ends it, whatever others there are. Main statement:
`reads_ofEnvironment`.
-/
namespace PlaybackRelay

namespace Settings

section Scan

variable {ι ε α β : Type} {fault : ι → ε → Prop} {i : ι} {items rest : List ι} {e : ε}
variable {outcome : Except ε α}

/-- The fault of the first item that has one. -/
def FirstFault (fault : ι → ε → Prop) (items : List ι) (e : ε) : Prop :=
  ∃ before i after, items = before ++ i :: after ∧ fault i e ∧ ∀ b ∈ before, ∀ e, ¬fault b e

/-- How it ends to look at items in their order, up to the first one that has a fault. -/
inductive Reports (fault : ι → ε → Prop) : List ι → Except ε α → Prop where
  | done (a : α) : Reports fault [] (.ok a)
  | faulty {i : ι} {e : ε} (rest : List ι) (h : fault i e) : Reports fault (i :: rest) (.error e)
  | sound {i : ι} {rest : List ι} {outcome : Except ε α} (h : ∀ e, ¬fault i e)
      (hrest : Reports fault rest outcome) : Reports fault (i :: rest) outcome

theorem firstFault_cons_iff : FirstFault fault (i :: rest) e ↔
    fault i e ∨ (∀ e, ¬fault i e) ∧ FirstFault fault rest e := by
  constructor
  · rintro ⟨before, j, after, hitems, hj, hbefore⟩
    cases before with
    | nil =>
      obtain ⟨rfl, rfl⟩ := List.cons.inj hitems
      exact .inl hj
    | cons b before =>
      obtain ⟨rfl, rfl⟩ := List.cons.inj hitems
      obtain ⟨hb, hbefore⟩ := List.forall_mem_cons.1 hbefore
      exact .inr ⟨hb, before, j, after, rfl, hj, hbefore⟩
  · rintro (hi | ⟨hi, before, j, after, rfl, hj, hbefore⟩)
    · exact ⟨[], i, rest, rfl, hi, nofun⟩
    · exact ⟨i :: before, j, after, rfl, hj, List.forall_mem_cons.2 ⟨hi, hbefore⟩⟩

theorem Reports.exists_error_iff (h : Reports fault items outcome) :
    (∃ e, outcome = .error e) ↔ ∃ i ∈ items, ∃ e, fault i e := by
  induction h with
  | done a => simp
  | faulty rest hi => exact iff_of_true ⟨_, rfl⟩ ⟨_, List.mem_cons_self, _, hi⟩
  | sound hi hrest ih =>
    rw [ih]
    simp [hi]

theorem Reports.error_iff (hunique : ∀ {i e e'}, fault i e → fault i e' → e = e')
    (h : Reports fault items outcome) : outcome = .error e ↔ FirstFault fault items e := by
  induction h with
  | done a =>
    refine iff_of_false nofun ?_
    rintro ⟨before, i, after, hitems, -⟩
    exact List.append_ne_nil_of_right_ne_nil before (List.cons_ne_nil i after) hitems.symm
  | faulty rest hi =>
    rw [firstFault_cons_iff, Except.error.injEq]
    constructor
    · rintro rfl
      exact .inl hi
    · rintro (hother | ⟨hnone, -⟩)
      · exact hunique hi hother
      · exact absurd hi (hnone _)
  | sound hi hrest ih =>
    rw [ih, firstFault_cons_iff, or_iff_right (hi e), and_iff_right hi]

theorem Reports.map (f : α → β) (h : Reports fault items outcome) :
    Reports fault items (outcome.map f) := by
  induction h with
  | done a => exact .done (f a)
  | faulty rest hi => exact .faulty rest hi
  | sound hi hrest ih => exact .sound hi ih

theorem Reports.bind {f : α → Except ε β} (h : Reports fault items outcome)
    (hf : ∀ a, Reports fault rest (f a)) : Reports fault (items ++ rest) (outcome >>= f) := by
  induction h with
  | done a => exact hf a
  | faulty behind hi => exact .faulty (behind ++ rest) hi
  | sound hi hrest ih => exact .sound hi ih

theorem reports_forM {check : β → Except ε Unit} {bs : List β}
    (h : List.Forall₂ (fun i b => ∀ e, fault i e ↔ check b = .error e) items bs) :
    Reports fault items (bs.forM check) := by
  induction h with
  | nil => exact .done ()
  | @cons i b items bs hi hrest ih =>
    rw [List.forM]
    cases hcheck : check b with
    | error e => exact .faulty items ((hi e).2 hcheck)
    | ok u =>
      refine .sound (fun e hfault => ?_) ih
      have herror := hcheck.symm.trans ((hi e).1 hfault)
      contradiction

theorem bind_unit_eq_ok_iff {check : Except ε Unit} {a : α} :
    (check >>= fun _ => outcome) = .ok a ↔ check = .ok () ∧ outcome = .ok a := by
  rw [Json.bind_eq_ok]
  exact Unique.exists_iff

theorem forM_eq_ok_iff {check : β → Except ε Unit} (bs : List β) :
    bs.forM check = .ok () ↔ ∀ b ∈ bs, check b = .ok () := by
  induction bs with
  | nil => exact iff_of_true rfl nofun
  | cons b bs ih => rw [List.forM, bind_unit_eq_ok_iff, List.forall_mem_cons, ih]

theorem exists_of_any_toOption {check : α → Bool} (h : outcome.toOption.any check = true) :
    ∃ a, outcome = .ok a ∧ check a = true := by
  cases outcome with
  | error e => contradiction
  | ok a => exact ⟨a, rfl, h⟩

end Scan

/-- What is read from the environment, and as what. -/
structure Variable where
  name : String
  kind : Kind

/-- The variables in the order in which they are declared. -/
def declared : List Variable := [
  ⟨"BIND_HOST", .text⟩,
  ⟨"BIND_PORT", .number UInt16.size⟩,
  ⟨"DISPATCH_URI", .text⟩,
  ⟨"OPENSEARCH_URI", .text⟩,
  ⟨"CORE_INDEX", .name⟩,
  ⟨"HEARTBEAT_INDEX", .name⟩,
  ⟨"SESSION_CACHE_SIZE", .number UInt64.size⟩,
  ⟨"SESSION_CACHE_TTL_SECONDS", .number UInt64.size⟩,
  ⟨"BUFFER_CAPACITY", .number UInt64.size⟩,
  ⟨"BATCH_SIZE", .number UInt64.size⟩,
  ⟨"MAX_CONCURRENT_WRITES", .number UInt64.size⟩,
  ⟨"REQUEST_TIMEOUT_MS", .number UInt64.size⟩,
  ⟨"CONNECT_TIMEOUT_MS", .number UInt64.size⟩,
  ⟨"SHUTDOWN_TIMEOUT_MS", .number UInt64.size⟩,
  ⟨"STATS_INTERVAL_MS", .number UInt64.size⟩,
  ⟨"STREAM_RETRY_MAX_ATTEMPTS", .number UInt32.size⟩,
  ⟨"STREAM_RETRY_INITIAL_INTERVAL_MS", .number UInt64.size⟩,
  ⟨"STREAM_RETRY_MAX_INTERVAL_MS", .number UInt64.size⟩,
  ⟨"PRINT_SINK", .flag⟩]

theorem map_name_declared : declared.map (·.name) = variableNames := rfl

/-- The variable is set, but to a text that is no value of its kind. -/
def Variable.Malformed (env : Environment) (v : Variable) : Prop :=
  ∃ text, env.lookup v.name = some text ∧ ¬v.kind.Accepts text

def Variable.Fault (env : Environment) (v : Variable) (e : Unreadable) : Prop :=
  v.Malformed env ∧ e = ⟨v.name⟩

/-- Reads variables in their order: depends on no other variable, and ends with the first fault. -/
structure Reads {α : Type} (vars : List Variable) (x : Environment → Except Unreadable α) :
    Prop where
  congr : ∀ {env other : Environment},
    (∀ v ∈ vars, other.lookup v.name = env.lookup v.name) → x other = x env
  reports : ∀ env, Reports (Variable.Fault env) vars (x env)

section Reads

variable {α β : Type} {kind : Kind} {value? : String → Option α} {name : String} {v : Variable}
variable {vars : List Variable} {x : Environment → Except Unreadable α}

theorem Reads.pure (a : α) : Reads [] fun _ => Pure.pure a where
  congr _ := rfl
  reports _ := .done a

theorem Reads.map (h : Reads vars x) (f : α → β) : Reads vars fun env => (x env).map f where
  congr hlookup := congrArg (·.map f) (h.congr hlookup)
  reports env := (h.reports env).map f

theorem Reads.bind {f : α → Environment → Except Unreadable β} (h : Reads [v] x)
    (hf : ∀ a, Reads vars (f a)) : Reads (v :: vars) fun env => x env >>= fun a => f a env where
  congr hlookup := by
    obtain ⟨hv, hvars⟩ := List.forall_mem_cons.1 hlookup
    rw [h.congr (List.forall_mem_singleton.2 hv)]
    exact bind_congr fun a => (hf a).congr hvars
  reports env := (h.reports env).bind fun a => (hf a).reports env

theorem reads_readOptional (h : Recognizes value? kind) (name : String) :
    Reads [⟨name, kind⟩] fun env => readOptional env name value? where
  congr hlookup := by
    unfold readOptional
    rw [List.forall_mem_singleton.1 hlookup]
  reports env := by
    unfold readOptional
    cases hset : env.lookup name with
    | none =>
      refine .sound ?_ (.done none)
      rintro e ⟨⟨text, htext, -⟩, -⟩
      rw [hset] at htext
      contradiction
    | some text =>
      have haccepts := h text
      dsimp only
      cases hvalue : value? text with
      | none =>
        rw [hvalue] at haccepts
        exact .faulty [] ⟨⟨text, hset, mt haccepts.2 nofun⟩, rfl⟩
      | some a =>
        rw [hvalue] at haccepts
        refine .sound ?_ (.done (some a))
        rintro e ⟨⟨other, hother, hmalformed⟩, -⟩
        obtain rfl := Option.some.inj (hset.symm.trans hother)
        exact hmalformed (haccepts.1 rfl)

theorem reads_read (h : Recognizes value? kind) (name : String) (default : α) :
    Reads [⟨name, kind⟩] fun env => read env name value? default :=
  (reads_readOptional h name).map (·.getD default)

theorem reads_ofEnvironment : Reads declared ofEnvironment := by
  unfold declared ofEnvironment
  refine .bind (reads_read recognizes_some _ _) fun host => ?_
  refine .bind (reads_read recognizes_uint16? _ _) fun port => ?_
  refine .bind (reads_read recognizes_some _ _) fun streamUri => ?_
  refine .bind (reads_read recognizes_some _ _) fun storeUri => ?_
  refine .bind (reads_read recognizes_nonempty? _ _) fun core => ?_
  refine .bind (reads_read recognizes_nonempty? _ _) fun heartbeat => ?_
  refine .bind (reads_read recognizes_uint64? _ _) fun cacheSize => ?_
  refine .bind (reads_readOptional recognizes_uint64? _) fun cacheIdleSeconds => ?_
  refine .bind (reads_read recognizes_uint64? _ _) fun bufferCapacity => ?_
  refine .bind (reads_read recognizes_uint64? _ _) fun batchSize => ?_
  refine .bind (reads_read recognizes_uint64? _ _) fun maxWrites => ?_
  refine .bind (reads_read recognizes_duration? _ _) fun requestTimeout => ?_
  refine .bind (reads_read recognizes_duration? _ _) fun connectTimeout => ?_
  refine .bind (reads_read recognizes_duration? _ _) fun shutdownTimeout => ?_
  refine .bind (reads_read recognizes_duration? _ _) fun statsInterval => ?_
  refine .bind (reads_read recognizes_uint32? _ _) fun maxAttempts => ?_
  refine .bind (reads_read recognizes_duration? _ _) fun initial => ?_
  refine .bind (reads_read recognizes_duration? _ _) fun maximum => ?_
  refine .bind (reads_read recognizes_bool? _ _) fun printOnly => ?_
  exact .pure _

end Reads

end Settings
end PlaybackRelay
