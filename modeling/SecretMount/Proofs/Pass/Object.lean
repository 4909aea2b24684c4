import SecretMount.Proofs.Pass.Exchange

/-!
# One object of a pass

Inversion of what a pass does for one object. An object whose pin the map holds is read back
(`Reread`); any other is fetched (`Fetched`): its type is checked, its kind's limiter is used once,
and the calls are an `Exchange`. Both say what is done and what comes of it. `handle_reread` and
`handle_fetched` show them for all of the work for an object, because what follows once its value is
there only counts (`Idle`); `handle_obtained` says that there are no other cases.
-/

namespace SecretMount

/-- The object is pinned to the version, and the map holds it under the object's file name. -/
def SecretObject.HasPin (o : SecretObject) (m : VersionMap) (version : String) : Prop :=
  o.version? = some version ∧ m.get? o.fileName = some version

/-- An object is taken as current in the version that it has a pin for, and in no other. -/
lemma SecretObject.current?_eq_some_iff {o : SecretObject} {m : VersionMap} {version : String} :
    o.current? m = some version ↔ o.HasPin m version := by
  unfold SecretObject.current? SecretObject.HasPin
  cases m.get? o.fileName with
  | none => simp
  | some stored =>
    cases o.version? with
    | none => simp
    | some pinned =>
      by_cases heq : stored = pinned
      · simp [heq]
      · have hne : ¬ (pinned = version ∧ stored = version) := fun h => heq (h.2.trans h.1.symm)
        simp [heq, hne]

/-- Only an unknown type has no kind, and the failure tells the type and the object. -/
lemma SecretObject.kind_eq_error {o : SecretObject} {failure : Failure}
    (h : o.kind = .error failure) :
    failure = .configuration (.unsupportedType o.type o.displayName) := by
  unfold SecretObject.kind at h
  split at h
  case h_1 => cases h
  case h_2 =>
    cases h
    rfl

namespace Pass

open Process

variable {settings : FetchSettings} {o : SecretObject} {m : VersionMap} {w : World} {t : Trace}
  {version : String} {got : Except Failure (String × SecretValue)}

/-- An object is read back: one read of its file, no call and no use of a limiter. -/
structure Reread (o : SecretObject) (version : String) (w : World) (t : Trace)
    (got : Except Failure (String × SecretValue)) : Prop where
  reads : t.reads = [o.mountPath]
  calls : t.calls = []
  tokens : t.tokens = []
  result : got = match w.disk o.mountPath with
    | .ok bytes => .ok (version, ⟨bytes, o⟩)
    | .error fault => .error (.diskRead o.displayName o.mountPath fault)

/-- An object is fetched: nothing is done if its type is unknown; else its kind's limiter is used
once, and the calls follow if a token was had. -/
inductive Fetched (settings : FetchSettings) (o : SecretObject) (w : World) (t : Trace) :
    Except Failure (String × SecretValue) → Prop where
  | unsupported {failure : Failure} :
    o.kind = .error failure →
    t.reads = [] →
    t.calls = [] →
    t.tokens = [] →
    Fetched settings o w t (.error failure)
  | refused {kind : BackendKind} {exceeded : RateLimitExceeded} {rest : Trace} :
    o.kind = .ok kind →
    ((wait kind settings.waitTimeout).run w).1 = .error exceeded →
    t = (wait kind settings.waitTimeout).trace w ++ rest →
    rest.tokens = [] →
    t.reads = [] →
    t.calls = [] →
    Fetched settings o w t (.error (.rateLimitTimeout o.name exceeded.kind exceeded.waited))
  | admitted {kind : BackendKind} {waited : Nat} {rest : Trace} {result : Option FetchResult} :
    o.kind = .ok kind →
    ((wait kind settings.waitTimeout).run w).1 = .ok waited →
    t = (wait kind settings.waitTimeout).trace w ++ rest →
    rest.tokens = [] →
    t.reads = [] →
    Exchange kind o.query (w.backends.get kind) t.calls result →
    Fetched settings o w t (ofFetchResult o kind result)

/-- A trace without reads, calls and uses of a limiter. -/
structure Idle (t : Trace) : Prop where
  reads : t.reads = []
  calls : t.calls = []
  tokens : t.tokens = []

/-- What is idle afterwards changes nothing about reading back. -/
lemma Reread.append {s : Trace} (h : Reread o version w t got) (hs : Idle s) :
    Reread o version w (t ++ s) got where
  reads := by simp [h.reads, hs.reads]
  calls := by simp [h.calls, hs.calls]
  tokens := by simp [h.tokens, hs.tokens]
  result := h.result

/-- What is idle afterwards changes nothing about a fetch. -/
lemma Fetched.append {s : Trace} (h : Fetched settings o w t got) (hs : Idle s) :
    Fetched settings o w (t ++ s) got := by
  cases h with
  | unsupported hkind hreads hcalls htokens =>
    exact .unsupported hkind (by simp [hreads, hs.reads]) (by simp [hcalls, hs.calls])
      (by simp [htokens, hs.tokens])
  | refused hkind hwait htrace hrest hreads hcalls =>
    exact .refused hkind hwait (by rw [htrace, List.append_assoc]) (by simp [hrest, hs.tokens])
      (by simp [hreads, hs.reads]) (by simp [hcalls, hs.calls])
  | admitted hkind hwait htrace hrest hreads hcalls =>
    exact .admitted hkind hwait (by rw [htrace, List.append_assoc]) (by simp [hrest, hs.tokens])
      (by simp [hreads, hs.reads]) (by simpa [hs.calls] using hcalls)

/-- A process that only looks at the clock and counts is idle. -/
lemma idle_of_asks {α : Type} {p : Process α} (h : p.Asks Request.Quiet) (w : World) :
    Idle (p.trace w) where
  reads := h.reads_trace (fun _ hq => hq) w
  calls := h.calls_trace (fun _ _ hq => hq) w
  tokens := h.tokens_trace (fun _ hq => hq) w

/-- Reading a value back reads its file and does nothing else. -/
lemma reload_reread (o : SecretObject) (version : String) (w : World) :
    Reread o version w ((reload o version).trace w) ((reload o version).run w).1 where
  reads := by cases h : w.disk o.mountPath <;> simp [reload, h, Act.read?]
  calls := (reload_asks o version).calls_trace (by simp [Request.Only, Request.Quiet]) w
  tokens := (reload_asks o version).tokens_trace (by simp [Request.Only, Request.Quiet]) w
  result := by cases h : w.disk o.mountPath <;> simp [reload, h]

/-- A wait reads no file. -/
lemma wait_reads (kind : BackendKind) (timeout : Duration.Nanoseconds) (w : World) :
    ((wait kind timeout).trace w).reads = [] :=
  (wait_asks timeout).reads_trace (by simp [Request.Only, Request.Quiet]) w

/-- A wait calls no backend. -/
lemma wait_calls (kind : BackendKind) (timeout : Duration.Nanoseconds) (w : World) :
    ((wait kind timeout).trace w).calls = [] :=
  (wait_asks timeout).calls_trace (by simp [Request.Only, Request.Quiet]) w

/-- A wait leaves the backends as they are. -/
lemma wait_backends (kind : BackendKind) (timeout : Duration.Nanoseconds) (w : World) :
    ((wait kind timeout).run w).2.backends = w.backends :=
  (wait_asks timeout).backends_run (by simp [Request.Only, Request.Quiet]) w

/-- The calls for an object read no file. -/
lemma callWithRetry_reads (settings : FetchSettings) (kind : BackendKind) (query : Query)
    (w : World) : ((callWithRetry settings kind query).trace w).reads = [] :=
  (callWithRetry_asks settings).reads_trace (by simp [Request.Only, Request.Quiet]) w

/-- The calls for an object take no token, the second one neither. -/
lemma callWithRetry_tokens (settings : FetchSettings) (kind : BackendKind) (query : Query)
    (w : World) : ((callWithRetry settings kind query).trace w).tokens = [] :=
  (callWithRetry_asks settings).tokens_trace (by simp [Request.Only, Request.Quiet]) w

/-- What is left of a fetch once a token is had. -/
lemma call_after_wait (settings : FetchSettings) (o : SecretObject) (kind : BackendKind)
    (event : Metrics.Event) (w : World) :
    let calling : Process (Except Failure (String × SecretValue)) := do
      count event
      let result ← callWithRetry settings kind o.query
      pure (ofFetchResult o kind result)
    ∃ result, (calling.run w).1 = ofFetchResult o kind result ∧
      Exchange kind o.query (w.backends.get kind) (calling.trace w).calls result ∧
      (calling.trace w).reads = [] ∧ (calling.trace w).tokens = [] := by
  have hcalls := callWithRetry_exchange settings kind o.query
    { w with events := w.events ++ [event] }
  refine ⟨((callWithRetry settings kind o.query).run
    { w with events := w.events ++ [event] }).1, by simp, ?_, ?_, ?_⟩
  · simpa [Act.call?] using hcalls
  · simp [callWithRetry_reads, Act.read?]
  · simp [callWithRetry_tokens, Act.token?]

/-- A fetch does what a fetch is said to do. -/
lemma fetch_fetched (settings : FetchSettings) (o : SecretObject) (w : World) :
    Fetched settings o w ((fetch settings o).trace w) ((fetch settings o).run w).1 := by
  unfold fetch
  cases hkind : o.kind with
  | error failure => exact .unsupported hkind rfl rfl rfl
  | ok kind =>
    dsimp only
    rw [trace_sequence, run_sequence]
    cases hwait : ((wait kind settings.waitTimeout).run w).1 with
    | error exceeded =>
      exact .refused hkind hwait rfl rfl (by simp [wait_reads]) (by simp [wait_calls])
    | ok waited =>
      obtain ⟨result, hresult, hcalls, hreads, htokens⟩ := call_after_wait settings o kind
        (.rateLimitWait kind.name (RateLimit.secondsOfMilliseconds waited))
        ((wait kind settings.waitTimeout).run w).2
      dsimp only
      rw [hresult]
      rw [wait_backends] at hcalls
      refine .admitted hkind hwait rfl htokens ?_ ?_
      · rw [Trace.reads_append, wait_reads, hreads, List.append_nil]
      · rw [Trace.calls_append, wait_calls, List.nil_append]
        exact hcalls

/-- Where nothing is limited, an object is fetched with the answer of its backend. -/
lemma run_fetch_of_answer {kind : BackendKind} {backend : Backend} {secret : FetchedSecret}
    (hkind : o.kind = .ok kind) (hlimiter : w.limiter.get kind = none)
    (hbackend : w.backends.get kind = some backend)
    (hanswer : backend.answer o.query = .ok secret) :
    ((fetch settings o).run w).1 = .ok (secret.version, ⟨secret.bytes, o⟩) := by
  simp only [fetch, hkind, run_sequence, run_wait_of_unlimited hlimiter, run_count, run_pure]
  have hlater (events : List Metrics.Event) :
      ({ w with events } : World).backends.get kind = some backend := hbackend
  rw [callWithRetry_of_answer settings (hlater _) hanswer]
  rfl

/-- Where nothing is limited, an object whose kind has no client fails for that. -/
lemma run_fetch_of_missing {kind : BackendKind} (hkind : o.kind = .ok kind)
    (hlimiter : w.limiter.get kind = none) (hbackend : w.backends.get kind = none) :
    ((fetch settings o).run w).1 = .error (.configuration (.missingClient kind)) := by
  simp only [fetch, hkind, run_sequence, run_wait_of_unlimited hlimiter, run_count, run_pure]
  have hlater (events : List Metrics.Event) :
      ({ w with events } : World).backends.get kind = none := hbackend
  rw [(callWithRetry_of_none settings o.query (hlater _)).1]
  rfl

/-- An object with a pin is read back. -/
lemma obtain_of_pin (h : o.HasPin m version) : obtain settings o m = reload o version := by
  rw [obtain, SecretObject.current?_eq_some_iff.2 h]

/-- An object without a pin is fetched. -/
lemma obtain_of_no_pin (h : ∀ version, ¬ o.HasPin m version) :
    obtain settings o m = fetch settings o := by
  have hnone : o.current? m = none :=
    Option.eq_none_iff_forall_ne_some.2 fun version hc =>
      h version (SecretObject.current?_eq_some_iff.1 hc)
  rw [obtain, hnone]

/-- Counting parts asks for nothing else. -/
lemma countParts_asks (parts : List SecretValue) : (countParts parts).Asks Request.Quiet := by
  unfold countParts
  split
  case isTrue => exact asks_pure _
  case isFalse => exact asks_request trivial

/-- What follows once the value of an object is there only counts. -/
lemma trace_handle (settings : FetchSettings) (o : SecretObject) (m : VersionMap) (w : World) :
    ∃ rest, (handle settings o m).trace w = (obtain settings o m).trace w ++ rest ∧ Idle rest := by
  refine ⟨_, trace_sequence _ _ _, idle_of_asks ?_ _⟩
  cases ((obtain settings o m).run w).1 with
  | error failure => exact asks_pure _
  | ok got =>
    dsimp only
    cases got.2.extract with
    | error failure => exact asks_pure _
    | ok parts => exact asks_bind (countParts_asks parts) fun _ => asks_pure _

/-- An object with a pin is read back, and what follows is idle. -/
lemma handle_reread (settings : FetchSettings) (w : World) (h : o.HasPin m version) :
    Reread o version w ((handle settings o m).trace w) ((obtain settings o m).run w).1 := by
  obtain ⟨rest, htrace, hrest⟩ := trace_handle settings o m w
  rw [htrace, obtain_of_pin h]
  exact (reload_reread o version w).append hrest

/-- An object without a pin is fetched, and what follows is idle. -/
lemma handle_fetched (settings : FetchSettings) (w : World) (h : ∀ version, ¬ o.HasPin m version) :
    Fetched settings o w ((handle settings o m).trace w) ((obtain settings o m).run w).1 := by
  obtain ⟨rest, htrace, hrest⟩ := trace_handle settings o m w
  rw [htrace, obtain_of_no_pin h]
  exact (fetch_fetched settings o w).append hrest

/-- A fetch reads no file. -/
lemma Fetched.reads (h : Fetched settings o w t got) : t.reads = [] := by
  cases h with
  | unsupported _ hreads => exact hreads
  | refused _ _ _ _ hreads => exact hreads
  | admitted _ _ _ _ hreads => exact hreads

/-- Reading back shows in the trace, so an object that is fetched has no pin in the map. -/
lemma Fetched.no_pin (h : Fetched settings o w ((handle settings o m).trace w) got) :
    ∀ version, ¬ o.HasPin m version := by
  intro version hpin
  have hreads := (handle_reread settings w hpin).reads
  rw [h.reads] at hreads
  cases hreads

/-- What is done for an object: it is read back if the map has its pin, and fetched if not. -/
inductive Obtained (settings : FetchSettings) (o : SecretObject) (m : VersionMap) (w : World)
    (t : Trace) (got : Except Failure (String × SecretValue)) : Prop where
  | reread {version : String} :
    o.HasPin m version →
    Reread o version w t got →
    Obtained settings o m w t got
  | fetched :
    (∀ version, ¬ o.HasPin m version) →
    Fetched settings o w t got →
    Obtained settings o m w t got

/-- The value of an object is read back or fetched, as its pin says. -/
lemma handle_obtained (settings : FetchSettings) (o : SecretObject) (m : VersionMap) (w : World) :
    Obtained settings o m w ((handle settings o m).trace w) ((obtain settings o m).run w).1 := by
  by_cases hpin : ∃ version, o.HasPin m version
  · obtain ⟨version, hpin⟩ := hpin
    exact .reread hpin (handle_reread settings w hpin)
  · have hnone := not_exists.1 hpin
    exact .fetched hnone (handle_fetched settings w hnone)

/-- No file but the object's own is read. -/
lemma eq_of_mem_reads {path : String} (h : path ∈ ((handle settings o m).trace w).reads) :
    path = o.mountPath := by
  cases handle_obtained settings o m w with
  | reread _ hread =>
    rw [hread.reads] at h
    exact List.mem_singleton.1 h
  | fetched _ hfetch =>
    rw [hfetch.reads] at h
    cases h

end Pass

end SecretMount
