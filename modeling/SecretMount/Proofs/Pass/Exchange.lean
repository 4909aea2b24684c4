import SecretMount.Proofs.Pass.Retry

/-!
# Exchanges with a limiter and a backend

What the parts of a fetch ask for, and what its calls come to. Apart from looking at the clock and
counting, a wait asks for tokens of its kind (`wait_asks`) and a call asks for itself
(`callWithRetry_asks`). `Exchange` lists the cases of a call: no backend, one call, or a second call
after a first one that failed for a reason that passes. `callWithRetry_exchange` says that there are
no others.
-/

namespace SecretMount

namespace Request

/-- A request that looks at the clock or counts. -/
def Quiet : Request → Prop
  | .clock | .count _ => True
  | _ => False

/-- The given request, or one that looks at the clock or counts. -/
def Only (s r : Request) : Prop := r = s ∨ r.Quiet

end Request

namespace Pass

open Process

variable {s : Request} {kind : BackendKind} {query : Query}

/-- Looking at the clock is always allowed. -/
lemma asks_clock : clock.Asks s.Only := asks_request (.inr trivial)

/-- Counting is always allowed. -/
lemma asks_count (event : Metrics.Event) : (count event).Asks s.Only := asks_request (.inr trivial)

/-- Trying for a token asks only for tokens of its kind. -/
lemma acquire_asks (deadline now : Nat) :
    (acquire kind deadline now).Asks (Request.Only (.token kind)) := by
  induction now using acquire.induct deadline with
  | case1 now ih =>
    rw [acquire]
    refine asks_bind (asks_request (.inl rfl)) fun reply => ?_
    cases reply with
    | unlimited => exact asks_pure _
    | admitted => exact asks_pure _
    | never => exact asks_bind (asks_sleepTo _) fun _ => asks_pure _
    | retryAfter ms =>
      dsimp only
      split
      case isTrue hle => exact asks_bind (asks_sleepTo _) fun _ => ih ms hle
      case isFalse => exact asks_bind (asks_sleepTo _) fun _ => asks_pure _

/-- Waiting for a token asks only for tokens of its kind. -/
lemma wait_asks (timeout : Duration.Nanoseconds) :
    (wait kind timeout).Asks (Request.Only (.token kind)) := by
  refine asks_bind asks_clock fun start => asks_bind (acquire_asks _ _) fun time => ?_
  cases time with
  | none => exact asks_pure _
  | some time => exact asks_pure _

/-- A call asks for nothing but the call. -/
lemma callCounted_asks : (callCounted kind query).Asks (Request.Only (.call kind query)) := by
  refine asks_bind (asks_request (.inl rfl)) fun reply => ?_
  match reply with
  | none => exact asks_pure _
  | some (.ok _) => exact asks_bind (asks_count _) fun _ => asks_pure _
  | some (.error _) =>
    exact asks_bind (asks_count _) fun _ => asks_bind (asks_count _) fun _ => asks_pure _

/-- A second call asks for nothing but the call. -/
lemma retry_asks (settings : FetchSettings) :
    (retry settings kind query).Asks (Request.Only (.call kind query)) :=
  asks_bind (asks_count _) fun _ => asks_bind asks_clock fun _ =>
    asks_bind (asks_sleepTo _) fun _ => callCounted_asks

/-- A call with its second call asks for nothing but the call. -/
lemma callWithRetry_asks (settings : FetchSettings) :
    (callWithRetry settings kind query).Asks (Request.Only (.call kind query)) := by
  refine asks_bind callCounted_asks fun reply => ?_
  match reply with
  | none => exact asks_pure _
  | some (.ok _) => exact asks_pure _
  | some (.error e) =>
    dsimp only
    split
    case isTrue => exact retry_asks settings
    case isFalse => exact asks_pure _

/-- Reading back asks for nothing but the file of the object. -/
lemma reload_asks (o : SecretObject) (version : String) :
    (reload o version).Asks (Request.Only (.read o.mountPath)) := by
  refine asks_bind (asks_request (.inl rfl)) fun reply => ?_
  cases reply with
  | error fault => exact asks_pure _
  | ok bytes => exact asks_bind (asks_count _) fun _ => asks_pure _

/-- Where a kind is not limited, a token is there at once. -/
lemma run_acquire_of_unlimited {w : World} (h : w.limiter.get kind = none) (deadline now : Nat) :
    (acquire kind deadline now).run w = (some now, w) := by
  have htoken : (token kind).run w = (.unlimited, w) := by
    simp [token, request, run, World.answer, Limiter.tryToken, h]
  rw [acquire, run_sequence, htoken]
  rfl

/-- A wait for a kind without a bucket ends at once and changes nothing. -/
lemma run_wait_of_unlimited {w : World} (h : w.limiter.get kind = none)
    (timeout : Duration.Nanoseconds) : (wait kind timeout).run w = (.ok 0, w) := by
  rw [wait, run_sequence, run_clock, run_sequence, run_acquire_of_unlimited h]
  simp

/-- The calls to a backend, if there is one, and what they come to. -/
inductive Exchange (kind : BackendKind) (query : Query) :
    Option Backend → List AnsweredCall → Option FetchResult → Prop where
  | absent : Exchange kind query none [] none
  | once {backend : Backend} :
    failedForNow (backend.answer query) = false →
    Exchange kind query (some backend) [⟨kind, query, backend.answer query⟩]
      (some (backend.answer query))
  | twice {backend : Backend} :
    failedForNow (backend.answer query) = true →
    Exchange kind query (some backend)
      [⟨kind, query, backend.answer query⟩, ⟨kind, query, backend.next.answer query⟩]
      (some (backend.next.answer query))

/-- A call that succeeds is not repeated. -/
lemma callWithRetry_of_answer (settings : FetchSettings) {query : Query} {w : World}
    {backend : Backend} {secret : FetchedSecret} (h : w.backends.get kind = some backend)
    (hanswer : backend.answer query = .ok secret) :
    ((callWithRetry settings kind query).run w).1 = some (.ok secret) := by
  rw [← hanswer]
  exact (callWithRetry_once settings h (by rw [hanswer]; rfl)).1

/-- What is exchanged in a call with its second call. -/
lemma callWithRetry_exchange (settings : FetchSettings) (kind : BackendKind) (query : Query)
    (w : World) :
    Exchange kind query (w.backends.get kind)
      ((callWithRetry settings kind query).trace w).calls
      ((callWithRetry settings kind query).run w).1 := by
  cases hb : w.backends.get kind with
  | none =>
    obtain ⟨hrun, hcalls⟩ := callWithRetry_of_none settings query hb
    rw [hrun, hcalls]
    exact .absent
  | some backend =>
    cases hanswer : failedForNow (backend.answer query) with
    | false =>
      obtain ⟨hresult, hcalled⟩ := callWithRetry_once settings hb hanswer
      rw [hresult, hcalled.calls]
      exact .once hanswer
    | true =>
      obtain ⟨hresult, hcalled⟩ := callWithRetry_twice settings hb hanswer
      rw [hresult, hcalled.calls]
      exact .twice hanswer

end Pass

end SecretMount
