import SecretMount.Pass
import SecretMount.Proofs.Process.Trace

/-!
# Second calls

What a call with a retry does, step by step, and the world that it leaves. Looks at the clock and
counts apart, it is one call (`CalledOnce`), or a call, a sleep and the same call again
(`CalledTwice`); the answer to the first call decides which of the two (`callWithRetry_once`,
`callWithRetry_twice`). Main statement: `callWithRetry_final`, what a fetch comes to for each pair of
answers.
-/

namespace SecretMount

/-- Only errors of the service with one of three codes are worth a second call. -/
lemma BackendError.isTransient_iff (e : BackendError) :
    e.isTransient = true ↔ ∃ code text, e = .remote code text ∧
      code ∈ ["Rejected.Throttling", "ServiceUnavailableTemporary", "InternalFailure"] := by
  cases e with
  | remote code text =>
    constructor
    · intro h
      exact ⟨code, text, rfl, List.contains_iff_mem.1 h⟩
    · rintro ⟨_, _, heq, hmem⟩
      cases heq
      exact List.contains_iff_mem.2 hmem
  | unsupportedDataType type => exact ⟨nofun, nofun⟩
  | missingField field => exact ⟨nofun, nofun⟩

/-- Whether an act is more than a look at the clock or a count. -/
def Act.isSeen : Act → Bool
  | .asked .clock _ => false
  | .asked (.count _) _ => false
  | _ => true

namespace Trace

/-- What is done apart from looking at the clock and counting. -/
def seen (t : Trace) : Trace := t.filter Act.isSeen

/-- Of no acts none is seen. -/
@[simp] lemma seen_nil : seen [] = [] := rfl

/-- An act that is more than a look at the clock or a count is seen. -/
@[simp] lemma seen_cons (a : Act) (t : Trace) :
    seen (a :: t) = if a.isSeen then a :: seen t else seen t := List.filter_cons

/-- What is seen of two traces is seen of both together. -/
@[simp] lemma seen_append (s t : Trace) : seen (s ++ t) = seen s ++ seen t := List.filter_append s t

/-- All calls are seen. -/
lemma calls_seen (t : Trace) : t.seen.calls = t.calls := by
  induction t with
  | nil => rfl
  | cons a rest ih =>
    rw [seen_cons, calls_cons, ← ih]
    split
    case isTrue => exact calls_cons _ _
    case isFalse hunseen =>
      cases a with
      | slept time => exact absurd rfl hunseen
      | asked request reply =>
        cases request with
        | clock => rfl
        | count event => rfl
        | _ => exact absurd rfl hunseen

end Trace

/-- Whether a call has failed. -/
def FetchResult.failed : FetchResult → Bool
  | .ok _ => false
  | .error _ => true

/-- What a call counts. -/
def AnsweredCall.events (c : AnsweredCall) : List Metrics.Event :=
  .fetch c.kind.name 0 :: if FetchResult.failed c.result then [.fetchError c.kind.name] else []

namespace Pass

open Process

variable {settings : FetchSettings} {kind : BackendKind} {query : Query} {backend : Backend}
  {w : World}

/-- Whether a call failed for a reason that passes. -/
def failedForNow : FetchResult → Bool
  | .error e => e.isTransient
  | .ok _ => false

/-- What several calls count for an object: each but the first is a retry. -/
def eventsOfCalls : List AnsweredCall → List Metrics.Event
  | [] => []
  | first :: again => first.events ++ again.flatMap fun c => .retry c.kind.name :: c.events

/-- The process calls the backend once and does nothing else. -/
structure CalledOnce {α : Type} (kind : BackendKind) (query : Query) (backend : Backend) (w : World)
    (p : Process α) : Prop where
  seen : (p.trace w).seen = [.asked (.call kind query) (some (backend.answer query))]
  world : (p.run w).2 = { w with
    backends := w.backends.set kind (some backend.next)
    calls := w.calls ++ [⟨backend.outgoing query, w.clock⟩]
    events := w.events ++ eventsOfCalls [⟨kind, query, backend.answer query⟩] }

/-- The process calls the backend, sleeps until the time, calls it with the same query and does
nothing else. -/
structure CalledTwice {α : Type} (kind : BackendKind) (query : Query) (backend : Backend)
    (later : Nat) (w : World) (p : Process α) : Prop where
  seen : (p.trace w).seen =
    [.asked (.call kind query) (some (backend.answer query)), .slept later,
      .asked (.call kind query) (some (backend.next.answer query))]
  world : (p.run w).2 = { w with
    clock := later
    backends := w.backends.set kind (some backend.next.next)
    calls := w.calls ++ [⟨backend.outgoing query, w.clock⟩, ⟨backend.outgoing query, later⟩]
    events := w.events ++ eventsOfCalls
      [⟨kind, query, backend.answer query⟩, ⟨kind, query, backend.next.answer query⟩] }

/-- A backend that is called once gives its answer. -/
lemma CalledOnce.calls {α : Type} {p : Process α} (h : CalledOnce kind query backend w p) :
    (p.trace w).calls = [⟨kind, query, backend.answer query⟩] := by
  rw [← Trace.calls_seen, h.seen]
  rfl

/-- A backend that is called twice gives two answers, the second one as it is left by the first. -/
lemma CalledTwice.calls {α : Type} {later : Nat} {p : Process α}
    (h : CalledTwice kind query backend later w p) :
    (p.trace w).calls =
      [⟨kind, query, backend.answer query⟩, ⟨kind, query, backend.next.answer query⟩] := by
  rw [← Trace.calls_seen, h.seen]
  rfl

/-- Without a backend nothing is called. -/
lemma callCounted_of_none (query : Query) (h : w.backends.get kind = none) :
    (callCounted kind query).run w = (none, w) ∧ ((callCounted kind query).trace w).calls = [] := by
  simp [callCounted, World.call_of_none h, Act.call?]

/-- A counted call is one call. -/
lemma callCounted_once (query : Query) (h : w.backends.get kind = some backend) :
    ((callCounted kind query).run w).1 = some (backend.answer query) ∧
    CalledOnce kind query backend w (callCounted kind query) := by
  refine ⟨?_, ?_, ?_⟩
  · cases hr : backend.answer query <;> simp [callCounted, World.call_of_some h, hr]
  · cases hr : backend.answer query <;>
      simp [callCounted, World.call_of_some h, hr, Act.isSeen]
  · cases hr : backend.answer query <;>
      simp [callCounted, World.call_of_some h, hr, eventsOfCalls, AnsweredCall.events,
        FetchResult.failed]

/-- The time at which the second call goes out. -/
def resumption (settings : FetchSettings) (now : Nat) : Nat :=
  now + Duration.ceilMilliseconds (settings.backoff.delay 1)

/-- A second call follows a sleep, and its answer is the result. -/
lemma retry_called (settings : FetchSettings) (query : Query)
    (h : w.backends.get kind = some backend) :
    ((retry settings kind query).run w).1 = some (backend.answer query) ∧
    ((retry settings kind query).trace w).seen =
      [.slept (resumption settings w.clock),
        .asked (.call kind query) (some (backend.answer query))] ∧
    ((retry settings kind query).run w).2 = { w with
      clock := resumption settings w.clock
      backends := w.backends.set kind (some backend.next)
      calls := w.calls ++ [⟨backend.outgoing query, resumption settings w.clock⟩]
      events := w.events ++ .retry kind.name ::
        AnsweredCall.events ⟨kind, query, backend.answer query⟩ } := by
  let later : World := ({ w with events := w.events ++ [.retry kind.name] } : World).sleepUntil
    (resumption settings w.clock)
  have hlater : later.backends.get kind = some backend := h
  have hclock : later.clock = resumption settings w.clock :=
    Nat.max_eq_right (Nat.le_add_right _ _)
  obtain ⟨hresult, hcalled⟩ := callCounted_once query hlater
  have hrun : (retry settings kind query).run w = (callCounted kind query).run later := rfl
  have htrace : (retry settings kind query).trace w =
      [.asked (.count (.retry kind.name)) (), .asked .clock w.clock,
        .slept (resumption settings w.clock)] ++ (callCounted kind query).trace later := rfl
  refine ⟨by rw [hrun, hresult], ?_, ?_⟩
  · rw [htrace, Trace.seen_append, hcalled.seen]
    simp [Act.isSeen]
  · rw [hrun, hcalled.world, hclock]
    simp [later, World.sleepUntil, eventsOfCalls]

/-- A call that no client takes is not repeated. -/
lemma callWithRetry_of_none (settings : FetchSettings) (query : Query)
    (h : w.backends.get kind = none) :
    (callWithRetry settings kind query).run w = (none, w) ∧
    ((callWithRetry settings kind query).trace w).calls = [] := by
  obtain ⟨hrun, hcalls⟩ := callCounted_of_none query h
  rw [callWithRetry, run_sequence, trace_sequence, hrun, Trace.calls_append, hcalls]
  exact ⟨rfl, rfl⟩

/-- The answer to the first call decides how it goes on. -/
lemma callWithRetry_of_first (settings : FetchSettings) {result : FetchResult}
    (h : ((callCounted kind query).run w).1 = some result) :
    let goOn := if failedForNow result then retry settings kind query else pure (some result)
    let after := ((callCounted kind query).run w).2
    (callWithRetry settings kind query).run w = goOn.run after ∧
    (callWithRetry settings kind query).trace w =
      (callCounted kind query).trace w ++ goOn.trace after := by
  rw [callWithRetry, run_sequence, trace_sequence, h]
  cases result with
  | ok secret => exact ⟨rfl, rfl⟩
  | error e => exact ⟨rfl, rfl⟩

/-- Unless the first call has failed for a reason that passes, its answer stands. -/
lemma callWithRetry_once (settings : FetchSettings) (h : w.backends.get kind = some backend)
    (hanswer : failedForNow (backend.answer query) = false) :
    ((callWithRetry settings kind query).run w).1 = some (backend.answer query) ∧
    CalledOnce kind query backend w (callWithRetry settings kind query) := by
  obtain ⟨hresult, hcalled⟩ := callCounted_once query h
  obtain ⟨hrun, htrace⟩ := callWithRetry_of_first settings hresult
  simp only [hanswer, Bool.false_eq_true, if_false, run_pure, trace_pure,
    List.append_nil] at hrun htrace
  refine ⟨by rw [hrun], ?_, ?_⟩
  · rw [htrace]
    exact hcalled.seen
  · rw [hrun]
    exact hcalled.world

/-- After a first call that has failed for a reason that passes, the answer to the second stands. -/
lemma callWithRetry_twice (settings : FetchSettings) (h : w.backends.get kind = some backend)
    (hanswer : failedForNow (backend.answer query) = true) :
    ((callWithRetry settings kind query).run w).1 = some (backend.next.answer query) ∧
    CalledTwice kind query backend (resumption settings w.clock) w
      (callWithRetry settings kind query) := by
  obtain ⟨hresult, hcalled⟩ := callCounted_once query h
  obtain ⟨hrun, htrace⟩ := callWithRetry_of_first settings hresult
  simp only [hanswer, if_true] at hrun htrace
  -- the first call has moved the backend on, and the second finds it there
  have hnext : ((callCounted kind query).run w).2.backends.get kind = some backend.next := by
    rw [hcalled.world]
    exact (PerKind.get_set _ _ _ _).trans (if_pos rfl)
  have hclock : ((callCounted kind query).run w).2.clock = w.clock := by rw [hcalled.world]
  obtain ⟨hagain, hseen, hworld⟩ := retry_called settings query hnext
  refine ⟨by rw [hrun, hagain], ?_, ?_⟩
  · rw [htrace, Trace.seen_append, hcalled.seen, hseen, hclock]
    rfl
  · rw [hrun, hworld, hcalled.world]
    simp [PerKind.set_set, eventsOfCalls, Backend.outgoing_next]

/-- What a fetch comes to, for each pair of answers of its backend. A secret stands after one call,
and so does an error, unless the service gave it one of the three codes. After an error with such a
code there is one sleep and one more call with the same query, and what that comes to is final: its
secret, or its own error, whatever the code of that. -/
theorem callWithRetry_final (settings : FetchSettings) (o : SecretObject)
    (h : w.backends.get kind = some backend) :
    let passing := ["Rejected.Throttling", "ServiceUnavailableTemporary", "InternalFailure"]
    let fetching := callWithRetry settings kind o.query
    let outcome := ofFetchResult o kind (fetching.run w).1
    let later := w.clock + Duration.ceilMilliseconds (settings.backoff.delay 1)
    (∀ secret, backend.answer o.query = .ok secret →
      outcome = .ok (secret.version, ⟨secret.bytes, o⟩) ∧
      CalledOnce kind o.query backend w fetching) ∧
    (∀ e, backend.answer o.query = .error e →
      (∀ code text, e = .remote code text → code ∉ passing) →
      outcome = .error (.fetch o.name e.message) ∧
      CalledOnce kind o.query backend w fetching) ∧
    (∀ code text, backend.answer o.query = .error (.remote code text) → code ∈ passing →
      CalledTwice kind o.query backend later w fetching ∧
      (∀ secret, backend.next.answer o.query = .ok secret →
        outcome = .ok (secret.version, ⟨secret.bytes, o⟩)) ∧
      (∀ e, backend.next.answer o.query = .error e →
        outcome = .error (.fetch o.name e.message))) := by
  intro passing fetching outcome later
  refine ⟨?_, ?_, ?_⟩
  · intro secret hanswer
    obtain ⟨hresult, hcalled⟩ := callWithRetry_once settings h (by rw [hanswer]; rfl)
    exact ⟨by simp only [outcome, fetching, hresult, hanswer, ofFetchResult], hcalled⟩
  · intro e hanswer hcode
    have hpermanent : e.isTransient = false := by
      rw [Bool.eq_false_iff]
      intro htransient
      obtain ⟨code, text, heq, hmem⟩ := e.isTransient_iff.1 htransient
      exact hcode code text heq hmem
    obtain ⟨hresult, hcalled⟩ := callWithRetry_once settings h (by rw [hanswer]; exact hpermanent)
    exact ⟨by simp only [outcome, fetching, hresult, hanswer, ofFetchResult], hcalled⟩
  · intro code text hanswer hcode
    have htransient : (BackendError.remote code text).isTransient = true :=
      (BackendError.isTransient_iff _).2 ⟨code, text, rfl, hcode⟩
    obtain ⟨hresult, hcalled⟩ := callWithRetry_twice settings h (by rw [hanswer]; exact htransient)
    refine ⟨hcalled, ?_, ?_⟩
    · intro secret hsecond
      simp only [outcome, fetching, hresult, hsecond, ofFetchResult]
    · intro e hsecond
      simp only [outcome, fetching, hresult, hsecond, ofFetchResult]

/-- A backend that is throttled and then refuses is called again after two seconds, and the refusal
is reported. -/
theorem callWithRetry_final_throttled :
    let o : SecretObject := { record := { name := "db" } }
    let answer (n : Nat) (_ : Query) : FetchResult :=
      if n = 0 then .error (.remote "Rejected.Throttling" "slow down")
      else .error (.remote "Forbidden" "not yours")
    let backend : Backend := ⟨.store .kms answer, 0⟩
    let w : World := { clock := 5, backends := ⟨some backend, none⟩ }
    let fetching := callWithRetry {} .kms o.query
    w.backends.get .kms = some backend ∧
      ofFetchResult o .kms (fetching.run w).1 = .error (.fetch "db" "Forbidden: not yours") ∧
      CalledTwice .kms o.query backend 2005 w fetching := by
  intro o answer backend w fetching
  have hbackend : w.backends.get .kms = some backend := rfl
  obtain ⟨-, -, hagain⟩ := callWithRetry_final {} o hbackend
  obtain ⟨hcalled, -, hrefused⟩ := hagain "Rejected.Throttling" "slow down" rfl (by decide)
  exact ⟨hbackend, hrefused (.remote "Forbidden" "not yours") rfl, hcalled⟩

end Pass

end SecretMount
