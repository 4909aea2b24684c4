import SecretMount.Proofs.Metrics.Growth
import SecretMount.Proofs.Pass.Counted
import SecretMount.Proofs.Pass.Reuse

/-!
# The accounts of a pass

What a pass counts fits what it does. `Accounts` are the balances for the work on some objects: each
call and each wait that ended in time is counted once, each backend's errors are as many as its
retries, and each wait is followed by a call, but for the failure that has ended the work; and
whatever has been delivered was read back or waited for. They hold of the work for one object
(`handle_accounts`) and can be added (`Accounts.append`), so they hold of all of a pass
(`handleAll_accounts`). Main statement: `reconcile_accounts`.
-/

namespace SecretMount.Pass

open Process Metrics

variable {settings : FetchSettings} {kind : BackendKind} {o : SecretObject}
  {objects : List SecretObject} {m : VersionMap} {w : World} {s t : Trace} {failure : Failure}

/-- Whether a failure is the error of a backend, or that there is none. -/
def isOfBackend : Failure → Bool
  | .fetch _ _ | .configuration (.missingClient _) => true
  | _ => false

/-- How the work for some objects has ended: with a number of values, or with a failure at an
object. -/
abbrev Ending := Except (SecretObject × Failure) ℕ

namespace Ending

/-- One for the kind whose backend's error has ended the work. -/
def unanswered (ending : Ending) (kind : BackendKind) : ℕ :=
  match ending with
  | .ok _ => 0
  | .error (o, failure) => if failure.kind = .fetch ∧ o.kind = .ok kind then 1 else 0

/-- One for the kind whose client was missing when it was to be called. -/
def clientless (ending : Ending) (kind : BackendKind) : ℕ :=
  match ending with
  | .ok _ => 0
  | .error (_, failure) => if failure = .configuration (.missingClient kind) then 1 else 0

/-- Work that delivers has not ended with the error of a backend. -/
lemma unanswered_ok (values : ℕ) (kind : BackendKind) :
    Ending.unanswered (.ok values) kind = 0 := rfl

/-- Work that delivers has not ended for a missing client. -/
lemma clientless_ok (values : ℕ) (kind : BackendKind) :
    Ending.clientless (.ok values) kind = 0 := rfl

/-- Where a failure is not that of a backend, nothing is missing from the balances. -/
lemma error_of_not_backend (h : isOfBackend failure = false) (o : SecretObject)
    (kind : BackendKind) :
    Ending.unanswered (.error (o, failure)) kind = 0 ∧
    Ending.clientless (.error (o, failure)) kind = 0 := by
  constructor
  · apply if_neg
    rintro ⟨hfetch, -⟩
    cases failure <;> cases hfetch
    cases h
  · apply if_neg
    rintro rfl
    cases h

/-- Values that are delivered before change nothing about a failure. -/
lemma unanswered_map (f : ℕ → ℕ) (ending : Ending) (kind : BackendKind) :
    Ending.unanswered (ending.map f) kind = ending.unanswered kind := by
  cases ending <;> rfl

/-- Values that are delivered before do not add a missing client. -/
lemma clientless_map (f : ℕ → ℕ) (ending : Ending) (kind : BackendKind) :
    Ending.clientless (ending.map f) kind = ending.clientless kind := by
  cases ending <;> rfl

end Ending

/-- What the work for a number of objects counts, by what it does and how it has ended. -/
structure Accounts (t : Trace) (size : ℕ) (ending : Ending) : Prop where
  fetches : ∀ kind, added t.counted (.fetches kind) = t.calls.countP (·.kind = kind)
  waits : ∀ kind, added t.counted (.waits kind) = t.granted.count kind
  errors : ∀ kind, added t.counted (.fetchErrors kind) =
    added t.counted (.retries kind) + ending.unanswered kind
  called : ∀ kind, added t.counted (.waits kind) + added t.counted (.retries kind) =
    added t.counted (.fetches kind) + ending.clientless kind
  obtained : ∀ values, ending = .ok values → size =
    added t.counted .reloads + (added t.counted (.waits .kms) + added t.counted (.waits .oos))
  delivered : ∀ values, ending = .ok values → values = size + added t.counted .extracted
  /-- What is counted once in a pass is not counted for its objects. -/
  ofObjects : added t.counted .reconciliations = 0 ∧ added t.counted .reconciliationDuration = 0 ∧
    ∀ label, added t.counted (.errors label) = 0

namespace Accounts

/-- The accounts of no work. -/
lemma nil : Accounts [] 0 (.ok 0) where
  fetches _ := rfl
  waits _ := rfl
  errors _ := rfl
  called _ := rfl
  obtained _ _ := rfl
  delivered := by
    rintro _ ⟨⟩
    rfl
  ofObjects := ⟨rfl, rfl, fun _ => rfl⟩

/-- The accounts of work that goes on after other work that has delivered. -/
lemma append {size size' values : ℕ} {ending : Ending} (h : Accounts s size (.ok values))
    (h' : Accounts t size' ending) :
    Accounts (s ++ t) (size + size') (ending.map (values + ·)) where
  fetches kind := by
    simp [h.fetches, h'.fetches]
  waits kind := by
    simp [h.waits, h'.waits]
  errors kind := by
    -- the first part has delivered, so it leaves no error unanswered
    have hfirst := h.errors kind
    have hsecond := h'.errors kind
    rw [Ending.unanswered_ok] at hfirst
    simp only [Trace.counted_append, added_append, Ending.unanswered_map]
    omega
  called kind := by
    have hfirst := h.called kind
    have hsecond := h'.called kind
    rw [Ending.clientless_ok] at hfirst
    simp only [Trace.counted_append, added_append, Ending.clientless_map]
    omega
  obtained := by
    intro total htotal
    have hfirst := h.obtained _ rfl
    obtain ⟨values', rfl, -⟩ := except_map_eq_ok.1 htotal
    have hsecond := h'.obtained _ rfl
    simp only [Trace.counted_append, added_append]
    omega
  delivered := by
    intro total htotal
    have hfirst := h.delivered _ rfl
    obtain ⟨values', rfl, rfl⟩ := except_map_eq_ok.1 htotal
    have hsecond := h'.delivered _ rfl
    simp only [Trace.counted_append, added_append]
    omega
  ofObjects := by
    obtain ⟨hpass, hduration, herrors⟩ := h.ofObjects
    obtain ⟨hpass', hduration', herrors'⟩ := h'.ofObjects
    simp [hpass, hpass', hduration, hduration', herrors, herrors']

/-- Work that has delivered may still end in a failure that is not that of a backend. -/
lemma failed {size values : ℕ} (h : Accounts t size (.ok values)) (o : SecretObject)
    (hfailure : isOfBackend failure = false) : Accounts t size (.error (o, failure)) where
  fetches := h.fetches
  waits := h.waits
  errors kind := by
    rw [(Ending.error_of_not_backend hfailure o kind).1]
    exact h.errors kind
  called kind := by
    rw [(Ending.error_of_not_backend hfailure o kind).2]
    exact h.called kind
  obtained := nofun
  delivered := nofun
  ofObjects := h.ofObjects

/-- Where the work has failed, the accounts do not depend on how many objects there were. -/
lemma resize {size : ℕ} {o : SecretObject} (h : Accounts t size (.error (o, failure)))
    (size' : ℕ) : Accounts t size' (.error (o, failure)) :=
  { h with obtained := nofun, delivered := nofun }

end Accounts

/-- How the work for an object ends that has its value or has failed. -/
def endingOf {α : Type} (o : SecretObject) (values : ℕ) : Except Failure α → Ending
  | .ok _ => .ok values
  | .error failure => .error (o, failure)

variable {query : Query} {backend : Option Backend} {calls : List AnsweredCall}
  {result : Option FetchResult}

/-- What one call adds to a metric. -/
lemma added_events (c : AnsweredCall) (name : Name) :
    added c.events name = (if .fetches c.kind = name then 1 else 0) +
      (if .fetchDuration c.kind = name then 1 else 0) +
      if .fetchErrors c.kind = name then (FetchResult.failed c.result).toNat else 0 := by
  cases h : FetchResult.failed c.result <;> simp [AnsweredCall.events, h]

/-- What calls add to a metric that are all repeated ones. -/
lemma added_again (h : ∀ c ∈ calls, c.kind = kind) (name : Name) :
    added (calls.flatMap fun c => .retry c.kind.name :: c.events) name =
      (if .fetches kind = name then calls.length else 0) +
      (if .fetchDuration kind = name then calls.length else 0) +
      (if .fetchErrors kind = name then calls.countP (FetchResult.failed ·.result) else 0) +
      if .retries kind = name then calls.length else 0 := by
  induction calls with
  | nil => simp
  | cons c rest ih =>
    obtain ⟨rfl, hrest⟩ := List.forall_mem_cons.1 h
    rw [List.flatMap_cons, added_append, added_cons, added_events, adds_retry, ih hrest,
      List.length_cons, List.countP_cons]
    cases FetchResult.failed c.result <;> grind

/-- What the calls for an object add to a metric. -/
lemma added_eventsOfCalls (h : ∀ c ∈ calls, c.kind = kind) (name : Name) :
    added (eventsOfCalls calls) name =
      (if .fetches kind = name then calls.length else 0) +
      (if .fetchDuration kind = name then calls.length else 0) +
      (if .fetchErrors kind = name then calls.countP (FetchResult.failed ·.result) else 0) +
      if .retries kind = name then calls.length - 1 else 0 := by
  cases calls with
  | nil => simp [eventsOfCalls]
  | cons first again =>
    obtain ⟨rfl, hagain⟩ := List.forall_mem_cons.1 h
    rw [eventsOfCalls, added_append, added_events, added_again hagain, List.length_cons,
      List.countP_cons, Nat.add_sub_cancel]
    cases FetchResult.failed first.result <;> grind

/-- Whether the last call of an object has failed. -/
def lastFailed : Option FetchResult → Bool
  | some result => FetchResult.failed result
  | none => false

/-- A call that has failed for a reason that passes has failed. -/
lemma failed_of_failedForNow {result : FetchResult} (h : failedForNow result = true) :
    FetchResult.failed result = true := by
  cases result with
  | ok secret => cases h
  | error e => rfl

/-- All calls are to the one backend; all but the last have failed; and a backend that is there is
called once and once for each retry. -/
lemma Exchange.balance (h : Exchange kind query backend calls result) :
    (∀ c ∈ calls, c.kind = kind) ∧
    calls.countP (FetchResult.failed ·.result) = calls.length - 1 + (lastFailed result).toNat ∧
    1 + (calls.length - 1) = calls.length + result.isNone.toNat := by
  cases h with
  | absent => simp [lastFailed]
  | once => simp [lastFailed, List.countP_singleton, Bool.toNat, Bool.cond_eq_ite]
  | twice hfirst =>
    have hfailed := failed_of_failedForNow hfirst
    simp [lastFailed, List.countP_cons, hfailed, Bool.toNat, Bool.cond_eq_ite, Nat.add_comm]

/-- What a result of the calls for an object adds to the balances. -/
lemma ending_ofFetchResult (hkind : o.kind = .ok kind) (result : Option FetchResult)
    (k : BackendKind) :
    (endingOf o 1 (ofFetchResult o kind result)).unanswered k =
      (if kind = k then (lastFailed result).toNat else 0) ∧
    (endingOf o 1 (ofFetchResult o kind result)).clientless k =
      (if kind = k then result.isNone.toNat else 0) := by
  rcases result with _ | _ | _
  case none =>
    simp [endingOf, ofFetchResult, Ending.unanswered, Ending.clientless, lastFailed, Failure.kind]
  case some.ok =>
    simp [endingOf, ofFetchResult, Ending.unanswered, Ending.clientless, lastFailed,
      FetchResult.failed]
  case some.error =>
    simp [endingOf, ofFetchResult, Ending.unanswered, Ending.clientless, lastFailed,
      FetchResult.failed, Failure.kind, hkind]

/-- Calls that are all of one kind count for this kind only. -/
lemma countP_kind (h : ∀ c ∈ calls, c.kind = kind) (k : BackendKind) :
    calls.countP (·.kind = k) = if kind = k then calls.length else 0 := by
  split
  case isTrue heq => exact List.countP_eq_length.2 fun c hc => by simp [h c hc, heq]
  case isFalse hne => exact List.countP_eq_zero.2 fun c hc => by simp [h c hc, hne]

/-- The accounts of a fetch: its one wait, and the calls that follow. -/
lemma accounts_of_exchange (backend : Option Backend) (seconds : Float) (hkind : o.kind = .ok kind)
    (hcalls : Exchange kind o.query backend t.calls result) (hgranted : t.granted = [kind])
    (hcounted : t.counted = .rateLimitWait kind.name seconds :: eventsOfCalls t.calls) :
    Accounts t 1 (endingOf o 1 (ofFetchResult o kind result)) := by
  obtain ⟨hkinds, hfailed, hcalled⟩ := hcalls.balance
  have hending := ending_ofFetchResult hkind result
  have hadded (name : Name) : added t.counted name = _ :=
    (congrArg (added · name) hcounted).trans
      (congrArg (Event.adds name _ + ·) (added_eventsOfCalls hkinds name))
  constructor
  case fetches =>
    intro k
    rw [hadded, countP_kind hkinds]
    simp
  case waits =>
    intro k
    rw [hadded, hgranted]
    simp [List.count_singleton]
  case errors =>
    intro k
    rw [hadded, hadded, (hending k).1, hfailed]
    by_cases hk : kind = k <;> simp [hk]
  case called =>
    intro k
    rw [hadded, hadded, hadded, (hending k).2]
    by_cases hk : kind = k
    · simpa [hk] using hcalled
    · simp [hk]
  case obtained =>
    intro values _
    rw [hadded, hadded, hadded]
    cases kind <;> simp
  case delivered =>
    intro values hvalues
    rw [hadded]
    rcases result with _ | _ | _
    case none => cases hvalues
    case some.error => cases hvalues
    case some.ok =>
      cases hvalues
      simp
  case ofObjects => simp [hadded]

/-- Where nothing is counted, called or granted, all accounts are empty. -/
lemma accounts_of_nothing (hcounted : t.counted = []) (hcalls : t.calls = [])
    (hgranted : t.granted = []) (o : SecretObject) (hfailure : isOfBackend failure = false) :
    Accounts t 1 (.error (o, failure)) where
  fetches kind := by simp [hcounted, hcalls]
  waits kind := by simp [hcounted, hgranted]
  errors kind := by simp [hcounted, Ending.error_of_not_backend hfailure]
  called kind := by simp [hcounted, Ending.error_of_not_backend hfailure]
  obtained := nofun
  delivered := nofun
  ofObjects := by simp [hcounted]

/-- A fetch that was admitted counts its wait and goes on with the calls. -/
lemma fetch_of_admitted {waited : ℕ} (hkind : o.kind = .ok kind)
    (hwait : ((wait kind settings.waitTimeout).run w).1 = .ok waited) :
    let event : Event := .rateLimitWait kind.name (RateLimit.secondsOfMilliseconds waited)
    let admitted := ((count event).run ((wait kind settings.waitTimeout).run w).2).2
    let calls := callWithRetry settings kind o.query
    ((fetch settings o).run w).1 = ofFetchResult o kind (calls.run admitted).1 ∧
    (fetch settings o).trace w = (wait kind settings.waitTimeout).trace w ++
      .asked (.count event) () :: calls.trace admitted := by
  simp only [fetch, hkind, run_sequence, trace_sequence, hwait, run_count, trace_count, run_pure,
    trace_pure, List.append_nil, List.cons_append, List.nil_append, and_self]

/-- The accounts of a fetch. -/
lemma fetch_accounts (settings : FetchSettings) (o : SecretObject) (w : World) :
    Accounts ((fetch settings o).trace w) 1 (endingOf o 1 ((fetch settings o).run w).1) := by
  cases hkind : o.kind with
  | error failure =>
    cases SecretObject.kind_eq_error hkind
    simp only [fetch, hkind]
    exact accounts_of_nothing rfl rfl rfl o rfl
  | ok kind =>
    obtain ⟨hcounted, hgranted⟩ := wait_counted kind settings.waitTimeout w
    have hcalls := wait_calls kind settings.waitTimeout w
    cases hwait : ((wait kind settings.waitTimeout).run w).1 with
    | error exceeded =>
      rw [hwait] at hgranted
      simp only [fetch, hkind, run_sequence, trace_sequence, hwait, run_pure, trace_pure,
        List.append_nil]
      exact accounts_of_nothing hcounted hcalls hgranted o rfl
    | ok waited =>
      rw [hwait] at hgranted
      obtain ⟨hresult, htrace⟩ := fetch_of_admitted hkind hwait
      rw [hresult, htrace]
      -- the calls start where the wait and its sample have ended
      generalize ((count _).run ((wait kind settings.waitTimeout).run w).2).2 = admitted
      have hexchange := callWithRetry_exchange settings kind o.query admitted
      have htokens := callWithRetry_tokens settings kind o.query admitted
      have hevents := callWithRetry_counted settings kind o.query admitted
      refine accounts_of_exchange (admitted.backends.get kind)
        (RateLimit.secondsOfMilliseconds waited) hkind ?_ ?_ ?_
      · simpa [hcalls, Act.call?] using hexchange
      · simp [hgranted, Trace.granted_of_tokens htokens, Act.granted?]
      · simp [hcounted, hcalls, hevents, Act.counted?, Act.call?]

/-- The accounts of reading a value back. -/
lemma reload_accounts (o : SecretObject) (version : String) (w : World) :
    Accounts ((reload o version).trace w) 1 (endingOf o 1 ((reload o version).run w).1) := by
  have hread := reload_reread o version w
  have hcounted := reload_counted o version w
  have hgranted := Trace.granted_of_tokens hread.tokens
  rw [hread.result]
  cases hdisk : w.disk o.mountPath with
  | error fault =>
    rw [hdisk] at hcounted
    exact accounts_of_nothing hcounted hread.calls hgranted o rfl
  | ok bytes =>
    rw [hdisk] at hcounted
    have hadded (name : Name) : added ((reload o version).trace w).counted name = _ :=
      congrArg (added · name) hcounted
    constructor <;>
      simp [hadded, hread.calls, hgranted, endingOf, Ending.unanswered, Ending.clientless]

/-- The accounts of getting the value of an object, one way or the other. -/
lemma obtain_accounts (settings : FetchSettings) (o : SecretObject) (m : VersionMap) (w : World) :
    Accounts ((obtain settings o m).trace w) 1 (endingOf o 1 ((obtain settings o m).run w).1) := by
  unfold obtain
  cases o.current? m with
  | none => exact fetch_accounts settings o w
  | some version => exact reload_accounts o version w

/-- The accounts of counting the parts of a value. -/
lemma countParts_accounts (parts : List SecretValue) (w : World) :
    Accounts ((countParts parts).trace w) 0 (.ok parts.length) := by
  have hidle := idle_of_asks (countParts_asks parts) w
  have hgranted := Trace.granted_of_tokens hidle.tokens
  have hcounted := countParts_counted parts w
  have hadded (name : Name) : added ((countParts parts).trace w).counted name =
      if .extracted = name then parts.length else 0 := by
    rw [hcounted]
    cases parts <;> simp
  constructor <;> simp [hadded, hidle.calls, hgranted, Ending.unanswered, Ending.clientless]

/-- How a visit ends. -/
def Visit.ending (settings : FetchSettings) (v : Visit) : Ending :=
  match v.outcome settings with
  | .ok d => .ok d.values.length
  | .error failure => .error (v.object, failure)

/-- The accounts of a visit. -/
lemma Visit.accounts (settings : FetchSettings) (v : Visit) :
    Accounts (v.trace settings) 1 (v.ending settings) := by
  obtain ⟨o, m, w⟩ := v
  have hobtained := obtain_accounts settings o m w
  rw [trace, ending, outcome, handle, trace_sequence]
  cases hgot : ((obtain settings o m).run w).1 with
  | error failure =>
    rw [hgot] at hobtained
    rw [deliver_of_error hgot, trace_pure, List.append_nil]
    exact hobtained
  | ok got =>
    obtain ⟨version, value⟩ := got
    rw [hgot] at hobtained
    rw [deliver_of_obtained hgot]
    dsimp only
    cases hparts : value.extract with
    | error failure =>
      obtain ⟨fault, rfl⟩ := SecretValue.extract_eq_error hparts
      rw [trace_pure, List.append_nil]
      exact hobtained.failed o rfl
    | ok parts =>
      rw [trace_sequence, trace_pure, List.append_nil]
      -- one value for the object, as many more as there are parts
      have hvalues : (value :: parts).length = 1 + parts.length := Nat.add_comm _ _
      show Accounts _ 1 (.ok (value :: parts).length)
      rw [hvalues]
      exact hobtained.append (countParts_accounts parts _)

/-- How the work for several objects ends: with all their values, or with the failure of the last
object that is reached. -/
inductive Ends (settings : FetchSettings) (reached : List Visit) :
    Except Failure (List SecretValue) → Ending → Prop where
  | delivered {values : List SecretValue} :
    Ends settings reached (.ok values) (.ok values.length)
  | failed {v : Visit} {failure : Failure} :
    reached.getLast? = some v →
    v.outcome settings = .error failure →
    Ends settings reached (.error failure) (.error (v.object, failure))

/-- Work ends after one more delivery before it as it does without. -/
lemma Ends.cons {reached : List Visit} {result : Except Failure (List SecretValue)}
    {ending : Ending} (h : Ends settings reached result ending) (v : Visit) (d : Delivery) :
    Ends settings (v :: reached) (result.map (d.values ++ ·))
      (ending.map (d.values.length + ·)) := by
  cases h with
  | @delivered values =>
    show Ends _ _ (.ok (d.values ++ values)) (.ok (d.values.length + values.length))
    rw [← List.length_append]
    exact .delivered
  | failed hlast hfails => exact .failed (by simp [List.getLast?_cons, hlast]) hfails

/-- The accounts of the work for several objects, and how it ends. -/
lemma handleAll_accounts (settings : FetchSettings) (objects : List SecretObject) (m : VersionMap)
    (w : World) :
    ∃ ending, Ends settings (visits settings objects m w)
        ((handleAll settings objects m).run w).1.1 ending ∧
      Accounts ((handleAll settings objects m).trace w) objects.length ending := by
  induction objects generalizing m w with
  | nil => exact ⟨_, .delivered, .nil⟩
  | cons o rest ih =>
    have hfirst := Visit.accounts settings ⟨o, m, w⟩
    rw [Visit.ending, Visit.outcome] at hfirst
    cases hd : deliver settings o m w with
    | error failure =>
      rw [hd] at hfirst
      rw [visits_of_error hd, run_handleAll_of_error hd, trace_handleAll_of_error hd]
      exact ⟨_, .failed rfl hd, hfirst.resize _⟩
    | ok d =>
      rw [hd] at hfirst
      rw [visits_of_ok hd, run_handleAll_of_ok hd, trace_handleAll_of_ok hd, List.length_cons,
        Nat.add_comm rest.length]
      obtain ⟨ending, hends, haccounts⟩ := ih (d.record m) ((handle settings o m).run w).2
      exact ⟨_, hends.cons _ d, hfirst.append haccounts⟩

/-- Counting events counts these events. -/
lemma counted_ofEvents (events : List Event) : (Trace.ofEvents events).counted = events := by
  induction events with
  | nil => rfl
  | cons event rest ih => exact congrArg (event :: ·) ih

/-- What a pass counts: itself, the work for its objects, and at its end how long it took and why
it has failed. -/
lemma counted_reconcile (settings : FetchSettings) (objects : List SecretObject) (m : VersionMap)
    (w : World) :
    ((reconcile settings objects m).trace w).counted =
      let work := (handleAll settings objects m).run (begun w)
      .reconciliation :: (((handleAll settings objects m).trace (begun w)).counted ++
        closing w.clock work.2.clock work.1.1) := by
  rw [trace_reconcile]
  simp [Act.counted?, counted_ofEvents]

/-- The outcome of a pass adds to the errors of the failure's kind only. -/
lemma added_outcomeEvents (result : Except Failure (List SecretValue)) (name : Name) :
    added (outcomeEvents result) name =
      match result with
      | .ok _ => 0
      | .error failure => if .errors failure.kind.name = name then 1 else 0 := by
  cases result <;> simp [outcomeEvents]

/-- The metrics that a pass counts for itself. -/
def isOfPass (name : Name) : Bool :=
  name.base ∈ ["reconciliations_total", "reconciliation_duration_seconds", "errors_total"]

/-- All other metrics grow by what the work for the objects adds to them. -/
lemma grown_reconcile (settings : FetchSettings) (objects : List SecretObject) (m : VersionMap)
    (w : World) {name : Name} (h : name.Plain) (hname : isOfPass name = false) :
    grown ((reconcile settings objects m).trace w).counted name =
      added ((handleAll settings objects m).trace (begun w)).counted name := by
  -- what the pass counts for itself goes to metrics of other names
  have hother {own : Name} (hown : isOfPass own = true) : own ≠ name := by
    rintro rfl
    rw [hname] at hown
    cases hown
  have houtcome (result : Except Failure (List SecretValue)) :
      added (outcomeEvents result) name = 0 := by
    rw [added_outcomeEvents]
    cases result with
    | ok values => rfl
    | error failure => exact if_neg (hother rfl)
  have hpass : .reconciliations ≠ name := hother rfl
  have hduration : .reconciliationDuration ≠ name := hother rfl
  rw [grown_eq_added _ h, counted_reconcile, added_cons, added_append, closing, added_cons,
    houtcome]
  simp [hpass, hduration]

/-- The metrics of passes grow by the pass itself and by the kind of its failure. -/
lemma grown_reconcile_own (settings : FetchSettings) (objects : List SecretObject) (m : VersionMap)
    (w : World) :
    let pass := (reconcile settings objects m).run w
    let grown := grown ((reconcile settings objects m).trace w).counted
    grown .reconciliations = 1 ∧
    grown .reconciliationDuration = 1 ∧
    ∀ label, grown (.errors label) =
      match pass.1.1 with
      | .ok _ => 0
      | .error failure => if failure.kind.name = label then 1 else 0 := by
  intro pass grown
  obtain ⟨ending, -, haccounts⟩ := handleAll_accounts settings objects m (begun w)
  obtain ⟨hpass, hduration, herrors⟩ := haccounts.ofObjects
  have hgrown {name : Name} (h : name.Plain) : grown name = _ := grown_eq_added _ h
  have hresult : pass.1.1 = ((handleAll settings objects m).run (begun w)).1.1 :=
    congrArg Prod.fst (outcome_reconcile settings objects m w)
  simp only [counted_reconcile, added_cons, added_append, closing, added_outcomeEvents,
    ← hresult] at hgrown
  refine ⟨?_, ?_, fun label => ?_⟩
  · rw [hgrown (by simp [Name.Plain]), hpass]
    cases pass.1.1 <;> simp
  · rw [hgrown (by simp [Name.Plain]), hduration]
    cases pass.1.1 <;> simp
  · rw [hgrown (by simp [Name.Plain]), herrors]
    cases pass.1.1 <;> simp

/-- A pass is granted the tokens that the work for its objects is granted. -/
lemma granted_reconcile (settings : FetchSettings) (objects : List SecretObject) (m : VersionMap)
    (w : World) :
    ((reconcile settings objects m).trace w).granted =
      ((handleAll settings objects m).trace (begun w)).granted := by
  rw [trace_reconcile]
  simp [Act.granted?, Trace.granted_of_tokens (idle_ofEvents _).tokens]

/-- In a pass the metrics grow as follows. The passes and the samples of their duration grow by one,
and the errors by one under the kind of the failure, if there is one. For each kind of backend, the
fetches are as many as the calls that it has answered, and the samples of waits as many as the waits
that ended with a token. Its fetch errors are as many as its retries, and its waits and retries
together as many as its fetches; but if the pass has failed at an object with an error of its
backend, there is one fetch error more for that backend, and if it has failed because a client is
missing, there is one wait more for the kind of that. If the pass has succeeded, each object has
been reloaded or waited for, and the values are those of the objects and the extracted ones. -/
theorem reconcile_accounts (settings : FetchSettings) (objects : List SecretObject) (m : VersionMap)
    (w : World) :
    let pass := (reconcile settings objects m).run w
    let t := (reconcile settings objects m).trace w
    let grown := grown t.counted
    pass.2.events = w.events ++ t.counted ∧
    grown .reconciliations = 1 ∧
    grown .reconciliationDuration = 1 ∧
    (∀ label, grown (.errors label) =
      match pass.1.1 with
      | .ok _ => 0
      | .error failure => if failure.kind.name = label then 1 else 0) ∧
    (∀ kind,
      grown (.fetches kind) = t.calls.countP (·.kind = kind) ∧
      grown (.waits kind) = t.granted.count kind) ∧
    (∀ values, pass.1.1 = .ok values →
      (∀ kind,
        grown (.fetchErrors kind) = grown (.retries kind) ∧
        grown (.waits kind) + grown (.retries kind) = grown (.fetches kind)) ∧
      objects.length = grown .reloads + (grown (.waits .kms) + grown (.waits .oos)) ∧
      values.length = objects.length + grown .extracted) ∧
    (∀ failure, pass.1.1 = .error failure →
      ∃ v, (visits settings objects m (begun w)).getLast? = some v ∧
        v.outcome settings = .error failure ∧
        ∀ kind,
          grown (.fetchErrors kind) = grown (.retries kind) +
            (if failure.kind = .fetch ∧ v.object.kind = .ok kind then 1 else 0) ∧
          grown (.waits kind) + grown (.retries kind) = grown (.fetches kind) +
            (if failure = .configuration (.missingClient kind) then 1 else 0)) := by
  intro pass t grown
  obtain ⟨ending, hends, haccounts⟩ := handleAll_accounts settings objects m (begun w)
  have hresult : pass.1.1 = ((handleAll settings objects m).run (begun w)).1.1 :=
    congrArg Prod.fst (outcome_reconcile settings objects m w)
  rw [← hresult] at hends
  have hfetches (kind) : grown (.fetches kind) = _ :=
    grown_reconcile settings objects m w (by simp [Name.Plain]) rfl
  have hwaits (kind) : grown (.waits kind) = _ :=
    grown_reconcile settings objects m w (by simp [Name.Plain]) rfl
  have hfetchErrors (kind) : grown (.fetchErrors kind) = _ :=
    grown_reconcile settings objects m w (by simp [Name.Plain]) rfl
  have hretries (kind) : grown (.retries kind) = _ :=
    grown_reconcile settings objects m w (by simp [Name.Plain]) rfl
  have hreloads : grown .reloads = _ :=
    grown_reconcile settings objects m w (by simp [Name.Plain]) rfl
  have hextracted : grown .extracted = _ :=
    grown_reconcile settings objects m w (by simp [Name.Plain]) rfl
  obtain ⟨hpass, hduration, herrors⟩ := grown_reconcile_own settings objects m w
  refine ⟨events_run _ w, hpass, hduration, herrors, ?_, ?_, ?_⟩
  · intro kind
    rw [hfetches, hwaits, haccounts.fetches, haccounts.waits]
    exact ⟨by rw [← calls_reconcile], by rw [← granted_reconcile]⟩
  · intro values hvalues
    rw [hvalues] at hends
    cases hends
    refine ⟨fun kind => ⟨?_, ?_⟩, ?_, ?_⟩
    · rw [hfetchErrors, hretries]
      exact haccounts.errors kind
    · rw [hwaits, hretries, hfetches]
      exact haccounts.called kind
    · rw [hreloads, hwaits, hwaits]
      exact haccounts.obtained _ rfl
    · rw [hextracted]
      exact haccounts.delivered _ rfl
  · intro failure hfailure
    rw [hfailure] at hends
    cases hends with
    | @failed v _ hlast hfails =>
      refine ⟨v, hlast, hfails, fun kind => ⟨?_, ?_⟩⟩
      · rw [hfetchErrors, hretries]
        exact haccounts.errors kind
      · rw [hwaits, hretries, hfetches]
        exact haccounts.called kind

end SecretMount.Pass
