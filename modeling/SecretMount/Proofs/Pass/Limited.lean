import SecretMount.Proofs.Pass.Reuse

/-!
# Limited passes

A limit makes a pass wait and can cut it short, and it changes nothing else. The fetch of an object
comes to the same in a world with limits as in the one without, unless the wait for its token ends
without one (`Fetched.compare`). So a limited pass goes as the one without limits up to the first
object whose wait fails, or to the end (`handleAll_compare`). Main statement:
`limits_only_cut_short`.
-/

namespace SecretMount

/-- The second world has the backends and the disk of the first, and no limits. -/
structure World.Unlimits (w v : World) : Prop where
  limiter : ∀ kind, v.limiter.get kind = none
  backends : v.backends = w.backends
  disk : v.disk = w.disk

/-- The world without its limits. -/
def World.withoutLimits (w : World) : World := { w with limiter := .unlimited }

/-- Without its limits a world keeps its backends and its disk. -/
lemma World.unlimits_withoutLimits (w : World) : w.Unlimits w.withoutLimits where
  limiter kind := by cases kind <;> rfl
  backends := rfl
  disk := rfl

/-- A run adds no limit. -/
lemma Process.limiter_run {α : Type} (p : Process α) {w : World} {kind : BackendKind}
    (h : w.limiter.get kind = none) : (p.run w).2.limiter.get kind = none := by
  induction p generalizing w with
  | done a => exact h
  | ask request next ih =>
    rw [run]
    apply ih
    cases request with
    | token asked =>
      cases hbucket : w.limiter.get asked with
      | none => simp [World.answer, Limiter.tryToken, hbucket, h]
      | some bucket =>
        -- a bucket changes only where there is one
        have hne : kind ≠ asked := by
          rintro rfl
          rw [h] at hbucket
          cases hbucket
        simp [World.answer, Limiter.tryToken, hbucket, PerKind.get_set, hne, h]
    | call asked query =>
      cases hb : w.backends.get asked <;> simp [World.answer, World.call, hb, h]
    | clock => exact h
    | read path => exact h
    | count event => exact h
  | sleepUntil time next ih => exact ih h

/-- This lasts through a process that makes the same calls in both worlds. -/
lemma World.Unlimits.run {α : Type} {w v : World} (h : w.Unlimits v) (p : Process α)
    (hcalls : (p.trace w).calls = (p.trace v).calls) :
    (p.run w).2.Unlimits (p.run v).2 where
  limiter kind := p.limiter_run (h.limiter kind)
  backends := by
    rw [(p.calls_run w).1, (p.calls_run v).1, h.backends, hcalls]
  disk := by
    rw [p.disk_run, p.disk_run, h.disk]

namespace Pass

open Process

variable {settings : FetchSettings} {kind : BackendKind} {o : SecretObject}
  {objects before after : List SecretObject} {m m' : VersionMap} {w v : World}

/-- The failure of an object whose wait has ended without a token. -/
def timedOut (settings : FetchSettings) (o : SecretObject) (kind : BackendKind) : Failure :=
  .rateLimitTimeout o.name kind
    (Duration.ofMilliseconds (Duration.ceilMilliseconds settings.waitTimeout))

/-- A wait that fails has waited for its timeout, in whole milliseconds. -/
lemma wait_eq_error {timeout : Duration.Nanoseconds} {exceeded : RateLimitExceeded}
    (h : ((wait kind timeout).run w).1 = .error exceeded) :
    exceeded = ⟨kind, Duration.ofMilliseconds (Duration.ceilMilliseconds timeout)⟩ := by
  simp only [wait, run_sequence, run_clock] at h
  split at h
  case h_1 => cases h
  case h_2 =>
    cases h
    rfl

/-- The backend decides the calls for a query and what they come to. -/
lemma Exchange.unique {query : Query} {backend : Option Backend} {calls calls' : List AnsweredCall}
    {result result' : Option FetchResult} (h : Exchange kind query backend calls result)
    (h' : Exchange kind query backend calls' result') : calls = calls' ∧ result = result' := by
  cases h with
  | absent =>
    cases h'
    exact ⟨rfl, rfl⟩
  | once hlast =>
    cases h' with
    | once => exact ⟨rfl, rfl⟩
    | twice hfirst => exact absurd (hlast.symm.trans hfirst) Bool.false_ne_true
  | twice hfirst =>
    cases h' with
    | once hlast => exact absurd (hlast.symm.trans hfirst) Bool.false_ne_true
    | twice => exact ⟨rfl, rfl⟩

/-- A limited fetch comes to the same as one that is not, or its wait ends without a token. -/
lemma Fetched.compare {s t : Trace} {got got' : Except Failure (String × SecretValue)}
    (h : Fetched settings o w s got) (hfree : Fetched settings o v t got') (hv : w.Unlimits v) :
    (got = got' ∧ s.calls = t.calls) ∨
      ∃ kind, o.kind = .ok kind ∧ got = .error (timedOut settings o kind) ∧ s.calls = [] := by
  cases h with
  | unsupported hkind _ hcalls =>
    cases hfree with
    | unsupported hkind' _ hcalls' =>
      rw [hkind] at hkind'
      cases hkind'
      exact .inl ⟨rfl, hcalls.trans hcalls'.symm⟩
    | refused hkind' => cases hkind.symm.trans hkind'
    | admitted hkind' => cases hkind.symm.trans hkind'
  | refused hkind hwait _ _ _ hcalls =>
    cases wait_eq_error hwait
    exact .inr ⟨_, hkind, rfl, hcalls⟩
  | admitted hkind _ _ _ _ hexchange =>
    cases hfree with
    | unsupported hkind' => cases hkind.symm.trans hkind'
    | refused _ hwait =>
      rw [run_wait_of_unlimited (hv.limiter _)] at hwait
      cases hwait
    | admitted hkind' _ _ _ _ hexchange' =>
      cases hkind.symm.trans hkind'
      rw [hv.backends] at hexchange'
      obtain ⟨hcalls, rfl⟩ := hexchange.unique hexchange'
      exact .inl ⟨rfl, hcalls⟩

/-- An object that is read back, or fetched after a wait that ends in time, comes to the same with
and without limits. -/
lemma deliver_compare (settings : FetchSettings) (o : SecretObject) (m : VersionMap)
    (hv : w.Unlimits v) :
    (deliver settings o m w = deliver settings o m v ∧
      ((handle settings o m).trace w).calls = ((handle settings o m).trace v).calls) ∨
    ((∀ version, ¬ o.HasPin m version) ∧ ∃ kind, o.kind = .ok kind ∧
      deliver settings o m w = .error (timedOut settings o kind) ∧
      ((handle settings o m).trace w).calls = []) := by
  by_cases hpin : ∃ version, o.HasPin m version
  · obtain ⟨version, hpin⟩ := hpin
    have hread := handle_reread settings w hpin
    have hread' := handle_reread settings v hpin
    left
    rw [deliver, deliver, hread.result, hread'.result, hv.disk]
    exact ⟨rfl, hread.calls.trans hread'.calls.symm⟩
  · have hnone := not_exists.1 hpin
    rcases (handle_fetched settings w hnone).compare (handle_fetched settings v hnone) hv with
      ⟨hsame, hcalls⟩ | ⟨kind, hkind, hrefused, hcalls⟩
    · left
      rw [deliver, deliver, hsame]
      exact ⟨rfl, hcalls⟩
    · right
      rw [deliver, hrefused]
      exact ⟨hnone, kind, hkind, rfl, hcalls⟩

/-- A limited pass is cut short at an object that the pass without limits fetches: it fails there,
with the map and the calls that the other has after the objects before. -/
structure CutShort (settings : FetchSettings) (objects : List SecretObject) (m : VersionMap)
    (w v : World) (before : List SecretObject) (o : SecretObject) (after : List SecretObject)
    (kind : BackendKind) (m' : VersionMap) : Prop where
  objects_eq : objects = before ++ o :: after
  delivered : ∃ values, ((handleAll settings before m).run v).1 = (.ok values, m')
  reached : ∃ later, (visits settings objects m v)[before.length]? = some ⟨o, m', later⟩
  fetched : ∀ version, ¬ o.HasPin m' version
  kind_eq : o.kind = .ok kind
  failed : ((handleAll settings objects m).run w).1 = (.error (timedOut settings o kind), m')
  calls : ((handleAll settings objects m).trace w).calls =
    ((handleAll settings before m).trace v).calls

/-- A pass that is cut short is so after one more object that delivers the same in both worlds. -/
lemma CutShort.cons {first : SecretObject} {d : Delivery}
    (hlimited : deliver settings first m w = .ok d) (hfree : deliver settings first m v = .ok d)
    (hcalls : ((handle settings first m).trace w).calls = ((handle settings first m).trace v).calls)
    (h : CutShort settings objects (d.record m) ((handle settings first m).run w).2
      ((handle settings first m).run v).2 before o after kind m') :
    CutShort settings (first :: objects) m w v (first :: before) o after kind m' where
  objects_eq := congrArg (first :: ·) h.objects_eq
  delivered := by
    obtain ⟨values, hvalues⟩ := h.delivered
    simp only [run_handleAll_of_ok hfree, hvalues]
    exact ⟨d.values ++ values, rfl⟩
  reached := by
    rw [visits_of_ok hfree]
    exact h.reached
  fetched := h.fetched
  kind_eq := h.kind_eq
  failed := by
    simp only [run_handleAll_of_ok hlimited, h.failed]
    rfl
  calls := by
    rw [trace_handleAll_of_ok hlimited, trace_handleAll_of_ok hfree, Trace.calls_append,
      Trace.calls_append, hcalls, h.calls]

/-- With limits the work for the objects is the same as without, or it is cut short. -/
lemma handleAll_compare (settings : FetchSettings) (objects : List SecretObject) (m : VersionMap)
    (hv : w.Unlimits v) :
    (((handleAll settings objects m).run w).1 = ((handleAll settings objects m).run v).1 ∧
      ((handleAll settings objects m).trace w).calls =
        ((handleAll settings objects m).trace v).calls) ∨
    ∃ before o after kind m', CutShort settings objects m w v before o after kind m' := by
  induction objects generalizing m w v with
  | nil => exact .inl ⟨rfl, rfl⟩
  | cons o rest ih =>
    rcases deliver_compare settings o m hv with
      ⟨hsame, hcalls⟩ | ⟨hnone, kind, hkind, hrefused, hcalls⟩
    · cases hd : deliver settings o m v with
      | error failure =>
        have hlimited := hsame.trans hd
        left
        rw [run_handleAll_of_error hlimited, run_handleAll_of_error hd,
          trace_handleAll_of_error hlimited, trace_handleAll_of_error hd]
        exact ⟨rfl, hcalls⟩
      | ok d =>
        have hlimited := hsame.trans hd
        -- after the same calls for `o` the worlds are related as before
        rcases ih (d.record m) (hv.run (handle settings o m) hcalls) with
          ⟨hresult, hlater⟩ | ⟨before, o', after, kind, m', hcut⟩
        · left
          simp only [run_handleAll_of_ok hlimited, run_handleAll_of_ok hd,
            trace_handleAll_of_ok hlimited, trace_handleAll_of_ok hd, Trace.calls_append, hresult,
            hcalls, hlater, and_self]
        · exact .inr ⟨o :: before, o', after, kind, m', .cons hlimited hd hcalls hcut⟩
    · -- the wait for `o` has failed, and nothing has been called for it
      refine .inr ⟨[], o, rest, kind, m, ?_⟩
      constructor
      case objects_eq => rfl
      case delivered => exact ⟨[], rfl⟩
      case reached => exact ⟨v, rfl⟩
      case fetched => exact hnone
      case kind_eq => exact hkind
      case failed => rw [run_handleAll_of_error hrefused]
      case calls =>
        rw [trace_handleAll_of_error hrefused, hcalls]
        rfl

/-- With the same backends, the same calls send out the same. -/
lemma outgoing_of_calls {α β : Type} {p : Process α} {q : Process β} {w v : World}
    (hbackends : v.backends = w.backends) (hbefore : v.calls = w.calls)
    (hcalls : (p.trace w).calls = (q.trace v).calls) :
    (p.run w).2.calls.map Call.outgoing = (q.run v).2.calls.map Call.outgoing := by
  rw [(p.calls_run w).2, (q.calls_run v).2, hbackends, hbefore, hcalls]

/-- Limits can cut a pass short, and they change nothing else. Either a pass comes to the same as in
the world without limits, with the same calls, or it fails because a wait has ended without a token:
at an object that the pass without limits reaches as well and does not read back, with the map and
the calls that this one has after the objects before. -/
theorem limits_only_cut_short (settings : FetchSettings) (objects : List SecretObject)
    (m : VersionMap) (w : World) :
    let pass (objects : List SecretObject) := reconcile settings objects m
    let free := w.withoutLimits
    (((pass objects).run w).1 = ((pass objects).run free).1 ∧
      ((pass objects).trace w).calls = ((pass objects).trace free).calls ∧
      ((pass objects).run w).2.calls.map Call.outgoing =
        ((pass objects).run free).2.calls.map Call.outgoing) ∨
    ∃ before o after kind m',
      objects = before ++ o :: after ∧
      o.kind = .ok kind ∧
      ((pass objects).run w).1 = (.error (timedOut settings o kind), m') ∧
      (∃ later, (visits settings objects m (begun free))[before.length]? = some ⟨o, m', later⟩) ∧
      (∀ version, ¬ o.HasPin m' version) ∧
      (∃ values, ((pass before).run free).1 = (.ok values, m')) ∧
      ((pass objects).trace w).calls = ((pass before).trace free).calls ∧
      ((pass objects).run w).2.calls.map Call.outgoing =
        ((pass before).run free).2.calls.map Call.outgoing := by
  intro pass free
  have hresult (objects : List SecretObject) (w : World) :
      ((pass objects).run w).1 = ((handleAll settings objects m).run (begun w)).1 :=
    outcome_reconcile settings objects m w
  have hcalls (objects : List SecretObject) (w : World) :
      ((pass objects).trace w).calls = ((handleAll settings objects m).trace (begun w)).calls :=
    calls_reconcile settings objects m w
  have hfree : (begun w).Unlimits (begun free) := (begun w).unlimits_withoutLimits
  rcases handleAll_compare settings objects m hfree with
    ⟨hsame, hlater⟩ | ⟨before, o, after, kind, m', hcut⟩
  · have hall : ((pass objects).trace w).calls = ((pass objects).trace free).calls := by
      rw [hcalls, hcalls, hlater]
    exact .inl ⟨by rw [hresult, hresult, hsame], hall, outgoing_of_calls rfl rfl hall⟩
  · have hall : ((pass objects).trace w).calls = ((pass before).trace free).calls := by
      rw [hcalls, hcalls, hcut.calls]
    refine .inr ⟨before, o, after, kind, m', hcut.objects_eq, hcut.kind_eq, ?_, hcut.reached,
      hcut.fetched, ?_, hall, outgoing_of_calls rfl rfl hall⟩
    · rw [hresult, hcut.failed]
    · rw [hresult]
      exact hcut.delivered

end Pass

end SecretMount
