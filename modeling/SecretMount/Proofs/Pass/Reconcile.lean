import SecretMount.Proofs.Pass.Composition

/-!
# Passes

`Pass.reconcile` counts itself around the work of `Pass.handleAll`, and all that it comes to and
does is that of its work (`run_reconcile`, `trace_reconcile`). Main statement:
`reconcile_compositional`, on passes over several objects: they compose, they deliver in order, and
a failure leaves what the objects before it have left.
-/

namespace SecretMount

/-- Whether an event is counted once in each pass. -/
def Metrics.Event.isOncePerPass : Metrics.Event → Bool
  | .reconciliation | .reconciliationDuration _ => true
  | _ => false

/-- Whether something is done for the counters of the pass: looking at the clock and counting
what is counted once in each pass. -/
def Act.isOfPass : Act → Bool
  | .asked .clock _ => true
  | .asked (.count event) _ => event.isOncePerPass
  | _ => false

namespace Trace

/-- What is done apart from the counters of the pass. -/
def ofObjects (t : Trace) : Trace := t.filter (!·.isOfPass)

/-- What two traces do for the objects is done in both together. -/
@[simp] lemma ofObjects_append (s t : Trace) : ofObjects (s ++ t) = ofObjects s ++ ofObjects t :=
  List.filter_append s t

/-- What is done for the pass itself is not done for its objects. -/
lemma ofObjects_cons_of_pass {a : Act} (h : a.isOfPass = true) (t : Trace) :
    ofObjects (a :: t) = ofObjects t :=
  List.filter_cons_of_neg (by simp [h])

/-- The trace of counting some events. -/
def ofEvents (events : List Metrics.Event) : Trace :=
  events.map fun event => .asked (.count event) ()

/-- Of several events those count for the objects that are not counted once in each pass. -/
lemma ofObjects_ofEvents (events : List Metrics.Event) :
    ofObjects (ofEvents events) = ofEvents (events.filter (!·.isOncePerPass)) := by
  rw [ofObjects, ofEvents, List.filter_map]
  rfl

end Trace

/-- Two worlds that differ in the counters of passes only. -/
def World.SameButPassCounts (w v : World) : Prop :=
  w.SameButCounts v ∧
    w.events.filter (!·.isOncePerPass) = v.events.filter (!·.isOncePerPass)

namespace World.SameButPassCounts

variable {α : Type} {w v : World}

/-- Worlds that differ in the counters of passes still do when the same else is counted. -/
lemma count (h : w.SameButPassCounts v) {events events' : List Metrics.Event}
    (he : events.filter (!·.isOncePerPass) = events'.filter (!·.isOncePerPass)) :
    { w with events := w.events ++ events }.SameButPassCounts
      { v with events := v.events ++ events' } :=
  ⟨h.1, by rw [List.filter_append, List.filter_append, h.2, he]⟩

/-- A process runs alike in worlds that differ in the counters of passes. -/
lemma run (h : w.SameButPassCounts v) (p : Process α) :
    (p.run w).1 = (p.run v).1 ∧ (p.run w).2.SameButPassCounts (p.run v).2 := by
  obtain ⟨hresult, hafter⟩ := Process.run_sameButCounts p h.1
  refine ⟨hresult, hafter, ?_⟩
  rw [Process.events_run, Process.events_run, Process.trace_sameButCounts p h.1, List.filter_append,
    List.filter_append, h.2]

end World.SameButPassCounts

namespace Pass

open Process

variable {settings : FetchSettings} {o : SecretObject} {objects : List SecretObject}
  {m m' : VersionMap} {w : World} {d : Delivery} {failure : Failure} {values : List SecretValue}

/-- The world in which the work of a pass starts. -/
def begun (w : World) : World := { w with events := w.events ++ [.reconciliation] }

/-- What a pass counts for its outcome. -/
def outcomeEvents : Except Failure (List SecretValue) → List Metrics.Event
  | .ok _ => []
  | .error failure => [.error failure.kind.name]

/-- What a pass counts at its end. -/
def closing (start finish : Nat) (result : Except Failure (List SecretValue)) :
    List Metrics.Event :=
  .reconciliationDuration (RateLimit.secondsOfMilliseconds (finish - start)) ::
    outcomeEvents result

/-- Counting the outcome adds its events to the world. -/
lemma run_countOutcome (result : Except Failure (List SecretValue)) (w : World) :
    (countOutcome result).run w = ((), { w with events := w.events ++ outcomeEvents result }) := by
  cases result with
  | error failure => rfl
  | ok values => simp [countOutcome, outcomeEvents]

/-- Counting the outcome does nothing else. -/
lemma trace_countOutcome (result : Except Failure (List SecretValue)) (w : World) :
    (countOutcome result).trace w = .ofEvents (outcomeEvents result) := by
  cases result with
  | error failure => rfl
  | ok values => rfl

/-- A pass is the work for its objects, with the counters of the pass before and after it. -/
lemma run_reconcile (settings : FetchSettings) (objects : List SecretObject) (m : VersionMap)
    (w : World) :
    (reconcile settings objects m).run w =
      let work := (handleAll settings objects m).run (begun w)
      (work.1, { work.2 with
        events := work.2.events ++ closing w.clock work.2.clock work.1.1 }) := by
  simp only [reconcile, run_sequence, run_clock, run_count, run_pure, run_countOutcome, begun,
    closing, List.append_assoc, List.singleton_append]

/-- A pass comes to what its work comes to. -/
lemma outcome_reconcile (settings : FetchSettings) (objects : List SecretObject) (m : VersionMap)
    (w : World) :
    ((reconcile settings objects m).run w).1 =
      ((handleAll settings objects m).run (begun w)).1 := by
  rw [run_reconcile]

/-- A pass looks at the clock and counts around the work for its objects. -/
lemma trace_reconcile (settings : FetchSettings) (objects : List SecretObject) (m : VersionMap)
    (w : World) :
    (reconcile settings objects m).trace w =
      let work := (handleAll settings objects m).run (begun w)
      .asked .clock w.clock :: .asked (.count .reconciliation) () ::
        ((handleAll settings objects m).trace (begun w) ++ .asked .clock work.2.clock ::
          Trace.ofEvents (closing w.clock work.2.clock work.1.1)) := by
  simp only [reconcile, trace_sequence, run_clock, run_count, trace_clock, trace_count, trace_pure,
    trace_countOutcome, begun, closing, Trace.ofEvents, List.append_nil, List.map_cons,
    List.cons_append, List.nil_append]

/-- What is counted for an outcome does not depend on its values. -/
lemma outcomeEvents_map (result : Except Failure (List SecretValue))
    (f : List SecretValue → List SecretValue) :
    outcomeEvents (result.map f) = outcomeEvents result := by
  cases result with
  | error failure => rfl
  | ok values => rfl

/-- The outcome itself is counted for the objects. -/
lemma filter_outcomeEvents (result : Except Failure (List SecretValue)) :
    (outcomeEvents result).filter (!·.isOncePerPass) = outcomeEvents result := by
  cases result with
  | error failure => rfl
  | ok values => rfl

/-- Of what a pass counts at its end the outcome alone is counted for the objects. -/
lemma filter_closing (start finish : Nat) (result : Except Failure (List SecretValue)) :
    (closing start finish result).filter (!·.isOncePerPass) = outcomeEvents result := by
  rw [closing, List.filter_cons, filter_outcomeEvents]
  rfl

/-- What a pass does for its objects is the work for them and the count of its outcome. -/
lemma ofObjects_trace_reconcile (settings : FetchSettings) (objects : List SecretObject)
    (m : VersionMap) (w : World) :
    ((reconcile settings objects m).trace w).ofObjects =
      ((handleAll settings objects m).trace (begun w)).ofObjects ++
        Trace.ofEvents (outcomeEvents ((handleAll settings objects m).run (begun w)).1.1) := by
  rw [trace_reconcile, Trace.ofObjects_cons_of_pass rfl, Trace.ofObjects_cons_of_pass rfl,
    Trace.ofObjects_append, Trace.ofObjects_cons_of_pass rfl, Trace.ofObjects_ofEvents,
    filter_closing]

/-- The pass over two lists is the pass over the first, followed by the one over the second from
where the first has ended if that has succeeded. -/
structure Composes (settings : FetchSettings) (xs ys : List SecretObject) (m : VersionMap)
    (w : World) : Prop where
  failed {failure : Failure} {m' : VersionMap} :
    ((reconcile settings xs m).run w).1 = (.error failure, m') →
    (reconcile settings (xs ++ ys) m).run w = (reconcile settings xs m).run w ∧
    (reconcile settings (xs ++ ys) m).trace w = (reconcile settings xs m).trace w
  succeeded {values : List SecretValue} {m' : VersionMap} {w' : World} :
    (reconcile settings xs m).run w = ((.ok values, m'), w') →
    let second := (reconcile settings ys m').run w'
    let whole := (reconcile settings (xs ++ ys) m).run w
    whole.1 = (second.1.1.map (values ++ ·), second.1.2) ∧
    whole.2.SameButPassCounts second.2 ∧
    ((reconcile settings (xs ++ ys) m).trace w).ofObjects =
      ((reconcile settings xs m).trace w).ofObjects ++
        ((reconcile settings ys m').trace w').ofObjects

/-- Where the work for the first objects fails, more objects change nothing. -/
lemma handleAll_append_of_error (ys : List SecretObject)
    (h : ((handleAll settings objects m).run w).1 = (.error failure, m')) :
    (handleAll settings (objects ++ ys) m).run w = (handleAll settings objects m).run w ∧
    (handleAll settings (objects ++ ys) m).trace w = (handleAll settings objects m).trace w := by
  rw [handleAll_append, run_sequence, trace_sequence, h]
  exact ⟨Prod.ext h.symm rfl, List.append_nil _⟩

/-- Where the work for the first objects succeeds, the others go on with what it leaves. -/
lemma handleAll_append_of_ok (ys : List SecretObject)
    (h : ((handleAll settings objects m).run w).1 = (.ok values, m')) :
    let second := (handleAll settings ys m').run ((handleAll settings objects m).run w).2
    (handleAll settings (objects ++ ys) m).run w =
      ((second.1.1.map (values ++ ·), second.1.2), second.2) ∧
    (handleAll settings (objects ++ ys) m).trace w = (handleAll settings objects m).trace w ++
      (handleAll settings ys m').trace ((handleAll settings objects m).run w).2 := by
  rw [handleAll_append, run_sequence, trace_sequence, h]
  simp only [goOn, run_sequence, run_pure, trace_sequence, trace_pure, List.append_nil, and_self]

/-- Where the pass over the first objects fails, more objects change nothing. -/
lemma reconcile_append_of_error (ys : List SecretObject)
    (h : ((reconcile settings objects m).run w).1 = (.error failure, m')) :
    (reconcile settings (objects ++ ys) m).run w = (reconcile settings objects m).run w ∧
    (reconcile settings (objects ++ ys) m).trace w = (reconcile settings objects m).trace w := by
  rw [run_reconcile] at h
  obtain ⟨hrun, htrace⟩ := handleAll_append_of_error ys h
  constructor
  · rw [run_reconcile, run_reconcile, hrun]
  · rw [trace_reconcile, trace_reconcile, hrun, htrace]

/-- The work of a pass over more objects starts in the world in which that of the first has ended,
but for the counters of passes. -/
lemma begun_reconcile (h : ((handleAll settings objects m).run (begun w)).1 = (.ok values, m')) :
    ((handleAll settings objects m).run (begun w)).2.SameButPassCounts
      (begun ((reconcile settings objects m).run w).2) := by
  rw [run_reconcile]
  generalize (handleAll settings objects m).run (begun w) = work at h ⊢
  refine ⟨rfl, ?_⟩
  simp only [begun, h, List.filter_append, filter_closing, outcomeEvents, List.append_nil]
  exact (List.append_nil _).symm

/-- Where the pass over the first objects succeeds, a pass over the others goes on with what it
leaves. -/
lemma reconcile_append_of_ok {w' : World} (ys : List SecretObject)
    (h : (reconcile settings objects m).run w = ((.ok values, m'), w')) :
    let second := (reconcile settings ys m').run w'
    let whole := (reconcile settings (objects ++ ys) m).run w
    whole.1 = (second.1.1.map (values ++ ·), second.1.2) ∧
    whole.2.SameButPassCounts second.2 ∧
    ((reconcile settings (objects ++ ys) m).trace w).ofObjects =
      ((reconcile settings objects m).trace w).ofObjects ++
        ((reconcile settings ys m').trace w').ofObjects := by
  have hfirst : ((handleAll settings objects m).run (begun w)).1 = (.ok values, m') := by
    rw [run_reconcile] at h
    exact congrArg Prod.fst h
  -- both passes over `ys` start in worlds that differ in the counters of passes only
  have hsame := begun_reconcile hfirst
  rw [h] at hsame
  obtain ⟨hresult, hafter⟩ := hsame.run (handleAll settings ys m')
  have hsecond := trace_sameButCounts (handleAll settings ys m') hsame.1
  obtain ⟨hrun, htrace⟩ := handleAll_append_of_ok ys hfirst
  simp only [ofObjects_trace_reconcile, htrace, hrun, hfirst]
  rw [run_reconcile, run_reconcile, hrun, hsecond]
  simp only [hresult, outcomeEvents_map, Trace.ofObjects_append]
  refine ⟨trivial, hafter.count ?_, ?_⟩
  · rw [filter_closing, filter_closing, outcomeEvents_map]
  · have hnone : Trace.ofEvents (outcomeEvents (.ok values)) = [] := rfl
    rw [hnone, List.append_nil, List.append_assoc]

/-- Passes over two lists of objects compose, whether the first one succeeds or fails. -/
lemma composes (settings : FetchSettings) (xs ys : List SecretObject) (m : VersionMap)
    (w : World) : Composes settings xs ys m w :=
  ⟨reconcile_append_of_error ys, reconcile_append_of_ok ys⟩

/-- A pass that succeeds delivers for each of its objects, in order. -/
lemma reconcile_eq_ok (h : ((reconcile settings objects m).run w).1 = (.ok values, m')) :
    ∃ ds : List Delivery,
      (visits settings objects m (begun w)).map Visit.object = objects ∧
      List.Forall₂ (fun v d => v.outcome settings = .ok d)
        (visits settings objects m (begun w)) ds ∧
      values = ds.flatMap Delivery.values ∧
      m' = Delivery.recordAll ds m := by
  rw [run_reconcile] at h
  exact handleAll_eq_ok h

/-- Values come in the order of the objects, each object's own before those of its entries. -/
lemma reconcile_in_order (h : ((reconcile settings objects m).run w).1 = (.ok values, m')) :
    ∃ ds : List Delivery, List.Forall₂ (fun o d => d.IsOf o) objects ds ∧
      values = ds.flatMap Delivery.values ∧
      m' = Delivery.recordAll ds m := by
  obtain ⟨ds, hobjects, hds, hvalues, hmap⟩ := reconcile_eq_ok h
  exact ⟨ds, hobjects ▸ isOf_of_outcomes hds, hvalues, hmap⟩

/-- A pass that fails does so at one object, which the pass over the objects before leads up to. -/
lemma reconcile_eq_error (h : ((reconcile settings objects m).run w).1 = (.error failure, m')) :
    ∃ before o after values,
      objects = before ++ o :: after ∧
      ((reconcile settings before m).run w).1 = (.ok values, m') ∧
      ((reconcile settings (before ++ [o]) m).run w).1 = (.error failure, m') ∧
      deliver settings o m' ((handleAll settings before m).run (begun w)).2 = .error failure := by
  rw [run_reconcile] at h
  obtain ⟨before, o, after, values, rfl, hbefore, hlast⟩ := handleAll_eq_error h
  refine ⟨before, o, after, values, rfl, ?_, ?_, hlast⟩
  · rw [run_reconcile]
    exact hbefore
  · rw [run_reconcile, (handleAll_append_of_ok [o] hbefore).1, run_handleAll_of_error hlast]
    rfl

/-- A failure leaves the map as the objects before have left it, and nothing is done after it. -/
lemma reconcile_failure (h : ((reconcile settings objects m).run w).1 = (.error failure, m')) :
    ∃ before o after values,
      objects = before ++ o :: after ∧
      ((reconcile settings before m).run w).1 = (.ok values, m') ∧
      (reconcile settings objects m).run w = (reconcile settings (before ++ [o]) m).run w ∧
      (reconcile settings objects m).trace w = (reconcile settings (before ++ [o]) m).trace w := by
  obtain ⟨before, o, after, values, rfl, hbefore, hfails, -⟩ := reconcile_eq_error h
  obtain ⟨hrun, htrace⟩ := reconcile_append_of_error after hfails
  rw [List.append_assoc, List.singleton_append] at hrun htrace
  exact ⟨before, o, after, values, rfl, hbefore, hrun, htrace⟩

/-- Passes compose; the values of a pass are in the order of its objects, each followed by those of
its entries; and a failure leaves the map as a pass over the objects before the failing one does,
while nothing is done for the objects after it. -/
theorem reconcile_compositional (settings : FetchSettings) (m : VersionMap) (w : World) :
    (∀ xs ys, Composes settings xs ys m w) ∧
    (∀ objects values m', ((reconcile settings objects m).run w).1 = (.ok values, m') →
      ∃ ds : List Delivery, List.Forall₂ (fun o d => d.IsOf o) objects ds ∧
        values = ds.flatMap Delivery.values ∧
        m' = Delivery.recordAll ds m) ∧
    (∀ objects failure m', ((reconcile settings objects m).run w).1 = (.error failure, m') →
      ∃ before o after values,
        objects = before ++ o :: after ∧
        ((reconcile settings before m).run w).1 = (.ok values, m') ∧
        (reconcile settings objects m).run w = (reconcile settings (before ++ [o]) m).run w ∧
        (reconcile settings objects m).trace w =
          (reconcile settings (before ++ [o]) m).trace w) := by
  refine ⟨?_, ?_, ?_⟩
  · intro xs ys
    exact composes settings xs ys m w
  · intro objects values m' h
    exact reconcile_in_order h
  · intro objects failure m' h
    exact reconcile_failure h

end Pass

end SecretMount
