import SecretMount.Json.Basic
import SecretMount.Json.Printer

/-!
# Metrics

What a pass does is counted. `Metrics.Event` is one thing to count or a sample of a duration, with
its label; `Metrics.delta` is by how much the metrics change through a list of events. A histogram
counts its samples, and those that are not above each of its bounds.
-/

namespace SecretMount.Metrics

/-- One thing that is counted, durations in seconds. -/
inductive Event where
  | reconciliation
  | reconciliationDuration (seconds : Float)
  | error (kind : String)
  | fetch (backend : String) (seconds : Float)
  | fetchError (backend : String)
  | retry (backend : String)
  | rateLimitWait (backend : String) (seconds : Float)
  | reload
  | extraction (count : Nat)

/-- A metric with its label. -/
structure Name where
  base : String
  label : Option String := none
deriving Repr, DecidableEq

/-- The text of a metric's name. -/
def Name.text (n : Name) : String :=
  match n.label with
  | none => n.base
  | some label => n.base ++ ":" ++ label

/-- What an event adds to a metric: a number to a counter, or a sample to a histogram. -/
inductive Change where
  | count (n : Nat)
  | sample (bounds : List Float) (seconds : Float)

/-- The bounds of the histogram of passes. -/
def reconciliationBounds : List Float := [0.1, 0.5, 1, 2, 5, 10, 30]

/-- The bounds of the histogram of calls. -/
def fetchBounds : List Float := [0.05, 0.1, 0.5, 1, 2, 5]

/-- The bounds of the histogram of waits. -/
def waitBounds : List Float := [0, 0.1, 0.5, 1, 5, 30, 120, 300]

/-- The metrics that an event changes. -/
def Event.changes : Event → List (Name × Change)
  | .reconciliation => [(⟨"reconciliations_total", none⟩, .count 1)]
  | .reconciliationDuration s =>
    [(⟨"reconciliation_duration_seconds", none⟩, .sample reconciliationBounds s)]
  | .error kind => [(⟨"errors_total", some kind⟩, .count 1)]
  | .fetch backend s =>
    [(⟨"backend_fetches_total", some backend⟩, .count 1),
      (⟨"backend_fetch_duration_seconds", some backend⟩, .sample fetchBounds s)]
  | .fetchError backend => [(⟨"backend_fetch_errors_total", some backend⟩, .count 1)]
  | .retry backend => [(⟨"backend_retries_total", some backend⟩, .count 1)]
  | .rateLimitWait backend s =>
    [(⟨"rate_limit_wait_seconds", some backend⟩, .sample waitBounds s)]
  | .reload => [(⟨"secrets_reloaded_total", none⟩, .count 1)]
  | .extraction n => [(⟨"jmes_secrets_total", none⟩, .count n)]

/-- By how much a metric has changed: a number, or the samples of a histogram in all and up to each
bound. -/
inductive Amount where
  | count (n : Nat)
  | samples (total : Nat) (upTo : List Nat)
deriving Repr, DecidableEq

/-- The amount of one change. -/
def Change.amount : Change → Amount
  | .count n => .count n
  | .sample bounds s => .samples 1 (bounds.map fun bound => if s ≤ bound then 1 else 0)

/-- Two amounts of one metric together. -/
def Amount.add : Amount → Amount → Amount
  | .count m, .count n => .count (m + n)
  | .samples m ms, .samples n ns => .samples (m + n) (List.zipWith (· + ·) ms ns)
  | a, _ => a

/-- Whether an amount is nothing. -/
def Amount.isZero : Amount → Bool
  | .count n => n = 0
  | .samples total _ => total = 0

/-- Adds a change to the amounts so far. -/
def addChange (amounts : List (String × Amount)) (name : Name) (change : Change) :
    List (String × Amount) :=
  let amount := match KeyedList.get? name.text amounts with
    | some before => before.add change.amount
    | none => change.amount
  KeyedList.insert name.text amount amounts

/-- By how much the metrics change through the events; what does not change is left out. -/
def delta (events : List Event) : List (String × Amount) :=
  let amounts := (events.flatMap Event.changes).foldl (fun acc c => addChange acc c.1 c.2) []
  amounts.filter fun e => !e.2.isZero

end SecretMount.Metrics
