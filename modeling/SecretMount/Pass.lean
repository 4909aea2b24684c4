import SecretMount.Process
import SecretMount.SecretValue
import SecretMount.VersionMap
import SecretMount.Backoff

/-!
# Passes over a batch

A pass takes the objects of a batch in order. An object whose pinned version is the mounted one is
read back from its file; any other is fetched: it waits for a token of its backend, the backend is
called, and once more after a delay if the first call failed for a reason that passes. Then the
parts of the payload are extracted, and the version is recorded for the object and its parts. The
first failure ends the pass; what was recorded for the objects before stays.
-/

namespace SecretMount

/-- How long a fetch waits for a token, and how long it sleeps before its second call. -/
structure FetchSettings where
  backoff : Backoff := {}
  waitTimeout : Duration.Nanoseconds := Duration.ofSeconds 300
deriving Repr, DecidableEq

/-- The version to keep if the object's file holds it already: the mounted version, if it is the
pinned one. -/
def SecretObject.current? (o : SecretObject) (m : VersionMap) : Option String := do
  let stored ← m.get? o.fileName
  let pinned ← o.version?
  if stored = pinned then some stored else none

namespace Pass

open Process

/-- Tries to take a token, now and whenever there may be one, up to a deadline. Gives the time at
which it was taken. A sleep is one millisecond long at least. -/
def acquire (kind : BackendKind) (deadline now : Nat) : Process (Option Nat) := do
  match ← token kind with
  | .unlimited => pure (some now)
  | .admitted => pure (some now)
  | .never => do
    sleepTo deadline
    pure none
  | .retryAfter ms =>
    if now + max ms 1 ≤ deadline then do
      sleepTo (now + max ms 1)
      acquire kind deadline (now + max ms 1)
    else do
      sleepTo deadline
      pure none
termination_by deadline - now
decreasing_by omega

/-- Waits for a token; gives the milliseconds that it took. -/
def wait (kind : BackendKind) (timeout : Duration.Nanoseconds) :
    Process (Except RateLimitExceeded Nat) := do
  let start ← clock
  let limit := Duration.ceilMilliseconds timeout
  match ← acquire kind (start + limit) start with
  | some time => pure (.ok (time - start))
  | none => pure (.error ⟨kind, Duration.ofMilliseconds limit⟩)

/-- Calls a backend and counts the call. A call takes no time on the clock. -/
def callCounted (kind : BackendKind) (query : Query) : Process (Option FetchResult) := do
  match ← call kind query with
  | none => pure none
  | some result => do
    count (.fetch kind.name 0)
    match result with
    | .ok _ => pure (some result)
    | .error _ => do
      count (.fetchError kind.name)
      pure (some result)

/-- The number of the attempt that the delay before the second call counts as. -/
def retryAttempt : Nat := 1

/-- Calls the backend again after the delay. -/
def retry (settings : FetchSettings) (kind : BackendKind) (query : Query) :
    Process (Option FetchResult) := do
  count (.retry kind.name)
  let now ← clock
  sleepTo (now + Duration.ceilMilliseconds (settings.backoff.delay retryAttempt))
  callCounted kind query

/-- Calls the backend, and once more if the first call failed for a reason that passes. -/
def callWithRetry (settings : FetchSettings) (kind : BackendKind) (query : Query) :
    Process (Option FetchResult) := do
  match ← callCounted kind query with
  | some (.error e) =>
    if e.isTransient then retry settings kind query else pure (some (.error e))
  | result => pure result

/-- The outcome of a fetch for an object. -/
def ofFetchResult (o : SecretObject) (kind : BackendKind) :
    Option FetchResult → Except Failure (String × SecretValue)
  | none => .error (.configuration (.missingClient kind))
  | some (.error e) => .error (.fetch o.name e.message)
  | some (.ok secret) => .ok (secret.version, ⟨secret.bytes, o⟩)

/-- Fetches an object: type, token, client and call, in this order. -/
def fetch (settings : FetchSettings) (o : SecretObject) :
    Process (Except Failure (String × SecretValue)) := do
  match o.kind with
  | .error failure => pure (.error failure)
  | .ok kind =>
    match ← wait kind settings.waitTimeout with
    | .error e => pure (.error (.rateLimitTimeout o.name e.kind e.waited))
    | .ok waited => do
      count (.rateLimitWait kind.name (RateLimit.secondsOfMilliseconds waited))
      let result ← callWithRetry settings kind o.query
      pure (ofFetchResult o kind result)

/-- Reads an object back from its file. -/
def reload (o : SecretObject) (version : String) :
    Process (Except Failure (String × SecretValue)) := do
  match ← read o.mountPath with
  | .error fault => pure (.error (.diskRead o.displayName o.mountPath fault))
  | .ok bytes => do
    count .reload
    pure (.ok (version, ⟨bytes, o⟩))

/-- The version and the value of an object. -/
def obtain (settings : FetchSettings) (o : SecretObject) (m : VersionMap) :
    Process (Except Failure (String × SecretValue)) :=
  match o.current? m with
  | some version => reload o version
  | none => fetch settings o

/-- The map after an object: the version under the file names of its parts and its own. -/
def record (m : VersionMap) (version : String) (value : SecretValue) (parts : List SecretValue) :
    VersionMap :=
  (m.insertEach (parts.map fun part => part.object.fileName) version).insert
    value.object.fileName version

/-- Counts the parts of a payload, if there are any. -/
def countParts (parts : List SecretValue) : Process Unit :=
  if parts = [] then pure () else count (.extraction parts.length)

/-- The values of an object, its own first, and the map after it. -/
def handle (settings : FetchSettings) (o : SecretObject) (m : VersionMap) :
    Process (Except Failure (List SecretValue × VersionMap)) := do
  match ← obtain settings o m with
  | .error failure => pure (.error failure)
  | .ok (version, value) =>
    match value.extract with
    | .error failure => pure (.error failure)
    | .ok parts => do
      countParts parts
      pure (.ok (value :: parts, record m version value parts))

/-- The values of the objects in order, and the map after the last one that succeeded. -/
def handleAll (settings : FetchSettings) :
    List SecretObject → VersionMap → Process (Except Failure (List SecretValue) × VersionMap)
  | [], m => pure (.ok [], m)
  | o :: rest, m => do
    match ← handle settings o m with
    | .error failure => pure (.error failure, m)
    | .ok (values, m) => do
      let (result, m) ← handleAll settings rest m
      pure (result.map (values ++ ·), m)

/-- Counts a failure by its kind. -/
def countOutcome {α : Type} : Except Failure α → Process Unit
  | .ok _ => pure ()
  | .error failure => count (.error failure.kind.name)

/-- A pass: its values or its failure, and the map after it. -/
def reconcile (settings : FetchSettings) (objects : List SecretObject) (m : VersionMap) :
    Process (Except Failure (List SecretValue) × VersionMap) := do
  let start ← clock
  count .reconciliation
  let (result, m) ← handleAll settings objects m
  let finish ← clock
  count (.reconciliationDuration (RateLimit.secondsOfMilliseconds (finish - start)))
  countOutcome result
  pure (result, m)

end Pass

end SecretMount
