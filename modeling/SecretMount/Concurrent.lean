import SecretMount.Pass
import SecretMount.World

/-!
# Processes side by side

Several processes share one world. Each runs until it sleeps or ends; then the clock moves to the
first time at which one wakes up. Of those that wake up at the same time the one that went to sleep
first goes first. `Concurrent.run` needs a bound on how often processes wake up.
-/

namespace SecretMount.Concurrent

/-- A process that sleeps, and when it wakes up. -/
structure Sleeper (α : Type) where
  wake : Nat
  process : Process α

/-- How far a process gets: to its end, or to a sleep. -/
inductive Progress (α : Type) where
  | ended (a : α)
  | asleep (sleeper : Sleeper α)

/-- Runs a process until it sleeps or ends. -/
def advance {α : Type} : Process α → World → Progress α × World
  | .done a, w => (.ended a, w)
  | .ask request next, w => advance (next (w.answer request).1) (w.answer request).2
  | .sleepUntil time next, w =>
    if time ≤ w.clock then advance next w else (.asleep ⟨time, next⟩, w)

/-- What has happened: who sleeps, in the order of going to sleep, and the results so far with the
times at which they came. -/
structure State (α : Type) where
  world : World
  sleepers : List (Sleeper α) := []
  ended : List (Nat × α) := []

/-- Lets one process go on. -/
def State.step {α : Type} (s : State α) (p : Process α) : State α :=
  match advance p s.world with
  | (.ended a, world) => { s with world, ended := s.ended ++ [(world.clock, a)] }
  | (.asleep sleeper, world) => { s with world, sleepers := s.sleepers ++ [sleeper] }

/-- The sleeper that wakes up first, the earlier one in the list at a tie, and the others. -/
def earliest {α : Type} : List (Sleeper α) → Option (Sleeper α × List (Sleeper α))
  | [] => none
  | s :: rest =>
    match earliest rest with
    | none => some (s, rest)
    | some (t, others) => if t.wake < s.wake then some (t, s :: others) else some (s, rest)

/-- Wakes up sleepers until all processes have ended. -/
def wakeAll {α : Type} : Nat → State α → State α
  | 0, s => s
  | fuel + 1, s =>
    match earliest s.sleepers with
    | none => s
    | some (t, others) =>
      let woken := { s with world := s.world.sleepUntil t.wake, sleepers := others }
      wakeAll fuel (woken.step t.process)

/-- Runs processes side by side; the results come with their times, in the order of ending. -/
def run {α : Type} (wakeUps : Nat) (processes : List (Process α)) (w : World) :
    List (Nat × α) × World :=
  let s := wakeAll wakeUps (processes.foldl State.step { world := w })
  (s.ended, s.world)

/-- How often a wait for a token wakes up at most: each sleep takes a millisecond. -/
def wakeUpsOfWait (timeout : Duration.Nanoseconds) : Nat :=
  Duration.ceilMilliseconds timeout + 1

/-- Several waits for a token at once. -/
def waitTogether (n : Nat) (kind : BackendKind) (timeout : Duration.Nanoseconds) (w : World) :
    List (Nat × Except RateLimitExceeded Nat) × World :=
  run (n * wakeUpsOfWait timeout) (List.replicate n (Pass.wait kind timeout)) w

/-- Several passes over the same objects at once, each with a map of its own. -/
def reconcileTogether (n : Nat) (settings : FetchSettings) (objects : List SecretObject)
    (m : VersionMap) (w : World) : List (Nat × Except Failure (List SecretValue)) × World :=
  let pass := (fun r => r.1) <$> Pass.reconcile settings objects m
  run (n * (objects.length * (wakeUpsOfWait settings.waitTimeout + 1)))
    (List.replicate n pass) w

end SecretMount.Concurrent
