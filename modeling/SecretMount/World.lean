import SecretMount.Process

/-!
# Worlds

A world is what surrounds a process: a clock, limiters, backends and a disk, with the calls and the
events so far. `World.answer` replies to one request, and `Process.run` runs a process alone, so
that a sleep only moves the clock. Main statement: `run_bind`, a sequence is run by running its
parts one after the other.
-/

namespace SecretMount

/-- A call to a backend, with the time at which it went out. -/
structure Call where
  outgoing : Outgoing
  time : Nat
deriving Repr, DecidableEq

/-- What the mounted files answer to being read. -/
abbrev Disk := String → Except ReadFault ByteArray

/-- The surroundings of a process. -/
structure World where
  clock : Nat := 0
  limiter : Limiter := .unlimited
  backends : Backends := ⟨none, none⟩
  disk : Disk := fun _ => .error .missing
  /-- The calls so far, in order. -/
  calls : List Call := []
  /-- What has been counted so far, in order. -/
  events : List Metrics.Event := []

namespace World

/-- The reply to a call, and the world after it. -/
def call (w : World) (kind : BackendKind) (query : Query) : Option FetchResult × World :=
  match w.backends.get kind with
  | none => (none, w)
  | some backend =>
    (some (backend.answer query),
      { w with
        backends := w.backends.set kind (some backend.next)
        calls := w.calls ++ [⟨backend.outgoing query, w.clock⟩] })

/-- The reply to a request, and the world after it. -/
def answer (w : World) : (r : Request) → r.Reply × World
  | .clock => (w.clock, w)
  | .token kind =>
    let (reply, limiter) := Limiter.tryToken w.limiter kind w.clock
    (reply, { w with limiter })
  | .call kind query => w.call kind query
  | .read path => (w.disk path, w)
  | .count event => ((), { w with events := w.events ++ [event] })

/-- The world at a time, or now if that has passed. -/
def sleepUntil (w : World) (time : Nat) : World :=
  { w with clock := max w.clock time }

end World

namespace Process

variable {α β : Type}

/-- Runs a process that is alone in its world. -/
def run : Process α → World → α × World
  | .done a, w => (a, w)
  | .ask request next, w => (next (w.answer request).1).run (w.answer request).2
  | .sleepUntil time next, w => next.run (w.sleepUntil time)

/-- Two processes in sequence run one after the other, the second in the world that is left. -/
theorem run_bind (p : Process α) (f : α → Process β) (w : World) :
    (p.bind f).run w = (f (p.run w).1).run (p.run w).2 := by
  induction p generalizing w with
  | done a => rfl
  | ask request next ih => exact ih _ _
  | sleepUntil time next ih => exact ih _

end Process

end SecretMount
