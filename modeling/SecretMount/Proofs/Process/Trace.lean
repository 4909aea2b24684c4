import Mathlib.Tactic.Lemma
import SecretMount.World

/-!
# Traces of processes

`Process.trace` lists what a process does that is alone in its world: the requests that it puts,
with their replies, and its sleeps. The trace of a sequence is the trace of its parts
(`trace_bind`). The calls in it say what has gone out to the backends and how they are left
(`calls_run`).

`Process.Asks P` says that a process puts only requests with the property `P`, whatever it is
replied. It is shown along the definition of a process (`asks_bind`) and then says what its trace is
free of (`reads_trace`, `calls_trace`, `tokens_trace`), and so whether it leaves the backends as they
are (`backends_run`).
-/

namespace SecretMount

/-- One thing that a process does: it puts a request and has the reply, or it sleeps until a time.
-/
inductive Act where
  | asked (request : Request) (reply : request.Reply)
  | slept (time : Nat)

/-- What a process does, in order. -/
abbrev Trace := List Act

/-- A call that a backend answered. -/
structure AnsweredCall where
  kind : BackendKind
  query : Query
  result : FetchResult

namespace Act

/-- The path of a read. -/
def read? : Act → Option String
  | .asked (.read path) _ => some path
  | _ => none

/-- The call, if it is one that a backend answered. -/
def call? : Act → Option AnsweredCall
  | .asked (.call kind query) reply => reply.map fun result => ⟨kind, query, result⟩
  | _ => none

/-- The kind whose limiter is asked for a token. -/
def token? : Act → Option BackendKind
  | .asked (.token kind) _ => some kind
  | _ => none

end Act

namespace Trace

/-- The paths that are read. -/
def reads (t : Trace) : List String := t.filterMap Act.read?

/-- The calls that a backend answered. -/
def calls (t : Trace) : List AnsweredCall := t.filterMap Act.call?

/-- The kinds whose limiters are asked for a token. -/
def tokens (t : Trace) : List BackendKind := t.filterMap Act.token?

/-- Nothing is read where nothing is done. -/
@[simp] lemma reads_nil : reads [] = [] := rfl

/-- Nothing is called where nothing is done. -/
@[simp] lemma calls_nil : calls [] = [] := rfl

/-- No token is asked for where nothing is done. -/
@[simp] lemma tokens_nil : tokens [] = [] := rfl

/-- The paths that a trace reads are that of its first act, if it is a read, and those of the
others. -/
@[simp] lemma reads_cons (a : Act) (t : Trace) : reads (a :: t) = a.read?.toList ++ reads t := by
  cases h : a.read? <;> simp [reads, h]

/-- The calls of a trace are its first act, if that was answered, and those of the others. -/
@[simp] lemma calls_cons (a : Act) (t : Trace) : calls (a :: t) = a.call?.toList ++ calls t := by
  cases h : a.call? <;> simp [calls, h]

/-- The tokens that a trace asks for are that of its first act, if it is one, and those of the
others. -/
@[simp] lemma tokens_cons (a : Act) (t : Trace) :
    tokens (a :: t) = a.token?.toList ++ tokens t := by
  cases h : a.token? <;> simp [tokens, h]

/-- What is read in two traces is read in both together. -/
@[simp] lemma reads_append (s t : Trace) : reads (s ++ t) = reads s ++ reads t :=
  List.filterMap_append

/-- What is called in two traces is called in both together. -/
@[simp] lemma calls_append (s t : Trace) : calls (s ++ t) = calls s ++ calls t :=
  List.filterMap_append

/-- The tokens that are asked for in two traces are asked for in both together. -/
@[simp] lemma tokens_append (s t : Trace) : tokens (s ++ t) = tokens s ++ tokens t :=
  List.filterMap_append

/-- What is read in several traces is read in all of them together. -/
lemma reads_flatMap {ι : Type} (l : List ι) (f : ι → Trace) :
    reads (l.flatMap f) = l.flatMap fun i => reads (f i) :=
  List.filterMap_flatMap

end Trace

namespace Backends

/-- The backends after a call that one of them has answered. -/
def serve (bs : Backends) (c : AnsweredCall) : Backends :=
  PerKind.set bs c.kind ((PerKind.get bs c.kind).map Backend.next)

/-- The backends after several calls. -/
def after (bs : Backends) (calls : List AnsweredCall) : Backends := calls.foldl serve bs

/-- What goes out with several calls. -/
def sent (bs : Backends) : List AnsweredCall → List Outgoing
  | [] => []
  | c :: rest =>
    ((PerKind.get bs c.kind).map (·.outgoing c.query)).toList ++ (bs.serve c).sent rest

/-- A backend that is configured stays so, and none is added. -/
lemma isSome_after (bs : Backends) (calls : List AnsweredCall) (kind : BackendKind) :
    (PerKind.get (bs.after calls) kind).isSome = (PerKind.get bs kind).isSome := by
  induction calls generalizing bs with
  | nil => rfl
  | cons c rest ih =>
    refine (ih (bs.serve c)).trans ?_
    rw [serve, PerKind.get_set]
    split
    case isTrue heq => rw [heq, Option.isSome_map]
    case isFalse => rfl

end Backends

namespace World

variable {w : World} {kind : BackendKind} {query : Query}

/-- A call without a backend is not answered and changes nothing. -/
lemma call_of_none (h : w.backends.get kind = none) : w.call kind query = (none, w) := by
  rw [World.call, h]

/-- A call is answered by its backend, which has served one more, and is recorded with its time. -/
lemma call_of_some {backend : Backend} (h : w.backends.get kind = some backend) :
    w.call kind query = (some (backend.answer query),
      { w with
        backends := w.backends.set kind (some backend.next)
        calls := w.calls ++ [⟨backend.outgoing query, w.clock⟩] }) := by
  rw [World.call, h]

end World

namespace Process

variable {α β : Type} {P : Request → Prop}

/-- What a process does that is alone in its world. -/
def trace : Process α → World → Trace
  | .done _, _ => []
  | .ask request next, w =>
    .asked request (w.answer request).1 :: (next (w.answer request).1).trace (w.answer request).2
  | .sleepUntil time next, w => .slept time :: next.trace (w.sleepUntil time)

/-- A result changes nothing. -/
@[simp] lemma run_pure (a : α) (w : World) : (pure a : Process α).run w = (a, w) := rfl

/-- Two processes in sequence run one after the other. -/
@[simp] lemma run_sequence (p : Process α) (f : α → Process β) (w : World) :
    (p >>= f).run w = (f (p.run w).1).run (p.run w).2 := run_bind p f w

/-- A map of the result leaves the same world. -/
@[simp] lemma run_map (f : α → β) (p : Process α) (w : World) :
    (f <$> p).run w = (f (p.run w).1, (p.run w).2) := by
  rw [map_eq_pure_bind, run_sequence, run_pure]

/-- Looking at the clock changes nothing. -/
@[simp] lemma run_clock (w : World) : clock.run w = (w.clock, w) := rfl

/-- A call runs as the world answers it. -/
@[simp] lemma run_call (kind : BackendKind) (query : Query) (w : World) :
    (call kind query).run w = w.call kind query := rfl

/-- A file is read from the disk and nothing changes. -/
@[simp] lemma run_read (path : String) (w : World) :
    (read path).run w = (w.disk path, w) := rfl

/-- A count is added to those so far. -/
@[simp] lemma run_count (event : Metrics.Event) (w : World) :
    (count event).run w = ((), { w with events := w.events ++ [event] }) := rfl

/-- A sleep moves the clock. -/
@[simp] lemma run_sleepTo (time : Nat) (w : World) :
    (sleepTo time).run w = ((), w.sleepUntil time) := rfl

/-- Two processes in sequence do what the first does and then what the second does. -/
lemma trace_bind (p : Process α) (f : α → Process β) (w : World) :
    (p.bind f).trace w = p.trace w ++ (f (p.run w).1).trace (p.run w).2 := by
  induction p generalizing w with
  | done a => rfl
  | ask request next ih => simp only [bind, trace, run, ih, List.cons_append]
  | sleepUntil time next ih => simp only [bind, trace, run, ih, List.cons_append]

/-- A sequence that is written with the bind of the monad has the trace of its parts too. -/
@[simp] lemma trace_sequence (p : Process α) (f : α → Process β) (w : World) :
    (p >>= f).trace w = p.trace w ++ (f (p.run w).1).trace (p.run w).2 := trace_bind p f w

/-- A result is no act. -/
@[simp] lemma trace_pure (a : α) (w : World) : (pure a : Process α).trace w = [] := rfl

/-- A map of the result is no act. -/
@[simp] lemma trace_map (f : α → β) (p : Process α) (w : World) :
    (f <$> p).trace w = p.trace w := by
  rw [map_eq_pure_bind, trace_sequence, trace_pure, List.append_nil]

/-- Looking at the clock is one act. -/
@[simp] lemma trace_clock (w : World) : clock.trace w = [.asked .clock w.clock] := rfl

/-- A call is one act. -/
@[simp] lemma trace_call (kind : BackendKind) (query : Query) (w : World) :
    (call kind query).trace w = [.asked (.call kind query) (w.call kind query).1] := rfl

/-- Reading a file is one act. -/
@[simp] lemma trace_read (path : String) (w : World) :
    (read path).trace w = [.asked (.read path) (w.disk path)] := rfl

/-- Counting is one act. -/
@[simp] lemma trace_count (event : Metrics.Event) (w : World) :
    (count event).trace w = [.asked (.count event) ()] := rfl

/-- A sleep is one act. -/
@[simp] lemma trace_sleepTo (time : Nat) (w : World) :
    (sleepTo time).trace w = [.slept time] := rfl

/-- Whatever it is replied, the process puts only requests with the property. -/
def Asks (P : Request → Prop) : Process α → Prop
  | .done _ => True
  | .ask request next => P request ∧ ∀ reply, (next reply).Asks P
  | .sleepUntil _ next => next.Asks P

/-- A result asks for nothing. -/
lemma asks_pure (a : α) : (pure a : Process α).Asks P := trivial

/-- A request asks for itself. -/
lemma asks_request {r : Request} (h : P r) : (request r).Asks P := ⟨h, fun _ => trivial⟩

/-- A sleep asks for nothing. -/
lemma asks_sleepTo (time : Nat) : (sleepTo time).Asks P := trivial

/-- Two processes in sequence ask for what each of them asks for. -/
lemma asks_bind {p : Process α} {f : α → Process β} (hp : p.Asks P) (hf : ∀ a, (f a).Asks P) :
    (p >>= f).Asks P := by
  show (p.bind f).Asks P
  induction p with
  | done a => exact hf a
  | ask request next ih => exact ⟨hp.1, fun reply => ih reply (hp.2 reply)⟩
  | sleepUntil time next ih => exact ih hp

/-- What is asked for may be described more coarsely. -/
lemma Asks.mono {Q : Request → Prop} {p : Process α} (h : p.Asks P) (hPQ : ∀ r, P r → Q r) :
    p.Asks Q := by
  induction p with
  | done a => trivial
  | ask request next ih => exact ⟨hPQ _ h.1, fun reply => ih reply (h.2 reply)⟩
  | sleepUntil time next ih => exact ih h

/-- A trace holds only requests that the process can put. -/
lemma Asks.of_mem_trace {p : Process α} (h : p.Asks P) {w : World} {r : Request} {reply : r.Reply}
    (hmem : .asked r reply ∈ p.trace w) : P r := by
  induction p generalizing w with
  | done a => cases hmem
  | ask request next ih =>
    cases hmem with
    | head => exact h.1
    | tail _ hmem => exact ih _ (h.2 _) hmem
  | sleepUntil time next ih =>
    cases hmem with
    | tail _ hmem => exact ih h hmem

/-- What no permitted request and no sleep shows cannot be seen in a trace. -/
lemma Asks.filterMap_trace {γ : Type} {p : Process α} (h : p.Asks P) {g : Act → Option γ}
    (hask : ∀ r reply, P r → g (.asked r reply) = none) (hsleep : ∀ time, g (.slept time) = none)
    (w : World) : (p.trace w).filterMap g = [] := by
  apply List.filterMap_eq_nil_iff.2
  intro a ha
  cases a with
  | asked r reply => exact hask r reply (h.of_mem_trace ha)
  | slept time => exact hsleep time

/-- A process that asks for no file reads none. -/
lemma Asks.reads_trace {p : Process α} (h : p.Asks P) (hP : ∀ path, ¬ P (.read path)) (w : World) :
    (p.trace w).reads = [] := by
  apply h.filterMap_trace _ (fun _ => rfl) w
  intro r reply hr
  cases r with
  | read path => exact absurd hr (hP path)
  | _ => rfl

/-- A process that asks for no call makes none. -/
lemma Asks.calls_trace {p : Process α} (h : p.Asks P) (hP : ∀ kind query, ¬ P (.call kind query))
    (w : World) : (p.trace w).calls = [] := by
  apply h.filterMap_trace _ (fun _ => rfl) w
  intro r reply hr
  cases r with
  | call kind query => exact absurd hr (hP kind query)
  | _ => rfl

/-- A process that asks for no token tries for none. -/
lemma Asks.tokens_trace {p : Process α} (h : p.Asks P) (hP : ∀ kind, ¬ P (.token kind))
    (w : World) : (p.trace w).tokens = [] := by
  apply h.filterMap_trace _ (fun _ => rfl) w
  intro r reply hr
  cases r with
  | token kind => exact absurd hr (hP kind)
  | _ => rfl

/-- The calls of a run decide how it leaves the backends and what has gone out to them. -/
lemma calls_run (p : Process α) (w : World) :
    (p.run w).2.backends = w.backends.after (p.trace w).calls ∧
    (p.run w).2.calls.map Call.outgoing =
      w.calls.map Call.outgoing ++ w.backends.sent (p.trace w).calls := by
  induction p generalizing w with
  | done a => exact ⟨rfl, (List.append_nil _).symm⟩
  | ask request next ih =>
    obtain ⟨hbackends, hsent⟩ := ih (w.answer request).1 (w.answer request).2
    rw [run, trace, hbackends, hsent]
    cases request with
    | call kind query =>
      cases hb : w.backends.get kind <;>
        simp [World.answer, World.call, hb, Act.call?, Backends.after, Backends.sent, Backends.serve]
    | clock => exact ⟨rfl, rfl⟩
    | token kind => exact ⟨rfl, rfl⟩
    | read path => exact ⟨rfl, rfl⟩
    | count event => exact ⟨rfl, rfl⟩
  | sleepUntil time next ih => exact ih _

/-- A process that asks for no call leaves the backends as they are. -/
lemma Asks.backends_run {p : Process α} (h : p.Asks P) (hP : ∀ kind query, ¬ P (.call kind query))
    (w : World) : (p.run w).2.backends = w.backends := by
  rw [(p.calls_run w).1, h.calls_trace hP]
  rfl

/-- Which backends there are does not change while a process runs. -/
lemma backends_isSome_run (p : Process α) (w : World) (kind : BackendKind) :
    ((p.run w).2.backends.get kind).isSome = (w.backends.get kind).isSome := by
  rw [(p.calls_run w).1, Backends.isSome_after]

end Process

end SecretMount
