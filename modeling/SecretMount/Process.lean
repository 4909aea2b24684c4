import SecretMount.Backend.Basic
import SecretMount.Metrics
import SecretMount.RateLimit.Limiter

/-!
# Processes

A process is a computation that asks its surroundings and sleeps: it ends with a result, puts a
request and goes on with the reply, or sleeps until a time. What a process does is fixed by its
definition; the surroundings that answer it may serve one process alone or several in turn. Main
statement: `bind_assoc`, processes can be put in sequence.
-/

namespace SecretMount

/-- What a process asks for. -/
inductive Request where
  | clock
  | token (kind : BackendKind)
  /-- A call to the backend of a kind, which answers nothing if there is none. -/
  | call (kind : BackendKind) (query : Query)
  | read (path : String)
  | count (event : Metrics.Event)

/-- The type of the reply to a request. -/
abbrev Request.Reply : Request → Type
  | .clock => Nat
  | .token _ => TokenReply
  | .call _ _ => Option FetchResult
  | .read _ => Except ReadFault ByteArray
  | .count _ => Unit

/-- A computation that asks and sleeps. -/
inductive Process (α : Type) where
  | done (a : α)
  | ask (request : Request) (next : request.Reply → Process α)
  | sleepUntil (time : Nat) (next : Process α)

namespace Process

variable {α β γ : Type}

/-- Goes on with the result of a process. -/
def bind : Process α → (α → Process β) → Process β
  | .done a, f => f a
  | .ask request next, f => .ask request fun reply => (next reply).bind f
  | .sleepUntil time next, f => .sleepUntil time (next.bind f)

instance : Monad Process where
  pure := .done
  bind := bind

/-- Puts a request. -/
def request (r : Request) : Process r.Reply :=
  .ask r .done

/-- The time. -/
def clock : Process Nat := request .clock

/-- Tries to take a token. -/
def token (kind : BackendKind) : Process TokenReply := request (.token kind)

/-- Calls a backend. -/
def call (kind : BackendKind) (query : Query) : Process (Option FetchResult) :=
  request (.call kind query)

/-- Reads a file. -/
def read (path : String) : Process (Except ReadFault ByteArray) := request (.read path)

/-- Counts an event. -/
def count (event : Metrics.Event) : Process Unit := request (.count event)

/-- Sleeps until a time. -/
def sleepTo (time : Nat) : Process Unit := .sleepUntil time (.done ())

/-- Three processes in sequence are the same however they are grouped. -/
theorem bind_assoc (p : Process α) (f : α → Process β) (g : β → Process γ) :
    (p.bind f).bind g = p.bind fun a => (f a).bind g := by
  induction p with
  | done a => rfl
  | ask r next ih => simp only [bind, ih]
  | sleepUntil t next ih => simp only [bind, ih]

/-- A process that is followed by nothing is itself. -/
theorem bind_done (p : Process α) : p.bind .done = p := by
  induction p with
  | done a => rfl
  | ask r next ih => simp only [bind, ih]
  | sleepUntil t next ih => simp only [bind, ih]

instance : LawfulMonad Process :=
  LawfulMonad.mk' Process bind_done (fun _ _ => rfl) bind_assoc

end Process

end SecretMount
