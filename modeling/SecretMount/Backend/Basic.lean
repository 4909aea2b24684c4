import SecretMount.Backend.Oos

/-!
# Backends

A backend is a store of its own or an adapter over a client of one of the two services. What it
answers to a call may depend on how many calls came before. A `Script` is a list of answers for the
first calls and an answer for all later ones.
-/

namespace SecretMount

/-- Where a call goes. -/
inductive Handler where
  | store (kind : BackendKind) (answer : Nat → Query → FetchResult)
  | kms (client : Nat → Kms.Request → Except BackendError Kms.Response)
  | oos (client : Nat → Oos.Request → Except BackendError Oos.Response)

/-- What goes out with a call. -/
inductive Outgoing where
  | store (kind : BackendKind) (query : Query)
  | kms (request : Kms.Request)
  | oos (request : Oos.Request)
deriving Repr, DecidableEq

/-- A handler and the number of calls it has had. -/
structure Backend where
  handler : Handler
  served : Nat := 0

namespace Backend

/-- The kind of secrets that the backend holds. -/
def kind (b : Backend) : BackendKind :=
  match b.handler with
  | .store kind _ => kind
  | .kms _ => .kms
  | .oos _ => .oos

/-- What goes out for a query. -/
def outgoing (b : Backend) (q : Query) : Outgoing :=
  match b.handler with
  | .store kind _ => .store kind q
  | .kms _ => .kms (.ofQuery q)
  | .oos _ => .oos (.ofQuery q)

/-- What the backend answers to a query now. -/
def answer (b : Backend) (q : Query) : FetchResult :=
  match b.handler with
  | .store _ answer => answer b.served q
  | .kms client => client b.served (.ofQuery q) >>= Kms.Response.secret
  | .oos client => client b.served (.ofQuery q) >>= Oos.Response.secret

/-- The backend after a call. -/
def next (b : Backend) : Backend :=
  { b with served := b.served + 1 }

/-- What goes out for a query does not depend on how many calls came before. -/
theorem outgoing_next (b : Backend) (q : Query) : b.next.outgoing q = b.outgoing q := rfl

end Backend

/-- Answers in the order of the calls, and one for every call after them. -/
structure Script (α : Type) where
  answers : List (Except BackendError α)
  fallback : Option (Except BackendError α)

namespace Script

/-- What a script without a fallback answers after its end. -/
def exhausted : BackendError := .remote "Script.Exhausted" "no answer left"

/-- The answer to the call after the given number of calls. -/
def answer {α : Type} (s : Script α) (n : Nat) : Except BackendError α :=
  match s.answers[n]? with
  | some a => a
  | none => s.fallback.getD (.error exhausted)

end Script

/-- One value for each kind of backend. -/
structure PerKind (α : Type) where
  kms : α
  oos : α
deriving Repr, DecidableEq

namespace PerKind

variable {α : Type}

/-- The value for a kind. -/
def get (p : PerKind α) : BackendKind → α
  | .kms => p.kms
  | .oos => p.oos

/-- Replaces the value for a kind. -/
def set (p : PerKind α) (kind : BackendKind) (a : α) : PerKind α :=
  match kind with
  | .kms => { p with kms := a }
  | .oos => { p with oos := a }

/-- What is put in for one kind is found for that kind and changes nothing for the other. -/
theorem get_set (p : PerKind α) (k j : BackendKind) (a : α) :
    (p.set k a).get j = if j = k then a else p.get j := by
  cases k <;> cases j <;> rfl

/-- The later of two values for one kind stands. -/
theorem set_set (p : PerKind α) (kind : BackendKind) (a b : α) :
    (p.set kind a).set kind b = p.set kind b := by
  cases kind <;> rfl

end PerKind

/-- The backends that are configured, one of each kind at most. -/
abbrev Backends := PerKind (Option Backend)

/-- Adds a backend in place of any other of its kind. -/
def Backends.register (bs : Backends) (b : Backend) : Backends :=
  PerKind.set bs b.kind (some b)

end SecretMount
