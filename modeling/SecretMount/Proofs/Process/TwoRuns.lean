import Mathlib.Data.Option.Defs
import Mathlib.Logic.Function.Iterate
import SecretMount.Proofs.Except
import SecretMount.Proofs.Process.Trace

/-!
# Two runs that differ in bytes

Two worlds are the same but for bytes if their backends answer alike and their disks answer alike,
whatever the payloads and the contents are (`World.SameButBytes`). `Process.Alike R p q` says that
from two such worlds `p` and `q` come to results that are related by `R`, do the same, and end in
two such worlds. The relation is carried along sequences (`alike_bind`); requests are replied alike
(`alike_request`), and a process that asks for no payload and no file is alike itself
(`alike_self`).
-/

namespace SecretMount

/-- Errors of the same text, both for a reason that passes or neither. -/
structure BackendError.Alike (e e' : BackendError) : Prop where
  message_eq : e.message = e'.message
  isTransient_eq : e.isTransient = e'.isTransient

/-- Results of calls that differ in payloads only. -/
abbrev FetchResult.SameButBytes : FetchResult → FetchResult → Prop :=
  ExceptRel BackendError.Alike fun secret secret' => secret.version = secret'.version

/-- Replies to reads that differ in contents only. -/
abbrev SameButContents : Except ReadFault ByteArray → Except ReadFault ByteArray → Prop :=
  ExceptRel Eq fun _ _ => True

/-- Backends that send the same for each query, and whose answers differ in payloads only, now and
after any number of calls. -/
structure Backend.SameButBytes (b c : Backend) : Prop where
  outgoing_eq : ∀ query, b.outgoing query = c.outgoing query
  answers : ∀ n query,
    FetchResult.SameButBytes ((Backend.next^[n] b).answer query) ((Backend.next^[n] c).answer query)

/-- After some calls a backend has served so many more. -/
lemma Backend.iterate_next (n : Nat) (b : Backend) :
    Backend.next^[n] b = { b with served := b.served + n } := by
  induction n with
  | zero => rfl
  | succ n ih =>
    rw [Function.iterate_succ_apply', ih]
    rfl

/-- Backends that answer alike but for bytes still do after a call. -/
lemma Backend.SameButBytes.next {b c : Backend} (h : b.SameButBytes c) :
    b.next.SameButBytes c.next where
  outgoing_eq := h.outgoing_eq
  answers n := h.answers (n + 1)

/-- Worlds that differ in payloads, in the contents of files and in what has been done before. -/
structure World.SameButBytes (w v : World) : Prop where
  clock_eq : w.clock = v.clock
  limiter_eq : w.limiter = v.limiter
  backends : ∀ kind, Option.Rel Backend.SameButBytes (w.backends.get kind) (v.backends.get kind)
  disk : ∀ path, SameButContents (w.disk path) (v.disk path)

/-- From `w` to `w'` the same is done as from `v` to `v'`: the same calls go out at the same times,
the same events are counted, and the clock ends at the same time. -/
structure World.SameEffects (w w' v v' : World) : Prop where
  clock_eq : w'.clock = v'.clock
  calls : ∃ calls, w'.calls = w.calls ++ calls ∧ v'.calls = v.calls ++ calls
  events : ∃ events, w'.events = w.events ++ events ∧ v'.events = v.events ++ events

namespace World

variable {w w' w'' v v' v'' : World}

/-- Where nothing is called or counted, two runs that take the same time have the same effects. -/
lemma SameEffects.of_idle (hclock : w'.clock = v'.clock) (hcalls : w'.calls = w.calls)
    (hcalls' : v'.calls = v.calls) (hevents : w'.events = w.events)
    (hevents' : v'.events = v.events) : SameEffects w w' v v' where
  clock_eq := hclock
  calls := ⟨[], by simp [hcalls, hcalls']⟩
  events := ⟨[], by simp [hevents, hevents']⟩

/-- Two runs that do nothing have the same effects. -/
lemma SameEffects.refl (h : w.clock = v.clock) : SameEffects w w v v :=
  .of_idle h rfl rfl rfl rfl

/-- Effects that are the same one after the other are the same together. -/
lemma SameEffects.trans (h : SameEffects w w' v v') (h' : SameEffects w' w'' v' v'') :
    SameEffects w w'' v v'' where
  clock_eq := h'.clock_eq
  calls := by
    obtain ⟨calls, hw, hv⟩ := h.calls
    obtain ⟨calls', hw', hv'⟩ := h'.calls
    exact ⟨calls ++ calls', by simp [hw', hw], by simp [hv', hv]⟩
  events := by
    obtain ⟨events, hw, hv⟩ := h.events
    obtain ⟨events', hw', hv'⟩ := h'.events
    exact ⟨events ++ events', by simp [hw', hw], by simp [hv', hv]⟩

end World

namespace Request

/-- Replies that differ in bytes only. -/
def SameButBytes : (r : Request) → r.Reply → r.Reply → Prop
  | .call _ _, reply, reply' => Option.Rel FetchResult.SameButBytes reply reply'
  | .read _, reply, reply' => SameButContents reply reply'
  | .clock, reply, reply' => reply = reply'
  | .token _, reply, reply' => reply = reply'
  | .count _, _, _ => True

/-- A request whose reply holds no bytes. -/
def Bytefree : Request → Prop
  | .call _ _ | .read _ => False
  | _ => True

/-- Replies without bytes that are the same but for bytes are the same. -/
lemma eq_of_bytefree {r : Request} (hr : r.Bytefree) {reply reply' : r.Reply}
    (h : r.SameButBytes reply reply') : reply = reply' := by
  cases r with
  | clock => exact h
  | token kind => exact h
  | call kind query => exact hr.elim
  | read path => exact hr.elim
  | count event => rfl

end Request

namespace Process

variable {α β γ δ : Type} {R : α → β → Prop} {S : γ → δ → Prop} {p : Process α} {q : Process β}
  {f : α → Process γ} {g : β → Process δ} {w v : World}

/-- Two runs that come to related results, have done the same, and have left their worlds the same
but for bytes. -/
structure RunsAlike (R : α → β → Prop) (p : Process α) (q : Process β) (w v : World) : Prop where
  result : R (p.run w).1 (q.run v).1
  world : (p.run w).2.SameButBytes (q.run v).2
  effects : World.SameEffects w (p.run w).2 v (q.run v).2

/-- Two processes that run alike wherever the worlds are the same but for bytes. -/
def Alike (R : α → β → Prop) (p : Process α) (q : Process β) : Prop :=
  ∀ ⦃w v : World⦄, w.SameButBytes v → RunsAlike R p q w v

/-- Runs that are alike one after the other are alike together. -/
lemma RunsAlike.bind (h : RunsAlike R p q w v)
    (hnext : RunsAlike S (f (p.run w).1) (g (q.run v).1) (p.run w).2 (q.run v).2) :
    RunsAlike S (p >>= f) (q >>= g) w v where
  result := by
    rw [run_sequence, run_sequence]
    exact hnext.result
  world := by
    rw [run_sequence, run_sequence]
    exact hnext.world
  effects := by
    rw [run_sequence, run_sequence]
    exact h.effects.trans hnext.effects

/-- Related results are alike. -/
lemma alike_pure {a : α} {b : β} (h : R a b) : Alike R (pure a) (pure b) := by
  intro w v hw
  exact ⟨h, hw, .refl hw.clock_eq⟩

/-- Processes that are alike one after the other are alike together. -/
lemma alike_bind (h : Alike R p q) (hnext : ∀ a b, R a b → Alike S (f a) (g b)) :
    Alike S (p >>= f) (q >>= g) := by
  intro w v hw
  have hfirst := h hw
  exact hfirst.bind (hnext _ _ hfirst.result hfirst.world)

/-- Backends that differ in payloads only answer a call alike, and do so after it. -/
lemma alike_call (kind : BackendKind) (query : Query) :
    Alike (Option.Rel FetchResult.SameButBytes) (call kind query) (call kind query) := by
  intro w v hw
  have hbackend := hw.backends kind
  generalize hb : w.backends.get kind = backend at hbackend
  generalize hb' : v.backends.get kind = backend' at hbackend
  cases hbackend with
  | none =>
    constructor <;> rw [run_call, run_call, World.call_of_none hb, World.call_of_none hb']
    case result => exact .none
    case world => exact hw
    case effects => exact .refl hw.clock_eq
  | @some b c hsame =>
    constructor <;> rw [run_call, run_call, World.call_of_some hb, World.call_of_some hb']
    case result => exact .some (hsame.answers 0 query)
    case world =>
      refine ⟨hw.clock_eq, hw.limiter_eq, fun other => ?_, hw.disk⟩
      -- one backend has moved on in both worlds, and the other in neither
      dsimp only
      rw [PerKind.get_set, PerKind.get_set]
      split
      case isTrue => exact .some hsame.next
      case isFalse => exact hw.backends other
    case effects =>
      refine ⟨hw.clock_eq, ⟨[⟨b.outgoing query, w.clock⟩], rfl, ?_⟩, ⟨[], by simp⟩⟩
      rw [hsame.outgoing_eq, hw.clock_eq]

/-- A request is replied to alike but for bytes. -/
lemma alike_request (r : Request) : Alike r.SameButBytes (request r) (request r) := by
  intro w v hw
  cases r with
  | call kind query => exact alike_call kind query hw
  | clock => exact ⟨hw.clock_eq, hw, .refl hw.clock_eq⟩
  | read path => exact ⟨hw.disk path, hw, .refl hw.clock_eq⟩
  | count event =>
    have hafter : World.SameButBytes { w with events := w.events ++ [event] }
        { v with events := v.events ++ [event] } :=
      ⟨hw.clock_eq, hw.limiter_eq, hw.backends, hw.disk⟩
    exact ⟨trivial, hafter, hw.clock_eq, ⟨[], by simp [request, run, World.answer]⟩,
      ⟨[event], rfl, rfl⟩⟩
  | token kind =>
    have htoken : Limiter.tryToken w.limiter kind w.clock =
        Limiter.tryToken v.limiter kind v.clock := by
      rw [hw.limiter_eq, hw.clock_eq]
    have hafter : World.SameButBytes
        { w with limiter := (Limiter.tryToken w.limiter kind w.clock).2 }
        { v with limiter := (Limiter.tryToken v.limiter kind v.clock).2 } :=
      ⟨hw.clock_eq, congrArg Prod.snd htoken, hw.backends, hw.disk⟩
    have hreply := congrArg Prod.fst htoken
    exact ⟨hreply, hafter, .of_idle hw.clock_eq rfl rfl rfl rfl⟩

/-- Sleeps are alike. -/
lemma alike_sleepTo (time : Nat) : Alike Eq (sleepTo time) (sleepTo time) := by
  intro w v hw
  have hclock : max w.clock time = max v.clock time := by rw [hw.clock_eq]
  have hafter : (w.sleepUntil time).SameButBytes (v.sleepUntil time) :=
    ⟨hclock, hw.limiter_eq, hw.backends, hw.disk⟩
  exact ⟨rfl, hafter, .of_idle hclock rfl rfl rfl rfl⟩

/-- A process that asks for no bytes runs alike. -/
lemma alike_self (h : p.Asks Request.Bytefree) : Alike Eq p p := by
  induction p with
  | done a => exact alike_pure rfl
  | ask r next ih =>
    refine alike_bind (f := next) (alike_request r) fun reply reply' hreply => ?_
    cases Request.eq_of_bytefree h.1 hreply
    exact ih reply (h.2 reply)
  | sleepUntil time next ih =>
    exact alike_bind (f := fun _ => next) (alike_sleepTo time) fun _ _ _ => ih h

/-- Counts are alike. -/
lemma alike_count (event : Metrics.Event) : Alike Eq (count event) (count event) :=
  alike_self (asks_request trivial)

end Process

end SecretMount
