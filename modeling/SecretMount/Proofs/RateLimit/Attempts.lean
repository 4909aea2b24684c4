import Mathlib.Data.List.Basic
import Mathlib.Tactic.Lemma
import SecretMount.Concurrent

/-!
# Attempts at a bucket

All that happens to a bucket is that attempts are made at it, one after the other.
`Bucket.admissions` says which of them succeed and `Bucket.after` what they leave. Whoever makes
them, they form one sequence in the order of time: from one world of a run to a later one the buckets are
changed by the token requests in between only (`World.Uses`), and these are the requests of the
processes that run (`Concurrent.tokenRequests`), however many share the limiter
(`Concurrent.uses_run`).
-/

namespace SecretMount

namespace RateLimit

/-- Whether an attempt has succeeded. -/
def Attempt.isAdmitted {K : Type} : Attempt K → Bool
  | .admitted => true
  | _ => false

namespace Bucket

variable {K T : Type} [Counting K T]

/-- Attempts at the given times, and whether they succeed. -/
def admissions (b : Bucket K T) : List T → List (T × Bool)
  | [] => []
  | t :: rest => (t, (b.take t).2.isAdmitted) :: admissions (b.take t).1 rest

/-- The bucket after attempts at the given times. -/
def after (b : Bucket K T) (times : List T) : Bucket K T :=
  times.foldl (fun b t => (b.take t).1) b

/-- The first attempt leaves the bucket for the others. -/
lemma after_cons (b : Bucket K T) (t : T) (rest : List T) :
    b.after (t :: rest) = (b.take t).1.after rest := rfl

/-- The earlier attempts leave the bucket for the later ones. -/
lemma after_append (b : Bucket K T) (first second : List T) :
    b.after (first ++ second) = (b.after first).after second :=
  List.foldl_append

/-- Without an attempt nothing changes. -/
lemma map_after_nil (o : Option (Bucket K T)) : o.map (·.after []) = o := by
  cases o with
  | none => rfl
  | some b => rfl

end Bucket

end RateLimit

/-- An attempt changes the bucket of its kind only. -/
lemma Limiter.get_tryToken (l : Limiter) (kind k : BackendKind) (now : Nat) :
    (l.tryToken kind now).2.get k =
      if k = kind then (l.get k).map (·.after [now]) else l.get k := by
  cases hl : l.get kind with
  | none =>
    simp only [tryToken, hl]
    split
    case isTrue heq =>
      rw [heq, hl]
      rfl
    case isFalse => rfl
  | some bucket =>
    simp only [tryToken, hl, PerKind.get_set]
    split
    case isTrue heq =>
      rw [heq, hl]
      rfl
    case isFalse => rfl

/-- A request for a token of a kind, and when it is put. -/
structure TokenRequest where
  kind : BackendKind
  time : Nat

/-- The times of the requests for tokens of a kind. -/
def TokenRequest.timesOf (kind : BackendKind) (requests : List TokenRequest) : List Nat :=
  (requests.filter fun r => r.kind = kind).map TokenRequest.time

/-- The times of the requests up to some point and from then on. -/
lemma TokenRequest.timesOf_append (kind : BackendKind) (first second : List TokenRequest) :
    timesOf kind (first ++ second) = timesOf kind first ++ timesOf kind second := by
  rw [timesOf, List.filter_append, List.map_append]
  rfl

/-- The request for a token that is put, if it is one. -/
def Request.tokenRequests (now : Nat) : Request → List TokenRequest
  | .token kind => [⟨kind, now⟩]
  | _ => []

namespace World

variable {u v w : World} {requests requests' : List TokenRequest}

/-- From one world to a later one, token requests were put in the order of time, and nothing but the
attempts that they are has changed the buckets. -/
structure Uses (w : World) (requests : List TokenRequest) (v : World) : Prop where
  clock : w.clock ≤ v.clock
  sorted : (w.clock :: requests.map TokenRequest.time).Pairwise (· ≤ ·)
  bound : ∀ r ∈ requests, r.time ≤ v.clock
  buckets : ∀ kind,
    v.limiter.get kind = (w.limiter.get kind).map (·.after (TokenRequest.timesOf kind requests))

namespace Uses

/-- Where no token is asked for, the limiter stays as it is. -/
lemma of_limiter_eq (hclock : w.clock ≤ v.clock) (h : v.limiter = w.limiter) : w.Uses [] v where
  clock := hclock
  sorted := List.pairwise_singleton _ _
  bound := List.forall_mem_nil _
  buckets := by
    intro kind
    rw [h]
    exact (RateLimit.Bucket.map_after_nil _).symm

/-- From a world to itself no token is asked for. -/
lemma refl (w : World) : w.Uses [] w := of_limiter_eq (Nat.le_refl _) rfl

/-- The requests from one world to a third are those to the second and those from there on. -/
lemma trans (h : w.Uses requests v) (h' : v.Uses requests' u) : w.Uses (requests ++ requests') u where
  clock := Nat.le_trans h.clock h'.clock
  sorted := by
    obtain ⟨hlater, hsorted⟩ := List.pairwise_cons.1 h'.sorted
    rw [List.map_append, ← List.cons_append, List.pairwise_append]
    refine ⟨h.sorted, hsorted, ?_⟩
    -- the clock of the world in between separates the two sequences
    intro s hs t ht
    have hle : s ≤ v.clock := by
      rcases List.mem_cons.1 hs with rfl | hs
      · exact h.clock
      · obtain ⟨r, hr, rfl⟩ := List.mem_map.1 hs
        exact h.bound r hr
    exact Nat.le_trans hle (hlater t ht)
  bound := by
    intro r hr
    rcases List.mem_append.1 hr with hr | hr
    · exact Nat.le_trans (h.bound r hr) h'.clock
    · exact h'.bound r hr
  buckets := by
    intro kind
    rw [h'.buckets, h.buckets, Option.map_map, TokenRequest.timesOf_append]
    refine congrArg (Option.map · _) (funext fun b => ?_)
    exact (b.after_append _ _).symm

end Uses

/-- What an answer does to the limiter is the attempt that the request is. -/
lemma uses_answer (w : World) (r : Request) : w.Uses (r.tokenRequests w.clock) (w.answer r).2 := by
  cases r with
  | clock => exact .refl w
  | read path => exact .refl w
  | count event => exact .of_limiter_eq (Nat.le_refl _) rfl
  | call kind query =>
    show w.Uses [] (w.call kind query).2
    cases hb : w.backends.get kind with
    | none => simpa [call, hb] using Uses.refl w
    | some backend =>
      simp only [call, hb]
      exact .of_limiter_eq (Nat.le_refl _) rfl
  | token kind =>
    refine ⟨Nat.le_refl _, by simp [Request.tokenRequests], by simp [Request.tokenRequests, answer],
      fun k => (w.limiter.get_tryToken kind k w.clock).trans ?_⟩
    by_cases heq : k = kind
    · simp [TokenRequest.timesOf, Request.tokenRequests, heq]
    · simp [TokenRequest.timesOf, Request.tokenRequests, heq, Ne.symm heq,
        RateLimit.Bucket.map_after_nil]

/-- No token is asked for while the clock moves. -/
lemma uses_sleepUntil (w : World) (time : Nat) : w.Uses [] (w.sleepUntil time) :=
  .of_limiter_eq (Nat.le_max_left _ _) rfl

end World

namespace Concurrent

variable {α : Type}

/-- The token requests of a process until it sleeps or ends. -/
def requestsOf : Process α → World → List TokenRequest
  | .done _, _ => []
  | .ask request next, w =>
    request.tokenRequests w.clock ++ requestsOf (next (w.answer request).1) (w.answer request).2
  | .sleepUntil time next, w => if time ≤ w.clock then requestsOf next w else []

/-- The token requests of processes that are started one after the other. -/
def requestsOnStart : List (Process α) → State α → List TokenRequest
  | [], _ => []
  | p :: rest, s => requestsOf p s.world ++ requestsOnStart rest (s.step p)

/-- The token requests of the sleepers that are woken up. -/
def requestsOnWaking : Nat → State α → List TokenRequest
  | 0, _ => []
  | fuel + 1, s =>
    match earliest s.sleepers with
    | none => []
    | some (t, others) =>
      let woken := { s with world := s.world.sleepUntil t.wake, sleepers := others }
      requestsOf t.process woken.world ++ requestsOnWaking fuel (woken.step t.process)

/-- The token requests that processes put while they run side by side, in order. -/
def tokenRequests (wakeUps : Nat) (processes : List (Process α)) (w : World) : List TokenRequest :=
  requestsOnStart processes { world := w } ++
    requestsOnWaking wakeUps (processes.foldl State.step { world := w })

/-- A process uses the buckets by its token requests. -/
lemma uses_advance (p : Process α) (w : World) : w.Uses (requestsOf p w) (advance p w).2 := by
  induction p generalizing w with
  | done a => exact .refl w
  | ask request next ih => exact (w.uses_answer request).trans (ih _ _)
  | sleepUntil time next ih =>
    rw [advance, requestsOf]
    split
    case isTrue => exact ih w
    case isFalse => exact .refl w

/-- Letting one process go on uses the buckets by its token requests. -/
lemma State.uses_step (s : State α) (p : Process α) :
    s.world.Uses (requestsOf p s.world) (s.step p).world := by
  have h := uses_advance p s.world
  unfold State.step
  split
  case h_1 heq => rwa [heq] at h
  case h_2 heq => rwa [heq] at h

/-- Starting processes uses the buckets by their token requests. -/
lemma uses_startAll (processes : List (Process α)) (s : State α) :
    s.world.Uses (requestsOnStart processes s) (processes.foldl State.step s).world := by
  induction processes generalizing s with
  | nil => exact .refl _
  | cons p rest ih => exact (s.uses_step p).trans (ih _)

/-- Waking up sleepers uses the buckets by their token requests. -/
lemma uses_wakeAll (fuel : Nat) (s : State α) :
    s.world.Uses (requestsOnWaking fuel s) (wakeAll fuel s).world := by
  induction fuel generalizing s with
  | zero => exact .refl _
  | succ fuel ih =>
    cases hearliest : earliest s.sleepers with
    | none =>
      simp only [wakeAll, requestsOnWaking, hearliest]
      exact .refl _
    | some found =>
      obtain ⟨t, others⟩ := found
      let woken : State α := { s with world := s.world.sleepUntil t.wake, sleepers := others }
      simp only [wakeAll, requestsOnWaking, hearliest]
      exact (s.world.uses_sleepUntil t.wake).trans ((woken.uses_step t.process).trans (ih _))

/-- Processes that run side by side use the buckets by their token requests, and by nothing else. -/
lemma uses_run (wakeUps : Nat) (processes : List (Process α)) (w : World) :
    w.Uses (tokenRequests wakeUps processes w) (run wakeUps processes w).2 :=
  (uses_startAll processes { world := w }).trans (uses_wakeAll wakeUps _)

end Concurrent

end SecretMount
