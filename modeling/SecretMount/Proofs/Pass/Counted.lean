import SecretMount.Proofs.Pass.Delivery
import SecretMount.Proofs.Process.Counting

/-!
# What the work for an object counts

The events that are counted for an object are those that its calls, its waits and its parts make: a
wait counts nothing itself and has one token granted if it ends in time (`wait_counted`), and a call
counts itself, its error, and a retry before it if it is not the first (`callWithRetry_counted`).
-/

namespace SecretMount

/-- Whether a wait ends with the reply. -/
def TokenReply.isGrant : TokenReply → Bool
  | .unlimited | .admitted => true
  | .retryAfter _ | .never => false

/-- The kind, if a token of it is asked for and the wait ends with the reply. -/
def Act.granted? : Act → Option BackendKind
  | .asked (.token kind) reply => if TokenReply.isGrant reply then some kind else none
  | _ => none

/-- The kinds for which waits have ended in time. -/
def Trace.granted (t : Trace) : List BackendKind := t.filterMap Act.granted?

namespace Trace

/-- Nothing is granted where nothing is done. -/
@[simp] lemma granted_nil : granted [] = [] := rfl

/-- A trace is granted what its first act is granted and what the others are. -/
@[simp] lemma granted_cons (a : Act) (t : Trace) :
    granted (a :: t) = a.granted?.toList ++ granted t := by
  cases h : a.granted? <;> simp [granted, h]

/-- What is granted in two traces is granted in both together. -/
@[simp] lemma granted_append (s t : Trace) : granted (s ++ t) = granted s ++ granted t :=
  List.filterMap_append

/-- What is granted has been asked for. -/
lemma granted_of_tokens {t : Trace} (h : t.tokens = []) : t.granted = [] := by
  induction t with
  | nil => rfl
  | cons a rest ih =>
    rw [tokens_cons, List.append_eq_nil_iff] at h
    rw [granted_cons, ih h.2, List.append_nil]
    cases a with
    | slept time => rfl
    | asked r reply =>
      cases r with
      | token kind => cases h.1
      | _ => rfl

end Trace

namespace Pass

open Process

variable {settings : FetchSettings} {kind : BackendKind} {query : Query} {o : SecretObject}
  {m : VersionMap} {w : World}

/-- Trying for a token counts nothing, and is granted one just if it ends with one. -/
lemma acquire_counted (kind : BackendKind) (deadline now : Nat) (w : World) :
    ((acquire kind deadline now).trace w).counted = [] ∧
    ((acquire kind deadline now).trace w).granted =
      ((acquire kind deadline now).run w).1.toList.map fun _ => kind := by
  induction now using acquire.induct deadline generalizing w with
  | case1 now ih =>
    rw [acquire, run_sequence, trace_sequence]
    have htrace : (token kind).trace w = [.asked (.token kind) (w.answer (.token kind)).1] := rfl
    have hrun : (token kind).run w = w.answer (.token kind) := rfl
    rw [htrace, hrun]
    obtain ⟨reply, later⟩ := w.answer (.token kind)
    cases reply with
    | unlimited => exact ⟨rfl, rfl⟩
    | admitted => exact ⟨rfl, rfl⟩
    | never => exact ⟨rfl, rfl⟩
    | retryAfter ms =>
      dsimp only
      split
      case isTrue hle =>
        obtain ⟨hcounted, hgranted⟩ := ih ms hle (later.sleepUntil (now + max ms 1))
        rw [run_sequence, trace_sequence]
        exact ⟨hcounted, hgranted⟩
      case isFalse => exact ⟨rfl, rfl⟩

/-- A wait counts nothing, and one token is granted if it ends in time. -/
lemma wait_counted (kind : BackendKind) (timeout : Duration.Nanoseconds) (w : World) :
    ((wait kind timeout).trace w).counted = [] ∧
    ((wait kind timeout).trace w).granted =
      match ((wait kind timeout).run w).1 with
      | .ok _ => [kind]
      | .error _ => [] := by
  obtain ⟨hcounted, hgranted⟩ := acquire_counted kind
    (w.clock + Duration.ceilMilliseconds timeout) w.clock w
  simp only [wait, run_sequence, run_clock, trace_sequence, trace_clock, Trace.counted_append,
    Trace.granted_append, hcounted, hgranted]
  cases ((acquire kind _ w.clock).run w).1 with
  | none => exact ⟨rfl, rfl⟩
  | some time => exact ⟨rfl, rfl⟩

/-- What is counted for calls is fixed by the calls that were answered. -/
lemma callWithRetry_counted (settings : FetchSettings) (kind : BackendKind) (query : Query)
    (w : World) :
    ((callWithRetry settings kind query).trace w).counted =
      eventsOfCalls ((callWithRetry settings kind query).trace w).calls := by
  have hevents := (callWithRetry settings kind query).events_run w
  cases hb : w.backends.get kind with
  | none =>
    obtain ⟨hrun, hcalls⟩ := callWithRetry_of_none settings query hb
    rw [hrun] at hevents
    rw [hcalls]
    exact List.self_eq_append_right.1 hevents
  | some backend =>
    cases hanswer : failedForNow (backend.answer query) with
    | false =>
      obtain ⟨-, hcalled⟩ := callWithRetry_once settings hb hanswer
      rw [hcalled.world] at hevents
      rw [hcalled.calls]
      exact (List.append_cancel_left hevents).symm
    | true =>
      obtain ⟨-, hcalled⟩ := callWithRetry_twice settings hb hanswer
      rw [hcalled.world] at hevents
      rw [hcalled.calls]
      exact (List.append_cancel_left hevents).symm

/-- A value that is read back is counted, and a file that is not read is not. -/
lemma reload_counted (o : SecretObject) (version : String) (w : World) :
    ((reload o version).trace w).counted =
      match w.disk o.mountPath with
      | .ok _ => [.reload]
      | .error _ => [] := by
  cases h : w.disk o.mountPath <;> simp [reload, h, Act.counted?]

/-- The number of parts is counted where there are any. -/
lemma countParts_counted (parts : List SecretValue) (w : World) :
    ((countParts parts).trace w).counted =
      if parts = [] then [] else [.extraction parts.length] := by
  unfold countParts
  split
  case isTrue => rfl
  case isFalse => rfl

end Pass

end SecretMount
