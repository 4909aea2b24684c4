import SecretMount.Proofs.Process.Trace

/-!
# What is counted does not matter

What has been counted before is never asked for, so a process does the same and comes to the same in
worlds that differ in it only (`run_sameButCounts`, `trace_sameButCounts`). What a process itself
counts can be read from its trace (`events_run`). No request changes the disk (`disk_run`).
-/

namespace SecretMount

namespace Act

/-- The event, if one is counted. -/
def counted? : Act → Option Metrics.Event
  | .asked (.count event) _ => some event
  | _ => none

end Act

namespace Trace

/-- The events that are counted. -/
def counted (t : Trace) : List Metrics.Event := t.filterMap Act.counted?

/-- Nothing is counted where nothing is done. -/
@[simp] lemma counted_nil : counted [] = [] := rfl

/-- A trace counts what its first act counts and what the others count. -/
@[simp] lemma counted_cons (a : Act) (t : Trace) :
    counted (a :: t) = a.counted?.toList ++ counted t := by
  cases h : a.counted? <;> simp [counted, h]

/-- What is counted in two traces is counted in both together. -/
@[simp] lemma counted_append (s t : Trace) : counted (s ++ t) = counted s ++ counted t :=
  List.filterMap_append

end Trace

/-- Two worlds that differ in what has been counted only. -/
def World.SameButCounts (w v : World) : Prop :=
  { w with events := [] } = { v with events := [] }

namespace Process

variable {α : Type} {w v : World}

/-- The reply to a request does not depend on what has been counted, and the worlds after it differ
as before. -/
lemma answer_sameButCounts (h : w.SameButCounts v) (r : Request) :
    (w.answer r).1 = (v.answer r).1 ∧ (w.answer r).2.SameButCounts (v.answer r).2 := by
  obtain ⟨clock, limiter, backends, disk, calls, events⟩ := w
  obtain ⟨clock', limiter', backends', disk', calls', events'⟩ := v
  cases h
  cases r with
  | call kind query =>
    cases hb : backends.get kind <;> simp [World.answer, World.call, hb, World.SameButCounts]
  | clock => exact ⟨rfl, rfl⟩
  | token kind => exact ⟨rfl, rfl⟩
  | read path => exact ⟨rfl, rfl⟩
  | count event => exact ⟨rfl, rfl⟩

/-- Worlds that differ in what was counted still do after a sleep. -/
lemma sleepUntil_sameButCounts (h : w.SameButCounts v) (time : Nat) :
    (w.sleepUntil time).SameButCounts (v.sleepUntil time) := by
  obtain ⟨clock, limiter, backends, disk, calls, events⟩ := w
  obtain ⟨clock', limiter', backends', disk', calls', events'⟩ := v
  cases h
  rfl

/-- A process runs alike in worlds that differ in what was counted. -/
lemma run_sameButCounts (p : Process α) (h : w.SameButCounts v) :
    (p.run w).1 = (p.run v).1 ∧ (p.run w).2.SameButCounts (p.run v).2 := by
  induction p generalizing w v with
  | done a => exact ⟨rfl, h⟩
  | ask request next ih =>
    obtain ⟨hreply, hafter⟩ := answer_sameButCounts h request
    rw [run, run, hreply]
    exact ih _ hafter
  | sleepUntil time next ih => exact ih (sleepUntil_sameButCounts h time)

/-- A process does the same in worlds that differ in what was counted. -/
lemma trace_sameButCounts (p : Process α) (h : w.SameButCounts v) : p.trace w = p.trace v := by
  induction p generalizing w v with
  | done a => rfl
  | ask request next ih =>
    obtain ⟨hreply, hafter⟩ := answer_sameButCounts h request
    rw [trace, trace, hreply, ih _ hafter]
  | sleepUntil time next ih =>
    rw [trace, trace, ih (sleepUntil_sameButCounts h time)]

/-- What a run counts is what its trace shows. -/
lemma events_run (p : Process α) (w : World) :
    (p.run w).2.events = w.events ++ (p.trace w).counted := by
  induction p generalizing w with
  | done a => exact (List.append_nil _).symm
  | ask request next ih =>
    rw [run, ih, trace]
    cases request with
    | count event => simp [World.answer, Act.counted?]
    | call kind query =>
      cases hb : w.backends.get kind <;> simp [World.answer, World.call, hb, Act.counted?]
    | clock => rfl
    | token kind => rfl
    | read path => rfl
  | sleepUntil time next ih => exact ih _

/-- No process writes to the disk. -/
lemma disk_run (p : Process α) (w : World) : (p.run w).2.disk = w.disk := by
  induction p generalizing w with
  | done a => rfl
  | ask request next ih =>
    rw [run, ih]
    cases request with
    | call kind query => cases hb : w.backends.get kind <;> simp [World.answer, World.call, hb]
    | clock => rfl
    | token kind => rfl
    | read path => rfl
    | count event => rfl
  | sleepUntil time next ih => exact ih _

end Process

end SecretMount
