import Mathlib.Data.List.Forall2
import SecretMount.Proofs.Pass.Delivery
import SecretMount.Proofs.Process.Counting

/-!
# Passes over several objects

A pass over a list is a pass over its first part, followed by one over the rest if that succeeds
(`handleAll_append`). Its work is that of its visits, one for each object that it reaches
(`trace_handleAll`), and what it comes to is what they come to (`handleAll_concludes`). A pass that
succeeds has what all its visits deliver (`handleAll_eq_ok`); one that fails does so at the last
visit, with the map that the visits before have left (`handleAll_eq_error`).
-/

namespace SecretMount.Pass

open Process

variable {settings : FetchSettings} {o : SecretObject} {objects : List SecretObject}
  {m m' : VersionMap} {w : World} {d : Delivery} {failure : Failure} {values : List SecretValue}

/-- Goes on with more objects where a pass over others has ended, unless it has failed. -/
def goOn (settings : FetchSettings) (objects : List SecretObject) :
    Except Failure (List SecretValue) × VersionMap →
      Process (Except Failure (List SecretValue) × VersionMap)
  | (.ok values, m) => do
    let (result, m) ← handleAll settings objects m
    pure (result.map (values ++ ·), m)
  | (.error failure, m) => pure (.error failure, m)

/-- Values that are there already are put in front of those that come. -/
lemma goOn_map (settings : FetchSettings) (objects : List SecretObject) (values : List SecretValue)
    (result : Except Failure (List SecretValue)) (m : VersionMap) :
    goOn settings objects (result.map (values ++ ·), m) =
      goOn settings objects (result, m) >>= fun r => pure (r.1.map (values ++ ·), r.2) := by
  cases result with
  | error failure => rfl
  | ok others =>
    simp only [goOn, Except.map, LawfulMonad.bind_assoc, pure_bind]
    refine congrArg _ (funext fun r => ?_)
    obtain ⟨result, m⟩ := r
    cases result with
    | error failure => rfl
    | ok more => simp

/-- The work for two lists of objects is that for the first, which goes on with the second. -/
lemma handleAll_append (settings : FetchSettings) (xs ys : List SecretObject) (m : VersionMap) :
    handleAll settings (xs ++ ys) m = handleAll settings xs m >>= goOn settings ys := by
  induction xs generalizing m with
  | nil =>
    simp only [List.nil_append, handleAll, pure_bind, goOn]
    refine (bind_pure _).symm.trans (congrArg _ (funext fun r => ?_))
    obtain ⟨result, m⟩ := r
    cases result with
    | error failure => rfl
    | ok values => rfl
  | cons o rest ih =>
    simp only [List.cons_append, handleAll, LawfulMonad.bind_assoc]
    refine congrArg _ (funext fun r => ?_)
    cases r with
    | error failure => rfl
    | ok delivered =>
      -- what goes on after the rest of `xs` has the values of `o` put before its own by `goOn_map`
      simp only [ih, LawfulMonad.bind_assoc, pure_bind]
      exact congrArg _ (funext fun r => (goOn_map settings ys delivered.1 r.1 r.2).symm)

/-- The first object succeeds, and the others go on with its map and its world. -/
lemma run_handleAll_of_ok (h : deliver settings o m w = .ok d) (rest : List SecretObject) :
    (handleAll settings (o :: rest) m).run w =
      let after := (handleAll settings rest (d.record m)).run ((handle settings o m).run w).2
      ((after.1.1.map (d.values ++ ·), after.1.2), after.2) := by
  have hrun := run_handle settings o m w
  rw [h] at hrun
  rw [handleAll, run_sequence, hrun]
  simp only [Except.map, run_sequence, run_pure]

/-- After an object that succeeds the others follow. -/
lemma trace_handleAll_of_ok (h : deliver settings o m w = .ok d) (rest : List SecretObject) :
    (handleAll settings (o :: rest) m).trace w =
      (handle settings o m).trace w ++
        (handleAll settings rest (d.record m)).trace ((handle settings o m).run w).2 := by
  have hrun := run_handle settings o m w
  rw [h] at hrun
  rw [handleAll, trace_sequence, hrun]
  simp [Except.map]

/-- The first object fails, and nothing follows. -/
lemma run_handleAll_of_error (h : deliver settings o m w = .error failure)
    (rest : List SecretObject) :
    (handleAll settings (o :: rest) m).run w =
      ((.error failure, m), ((handle settings o m).run w).2) := by
  have hrun := run_handle settings o m w
  rw [h] at hrun
  rw [handleAll, run_sequence, hrun]
  rfl

/-- After an object that fails nothing is done. -/
lemma trace_handleAll_of_error (h : deliver settings o m w = .error failure)
    (rest : List SecretObject) :
    (handleAll settings (o :: rest) m).trace w = (handle settings o m).trace w := by
  have hrun := run_handle settings o m w
  rw [h] at hrun
  rw [handleAll, trace_sequence, hrun]
  simp [Except.map]

/-- An object that a pass reaches, with the map and the world with which it does. -/
structure Visit where
  object : SecretObject
  map : VersionMap
  world : World

namespace Visit

/-- What the object delivers, or why it fails. -/
def outcome (settings : FetchSettings) (v : Visit) : Except Failure Delivery :=
  deliver settings v.object v.map v.world

/-- What is done for the object. -/
def trace (settings : FetchSettings) (v : Visit) : Trace :=
  (handle settings v.object v.map).trace v.world

end Visit

/-- The visits of a pass, in order; the first object that fails is the last one reached. -/
def visits (settings : FetchSettings) : List SecretObject → VersionMap → World → List Visit
  | [], _, _ => []
  | o :: rest, m, w =>
    ⟨o, m, w⟩ ::
      match deliver settings o m w with
      | .ok d => visits settings rest (d.record m) ((handle settings o m).run w).2
      | .error _ => []

/-- After an object that succeeds the others are visited. -/
lemma visits_of_ok (h : deliver settings o m w = .ok d) (rest : List SecretObject) :
    visits settings (o :: rest) m w =
      ⟨o, m, w⟩ :: visits settings rest (d.record m) ((handle settings o m).run w).2 := by
  rw [visits, h]

/-- After an object that fails no other is visited. -/
lemma visits_of_error (h : deliver settings o m w = .error failure) (rest : List SecretObject) :
    visits settings (o :: rest) m w = [⟨o, m, w⟩] := by
  rw [visits, h]

/-- A single object is visited. -/
lemma visits_singleton (settings : FetchSettings) (o : SecretObject) (m : VersionMap) (w : World) :
    visits settings [o] m w = [⟨o, m, w⟩] := by
  cases h : deliver settings o m w with
  | error failure => exact visits_of_error h []
  | ok d => exact visits_of_ok h []

/-- What a pass does is what it does on its visits. -/
lemma trace_handleAll (settings : FetchSettings) (objects : List SecretObject) (m : VersionMap)
    (w : World) :
    (handleAll settings objects m).trace w =
      (visits settings objects m w).flatMap (Visit.trace settings) := by
  induction objects generalizing m w with
  | nil => rfl
  | cons o rest ih =>
    cases h : deliver settings o m w with
    | error failure =>
      rw [trace_handleAll_of_error h, visits_of_error h, List.flatMap_singleton, Visit.trace]
    | ok d => rw [trace_handleAll_of_ok h, visits_of_ok h, List.flatMap_cons, Visit.trace, ih]

/-- The objects are reached in their order, up to the first failure. -/
lemma visits_objects (settings : FetchSettings) (objects : List SecretObject) (m : VersionMap)
    (w : World) : (visits settings objects m w).map Visit.object <+: objects := by
  induction objects generalizing m w with
  | nil => exact List.prefix_refl _
  | cons o rest ih =>
    cases h : deliver settings o m w with
    | error failure =>
      rw [visits_of_error h]
      exact (List.prefix_cons_inj o).2 (List.nil_prefix)
    | ok d =>
      rw [visits_of_ok h]
      exact (List.prefix_cons_inj o).2 (ih _ _)

/-- What holds of the world at the start and is kept by the work for an object holds of the worlds of
all visits. -/
lemma visits_world_of_step {P : World → Prop} {v : Visit} (hstart : P w)
    (hstep : ∀ o m w, P w → P ((handle settings o m).run w).2)
    (hv : v ∈ visits settings objects m w) : P v.world := by
  induction objects generalizing m w with
  | nil => cases hv
  | cons o rest ih =>
    cases hd : deliver settings o m w with
    | error failure =>
      rw [visits_of_error hd] at hv
      cases List.mem_singleton.1 hv
      exact hstart
    | ok d =>
      rw [visits_of_ok hd] at hv
      rcases List.mem_cons.1 hv with rfl | hv
      · exact hstart
      · exact ih (hstep o m w hstart) hv

/-- A pass that succeeds reaches all objects and has what they deliver. -/
lemma handleAll_eq_ok (h : ((handleAll settings objects m).run w).1 = (.ok values, m')) :
    ∃ ds : List Delivery,
      (visits settings objects m w).map Visit.object = objects ∧
      List.Forall₂ (fun v d => v.outcome settings = .ok d) (visits settings objects m w) ds ∧
      values = ds.flatMap Delivery.values ∧
      m' = Delivery.recordAll ds m := by
  induction objects generalizing m w values with
  | nil =>
    cases h
    exact ⟨[], rfl, .nil, rfl, rfl⟩
  | cons o rest ih =>
    cases hd : deliver settings o m w with
    | error failure =>
      rw [run_handleAll_of_error hd] at h
      cases h
    | ok d =>
      rw [run_handleAll_of_ok hd] at h
      obtain ⟨hresult, hmap⟩ := Prod.mk.inj h
      obtain ⟨others, hothers, rfl⟩ := except_map_eq_ok.1 hresult
      obtain ⟨ds, hobjects, houtcomes, rfl, hrecord⟩ := ih (Prod.ext hothers hmap)
      rw [visits_of_ok hd]
      exact ⟨d :: ds, by rw [List.map_cons, hobjects], .cons hd houtcomes, rfl, hrecord⟩

/-- What a pass with these visits comes to that starts with the map: all of them deliver, or all but
the last one, which fails. -/
inductive Concludes (settings : FetchSettings) (m : VersionMap) :
    List Visit → Except Failure (List SecretValue) × VersionMap → Prop
  | ok {vs : List Visit} {ds : List Delivery} :
    List.Forall₂ (fun v d => v.outcome settings = .ok d) vs ds →
    Concludes settings m vs (.ok (ds.flatMap Delivery.values), Delivery.recordAll ds m)
  | error {vs : List Visit} {ds : List Delivery} {v : Visit} {failure : Failure} :
    List.Forall₂ (fun v d => v.outcome settings = .ok d) vs ds →
    v.outcome settings = .error failure →
    Concludes settings m (vs ++ [v]) (.error failure, Delivery.recordAll ds m)

/-- The work for the objects ends as its visits say. -/
lemma handleAll_concludes (settings : FetchSettings) (objects : List SecretObject)
    (m : VersionMap) (w : World) :
    Concludes settings m (visits settings objects m w)
      ((handleAll settings objects m).run w).1 := by
  induction objects generalizing m w with
  | nil => exact .ok .nil
  | cons o rest ih =>
    cases hd : deliver settings o m w with
    | error failure =>
      rw [run_handleAll_of_error hd, visits_of_error hd]
      exact .error .nil hd
    | ok d =>
      have hfirst : (⟨o, m, w⟩ : Visit).outcome settings = .ok d := hd
      have hrest := ih (d.record m) ((handle settings o m).run w).2
      rw [run_handleAll_of_ok hd, visits_of_ok hd]
      dsimp only
      generalize visits settings rest (d.record m) ((handle settings o m).run w).2 = vs at hrest ⊢
      generalize (handleAll settings rest (d.record m)).run ((handle settings o m).run w).2 = run
        at hrest ⊢
      obtain ⟨⟨result, m'⟩, w'⟩ := run
      cases hrest with
      | ok hds => exact .ok (.cons hfirst hds)
      | error hds hfails => exact .error (.cons hfirst hds) hfails

/-- What visits deliver is what a pass has for their objects. -/
lemma isOf_of_outcomes {vs : List Visit} {ds : List Delivery}
    (h : List.Forall₂ (fun v d => v.outcome settings = .ok d) vs ds) :
    List.Forall₂ (fun o d => d.IsOf o) (vs.map Visit.object) ds := by
  rw [List.forall₂_map_left_iff]
  exact h.imp fun _ _ hd => deliver_isOf hd

/-- A pass that fails does so at one object, with the map that the objects before it have left. -/
lemma handleAll_eq_error (h : ((handleAll settings objects m).run w).1 = (.error failure, m')) :
    ∃ before o after values,
      objects = before ++ o :: after ∧
      ((handleAll settings before m).run w).1 = (.ok values, m') ∧
      deliver settings o m' ((handleAll settings before m).run w).2 = .error failure := by
  induction objects generalizing m w with
  | nil => cases h
  | cons o rest ih =>
    cases hd : deliver settings o m w with
    | error failure' =>
      rw [run_handleAll_of_error hd] at h
      cases h
      exact ⟨[], o, rest, [], rfl, rfl, hd⟩
    | ok d =>
      -- `o` has succeeded: the pass over the rest fails, from the map that `o` has left
      rw [run_handleAll_of_ok hd] at h
      obtain ⟨hresult, hmap⟩ := Prod.mk.inj h
      obtain ⟨before, o', after, values, rfl, hbefore, hlast⟩ :=
        ih (Prod.ext (except_map_eq_error.1 hresult) hmap)
      refine ⟨o :: before, o', after, d.values ++ values, rfl, ?_, ?_⟩
      · rw [run_handleAll_of_ok hd]
        simp only [hbefore]
        rfl
      · rw [run_handleAll_of_ok hd]
        exact hlast

end SecretMount.Pass
