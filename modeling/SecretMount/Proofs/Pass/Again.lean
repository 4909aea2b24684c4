import SecretMount.Proofs.Pass.Reuse

/-!
# Passes over what has been delivered

`Kept` says that a map and a disk hold what an object has delivered. Then the object is read back
just if it is pinned to the version that it has delivered (`Kept.hasPin_iff`), and it delivers the
same again (`Kept.deliver_again`), which leaves the map as it is. So a pass over such objects that
reaches none that is fetched delivers all of them again from the disk (`reconcile_of_kept`), and it
leaves the world as it is but for what is counted.
-/

namespace SecretMount

namespace World.SameButCounts

variable {w v u : World}

/-- A world differs from itself in nothing. -/
lemma refl (w : World) : w.SameButCounts w := rfl

/-- Two steps that count do so together. -/
lemma trans (h : w.SameButCounts v) (h' : v.SameButCounts u) : w.SameButCounts u := Eq.trans h h'

/-- Counting takes no time. -/
lemma clock (h : w.SameButCounts v) : w.clock = v.clock := (World.mk.inj h).1

end World.SameButCounts

namespace Pass

open Process

variable {settings : FetchSettings} {o : SecretObject} {objects : List SecretObject}
  {m : VersionMap} {w : World} {disk : Disk} {d : Delivery} {ds : List Delivery} {version : String}

/-- The object of the visit is fetched. -/
def Visit.Fetches (settings : FetchSettings) (v : Visit) : Prop :=
  Fetched settings v.object v.world (v.trace settings)
    ((obtain settings v.object v.map).run v.world).1

/-- An object is fetched just if the map does not hold its pin. -/
lemma Visit.fetches_iff {v : Visit} :
    v.Fetches settings ↔ ∀ version, ¬ v.object.HasPin v.map version :=
  ⟨Fetched.no_pin, handle_fetched settings v.world⟩

/-- Reading a value back only counts. -/
lemma reload_sameButCounts (o : SecretObject) (version : String) (w : World) :
    ((reload o version).run w).2.SameButCounts w := by
  cases h : w.disk o.mountPath with
  | error fault => simp [reload, h, World.SameButCounts]
  | ok bytes => simp [reload, h, World.SameButCounts]

/-- Counting parts only counts. -/
lemma countParts_sameButCounts (parts : List SecretValue) (w : World) :
    ((countParts parts).run w).2.SameButCounts w := by
  unfold countParts
  split
  case isTrue => exact .refl w
  case isFalse => rfl

/-- The work for an object that is read back only counts. -/
lemma handle_sameButCounts (settings : FetchSettings) (w : World) (h : o.HasPin m version) :
    ((handle settings o m).run w).2.SameButCounts w := by
  have hreload := reload_sameButCounts o version w
  rw [handle, obtain_of_pin h, run_sequence]
  cases ((reload o version).run w).1 with
  | error failure => exact hreload
  | ok got =>
    dsimp only
    cases got.2.extract with
    | error failure => exact hreload
    | ok parts =>
      dsimp only
      rw [run_sequence, run_pure]
      exact (countParts_sameButCounts parts _).trans hreload

/-- A map and a disk that hold what an object has delivered: its bytes, in the object's file, and
its version, under all its file names. -/
structure Kept (m : VersionMap) (disk : Disk) (o : SecretObject) (d : Delivery) : Prop where
  object : d.value.object = o
  parts : d.value.extract = .ok d.parts
  contents : disk o.mountPath = .ok d.value.bytes
  versions : ∀ f ∈ d.fileNames, m.get? f = some d.version

namespace Kept

/-- The version of what is kept stands under the file name of its object. -/
lemma get?_fileName (h : Kept m disk o d) : m.get? o.fileName = some d.version := by
  apply h.versions
  rw [← h.object]
  exact List.mem_cons_self

/-- An object that is kept has a pin just if it pins the version that is kept. -/
lemma hasPin_iff (h : Kept m disk o d) :
    o.HasPin m version ↔ o.version? = some version ∧ version = d.version := by
  unfold SecretObject.HasPin
  rw [h.get?_fileName, Option.some.injEq, eq_comm (a := d.version)]

/-- In a pass over what is kept, an object that is reached is fetched just if it is not pinned to
the version that it has delivered. -/
lemma fetches_iff {v : Visit} (h : Kept m disk v.object d)
    (hdistinct : (objects.flatMap SecretObject.fileNames).Nodup)
    (hv : v ∈ visits settings objects m w) :
    v.Fetches settings ↔ v.object.version? ≠ some d.version := by
  rw [Visit.fetches_iff]
  constructor
  · intro hnone hpin
    exact hnone d.version ((visits_hasPin_iff hdistinct hv).2 (h.hasPin_iff.2 ⟨hpin, rfl⟩))
  · intro hne version hpin
    obtain ⟨hversion, rfl⟩ := h.hasPin_iff.1 ((visits_hasPin_iff hdistinct hv).1 hpin)
    exact hne hversion

/-- Recording the delivery again changes nothing. -/
lemma record_eq (h : Kept m disk o d) : d.record m = m := by
  apply VersionMap.eq_of_get?_eq
  intro f
  rw [Delivery.get?_record]
  split
  case isTrue hf => exact (h.versions f hf).symm
  case isFalse => rfl

/-- An object that is kept and pins its version delivers the same again. -/
lemma deliver_again (h : Kept m w.disk o d) (hpin : o.HasPin m d.version) :
    deliver settings o m w = .ok d := by
  refine deliver_eq_ok_iff.2 ⟨?_, h.parts⟩
  have hread := (reload_reread o d.version w).result
  rw [h.contents] at hread
  rw [obtain_of_pin hpin, hread, ← h.object]

end Kept

/-- What a pass does that has everything from the disk: it delivers and leaves the map as it is,
calls no backend and uses no limiter, and leaves the world as it is but for what is counted. -/
structure FromDisk (ds : List Delivery) (m : VersionMap) (w : World)
    (p : Process (Except Failure (List SecretValue) × VersionMap)) : Prop where
  result : (p.run w).1 = (.ok (ds.flatMap Delivery.values), m)
  world : (p.run w).2.SameButCounts w
  calls : (p.trace w).calls = []
  tokens : (p.trace w).tokens = []

/-- Objects that are kept and not fetched deliver from the disk what was delivered before. -/
lemma handleAll_of_kept (h : List.Forall₂ (Kept m w.disk) objects ds)
    (hreuse : ∀ v ∈ visits settings objects m w, ¬ v.Fetches settings) :
    FromDisk ds m w (handleAll settings objects m) := by
  generalize hdisk : w.disk = disk at h
  induction h generalizing w with
  | nil => exact ⟨rfl, .refl w, rfl, rfl⟩
  | @cons o d rest ds hkept _ ih =>
    subst hdisk
    -- the first object is reached, so it is read back, and the rest is reached with the same map
    have hfirst : ¬ (⟨o, m, w⟩ : Visit).Fetches settings := hreuse _ List.mem_cons_self
    rw [Visit.fetches_iff, not_forall] at hfirst
    obtain ⟨version, hpin⟩ := hfirst
    have hpin := not_not.1 hpin
    obtain ⟨-, rfl⟩ := hkept.hasPin_iff.1 hpin
    have hd : deliver settings o m w = .ok d := hkept.deliver_again hpin
    have hread := handle_reread settings w hpin
    have hworld := handle_sameButCounts settings w hpin
    rw [visits_of_ok hd, hkept.record_eq] at hreuse
    have hrest := ih (fun v hv => hreuse v (List.mem_cons_of_mem _ hv)) (disk_run _ w)
    refine ⟨?_, ?_, ?_, ?_⟩
    · rw [run_handleAll_of_ok hd, hkept.record_eq]
      simp only [hrest.result]
      rfl
    · rw [run_handleAll_of_ok hd, hkept.record_eq]
      exact hrest.world.trans hworld
    · rw [trace_handleAll_of_ok hd, hkept.record_eq, Trace.calls_append, hread.calls, hrest.calls,
        List.append_nil]
    · rw [trace_handleAll_of_ok hd, hkept.record_eq, Trace.tokens_append, hread.tokens,
        hrest.tokens, List.append_nil]

/-- A pass over objects that are kept and not fetched has everything from the disk. -/
lemma reconcile_of_kept (h : List.Forall₂ (Kept m w.disk) objects ds)
    (hreuse : ∀ v ∈ visits settings objects m (begun w), ¬ v.Fetches settings) :
    FromDisk ds m w (reconcile settings objects m) := by
  have hwork : FromDisk ds m (begun w) (handleAll settings objects m) := handleAll_of_kept h hreuse
  have huses := sameUses_reconcile settings objects m w
  refine ⟨?_, ?_, huses.calls.trans hwork.calls, huses.tokens.trans hwork.tokens⟩
  · rw [run_reconcile]
    exact hwork.result
  · rw [run_reconcile]
    exact hwork.world

end Pass

end SecretMount
