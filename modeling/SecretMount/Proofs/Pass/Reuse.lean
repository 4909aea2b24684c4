import SecretMount.Proofs.Batch.Accept
import SecretMount.Proofs.Pass.Reconcile

/-!
# Which objects of a pass are read back

An object that a pass reaches is read back or fetched as the map of that moment says. Where the file
names of the objects and their entries are distinct, no object that comes before changes what the
map says about it (`visits_get?`), so the map at the start of the pass decides. Main statement:
`reuse_decided_at_start`, for the objects of an accepted batch.
-/

namespace SecretMount.Pass

open Process

variable {settings : FetchSettings} {o : SecretObject} {objects : List SecretObject}
  {m m' : VersionMap} {w : World} {v : Visit} {version : String}

/-- Only objects of the pass are visited. -/
lemma object_mem_of_visit (hv : v ∈ visits settings objects m w) : v.object ∈ objects :=
  (visits_objects settings objects m w).subset (List.mem_map_of_mem hv)

/-- What the map holds for an object when it is reached is what it has held at the start. -/
lemma visits_get? (hdistinct : (objects.flatMap SecretObject.fileNames).Nodup)
    (hv : v ∈ visits settings objects m w) :
    v.map.get? v.object.fileName = m.get? v.object.fileName := by
  induction objects generalizing m w with
  | nil => cases hv
  | cons o rest ih =>
    rw [List.flatMap_cons, List.nodup_append] at hdistinct
    obtain ⟨-, hrest, hapart⟩ := hdistinct
    cases hd : deliver settings o m w with
    | error failure =>
      rw [visits_of_error hd] at hv
      cases List.mem_singleton.1 hv
      rfl
    | ok d =>
      rw [visits_of_ok hd] at hv
      rcases List.mem_cons.1 hv with rfl | hv
      · rfl
      · -- what `o` has recorded stands under its own file names, and no later object has one of them
        have hlater : v.object.fileName ∈ rest.flatMap SecretObject.fileNames :=
          List.mem_flatMap.2 ⟨v.object, object_mem_of_visit hv, List.mem_cons_self⟩
        have hother : v.object.fileName ∉ o.fileNames := fun hown => hapart _ hown _ hlater rfl
        rw [ih hrest hv, Delivery.get?_record, (deliver_isOf hd).fileNames_eq, if_neg hother]

/-- The map at the start decides which objects that are reached have a pin. -/
lemma visits_hasPin_iff (hdistinct : (objects.flatMap SecretObject.fileNames).Nodup)
    (hv : v ∈ visits settings objects m w) :
    v.object.HasPin v.map version ↔ v.object.HasPin m version := by
  unfold SecretObject.HasPin
  rw [visits_get? hdistinct hv]

/-- The disk is the same for all visits, and so is which backends there are. -/
lemma visits_world (hv : v ∈ visits settings objects m w) :
    v.world.disk = w.disk ∧
      ∀ kind, (v.world.backends.get kind).isSome = (w.backends.get kind).isSome := by
  refine visits_world_of_step (P := fun u => u.disk = w.disk ∧
    ∀ kind, (u.backends.get kind).isSome = (w.backends.get kind).isSome) ⟨rfl, fun _ => rfl⟩ ?_ hv
  rintro o m u ⟨hdisk, hbackends⟩
  exact ⟨(disk_run _ u).trans hdisk,
    fun kind => (backends_isSome_run _ u kind).trans (hbackends kind)⟩

/-- One more act that neither reads, calls nor takes a token is idle too. -/
lemma Idle.cons {a : Act} {t : Trace} (hread : a.read? = none) (hcall : a.call? = none)
    (htoken : a.token? = none) (h : Idle t) : Idle (a :: t) where
  reads := by simp [h.reads, hread]
  calls := by simp [h.calls, hcall]
  tokens := by simp [h.tokens, htoken]

/-- Counting is idle. -/
lemma idle_ofEvents (events : List Metrics.Event) : Idle (Trace.ofEvents events) := by
  induction events with
  | nil => exact ⟨rfl, rfl, rfl⟩
  | cons event rest ih => exact .cons rfl rfl rfl ih

/-- All that a pass does but look at the clock and count is done on its visits. -/
lemma trace_reconcile_visits (settings : FetchSettings) (objects : List SecretObject)
    (m : VersionMap) (w : World) :
    ∃ before after, Idle before ∧ Idle after ∧
      (reconcile settings objects m).trace w =
        before ++ (visits settings objects m (begun w)).flatMap (Visit.trace settings) ++ after := by
  rw [trace_reconcile, trace_handleAll]
  exact ⟨.asked .clock w.clock :: Trace.ofEvents [.reconciliation], _,
    .cons rfl rfl rfl (idle_ofEvents _), .cons rfl rfl rfl (idle_ofEvents _), rfl⟩

/-- Two traces with the same calls and reads and the same uses of a limiter. -/
structure SameUses (s t : Trace) : Prop where
  calls : s.calls = t.calls
  reads : s.reads = t.reads
  tokens : s.tokens = t.tokens

/-- A pass reads, calls and takes tokens as the work for its objects does. -/
lemma sameUses_reconcile (settings : FetchSettings) (objects : List SecretObject) (m : VersionMap)
    (w : World) :
    SameUses ((reconcile settings objects m).trace w)
      ((handleAll settings objects m).trace (begun w)) := by
  rw [trace_reconcile]
  constructor
  · simp [Act.call?, (idle_ofEvents _).calls]
  · simp [Act.read?, (idle_ofEvents _).reads]
  · simp [Act.token?, (idle_ofEvents _).tokens]

/-- A pass calls what the work for its objects calls. -/
lemma calls_reconcile (settings : FetchSettings) (objects : List SecretObject) (m : VersionMap)
    (w : World) :
    ((reconcile settings objects m).trace w).calls =
      ((handleAll settings objects m).trace (begun w)).calls :=
  (sameUses_reconcile settings objects m w).calls

/-- A pass reads no files but those of its objects. -/
lemma mem_reads_reconcile {path : String}
    (h : path ∈ ((reconcile settings objects m).trace w).reads) :
    ∃ o ∈ objects, path = o.mountPath := by
  obtain ⟨before, after, hbefore, hafter, htrace⟩ :=
    trace_reconcile_visits settings objects m w
  rw [htrace, Trace.reads_append, Trace.reads_append, hbefore.reads, hafter.reads,
    List.nil_append, List.append_nil, Trace.reads_flatMap] at h
  obtain ⟨v, hv, hpath⟩ := List.mem_flatMap.1 h
  exact ⟨v.object, object_mem_of_visit hv, eq_of_mem_reads hpath⟩

/-- In a pass over an accepted batch, the map at the start decides which objects are read back:
those whose pin it holds under their file name. For each object that is reached and read back there
is one read of its file, no call and no use of a limiter; for each other, unless its type is
unknown, one use of its kind's limiter and, once admitted, one call to its backend, or two if the
first fails for a reason that passes. -/
theorem reuse_decided_at_start {mount : MountSettings} {records : List SecretRecord}
    {objects : List SecretObject} (h : Batch.accept mount records = .ok objects)
    (settings : FetchSettings) (m : VersionMap) (w : World) :
    let reached := visits settings objects m (begun w)
    reached.map Visit.object <+: objects ∧
    (∃ before after, Idle before ∧ Idle after ∧
      (reconcile settings objects m).trace w =
        before ++ reached.flatMap (Visit.trace settings) ++ after) ∧
    ∀ v ∈ reached,
      (∀ version, v.object.HasPin m version →
        Reread v.object version v.world (v.trace settings)
          ((obtain settings v.object v.map).run v.world).1) ∧
      ((∀ version, ¬ v.object.HasPin m version) →
        Fetched settings v.object v.world (v.trace settings)
          ((obtain settings v.object v.map).run v.world).1) ∧
      v.object.query = ⟨v.object.record.name, nonEmpty v.object.record.version,
        nonEmpty v.object.record.versionLabel⟩ ∧
      v.world.disk = w.disk ∧
      (∀ kind, (v.world.backends.get kind).isSome = (w.backends.get kind).isSome) := by
  have hdistinct := Batch.fileNames_nodup h
  refine ⟨visits_objects _ _ _ _, trace_reconcile_visits _ _ _ _, ?_⟩
  intro v hv
  have hworld := visits_world hv
  refine ⟨?_, ?_, rfl, hworld⟩
  · intro version hpin
    exact handle_reread settings v.world ((visits_hasPin_iff hdistinct hv).2 hpin)
  · intro hnone
    apply handle_fetched settings v.world
    intro version hpin
    exact hnone version ((visits_hasPin_iff hdistinct hv).1 hpin)

/-- A pass over three objects. The first is mounted in another version than it pins, so it is fetched
and another version is recorded for it; the second is mounted as it is pinned and is read back; the
third is pinned and not mounted, so it is fetched. -/
theorem reuse_decided_at_start_pinned :
    let mount : MountSettings := ⟨"/m", .default⟩
    let a : SecretObject := ⟨{ name := "a", version := some "2" }, mount⟩
    let b : SecretObject := ⟨{ name := "a/b", version := some "7" }, mount⟩
    let c : SecretObject := ⟨{ name := "c", version := some "7" }, mount⟩
    let m := VersionMap.ofList [("a", "1"), ("a_b", "7")]
    let store : Backend := { handler := .store .kms fun _ _ => .ok ⟨.empty, "3"⟩ }
    let w : World := { backends := ⟨some store, none⟩, disk := fun _ => .ok .empty }
    Batch.accept mount [a.record, b.record, c.record] = .ok [a, b, c] ∧
    ∃ v₁ v₂ v₃ : Visit,
      visits {} [a, b, c] m (begun w) = [v₁, v₂, v₃] ∧
      v₁.object = a ∧ v₂.object = b ∧ v₃.object = c ∧ v₂.map.get? a.fileName = some "3" ∧
      Fetched {} v₁.object v₁.world (v₁.trace {}) ((obtain {} v₁.object v₁.map).run v₁.world).1 ∧
      Reread v₂.object "7" v₂.world (v₂.trace {})
        ((obtain {} v₂.object v₂.map).run v₂.world).1 ∧
      Fetched {} v₃.object v₃.world (v₃.trace {})
        ((obtain {} v₃.object v₃.map).run v₃.world).1 := by
  intro mount a b c m store w
  have haccept : Batch.accept mount [a.record, b.record, c.record] = .ok [a, b, c] := by
    decide +kernel
  have hother : ∀ version, ¬ a.HasPin m version := by
    rintro version ⟨hpin, hmounted⟩
    cases hpin
    exact absurd hmounted (by decide +kernel)
  have hpin : b.HasPin m "7" := ⟨by decide +kernel, by decide +kernel⟩
  have hnone : ∀ version, ¬ c.HasPin m version := by
    rintro version ⟨-, hmounted⟩
    have habsent : m.get? c.fileName = none := by decide +kernel
    rw [habsent] at hmounted
    cases hmounted
  let d : Delivery := ⟨"3", ⟨.empty, a⟩, []⟩
  have hkind : a.kind = .ok .kms := by decide +kernel
  have hanswer : store.answer a.query = .ok ⟨.empty, "3"⟩ := rfl
  have hfirst : deliver {} a m (begun w) = .ok d :=
    deliver_of_answer rfl hother hkind rfl rfl hanswer
  let w₁ := ((handle {} a m).run (begun w)).2
  have hsecond : deliver {} b (d.record m) w₁ = .ok ⟨"7", ⟨.empty, b⟩, []⟩ := by
    refine deliver_eq_ok_iff.2 ⟨?_, rfl⟩
    have hpin₁ : b.HasPin (d.record m) "7" := ⟨by decide +kernel, by decide +kernel⟩
    have hread := (reload_reread b "7" w₁).result
    rw [disk_run] at hread
    rw [obtain_of_pin hpin₁]
    exact hread
  have hrecorded : (d.record m).get? a.fileName = some "3" := by decide +kernel
  obtain ⟨v₁, v₂, v₃, hreached, h₁, h₂, h₃, hmap⟩ : ∃ v₁ v₂ v₃ : Visit,
      visits {} [a, b, c] m (begun w) = [v₁, v₂, v₃] ∧
      v₁.object = a ∧ v₂.object = b ∧ v₃.object = c ∧ v₂.map.get? a.fileName = some "3" := by
    rw [visits_of_ok hfirst, visits_of_ok hsecond, visits_singleton]
    exact ⟨_, _, _, rfl, rfl, rfl, rfl, hrecorded⟩
  obtain ⟨-, -, hall⟩ := reuse_decided_at_start haccept {} m w
  rw [hreached] at hall
  simp only [List.forall_mem_cons] at hall
  obtain ⟨ha, hb, hc, -⟩ := hall
  exact ⟨haccept, v₁, v₂, v₃, hreached, h₁, h₂, h₃, hmap, ha.2.1 (h₁ ▸ hother),
    hb.1 "7" (h₂ ▸ hpin), hc.2.1 (h₃ ▸ hnone)⟩

end SecretMount.Pass
