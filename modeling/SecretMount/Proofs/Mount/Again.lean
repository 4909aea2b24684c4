import SecretMount.Proofs.Mount.Deliveries
import SecretMount.Proofs.Pass.Again

/-!
# Mounting again

After a successful mount whose files have been written, the versions of the answer and the disk hold
what the mount has delivered (`Delivers.kept`). A second mount that hands these versions back makes
a pass over what is kept. Main statement: `mount_again`.
-/

namespace SecretMount

open Pass Process

variable {settings settings' : FetchSettings} {request : MountRequest} {response : MountResponse}
  {w w' : World} {objects : List SecretObject} {ds : List Delivery}

/-- What holds of all right-hand items holds beside the relation. -/
lemma forall₂_and_right {α β : Type} {R : α → β → Prop} {p : β → Prop} {l : List α} {l' : List β}
    (hp : ∀ b ∈ l', p b) (h : List.Forall₂ R l l') : List.Forall₂ (fun a b => p b ∧ R a b) l l' :=
  .flip ((List.forall₂_and_left l' l).2 ⟨hp, .flip h⟩)

/-- Each item on the left is related to one on the right. -/
lemma exists_of_forall₂ {α β : Type} {R : α → β → Prop} {a : α} {l : List α} {l' : List β}
    (h : List.Forall₂ R l l') (ha : a ∈ l) : ∃ b ∈ l', R a b := by
  induction h with
  | nil => cases ha
  | @cons a' b _ _ hab _ ih =>
    rcases List.mem_cons.1 ha with rfl | ha
    · exact ⟨b, List.mem_cons_self, hab⟩
    · obtain ⟨b', hb', hab'⟩ := ih ha
      exact ⟨b', List.mem_cons_of_mem _ hb', hab'⟩

/-- The request with other versions that are mounted. -/
def MountRequest.withCurrent (request : MountRequest) (current : List (String × String)) :
    MountRequest :=
  { request with current }

namespace Delivers

/-- The batch of a request does not depend on what is mounted. -/
lemma batch_withCurrent (h : Delivers settings request w objects ds response)
    (current : List (String × String)) :
    Batch.ofText (request.withCurrent current).target (request.withCurrent current).pathTranslation
      (request.withCurrent current).objects = .ok objects :=
  h.batch

/-- The versions of the answer, as a map, are those that the pass has left. -/
lemma ofList_versions (h : Delivers settings request w objects ds response) :
    VersionMap.ofList response.versions = Delivery.recordAll ds (.ofList request.current) := by
  rw [h.versions, VersionMap.ofList_toList]

/-- The value of an object is among the files, with its version. -/
lemma file_mem (h : Delivers settings request w objects ds response) {d : Delivery} (hd : d ∈ ds) :
    ⟨d.value.object.fileName, d.value.bytes, request.mode, d.version⟩ ∈ response.files := by
  rw [h.files]
  exact List.mem_flatMap.2 ⟨d, hd, List.mem_cons_self⟩

/-- Once the files of the answer stand on the disk, what has been delivered is kept. -/
lemma kept (h : Delivers settings request w objects ds response) {disk : Disk}
    (hdisk : ∀ f ∈ response.files, disk (pathBelow request.target f.path) = .ok f.contents) :
    List.Forall₂ (fun v d => v.outcome settings = .ok d ∧
        Kept (.ofList response.versions) disk v.object d)
      (visits settings objects (.ofList request.current) (begun w)) ds := by
  apply (forall₂_and_right (fun d hd => hd) ((List.forall₂_and_left _ _).2
    ⟨fun v hv => hv, h.outcomes⟩)).imp
  rintro v d ⟨hd, hv, houtcome⟩
  obtain ⟨hobject, -⟩ := deliver_source houtcome
  refine ⟨houtcome, hobject, (deliver_eq_ok_iff.1 houtcome).2, ?_, ?_⟩
  · rw [Batch.mountPath_of_ofText h.batch (object_mem_of_visit hv), ← hobject]
    exact hdisk _ (h.file_mem hd)
  · intro f hf
    rw [h.ofList_versions]
    exact Delivery.get?_recordAll_of_mem h.distinct hd hf _

/-- A pass from the versions of the answer that has everything from the disk answers the same. -/
lemma answer_of_fromDisk (h : Delivers settings request w objects ds response)
    (hpass : FromDisk ds (.ofList response.versions) w'
      (reconcile settings' objects (.ofList response.versions))) :
    ((mount settings' (request.withCurrent response.versions)).run w').1 = .ok response := by
  have hfiles := Delivery.files_of_deliveries h.distinct request.mode (.ofList request.current)
  have hresult := hpass.result
  rw [h.ofList_versions] at hresult
  rw [run_mount w' (h.batch_withCurrent response.versions)]
  simp only [MountRequest.withCurrent, h.ofList_versions, hresult, Except.map,
    MountResponse.ofValues, hfiles]
  rw [← h.files, ← h.versions]

/-- An object that the second pass reaches has been delivered by the first, and it is fetched again
just if it is not pinned to the version that was recorded then. -/
lemma fetches_again (h : Delivers settings request w objects ds response)
    (hdisk : ∀ f ∈ response.files, w'.disk (pathBelow request.target f.path) = .ok f.contents)
    {v : Visit} (hv : v ∈ visits settings' objects (.ofList response.versions) (begun w')) :
    ∃ v' ∈ visits settings objects (.ofList request.current) (begun w), ∃ d,
      v'.object = v.object ∧
      v'.outcome settings = .ok d ∧
      KeyedList.get? v.object.fileName response.versions = some d.version ∧
      (v.Fetches settings' ↔ v.object.version? ≠ some d.version) := by
  -- the first pass has reached all objects, those that the second one reaches among them
  have hobject : v.object ∈
      (visits settings objects (.ofList request.current) (begun w)).map Visit.object := by
    rw [h.reached]
    exact object_mem_of_visit hv
  obtain ⟨v', hv', hsame⟩ := List.mem_map.1 hobject
  obtain ⟨d, -, houtcome, hkept⟩ := exists_of_forall₂ (h.kept hdisk) hv'
  rw [hsame] at hkept
  refine ⟨v', hv', d, hsame, houtcome, ?_, ?_⟩
  · rw [h.versions]
    rw [h.ofList_versions] at hkept
    exact hkept.get?_fileName
  · exact hkept.fetches_iff (Batch.fileNames_nodup_of_ofText h.batch) hv

/-- A second pass that fetches nothing has everything from the files of the first mount. -/
lemma fromDisk_again (h : Delivers settings request w objects ds response)
    (hdisk : ∀ f ∈ response.files, w'.disk (pathBelow request.target f.path) = .ok f.contents)
    (hreuse : ∀ v ∈ visits settings' objects (.ofList response.versions) (begun w'),
      ¬ v.Fetches settings') :
    FromDisk ds (.ofList response.versions) w'
      (reconcile settings' objects (.ofList response.versions)) := by
  have hkept : List.Forall₂ (Kept (.ofList response.versions) w'.disk) objects ds := by
    rw [← h.reached, List.forall₂_map_left_iff]
    exact (h.kept hdisk).imp fun _ _ hd => hd.2
  exact reconcile_of_kept hkept hreuse

end Delivers

/-- After a successful mount whose files stand on the disk, let it be repeated with the versions of
its answer. Each object that the second pass reaches is fetched again if it is not pinned to the
version that the first pass has recorded for it, and only then. If none is, the second mount has the
same answer, without a call and without a use of a limiter, and leaves the world as it is but for
what is counted; the world and the settings may be any others. -/
theorem mount_again (h : ((mount settings request).run w).1 = .ok response)
    (hdisk : ∀ f ∈ response.files, w'.disk (pathBelow request.target f.path) = .ok f.contents) :
    let again := request.withCurrent response.versions
    ∃ objects,
      Batch.ofText request.target request.pathTranslation request.objects = .ok objects ∧
      let first := visits settings objects (.ofList request.current) (begun w)
      let second := visits settings' objects (.ofList again.current) (begun w')
      (∃ before after, Idle before ∧ Idle after ∧
        (mount settings' again).trace w' =
          before ++ second.flatMap (Visit.trace settings') ++ after) ∧
      (∀ v ∈ second, ∃ v' ∈ first, ∃ d,
        v'.object = v.object ∧
        v'.outcome settings = .ok d ∧
        KeyedList.get? v.object.fileName response.versions = some d.version ∧
        (v.Fetches settings' ↔ v.object.version? ≠ some d.version)) ∧
      ((∀ v ∈ second, ¬ v.Fetches settings') →
        ((mount settings' again).run w').1 = .ok response ∧
        ((mount settings' again).trace w').calls = [] ∧
        ((mount settings' again).trace w').tokens = [] ∧
        ((mount settings' again).run w').2.clock = w'.clock ∧
        ((mount settings' again).run w').2.SameButCounts w') := by
  intro again
  obtain ⟨objects, ds, hdelivers⟩ := mount_delivers h
  have hagain := hdelivers.batch_withCurrent response.versions
  refine ⟨objects, hdelivers.batch, ?_⟩
  intro first second
  refine ⟨?_, ?_, ?_⟩
  · rw [trace_mount w' hagain]
    exact trace_reconcile_visits _ _ _ _
  · intro v hv
    exact hdelivers.fetches_again hdisk hv
  · intro hreuse
    have hpass := hdelivers.fromDisk_again hdisk hreuse
    have hworld : ((mount settings' again).run w').2.SameButCounts w' := by
      rw [run_mount w' hagain]
      exact hpass.world
    refine ⟨hdelivers.answer_of_fromDisk hpass, ?_, ?_, hworld.clock, hworld⟩
    · rw [trace_mount w' hagain]
      exact hpass.calls
    · rw [trace_mount w' hagain]
      exact hpass.tokens

/-- A parameter pinned to the version that all parameters have is fetched once, and then read back
where no client is configured. -/
theorem mount_again_placeholder :
    let request : MountRequest :=
      { objects := "- objectName: p\n  objectType: oos\n  objectVersion: v1", target := "/m" }
    let client (_ : Nat) (_ : Oos.Request) : Except BackendError Oos.Response :=
      .ok { parameter := some { value := some "secret" } }
    let w : World := { backends := ⟨none, some ⟨.oos client, 0⟩⟩ }
    let w' : World :=
      { disk := fun path => if path = "/m/p" then .ok "secret".toUTF8 else .error .missing }
    ∃ response, ((mount {} request).run w).1 = .ok response ∧
      response.files = [⟨"p", "secret".toUTF8, defaultMode, "v1"⟩] ∧
      (∀ f ∈ response.files, w'.disk (pathBelow request.target f.path) = .ok f.contents) ∧
      ((mount {} (request.withCurrent response.versions)).run w').1 = .ok response := by
  intro request client w w'
  let o : SecretObject :=
    ⟨{ name := "p", type := some "oos", version := some "v1" }, ⟨"/m", .default⟩⟩
  have hbatch : Batch.ofText request.target request.pathTranslation request.objects = .ok [o] := by
    decide +kernel
  have hkind : o.kind = .ok .oos := by decide +kernel
  have hbackend : w.backends.get .oos = some ⟨.oos client, 0⟩ := rfl
  have hanswer : (⟨.oos client, 0⟩ : Backend).answer o.query = .ok ⟨"secret".toUTF8, "v1"⟩ := rfl
  have hname : o.fileName = "p" := by decide +kernel
  have hfirst : ((mount {} request).run w).1 =
      .ok ⟨[⟨"p", "secret".toUTF8, defaultMode, "v1"⟩], [("p", "v1")]⟩ := by
    rw [← hname]
    exact run_mount_of_answer hbatch rfl rfl hkind rfl hbackend hanswer
  have hpath : pathBelow "/m" "p" = "/m/p" := by decide +kernel
  have hdisk : ∀ f ∈ [(⟨"p", "secret".toUTF8, defaultMode, "v1"⟩ : SecretFile)],
      w'.disk (pathBelow request.target f.path) = .ok f.contents := by
    rw [List.forall_mem_singleton, hpath]
    rfl
  obtain ⟨objects, hobjects, -, -, hagain⟩ := mount_again hfirst hdisk
  cases hbatch.symm.trans hobjects
  have hreuse : ∀ v ∈ visits {} [o] (.ofList [("p", "v1")]) (begun w'), ¬ v.Fetches {} := by
    rw [visits_singleton, List.forall_mem_singleton, Visit.fetches_iff]
    exact fun hnone => hnone "v1" ⟨by decide +kernel, by decide +kernel⟩
  exact ⟨_, hfirst, rfl, hdisk, (hagain hreuse).1⟩

end SecretMount
