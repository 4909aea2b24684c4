import SecretMount.Mount
import SecretMount.Proofs.Pass.Reuse
import SecretMount.Proofs.Text.ByteOrder

/-!
# The versions of a mount

Files look up their versions in the map after the whole pass. Since the file names of a batch are
distinct, each finds there what its own object has delivered (`files_of_deliveries`), and apart from
them the map is the one that the host has sent. Main statement: `mount_versions`.
-/

namespace SecretMount

open Process

variable {settings : FetchSettings} {request : MountRequest} {response : MountResponse}
  {m m' : VersionMap} {w : World}

namespace Batch

/-- The objects of a batch are those of records that are accepted for its directory. -/
lemma ofText_eq_ok {directory translation spec : String} {objects : List SecretObject}
    (h : ofText directory translation spec = .ok objects) :
    ∃ mount records, mount.directory = directory ∧ accept mount records = .ok objects := by
  unfold ofText at h
  obtain ⟨translation, -, h⟩ := except_bind_eq_ok.1 h
  obtain ⟨records, -, h⟩ := except_bind_eq_ok.1 h
  exact ⟨⟨directory, translation⟩, records, rfl, h⟩

end Batch

namespace Pass

/-- What decides between reading back and fetching is what the map holds for the object. -/
lemma Source.of_hasPin_iff {o : SecretObject} {t : Trace} {d : Delivery} (h : Source o m w t d)
    (hpin : ∀ version, o.HasPin m version ↔ o.HasPin m' version) : Source o m' w t d := by
  cases h with
  | file hfile hreads hdisk => exact .file ((hpin _).1 hfile) hreads hdisk
  | backend hnone hkind hlast hversion hbytes =>
    exact .backend (fun version hfile => hnone version ((hpin version).2 hfile)) hkind hlast
      hversion hbytes

/-- A delivery of a visit comes from where the map at the start of the pass has sent it. -/
lemma delivered_from_start {objects : List SecretObject} {ds : List Delivery}
    (hdistinct : (objects.flatMap SecretObject.fileNames).Nodup)
    (h : List.Forall₂ (fun v d => v.outcome settings = .ok d) (visits settings objects m w) ds) :
    List.Forall₂ (fun v d => d.IsOf v.object ∧ Source v.object m v.world (v.trace settings) d)
      (visits settings objects m w) ds := by
  have hmem : List.Forall₂ (fun v d => v ∈ visits settings objects m w ∧
      v.outcome settings = .ok d) (visits settings objects m w) ds :=
    (List.forall₂_and_left _ _).2 ⟨fun _ hv => hv, h⟩
  apply hmem.imp
  rintro v d ⟨hv, hd⟩
  obtain ⟨-, hsource⟩ := deliver_source hd
  exact ⟨deliver_isOf hd, hsource.of_hasPin_iff fun version => visits_hasPin_iff hdistinct hv⟩

namespace Delivery

/-- The files of a delivery: one for each value, all with its version. -/
def files (mode : Nat) (d : Delivery) : List SecretFile :=
  d.values.map fun value => ⟨value.object.fileName, value.bytes, mode, d.version⟩

/-- The paths of the files are the file names of the values. -/
lemma files_paths (mode : Nat) (ds : List Delivery) :
    (ds.flatMap (files mode)).map SecretFile.path = ds.flatMap fileNames := by
  rw [List.map_flatMap]
  apply List.flatMap_congr
  intro d _
  rw [files, List.map_map, fileNames]
  rfl

/-- What is delivered for objects has the file names of the objects and their entries. -/
lemma fileNames_flatMap {objects : List SecretObject} {ds : List Delivery}
    (h : List.Forall₂ (fun o d => d.IsOf o) objects ds) :
    ds.flatMap fileNames = objects.flatMap SecretObject.fileNames := by
  induction h with
  | nil => rfl
  | cons hd _ ih => rw [List.flatMap_cons, List.flatMap_cons, hd.fileNames_eq, ih]

/-- Each file finds the version of its own delivery in the map after all of them. -/
lemma files_of_deliveries {ds : List Delivery} (hdistinct : (ds.flatMap fileNames).Nodup)
    (mode : Nat) (m : VersionMap) :
    (ds.flatMap values).map (MountResponse.fileOf mode (recordAll ds m)) =
      ds.flatMap (files mode) := by
  rw [List.map_flatMap]
  apply List.flatMap_congr
  intro d hd
  apply List.map_congr_left
  intro value hvalue
  have hfile : value.object.fileName ∈ d.fileNames := List.mem_map_of_mem hvalue
  rw [MountResponse.fileOf, get?_recordAll_of_mem hdistinct hd hfile]
  rfl

end Delivery

end Pass

section Mount

variable {objects : List SecretObject}

/-- A mount whose batch is accepted makes a pass over it, and answers with the values of that. -/
lemma run_mount (w : World)
    (h : Batch.ofText request.target request.pathTranslation request.objects = .ok objects) :
    (mount settings request).run w =
      let pass := (Pass.reconcile settings objects (.ofList request.current)).run w
      (pass.1.1.map fun values => .ofValues request.mode values pass.1.2, pass.2) := by
  rw [mount, h]
  simp only [run_sequence, run_pure]

/-- A mount of a batch does what the pass over its objects does. -/
lemma trace_mount (w : World)
    (h : Batch.ofText request.target request.pathTranslation request.objects = .ok objects) :
    (mount settings request).trace w =
      (Pass.reconcile settings objects (.ofList request.current)).trace w := by
  rw [mount, h]
  simp only [trace_sequence, trace_pure, List.append_nil]

end Mount

/-- A mount that succeeds answers with the values of a pass over its batch. -/
lemma mount_eq_ok (h : ((mount settings request).run w).1 = .ok response) :
    ∃ objects values m',
      Batch.ofText request.target request.pathTranslation request.objects = .ok objects ∧
      ((Pass.reconcile settings objects (VersionMap.ofList request.current)).run w).1 =
        (.ok values, m') ∧
      (mount settings request).trace w =
        (Pass.reconcile settings objects (VersionMap.ofList request.current)).trace w ∧
      response = .ofValues request.mode values m' := by
  cases hbatch : Batch.ofText request.target request.pathTranslation request.objects with
  | error failure =>
    rw [mount, hbatch] at h
    cases h
  | ok objects =>
    rw [run_mount w hbatch] at h
    obtain ⟨values, hvalues, hresponse⟩ := except_map_eq_ok.1 h
    exact ⟨objects, values, _, rfl, Prod.ext hvalues rfl, trace_mount w hbatch, hresponse.symm⟩

/-- What a mount that succeeds answers: the files of the deliveries of its pass, in order. A
delivery comes from the object's file, with its pin, or from the last answer of its backend; its
files, the parts of the object included, have its version and the mode of the request. The versions
are those of the files, and the host's own, of which the last listed counts, for all other ids; they
stand in ascending order of the bytes of the ids. -/
theorem mount_versions (h : ((mount settings request).run w).1 = .ok response) :
    ∃ (reached : List Pass.Visit) (ds : List Pass.Delivery),
      Batch.ofText request.target request.pathTranslation request.objects =
        .ok (reached.map Pass.Visit.object) ∧
      (∃ before after, Pass.Idle before ∧ Pass.Idle after ∧
        (mount settings request).trace w =
          before ++ reached.flatMap (Pass.Visit.trace settings) ++ after) ∧
      List.Forall₂
        (fun v d => d.IsOf v.object ∧
          Pass.Source v.object (.ofList request.current) v.world (v.trace settings) d)
        reached ds ∧
      response.files = ds.flatMap (Pass.Delivery.files request.mode) ∧
      (∀ f ∈ response.files, KeyedList.get? f.path response.versions = some f.version) ∧
      (∀ id ∉ response.files.map SecretFile.path,
        KeyedList.get? id response.versions = VersionMap.lastListed request.current id) ∧
      response.versions.Pairwise fun a b => Text.bytes a.1 < Text.bytes b.1 := by
  obtain ⟨objects, values, m', hbatch, hpass, htrace, rfl⟩ := mount_eq_ok h
  obtain ⟨ds, hobjects, hds, rfl, rfl⟩ := Pass.reconcile_eq_ok hpass
  obtain ⟨mountSettings, records, -, haccept⟩ := Batch.ofText_eq_ok hbatch
  have hdistinct := Batch.fileNames_nodup haccept
  have hsources := Pass.delivered_from_start hdistinct hds
  -- the file names stay distinct when the values stand for the objects and their entries
  have hdistinct' : (ds.flatMap Pass.Delivery.fileNames).Nodup := by
    have hisOf : List.Forall₂ (fun o d => d.IsOf o) objects ds := by
      rw [← hobjects, List.forall₂_map_left_iff]
      exact hsources.imp fun _ _ hd => hd.1
    rwa [Pass.Delivery.fileNames_flatMap hisOf]
  have hfiles := Pass.Delivery.files_of_deliveries hdistinct' request.mode
    (VersionMap.ofList request.current)
  refine ⟨_, ds, by rw [hobjects]; exact hbatch, ?_, hsources, hfiles, ?_, ?_, ?_⟩
  · rw [htrace]
    exact Pass.trace_reconcile_visits _ _ _ _
  · intro f hf
    rw [MountResponse.ofValues, hfiles] at hf
    obtain ⟨d, hd, hf⟩ := List.mem_flatMap.1 hf
    obtain ⟨value, hvalue, rfl⟩ := List.mem_map.1 hf
    exact Pass.Delivery.get?_recordAll_of_mem hdistinct' hd (List.mem_map_of_mem hvalue) _
  · intro id hid
    rw [MountResponse.ofValues, hfiles, Pass.Delivery.files_paths] at hid
    refine (Pass.Delivery.get?_recordAll_of_notMem hid _).trans ?_
    exact VersionMap.get?_ofList _ _
  · exact (Pass.Delivery.recordAll ds _).ascending.imp Text.bytes_lt_of_lt

/-- An object that is mounted as it is pinned, beside the version of an object that is gone. -/
theorem mount_versions_pinned :
    let request : MountRequest :=
      { objects := "- objectName: a\n  objectVersion: v7", target := "/m",
        current := [("b", "v1"), ("a", "v7")] }
    let w : World := { disk := fun _ => .ok .empty }
    ∃ response, ((mount {} request).run w).1 = .ok response ∧
      response.files = [⟨"a", .empty, defaultMode, "v7"⟩] ∧
      ∀ f ∈ response.files, KeyedList.get? f.path response.versions = some f.version := by
  intro request w
  let o : SecretObject := ⟨{ name := "a", version := some "v7" }, ⟨"/m", .default⟩⟩
  let m := VersionMap.ofList request.current
  let d : Pass.Delivery := ⟨"v7", ⟨.empty, o⟩, []⟩
  have hbatch : Batch.ofText request.target request.pathTranslation request.objects = .ok [o] := by
    decide +kernel
  have hpin : o.HasPin m "v7" := ⟨by decide +kernel, by decide +kernel⟩
  have hd : Pass.deliver {} o m (Pass.begun w) = .ok d :=
    Pass.deliver_eq_ok_iff.2 ⟨by rw [Pass.obtain_of_pin hpin]; rfl, rfl⟩
  have hresponse : ((mount {} request).run w).1 =
      .ok (.ofValues defaultMode d.values (d.record m)) := by
    rw [mount, hbatch, run_sequence, Pass.run_reconcile, Pass.run_handleAll_of_ok hd]
    rfl
  obtain ⟨-, -, -, -, -, -, hversions, -⟩ := mount_versions hresponse
  have hname : o.fileName = "a" := by decide +kernel
  have hversion : (d.record m).get? o.fileName = some "v7" := by decide +kernel
  refine ⟨_, hresponse, ?_, hversions⟩
  show [MountResponse.fileOf defaultMode (d.record m) ⟨.empty, o⟩] = _
  rw [MountResponse.fileOf, hversion, hname]
  rfl

end SecretMount
