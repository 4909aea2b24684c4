import SecretMount.Proofs.Batch.Places
import SecretMount.Proofs.Mount.Versions

/-!
# What a mount delivers

A mount that succeeds answers with the files and the versions of the deliveries of its pass
(`mount_delivers`), and the file of each value stands at the path of its object
(`mountPath_of_ofText`). An id of the answer is that of a file or was mounted before
(`Delivers.mem_versions`).
-/

namespace SecretMount

open Process

variable {settings : FetchSettings} {request : MountRequest} {response : MountResponse} {w : World}
  {objects : List SecretObject} {o : SecretObject}

/-- The path at which a host has a file below a directory. -/
def pathBelow (directory fileName : String) : String :=
  MountSettings.pathOf { directory } fileName

namespace Batch

variable {directory translation spec : String}

/-- The file of an object of a batch is below the directory that the batch is for. -/
lemma mountPath_of_ofText (h : ofText directory translation spec = .ok objects) (ho : o ∈ objects) :
    o.mountPath = pathBelow directory o.fileName := by
  obtain ⟨mount, records, rfl, haccept⟩ := ofText_eq_ok h
  have hfile : o ∈ files objects := List.mem_flatMap.2 ⟨o, ho, List.mem_cons_self⟩
  rw [SecretObject.mountPath, (file_of_accept haccept hfile).1]
  rfl

/-- The file names of a batch are admissible. -/
lemma admissible_of_ofText (h : ofText directory translation spec = .ok objects) {f : String}
    (hf : f ∈ objects.flatMap SecretObject.fileNames) : FileName.Admissible f := by
  obtain ⟨mount, records, -, haccept⟩ := ofText_eq_ok h
  rw [← files_fileName] at hf
  obtain ⟨p, hp, rfl⟩ := List.mem_map.1 hf
  exact (file_of_accept haccept hp).2.1

/-- The file names of a batch are distinct. -/
lemma fileNames_nodup_of_ofText (h : ofText directory translation spec = .ok objects) :
    (objects.flatMap SecretObject.fileNames).Nodup := by
  obtain ⟨mount, records, -, haccept⟩ := ofText_eq_ok h
  exact fileNames_nodup haccept

end Batch

/-- What the pass of a successful mount delivers, and what the mount answers with it. -/
structure Delivers (settings : FetchSettings) (request : MountRequest) (w : World)
    (objects : List SecretObject) (ds : List Pass.Delivery) (response : MountResponse) : Prop where
  batch : Batch.ofText request.target request.pathTranslation request.objects = .ok objects
  reached :
    (Pass.visits settings objects (.ofList request.current) (Pass.begun w)).map Pass.Visit.object =
      objects
  outcomes : List.Forall₂ (fun v d => v.outcome settings = .ok d)
    (Pass.visits settings objects (.ofList request.current) (Pass.begun w)) ds
  distinct : (ds.flatMap Pass.Delivery.fileNames).Nodup
  files : response.files = ds.flatMap (Pass.Delivery.files request.mode)
  versions : response.versions = (Pass.Delivery.recordAll ds (.ofList request.current)).toList

/-- A mount that succeeds delivers for each object of its batch. -/
lemma mount_delivers (h : ((mount settings request).run w).1 = .ok response) :
    ∃ objects ds, Delivers settings request w objects ds response := by
  obtain ⟨objects, values, m', hbatch, hpass, -, rfl⟩ := mount_eq_ok h
  obtain ⟨ds, hobjects, hds, rfl, rfl⟩ := Pass.reconcile_eq_ok hpass
  have hdistinct : (ds.flatMap Pass.Delivery.fileNames).Nodup := by
    rw [Pass.Delivery.fileNames_flatMap (Pass.isOf_of_outcomes hds), hobjects]
    exact Batch.fileNames_nodup_of_ofText hbatch
  exact ⟨objects, ds, hbatch, hobjects, hds, hdistinct,
    Pass.Delivery.files_of_deliveries hdistinct _ _, rfl⟩

/-- A mount of one object, of which nothing is mounted, where nothing is limited: what its backend
answers is its file. -/
lemma run_mount_of_answer {kind : BackendKind} {backend : Backend} {secret : FetchedSecret}
    (hbatch : Batch.ofText request.target request.pathTranslation request.objects = .ok [o])
    (hentries : o.entries = []) (hcurrent : request.current = []) (hkind : o.kind = .ok kind)
    (hlimiter : w.limiter.get kind = none) (hbackend : w.backends.get kind = some backend)
    (hanswer : backend.answer o.query = .ok secret) :
    ((mount settings request).run w).1 =
      .ok ⟨[⟨o.fileName, secret.bytes, request.mode, secret.version⟩],
        [(o.fileName, secret.version)]⟩ := by
  let d : Pass.Delivery := ⟨secret.version, ⟨secret.bytes, o⟩, []⟩
  have hpin : ∀ version, ¬ o.HasPin (.ofList []) version := by
    rintro version ⟨-, hmounted⟩
    cases hmounted
  have hd : Pass.deliver settings o (.ofList []) (Pass.begun w) = .ok d :=
    Pass.deliver_of_answer hentries hpin hkind hlimiter hbackend hanswer
  have hversion : (d.record (.ofList [])).get? o.fileName = some secret.version :=
    (d.get?_record _ _).trans (if_pos List.mem_cons_self)
  rw [run_mount w hbatch, Pass.run_reconcile, hcurrent, Pass.run_handleAll_of_ok hd]
  show Except.ok (MountResponse.mk
    [MountResponse.fileOf request.mode (d.record (.ofList [])) ⟨secret.bytes, o⟩] _) = _
  rw [MountResponse.fileOf, hversion]
  rfl

namespace Delivers

variable {ds : List Pass.Delivery}

/-- Each delivery is that of the object in its place. -/
lemma isOf (h : Delivers settings request w objects ds response) :
    List.Forall₂ (fun o d => d.IsOf o) objects ds := by
  rw [← h.reached]
  exact Pass.isOf_of_outcomes h.outcomes

/-- The files of the answer are those of the objects and their entries, in order. -/
lemma paths (h : Delivers settings request w objects ds response) :
    response.files.map SecretFile.path = objects.flatMap SecretObject.fileNames := by
  rw [h.files, Pass.Delivery.files_paths, Pass.Delivery.fileNames_flatMap h.isOf]

/-- An id of the answer has been delivered, or it was mounted before. -/
lemma mem_versions (h : Delivers settings request w objects ds response) {e : String × String}
    (he : e ∈ response.versions) :
    e.1 ∈ response.files.map SecretFile.path ∨ e ∈ request.current := by
  rw [h.files, Pass.Delivery.files_paths]
  by_cases hmem : e.1 ∈ ds.flatMap Pass.Delivery.fileNames
  · exact .inl hmem
  · rw [h.versions] at he
    have hget := (KeyedList.get?_eq_some_iff (Pass.Delivery.recordAll ds _).ascending).2 he
    have hbefore := (Pass.Delivery.get?_recordAll_of_notMem hmem _).symm.trans hget
    rw [VersionMap.get?_ofList] at hbefore
    exact .inr (List.mem_reverse.1 (KeyedList.mem_of_get? hbefore))

end Delivers

end SecretMount
