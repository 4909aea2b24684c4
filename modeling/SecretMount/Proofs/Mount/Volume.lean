import SecretMount.Proofs.Mount.Deliveries
import SecretMount.Proofs.Mount.Failures
import SecretMount.Proofs.Pass.Again

/-!
# Volumes

A host mounts a volume again and again below one directory. Each time it hands back the versions
that it has; after a success it writes the files and takes over the versions of the answer, and a
failed mount leaves the volume as it is (`Volume.after`). Batches, settings and surroundings may be
different each time, so `Reachable` has all volumes that can come of this.

A reachable volume is `Sound`: each file that has been delivered stands on the disk as it was
delivered last, and no version is handed back for anything else. So a mount finds all that it reads
back. Main statement: `reachable_holds_delivered`.
-/

namespace SecretMount

open Pass Process

/-- The disk after a file has been written; distinct paths are distinct files. -/
def Disk.write (disk : Disk) (path : String) (bytes : ByteArray) : Disk :=
  fun p => if p = path then .ok bytes else disk p

/-- What a host keeps of a volume. -/
structure Volume where
  /-- The ids and versions to hand back. -/
  versions : List (String × String) := []
  disk : Disk
  /-- All files that have been delivered, in order. -/
  delivered : List SecretFile := []

/-- What a volume does not determine about a mount. The disk of the world is not looked at. -/
structure Turn where
  settings : FetchSettings := {}
  objects : String
  pathTranslation : String := ""
  mode : Nat := defaultMode
  world : World := {}

namespace Volume

variable {directory id : String} {v : Volume} {t : Turn} {bytes : ByteArray}

/-- The request that hands back the versions of the volume. -/
def request (directory : String) (v : Volume) (t : Turn) : MountRequest where
  objects := t.objects
  pathTranslation := t.pathTranslation
  target := directory
  mode := t.mode
  current := v.versions

/-- The world in which the volume is mounted. -/
def world (v : Volume) (t : Turn) : World := { t.world with disk := v.disk }

/-- What a mount of the volume answers. -/
def answer (directory : String) (v : Volume) (t : Turn) : Except Failure MountResponse :=
  ((mount t.settings (v.request directory t)).run (v.world t)).1

/-- Writes a file that has been delivered. -/
def write (directory : String) (v : Volume) (f : SecretFile) : Volume :=
  { v with
    disk := v.disk.write (pathBelow directory f.path) f.contents
    delivered := v.delivered ++ [f] }

/-- The volume after a mount. -/
def after (directory : String) (v : Volume) (t : Turn) : Volume :=
  match v.answer directory t with
  | .ok response =>
    { response.files.foldl (write directory) v with versions := response.versions }
  | .error _ => v

/-- The bytes that have been delivered last for an id. -/
def lastDelivered? (v : Volume) (id : String) : Option ByteArray :=
  (v.delivered.reverse.find? fun f => f.path = id).map SecretFile.contents

/-- The volumes that come of mounts below a directory, starting without versions on any disk. -/
inductive Reachable (directory : String) : Volume → Prop where
  | start (disk : Disk) : Reachable directory { disk }
  | after {v : Volume} (t : Turn) :
    Reachable directory v →
    Reachable directory (v.after directory t)

/-- A volume that holds what has been delivered: each file stands on the disk as it was delivered
last, and only ids of such files have versions. -/
structure Sound (directory : String) (v : Volume) : Prop where
  relative : ∀ f ∈ v.delivered, f.path.toList.head? ≠ some '/'
  written : ∀ id bytes, v.lastDelivered? id = some bytes →
    v.disk (pathBelow directory id) = .ok bytes
  known : ∀ e ∈ v.versions, ∃ bytes, v.lastDelivered? e.1 = some bytes

/-- A file that is written is the last one delivered under its path. -/
lemma lastDelivered?_write (directory : String) (v : Volume) (f : SecretFile) (id : String) :
    (v.write directory f).lastDelivered? id =
      if f.path = id then some f.contents else v.lastDelivered? id := by
  rw [lastDelivered?, write, List.reverse_append, List.reverse_singleton, List.singleton_append,
    List.find?_cons]
  by_cases hid : f.path = id <;> simp [hid, lastDelivered?]

/-- What has been delivered once stays delivered. -/
lemma delivered_write (directory : String) {v : Volume} (f : SecretFile)
    (h : id = f.path ∨ ∃ bytes, v.lastDelivered? id = some bytes) :
    ∃ bytes, (v.write directory f).lastDelivered? id = some bytes := by
  rw [lastDelivered?_write]
  by_cases hid : f.path = id
  · exact ⟨f.contents, if_pos hid⟩
  · rw [if_neg hid]
    exact h.resolve_left (Ne.symm hid)

/-- What has been delivered, or is among the files that are written, has been delivered. -/
lemma delivered_writeAll (directory : String) {v : Volume} {files : List SecretFile}
    (h : id ∈ files.map SecretFile.path ∨ ∃ bytes, v.lastDelivered? id = some bytes) :
    ∃ bytes, (files.foldl (write directory) v).lastDelivered? id = some bytes := by
  induction files generalizing v with
  | nil => exact h.resolve_left List.not_mem_nil
  | cons f rest ih =>
    apply ih
    rcases h with h | h
    · rcases List.mem_cons.1 h with h | h
      · exact .inr (delivered_write directory f (.inl h))
      · exact .inl h
    · exact .inr (delivered_write directory f (.inr h))

namespace Sound

/-- Nothing is delivered under an absolute path. -/
lemma relative_of_lastDelivered (h : Sound directory v) (hid : v.lastDelivered? id = some bytes) :
    id.toList.head? ≠ some '/' := by
  obtain ⟨f, hf, -⟩ := Option.map_eq_some_iff.1 hid
  have hpath : f.path = id := by simpa using List.find?_some hf
  rw [← hpath]
  exact h.relative f (List.mem_reverse.1 (List.mem_of_find?_eq_some hf))

/-- A volume stays sound when a file is written under a relative path. -/
lemma write (h : Sound directory v) {f : SecretFile} (hf : f.path.toList.head? ≠ some '/') :
    Sound directory (v.write directory f) where
  relative := by
    intro g hg
    rcases List.mem_append.1 hg with hg | hg
    · exact h.relative g hg
    · cases List.mem_singleton.1 hg
      exact hf
  written := by
    intro id bytes hid
    rw [lastDelivered?_write] at hid
    split at hid
    case isTrue hpath =>
      cases hid
      rw [← hpath]
      exact if_pos rfl
    case isFalse hpath =>
      -- relative names have paths of their own, so the file of `id` is another one
      have hother : pathBelow directory id ≠ pathBelow directory f.path := fun heq =>
        hpath (MountSettings.eq_of_pathOf_eq (h.relative_of_lastDelivered hid) hf heq).symm
      exact (if_neg hother).trans (h.written id bytes hid)
  known := by
    intro e he
    exact delivered_write directory f (.inr (h.known e he))

/-- A volume stays sound when several files are written under relative paths. -/
lemma writeAll (h : Sound directory v) {files : List SecretFile}
    (hfiles : ∀ f ∈ files, f.path.toList.head? ≠ some '/') :
    Sound directory (files.foldl (Volume.write directory) v) := by
  induction files generalizing v with
  | nil => exact h
  | cons f rest ih =>
    obtain ⟨hf, hrest⟩ := List.forall_mem_cons.1 hfiles
    exact ih (h.write hf) hrest

end Sound

/-- A turn that succeeds writes its files and keeps its versions. -/
lemma after_of_ok {response : MountResponse} (h : v.answer directory t = .ok response) :
    v.after directory t =
      { response.files.foldl (write directory) v with versions := response.versions } := by
  rw [after, h]

/-- A turn that fails leaves the volume as it is. -/
lemma after_of_error {failure : Failure} (h : v.answer directory t = .error failure) :
    v.after directory t = v := by
  rw [after, h]

/-- A volume stays sound through a turn. -/
lemma Sound.after (h : Sound directory v) (t : Turn) : Sound directory (v.after directory t) := by
  cases hanswer : v.answer directory t with
  | error failure =>
    rw [after_of_error hanswer]
    exact h
  | ok response =>
    rw [after_of_ok hanswer]
    obtain ⟨objects, ds, hdelivers⟩ := mount_delivers hanswer
    have hwritten : Sound directory (response.files.foldl (Volume.write directory) v) := by
      apply h.writeAll
      intro f hf
      have hname : f.path ∈ objects.flatMap SecretObject.fileNames := by
        rw [← hdelivers.paths]
        exact List.mem_map_of_mem hf
      exact (Batch.admissible_of_ofText hdelivers.batch hname).relative
    refine ⟨hwritten.relative, hwritten.written, ?_⟩
    intro e he
    -- an id of the answer has been written just now, or the volume has handed it back
    exact delivered_writeAll directory ((hdelivers.mem_versions he).imp_right (h.known e))

/-- Every volume that is reached is sound. -/
lemma Reachable.sound (h : Reachable directory v) : Sound directory v := by
  induction h with
  | start disk => exact ⟨nofun, nofun, nofun⟩
  | after t _ ih => exact ih.after t

/-- The file of an object that is to be read back holds what has been delivered last for it. -/
lemma Sound.disk_of_pin (h : Sound directory v) {objects : List SecretObject}
    (hbatch : Batch.ofText directory t.pathTranslation t.objects = .ok objects) {visit : Visit}
    (hvisit : visit ∈ visits t.settings objects (.ofList v.versions) (begun (v.world t)))
    {version : String} (hpin : visit.object.HasPin (.ofList v.versions) version) :
    ∃ bytes, v.lastDelivered? visit.object.fileName = some bytes ∧
      visit.world.disk visit.object.mountPath = .ok bytes := by
  obtain ⟨-, hversion⟩ := hpin
  rw [VersionMap.get?_ofList] at hversion
  obtain ⟨bytes, hbytes⟩ := h.known _ (List.mem_reverse.1 (KeyedList.mem_of_get? hversion))
  refine ⟨bytes, hbytes, ?_⟩
  rw [(visits_world hvisit).1, Batch.mountPath_of_ofText hbatch (object_mem_of_visit hvisit)]
  exact h.written _ _ hbytes

/-- On a sound volume no file that is to be read back is missing. -/
lemma Sound.answer_kind (h : Sound directory v) {failure : Failure}
    (hanswer : v.answer directory t = .error failure) : failure.kind ≠ .diskRead := by
  intro hkind
  cases failure with
  | diskRead object path fault =>
    obtain ⟨objects, hbatch, visit, hvisit, version, hpin, -, hdisk⟩ := mount_eq_diskRead hanswer
    -- no object before this one has changed what the map says about it, so its pin was handed back
    have hdistinct := Batch.fileNames_nodup_of_ofText hbatch
    have hpin := (visits_hasPin_iff hdistinct hvisit).1 hpin
    obtain ⟨bytes, -, hbytes⟩ := h.disk_of_pin hbatch hvisit hpin
    rw [hdisk] at hbytes
    cases hbytes
  | _ => cases hkind

/-- In a volume that can be reached, each id that has a version has a file on the disk with the
bytes that have been delivered last for it. However the volume is mounted then, the mount does not
fail to read a file. Each object that its pass reaches and whose pin is among the versions is read
back with the bytes that have been delivered last under its file name, and each other is fetched. -/
theorem reachable_holds_delivered (h : Reachable directory v) :
    (∀ e ∈ v.versions, ∃ bytes, v.lastDelivered? e.1 = some bytes ∧
      v.disk (pathBelow directory e.1) = .ok bytes) ∧
    ∀ t : Turn,
      (∀ failure, v.answer directory t = .error failure → failure.kind ≠ .diskRead) ∧
      ∀ objects, Batch.ofText directory t.pathTranslation t.objects = .ok objects →
        let reached := visits t.settings objects (.ofList v.versions) (begun (v.world t))
        (∃ before after, Idle before ∧ Idle after ∧
          (mount t.settings (v.request directory t)).trace (v.world t) =
            before ++ reached.flatMap (Visit.trace t.settings) ++ after) ∧
        ∀ visit ∈ reached,
          (∀ version, visit.object.HasPin (.ofList v.versions) version →
            ∃ bytes, v.lastDelivered? visit.object.fileName = some bytes ∧
              (visit.trace t.settings).reads = [visit.object.mountPath] ∧
              ((obtain t.settings visit.object visit.map).run visit.world).1 =
                .ok (version, ⟨bytes, visit.object⟩)) ∧
          ((∀ version, ¬ visit.object.HasPin (.ofList v.versions) version) →
            visit.Fetches t.settings) := by
  have hsound := h.sound
  refine ⟨?_, ?_⟩
  · intro e he
    obtain ⟨bytes, hbytes⟩ := hsound.known e he
    exact ⟨bytes, hbytes, hsound.written _ _ hbytes⟩
  intro t
  refine ⟨fun failure => hsound.answer_kind, ?_⟩
  intro objects hbatch reached
  refine ⟨?_, ?_⟩
  · let request := v.request directory t
    have hrequest : Batch.ofText request.target request.pathTranslation request.objects =
      .ok objects := hbatch
    rw [trace_mount (v.world t) hrequest]
    exact trace_reconcile_visits _ _ _ _
  intro visit hvisit
  have hdistinct := Batch.fileNames_nodup_of_ofText hbatch
  constructor
  · intro version hpin
    obtain ⟨bytes, hbytes, hdisk⟩ := hsound.disk_of_pin hbatch hvisit hpin
    have hread := handle_reread t.settings visit.world ((visits_hasPin_iff hdistinct hvisit).2 hpin)
    have hresult := hread.result
    rw [hdisk] at hresult
    exact ⟨bytes, hbytes, hread.reads, hresult⟩
  · intro hnone
    apply Visit.fetches_iff.2
    intro version hpin
    exact hnone version ((visits_hasPin_iff hdistinct hvisit).1 hpin)

/-- A volume with a parameter that has been delivered once: it stands on the disk, and it is read
back where no client is configured. -/
theorem reachable_holds_delivered_parameter :
    let client (_ : Nat) (_ : Oos.Request) : Except BackendError Oos.Response :=
      .ok { parameter := some { value := some "secret" } }
    let objects := "- objectName: p\n  objectType: oos\n  objectVersion: v1"
    let o : SecretObject :=
      ⟨{ name := "p", type := some "oos", version := some "v1" }, ⟨"/m", .default⟩⟩
    let first : Turn := { objects, world := { backends := ⟨none, some ⟨.oos client, 0⟩⟩ } }
    let second : Turn := { objects }
    let empty : Volume := { disk := fun _ => .error .missing }
    let v := empty.after "/m" first
    Reachable "/m" v ∧
      v.versions = [("p", "v1")] ∧
      v.disk "/m/p" = .ok "secret".toUTF8 ∧
      ((obtain second.settings o (.ofList v.versions)).run (begun (v.world second))).1 =
        .ok ("v1", ⟨"secret".toUTF8, o⟩) := by
  intro client objects o first second empty v
  have hbatch : Batch.ofText "/m" "" objects = .ok [o] := by decide +kernel
  have hkind : o.kind = .ok .oos := by decide +kernel
  have hbackend : (empty.world first).backends.get .oos = some ⟨.oos client, 0⟩ := rfl
  have hanswer : (⟨.oos client, 0⟩ : Backend).answer o.query = .ok ⟨"secret".toUTF8, "v1"⟩ := rfl
  have hname : o.fileName = "p" := by decide +kernel
  have hpath : pathBelow "/m" "p" = "/m/p" := by decide +kernel
  have hfirst : empty.answer "/m" first =
      .ok ⟨[⟨"p", "secret".toUTF8, defaultMode, "v1"⟩], [("p", "v1")]⟩ := by
    let request := empty.request "/m" first
    have hrequest : Batch.ofText request.target request.pathTranslation request.objects =
      .ok [o] := hbatch
    rw [← hname]
    exact run_mount_of_answer hrequest rfl rfl hkind rfl hbackend hanswer
  have hversions : v.versions = [("p", "v1")] := congrArg versions (after_of_ok hfirst)
  have hlast : v.lastDelivered? "p" = some "secret".toUTF8 := by
    have hafter := congrArg (fun v => v.lastDelivered? "p") (after_of_ok hfirst)
    exact hafter.trans ((lastDelivered?_write "/m" empty _ "p").trans (if_pos rfl))
  have hreachable : Reachable "/m" v := .after first (.start _)
  obtain ⟨hfiles, hturns⟩ := reachable_holds_delivered hreachable
  refine ⟨hreachable, hversions, ?_, ?_⟩
  · obtain ⟨bytes, hbytes, hdisk⟩ := hfiles ("p", "v1") (hversions ▸ List.mem_cons_self)
    rw [hlast] at hbytes
    cases hbytes
    rw [← hpath]
    exact hdisk
  · obtain ⟨-, hobjects⟩ := hturns second
    obtain ⟨-, hvisits⟩ := hobjects [o] hbatch
    have hpin : o.HasPin (.ofList v.versions) "v1" := by
      rw [hversions]
      exact ⟨by decide +kernel, by decide +kernel⟩
    have hreached : ⟨o, .ofList v.versions, begun (v.world second)⟩ ∈
        visits second.settings [o] (.ofList v.versions) (begun (v.world second)) := by
      rw [visits_singleton]
      exact List.mem_cons_self
    obtain ⟨bytes, hbytes, -, hresult⟩ := (hvisits _ hreached).1 "v1" hpin
    rw [hname, hlast] at hbytes
    cases hbytes
    exact hresult

end Volume

end SecretMount
