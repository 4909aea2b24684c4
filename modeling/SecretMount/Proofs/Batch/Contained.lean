import SecretMount.Proofs.FileTree.Walk
import SecretMount.Proofs.Pass.Reuse

/-!
# Batches stay below their directory

The paths of an accepted batch lie below its mount directory. Main statement: `accept_contained`,
which collects what acceptance guarantees about file names, paths and reads.
-/

namespace SecretMount.Batch

open FileTree

variable {mount : MountSettings} {records : List SecretRecord} {objects : List SecretObject}

/-- An object whose file is below a directory: its file name is admissible, its path is the name
behind the directory, and going along the path, part by part, leads along the directory and then
never above where that has led. What is read at the path in a tree stands below the directory. -/
structure Below (mount : MountSettings) (p : SecretObject) : Prop where
  admissible : FileName.Admissible p.fileName
  path : p.mountPath = mount.directory ++ mount.separator ++ p.fileName
  stays : StaysBelow p.fileName
  walk (start : List String) :
    walk start p.mountPath = walk (walk start mount.directory) p.fileName
  place : placeOf mount.directory <+: placeOf p.mountPath
  read {t : FileTree} {directory : List String} {bytes : ByteArray} :
    t.resolve mount.directory = .ok (.inside directory) →
    t.read p.mountPath = .ok bytes →
    ∃ below, t.entry? (directory ++ below) = some (some bytes)

/-- An object whose file name is admissible has its file below the directory. -/
lemma below_of_admissible {p : SecretObject} (hmount : p.mount = mount)
    (h : FileName.Admissible p.fileName) : Below mount p := by
  subst hmount
  have hstays := staysBelow_of_admissible h
  have hwalk := MountSettings.walk_pathOf (m := p.mount) h.relative
  have hplace : placeOf p.mount.directory <+: placeOf p.mountPath := by
    rw [placeOf_eq_walk p.mountPath, SecretObject.mountPath, hwalk]
    exact hstays _ _ (List.prefix_refl _)
  exact ⟨h, MountSettings.pathOf_of_relative h.relative, hstays, hwalk, hplace,
    MountSettings.read_pathOf h⟩

/-- The file of each object of an accepted batch and of each entry is below the directory. -/
lemma accept_below (h : accept mount records = .ok objects) {o : SecretObject} (ho : o ∈ objects)
    {p : SecretObject} (hp : p ∈ o :: o.entryObjects) : Below mount p := by
  obtain ⟨rfl, hadmitted⟩ := accept_eq_ok_iff.1 h
  have hcheck := hadmitted.valid o ho
  obtain ⟨record, -, rfl⟩ := List.mem_map.1 ho
  exact below_of_admissible (SecretObject.mount_of_mem hp)
    (SecretObject.admissible_of_check hcheck hp)

/-- An accepted batch is its records in order under the mount settings. The file names of its
objects and of their entries are distinct, each of their files is below the directory, and a pass
over the batch reads no files but those of its objects. -/
theorem accept_contained (h : accept mount records = .ok objects) :
    objects = records.map (fun record => ⟨record, mount⟩) ∧
    (objects.flatMap fun o => (o :: o.entryObjects).map SecretObject.fileName).Nodup ∧
    (∀ o ∈ objects, ∀ p ∈ o :: o.entryObjects, Below mount p) ∧
    (∀ settings m w path, path ∈ ((Pass.reconcile settings objects m).trace w).reads →
      ∃ o ∈ objects, path = o.mountPath) := by
  refine ⟨(accept_eq_ok_iff.1 h).1, fileNames_nodup h, ?_, ?_⟩
  · intro o ho p hp
    exact accept_below h ho hp
  · intro settings m w path hpath
    exact Pass.mem_reads_reconcile hpath

/-- The file of an entry of an accepted object. -/
theorem accept_contained_entry :
    let o : SecretObject :=
      ⟨{ name := "a/b", entries := [⟨"user", "x"⟩] }, ⟨"/m", .default⟩⟩
    accept o.mount [o.record] = .ok [o] ∧ Below o.mount (o.ofEntry ⟨"user", "x"⟩) := by
  intro o
  have haccept : accept o.mount [o.record] = .ok [o] := by decide +kernel
  have hentry : o.ofEntry ⟨"user", "x"⟩ ∈ o :: o.entryObjects :=
    List.mem_cons_of_mem _ (List.mem_cons_self)
  exact ⟨haccept, (accept_contained haccept).2.2.1 o List.mem_cons_self _ hentry⟩

end SecretMount.Batch
