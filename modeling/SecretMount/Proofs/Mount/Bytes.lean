import SecretMount.Proofs.Mount.Deliveries
import SecretMount.Proofs.Pass.Bytes

/-!
# Mounts and the bytes of secrets

A mount request is answered alike in worlds that are the same but for bytes, unless a decomposition
fails in one of them (`mount_alike`). Main statement: `bytes_reach_contents_only`.
-/

namespace SecretMount

open Process

variable {settings : FetchSettings} {request : MountRequest} {w v : World}

/-- Answers that differ in contents only. -/
structure MountResponse.SameButContents (response response' : MountResponse) : Prop where
  files : response.files.map (fun f => (f.path, f.mode, f.version)) =
    response'.files.map fun f => (f.path, f.mode, f.version)
  versions : response.versions = response'.versions

/-- What a file shows besides its contents is decided by the object of its value. -/
lemma MountResponse.ofValues_alike {values values' : List SecretValue}
    (h : Pass.SameObjects values values') (mode : Nat) (m : VersionMap) :
    (ofValues mode values m).SameButContents (ofValues mode values' m) where
  files := by
    have hfiles (values : List SecretValue) :
        (ofValues mode values m).files.map (fun f => (f.path, f.mode, f.version)) =
          (values.map SecretValue.object).map fun o =>
            (o.fileName, mode, (m.get? o.fileName).getD "") := by
      rw [ofValues, List.map_map, List.map_map]
      rfl
    rw [hfiles, hfiles, h]
  versions := rfl

/-- In worlds that differ in bytes two mounts run alike, unless a payload cannot be decomposed. -/
lemma mount_alike (settings : FetchSettings) (request : MountRequest) (h : w.SameButBytes v) :
    RunsAlike (ExceptRel Eq MountResponse.SameButContents) (mount settings request)
        (mount settings request) w v ∨
      ∃ objects,
        Batch.ofText request.target request.pathTranslation request.objects = .ok objects ∧
        ∃ o ∈ objects, Pass.Undecomposed o ((mount settings request).run w).1 ∨
          Pass.Undecomposed o ((mount settings request).run v).1 := by
  cases hbatch : Batch.ofText request.target request.pathTranslation request.objects with
  | error failure =>
    rw [mount, hbatch]
    exact .inl (alike_pure (.error rfl) h)
  | ok objects =>
    rcases Pass.reconcile_alike settings objects (.ofList request.current) h with
      hpass | ⟨o, ho, hfails⟩
    · left
      rw [mount, hbatch]
      refine hpass.bind (alike_pure ?_ hpass.world)
      rw [hpass.result.2]
      exact hpass.result.1.map fun _ _ hvalues => MountResponse.ofValues_alike hvalues _ _
    · right
      rw [run_mount w hbatch, run_mount v hbatch]
      exact ⟨objects, rfl, o, ho, hfails.imp (·.map _) (·.map _)⟩

/-- The bytes of secrets reach the contents of files and nothing else. Take two worlds with the same
time and the same limiter, whose backends and disks answer alike but for payloads and contents. If a
mount request is answered in both, the answers differ in contents only; the same calls have gone out
at the same times, the same has been counted, and the time is the same. If no object of the batch
has entries, the request moreover fails in both or in neither, and for the same reason. -/
theorem bytes_reach_contents_only (settings : FetchSettings) (request : MountRequest)
    (h : w.SameButBytes v) :
    let first := (mount settings request).run w
    let second := (mount settings request).run v
    (∀ response response', first.1 = .ok response → second.1 = .ok response' →
      response.SameButContents response' ∧ World.SameEffects w first.2 v second.2) ∧
    ((∀ objects,
        Batch.ofText request.target request.pathTranslation request.objects = .ok objects →
        ∀ o ∈ objects, o.entries = []) →
      ExceptRel Eq MountResponse.SameButContents first.1 second.1 ∧
        World.SameEffects w first.2 v second.2) := by
  intro first second
  rcases mount_alike settings request h with halike | ⟨objects, hbatch, o, ho, hfails⟩
  · refine ⟨?_, fun _ => ⟨halike.result, halike.effects⟩⟩
    intro response response' hfirst hsecond
    have hresult : ExceptRel Eq MountResponse.SameButContents first.1 second.1 := halike.result
    rw [hfirst, hsecond] at hresult
    cases hresult with
    | ok hsame => exact ⟨hsame, halike.effects⟩
  · -- a run in which a decomposition fails is excluded on either side
    constructor
    · intro response response' hfirst hsecond
      rcases hfails with ⟨-, fault, hfails⟩ | ⟨-, fault, hfails⟩
      · cases hfirst.symm.trans hfails
      · cases hsecond.symm.trans hfails
    · intro hnone
      rcases hfails with ⟨hentries, -⟩ | ⟨hentries, -⟩
      · exact absurd (hnone _ hbatch o ho) hentries
      · exact absurd (hnone _ hbatch o ho) hentries

/-- Two stores that answer with different payloads. -/
theorem bytes_reach_contents_only_payloads :
    let request : MountRequest := { objects := "- objectName: a", target := "/m" }
    let backend (payload : String) : Backend :=
      ⟨.store .kms fun _ _ => .ok ⟨payload.toUTF8, "v1"⟩, 0⟩
    let w : World := { backends := ⟨some (backend "x"), none⟩ }
    let v : World := { backends := ⟨some (backend "y"), none⟩ }
    w.SameButBytes v ∧
    ∃ response response',
      ((mount {} request).run w).1 = .ok response ∧
      ((mount {} request).run v).1 = .ok response' ∧
      response.files.map SecretFile.contents = ["x".toUTF8] ∧
      response'.files.map SecretFile.contents = ["y".toUTF8] ∧
      response.SameButContents response' ∧
      World.SameEffects w ((mount {} request).run w).2 v ((mount {} request).run v).2 := by
  intro request backend w v
  let o : SecretObject := ⟨{ name := "a" }, ⟨"/m", .default⟩⟩
  have hbatch : Batch.ofText request.target request.pathTranslation request.objects = .ok [o] := by
    decide +kernel
  have hkind : o.kind = .ok .kms := by decide +kernel
  have hanswer (payload : String) :
      (backend payload).answer o.query = .ok ⟨payload.toUTF8, "v1"⟩ := rfl
  have hfirst : ((mount {} request).run w).1 = .ok _ :=
    run_mount_of_answer hbatch rfl rfl hkind rfl rfl (hanswer "x")
  have hsecond : ((mount {} request).run v).1 = .ok _ :=
    run_mount_of_answer hbatch rfl rfl hkind rfl rfl (hanswer "y")
  have hbackends : (backend "x").SameButBytes (backend "y") := by
    refine ⟨fun _ => rfl, fun n query => ?_⟩
    rw [Backend.iterate_next, Backend.iterate_next]
    exact .ok rfl
  have hsame : w.SameButBytes v := by
    refine ⟨rfl, rfl, ?_, fun _ => .error rfl⟩
    rintro (_ | _)
    · exact .some hbackends
    · exact .none
  obtain ⟨hcontents, -⟩ := bytes_reach_contents_only {} request hsame
  exact ⟨hsame, _, _, hfirst, hsecond, rfl, rfl, hcontents _ _ hfirst hsecond⟩

end SecretMount
