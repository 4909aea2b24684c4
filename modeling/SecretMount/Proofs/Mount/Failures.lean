import SecretMount.Proofs.Batch.Duplicates
import SecretMount.Proofs.Mount.Versions
import SecretMount.Proofs.Pass.Failures
import SecretMount.Proofs.PathTranslation.Apply

/-!
# Why a mount fails

A mount fails because its batch is refused, or at an object that its pass reaches
(`mount_eq_error`). An unreadable file is reported of no other objects than those that are to be
read back (`mount_eq_diskRead`).
-/

namespace SecretMount

open Process

variable {settings : FetchSettings} {request : MountRequest} {failure : Failure} {w : World}

/-- An object is refused with a configuration or a validation error. -/
lemma Taken.Refused.kind_eq {taken : Taken} {o : SecretObject} (h : taken.Refused o failure) :
    failure.kind = .configuration ∨ failure.kind = .validation := by
  cases h with
  | invalid hcheck =>
    cases SecretObject.check_eq_error hcheck with
    | service => exact .inl rfl
    | fileName hfile => cases hfile <;> exact .inr rfl
    | _ => exact .inr rfl
  | _ => exact .inr rfl

namespace Batch

variable {directory translation spec : String}

/-- A text that is no list of records is a configuration error. -/
lemma recordsOfText_eq_error (h : recordsOfText spec = .error failure) :
    failure = .configuration .unreadableSpec := by
  unfold recordsOfText at h
  split at h
  case isTrue => cases h
  case isFalse =>
    split at h
    case h_1 => cases h
    case h_2 =>
      cases h
      rfl

/-- A batch is refused for the configuration or for an object that is not valid. -/
lemma ofText_kind (h : ofText directory translation spec = .error failure) :
    failure.kind = .configuration ∨ failure.kind = .validation := by
  rw [ofText, except_bind_eq_error] at h
  rcases h with h | ⟨_, -, h⟩
  · exact .inl (congrArg Failure.kind (PathTranslation.ofSetting_eq_error h))
  rw [except_bind_eq_error] at h
  rcases h with h | ⟨_, -, h⟩
  · exact .inl (congrArg Failure.kind (recordsOfText_eq_error h))
  · obtain ⟨_, _, _, -, -, hrefused⟩ := accept_eq_error h
    exact hrefused.kind_eq

end Batch

/-- A mount fails because its batch is refused, or at an object of the batch. -/
lemma mount_eq_error (h : ((mount settings request).run w).1 = .error failure) :
    Batch.ofText request.target request.pathTranslation request.objects = .error failure ∨
    ∃ objects,
      Batch.ofText request.target request.pathTranslation request.objects = .ok objects ∧
      ∃ v ∈ Pass.visits settings objects (.ofList request.current) (Pass.begun w),
        v.Fails settings failure := by
  cases hbatch : Batch.ofText request.target request.pathTranslation request.objects with
  | error failure' =>
    rw [mount, hbatch] at h
    cases h
    exact .inl rfl
  | ok objects =>
    rw [run_mount w hbatch, Pass.run_reconcile] at h
    have hpass := except_map_eq_error.1 h
    obtain ⟨v, hv, houtcome⟩ := Pass.exists_visit_of_error (Prod.ext hpass rfl)
    exact .inr ⟨objects, rfl, v, hv, Pass.Visit.fails_of_outcome houtcome⟩

/-- A mount that reports an unreadable file has reached an object whose pin is mounted, and the file
is the one of that object. -/
lemma mount_eq_diskRead {object path : String} {fault : ReadFault}
    (h : ((mount settings request).run w).1 = .error (.diskRead object path fault)) :
    ∃ objects,
      Batch.ofText request.target request.pathTranslation request.objects = .ok objects ∧
      ∃ v ∈ Pass.visits settings objects (.ofList request.current) (Pass.begun w),
        ∃ version, v.object.HasPin v.map version ∧
          path = v.object.mountPath ∧ v.world.disk v.object.mountPath = .error fault := by
  rcases mount_eq_error h with h | ⟨objects, hbatch, v, hv, hfails⟩
  · rcases Batch.ofText_kind h with hkind | hkind
    · cases hkind
    · cases hkind
  · refine ⟨objects, hbatch, v, hv, ?_⟩
    cases hfails with
    | unread hpin hdisk => exact ⟨_, hpin, rfl, hdisk⟩
    | unfetched hfetch => exact absurd rfl hfetch.failed.kind_ne

end SecretMount
