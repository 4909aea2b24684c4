import Mathlib.Tactic.Lemma
import SecretMount.Batch
import SecretMount.Proofs.Except
import SecretMount.Proofs.FileName.Climbing

/-!
# Valid objects

When an object is valid on its own (`check_eq_ok_iff`): its name passes, each entry has a path and
an alias, and its file name and those of its entries are admissible. Any other is refused for what
it is itself (`check_eq_error`), not for what stands beside it.
-/

namespace SecretMount

namespace FileName

/-- An admissible file name is relative, has no segment that climbs, and no control character. -/
structure Admissible (fileName : String) : Prop where
  relative : fileName.toList.head? ≠ some '/'
  stays : parent ∉ segments fileName
  printable : ∀ c ∈ fileName.toList, Text.isControl c = false

/-- The check accepts just the admissible file names. -/
lemma check_eq_ok_iff {fileName object : String} :
    check fileName object = .ok () ↔ Admissible fileName := by
  unfold check
  split
  case isTrue habsolute => exact ⟨nofun, fun h => absurd habsolute h.relative⟩
  case isFalse hrelative =>
    split
    case isTrue hclimbs =>
      exact ⟨nofun, fun h => absurd (climbing_occursIn_iff.1 hclimbs) h.stays⟩
    case isFalse hstays =>
      split
      case isTrue hcontrol =>
        obtain ⟨c, hc, hcontrol⟩ := List.any_eq_true.1 hcontrol
        refine ⟨nofun, ?_⟩
        intro h
        rw [h.printable c hc] at hcontrol
        cases hcontrol
      case isFalse hprintable =>
        refine ⟨fun _ => ⟨hrelative, ?_, ?_⟩, fun _ => rfl⟩
        · intro h
          exact hstays (climbing_occursIn_iff.2 h)
        · intro c hc
          apply Bool.eq_false_iff.2
          intro hcontrol
          exact hprintable (List.any_eq_true.2 ⟨c, hc, hcontrol⟩)

/-- What is reported of a file name that is not admissible. -/
inductive Refused (fileName object : String) : Failure → Prop where
  | absolute : Refused fileName object (.validation object (.absoluteFileName fileName))
  | climbing : Refused fileName object (.validation object (.climbingFileName fileName))
  | control : Refused fileName object (.validation object (.controlCharacter fileName))

/-- A file name is refused for the first of the three reasons that holds. -/
lemma check_eq_error {fileName object : String} {failure : Failure}
    (h : check fileName object = .error failure) : Refused fileName object failure := by
  unfold check at h
  split at h
  case isTrue =>
    cases h
    exact .absolute
  case isFalse =>
    split at h
    case isTrue =>
      cases h
      exact .climbing
    case isFalse =>
      split at h
      case isTrue =>
        cases h
        exact .control
      case isFalse => cases h

end FileName

namespace SecretObject

variable {o : SecretObject}

/-- An entry passes with a path, an alias and an admissible file name. -/
lemma checkEntry_eq_ok_iff {entry : JmesEntry} :
    o.checkEntry entry = .ok () ↔
      entry.path ≠ "" ∧ entry.objectAlias ≠ "" ∧
        FileName.Admissible (o.ofEntry entry).fileName := by
  unfold checkEntry
  split
  case isTrue hpath => exact ⟨nofun, fun h => absurd hpath h.1⟩
  case isFalse hpath =>
    split
    case isTrue halias => exact ⟨nofun, fun h => absurd halias h.2.1⟩
    case isFalse halias =>
      rw [FileName.check_eq_ok_iff]
      exact ⟨fun h => ⟨hpath, halias, h⟩, fun h => h.2.2⟩

/-- Entries pass where each of them does. -/
lemma checkEntries_eq_ok_iff {entries : List JmesEntry} :
    o.checkEntries entries = .ok () ↔ ∀ entry ∈ entries, o.checkEntry entry = .ok () := by
  induction entries with
  | nil => exact ⟨fun _ => nofun, fun _ => rfl⟩
  | cons entry rest ih =>
    rw [checkEntries, except_bind_eq_ok, List.forall_mem_cons, ih]
    exact ⟨fun ⟨_, hentry, hrest⟩ => ⟨hentry, hrest⟩, fun ⟨hentry, hrest⟩ => ⟨(), hentry, hrest⟩⟩

/-- An object passes with its name, its file name and its entries. -/
lemma check_eq_ok_iff :
    o.check = .ok () ↔
      o.checkName = .ok () ∧ FileName.Admissible o.fileName ∧
        ∀ entry ∈ o.entries, entry.path ≠ "" ∧ entry.objectAlias ≠ "" ∧
          FileName.Admissible (o.ofEntry entry).fileName := by
  simp only [check, except_bind_eq_ok, checkEntries_eq_ok_iff, checkEntry_eq_ok_iff]
  constructor
  · rintro ⟨_, hname, _, hfile, hentries⟩
    exact ⟨hname, FileName.check_eq_ok_iff.1 hfile, hentries⟩
  · rintro ⟨hname, hfile, hentries⟩
    exact ⟨(), hname, (), FileName.check_eq_ok_iff.2 hfile, hentries⟩

/-- A valid object has a name. -/
lemma name_ne_of_check (h : o.check = .ok ()) : o.name ≠ "" := by
  obtain ⟨hname, -, -⟩ := check_eq_ok_iff.1 h
  intro hempty
  rw [checkName, if_pos hempty] at hname
  cases hname

/-- All file names that a valid object takes are admissible. -/
lemma admissible_of_check (h : o.check = .ok ()) {p : SecretObject}
    (hp : p ∈ o :: o.entryObjects) : FileName.Admissible p.fileName := by
  obtain ⟨-, hfile, hentries⟩ := check_eq_ok_iff.1 h
  rcases List.mem_cons.1 hp with rfl | hp
  · exact hfile
  · obtain ⟨entry, hentry, rfl⟩ := List.mem_map.1 hp
    exact (hentries entry hentry).2.2

/-- The objects of the entries have the mount settings of their object. -/
lemma mount_of_mem {p : SecretObject} (hp : p ∈ o :: o.entryObjects) : p.mount = o.mount := by
  rcases List.mem_cons.1 hp with rfl | hp
  · rfl
  · obtain ⟨entry, -, rfl⟩ := List.mem_map.1 hp
    rfl

/-- What is reported of an object that is not valid on its own. -/
inductive Invalid (o : SecretObject) : Failure → Prop where
  | unnamed : Invalid o (.validation o.displayName .missingName)
  | malformed {fault : ResourceName.Fault} :
    Invalid o (.validation o.name (.badResourceName fault))
  | service {service : String} : Invalid o (.configuration (.unsupportedService service o.name))
  | entryPath : Invalid o (.validation o.name .missingPath)
  | entryAlias : Invalid o (.validation o.name .missingAlias)
  | fileName {fileName : String} {failure : Failure} :
    FileName.Refused fileName o.name failure →
    Invalid o failure

variable {failure : Failure}

/-- What the check of the name refuses makes the object invalid. -/
lemma checkName_eq_error (h : o.checkName = .error failure) : o.Invalid failure := by
  unfold checkName at h
  split at h
  case isTrue =>
    cases h
    exact .unnamed
  case isFalse =>
    split at h
    case isTrue =>
      split at h
      case h_1 fault _ =>
        cases h
        exact .malformed
      case h_2 n _ =>
        split at h
        case isTrue => cases h
        case isFalse =>
          cases h
          exact .service
    case isFalse => cases h

/-- What the check of an entry refuses makes the object invalid. -/
lemma checkEntry_eq_error {entry : JmesEntry} (h : o.checkEntry entry = .error failure) :
    o.Invalid failure := by
  unfold checkEntry at h
  split at h
  case isTrue =>
    cases h
    exact .entryPath
  case isFalse =>
    split at h
    case isTrue =>
      cases h
      exact .entryAlias
    case isFalse => exact .fileName (FileName.check_eq_error h)

/-- What the checks of the entries refuse makes the object invalid. -/
lemma checkEntries_eq_error {entries : List JmesEntry}
    (h : o.checkEntries entries = .error failure) : o.Invalid failure := by
  induction entries with
  | nil => cases h
  | cons entry rest ih =>
    rw [checkEntries, except_bind_eq_error] at h
    rcases h with h | ⟨_, -, h⟩
    · exact checkEntry_eq_error h
    · exact ih h

/-- What the check of an object refuses is invalid for that reason. -/
lemma check_eq_error (h : o.check = .error failure) : o.Invalid failure := by
  rw [check, except_bind_eq_error] at h
  rcases h with h | ⟨_, -, h⟩
  · exact checkName_eq_error h
  rw [except_bind_eq_error] at h
  rcases h with h | ⟨_, -, h⟩
  · exact .fileName (FileName.check_eq_error h)
  · exact checkEntries_eq_error h

end SecretObject

end SecretMount
