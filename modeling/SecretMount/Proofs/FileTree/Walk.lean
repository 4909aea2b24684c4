import Mathlib.Data.List.Basic
import SecretMount.FileTree
import SecretMount.Proofs.Batch.Valid
import SecretMount.Proofs.Text.Split

/-!
# Walking along a path

`walk` goes along the parts of a path from a place; `placeOf` walks from the top. A path below a
directory is walked by walking along the directory and on from there (`walk_pathOf`), and a path
that does not climb stays at the place where it starts or below, at each part of it
(`staysBelow_of_admissible`). The same holds for resolving a path in a tree: what is read at an
admissible file name below a directory stands in that directory or deeper (`read_pathOf`).
-/

namespace SecretMount

namespace FileTree

/-- The place that a part of a path leads to, by its name alone. -/
def enter (place : List String) (part : String) : List String :=
  if part = "" ∨ part = "." then place
  else if part = ".." then place.dropLast
  else place ++ [part]

/-- The place that a path leads to from another. -/
def walk (start : List String) (path : String) : List String :=
  (parts path).foldl enter start

/-- A path that stays, at each of its parts, at the place where it starts or below. -/
def StaysBelow (path : String) : Prop :=
  ∀ (start : List String) (walked : List String), walked <+: parts path →
    start <+: walked.foldl enter start

/-- The place of a path is where a walk from the root along it ends. -/
lemma placeOf_eq_walk (path : String) : placeOf path = walk [] path := rfl

/-- Parts that do not climb lead to places below. -/
lemma prefix_foldl_enter {walked : List String} (h : ".." ∉ walked) (start : List String) :
    start <+: walked.foldl enter start := by
  induction walked generalizing start with
  | nil => exact List.prefix_refl _
  | cons part rest ih =>
    obtain ⟨hpart, hrest⟩ := List.ne_and_not_mem_of_not_mem_cons h
    have hstep : start <+: enter start part := by
      unfold enter
      split
      case isTrue => exact List.prefix_refl _
      case isFalse =>
        rw [if_neg hpart.symm]
        exact List.prefix_append _ _
    exact hstep.trans (ih hrest _)

/-- The parts of a path are its segments. -/
lemma mem_parts_iff {path : String} {part : String} :
    part ∈ parts path ↔ part.toList ∈ FileName.segments path := by
  unfold parts FileName.segments
  rw [List.mem_map]
  constructor
  · rintro ⟨segment, hsegment, rfl⟩
    rwa [String.toList_ofList]
  · intro h
    exact ⟨_, h, String.ofList_toList⟩

/-- An admissible file name does not climb on any walk along it. -/
lemma staysBelow_of_admissible {fileName : String} (h : FileName.Admissible fileName) :
    StaysBelow fileName := by
  intro start walked hwalked
  apply prefix_foldl_enter _ start
  intro hmem
  exact h.stays (mem_parts_iff.1 (hwalked.subset hmem))

variable {t : FileTree} {place place' : Place} {path : String}

/-- A step that does not climb stays below. -/
lemma follow_stays {start : List String} {part : String} (hpart : part ≠ "..")
    (h : t.follow (.inside start) part = .ok place) : ∃ below, place = .inside (start ++ below) := by
  unfold follow at h
  split at h
  case isTrue => cases h
  case isFalse =>
    split at h
    case isTrue =>
      cases h
      exact ⟨[], by rw [List.append_nil]⟩
    case isFalse =>
      split at h
      case isTrue => cases h
      case isFalse =>
        split at h
        case h_1 heq => cases heq
        case h_2 parts heq =>
          cases heq
          split at h
          case isTrue =>
            cases h
            exact ⟨[part], rfl⟩
          case isFalse => cases h

/-- Steps that do not climb stay below. -/
lemma foldlM_follow_stays {start walked : List String} (hwalked : ".." ∉ walked)
    (h : walked.foldlM t.follow (.inside start) = .ok place) :
    ∃ below, place = .inside (start ++ below) := by
  induction walked generalizing start with
  | nil =>
    cases h
    exact ⟨[], by rw [List.append_nil]⟩
  | cons part rest ih =>
    obtain ⟨hpart, hrest⟩ := List.ne_and_not_mem_of_not_mem_cons hwalked
    rw [List.foldlM_cons, except_bind_eq_ok] at h
    obtain ⟨next, hnext, h⟩ := h
    obtain ⟨below, rfl⟩ := follow_stays hpart.symm hnext
    obtain ⟨more, hmore⟩ := ih hrest h
    exact ⟨below ++ more, by rw [hmore, List.append_assoc]⟩

/-- The place at which resolving a path starts. -/
def startOf (path : String) : Place :=
  if path.toList.head? = some '/' then .outside else .inside []

/-- A path that is resolved is not empty, and each of its parts was followed. -/
lemma resolve_eq_ok (h : t.resolve path = .ok place) :
    path ≠ "" ∧ (parts path).foldlM t.follow (startOf path) = .ok place := by
  unfold resolve at h
  split at h
  case isTrue => cases h
  case isFalse =>
    split at h
    case isTrue => cases h
    case isFalse hempty =>
      split at h
      case isTrue => cases h
      case isFalse => exact ⟨hempty, h⟩

/-- Reading gives the contents of the file at the place that the path resolves to. -/
lemma read_eq_ok {bytes : ByteArray} (h : t.read path = .ok bytes) :
    ∃ place, t.resolve path = .ok (.inside place) ∧ t.entry? place = some (some bytes) := by
  unfold read at h
  obtain ⟨place, hplace, h⟩ := except_bind_eq_ok.1 h
  cases place with
  | outside => cases h
  | inside parts =>
    dsimp only at h
    split at h
    case h_1 contents hentry =>
      cases h
      exact ⟨parts, hplace, hentry⟩
    case h_2 => cases h
    case h_3 => cases h

end FileTree

namespace MountSettings

open FileTree

variable {m : MountSettings} {fileName : String}

/-- The parts of two texts with a slash between them are those of the first and those of the second.
-/
lemma parts_append_slash (s t : String) : parts (s ++ "/" ++ t) = parts s ++ parts t := by
  have hlist : (s ++ "/" ++ t).toList = s.toList ++ '/' :: t.toList := by simp
  rw [parts, hlist, Text.split_append_sep, List.map_append, parts, parts]

/-- What stands between the directory and a file name. -/
def separator (m : MountSettings) : String :=
  if m.directory = "" ∨ m.directory.toList.getLast? = some '/' then "" else "/"

/-- The path of a file name that is not absolute is the directory, the separator and the file name.
-/
lemma pathOf_of_relative (h : fileName.toList.head? ≠ some '/') :
    m.pathOf fileName = m.directory ++ m.separator ++ fileName := by
  unfold pathOf separator
  rw [if_neg h]
  split
  case isTrue => rw [String.append_empty]
  case isFalse => rfl

/-- File names that are not absolute are known by their paths. -/
lemma eq_of_pathOf_eq {fileName' : String} (h : fileName.toList.head? ≠ some '/')
    (h' : fileName'.toList.head? ≠ some '/') (heq : m.pathOf fileName = m.pathOf fileName') :
    fileName = fileName' := by
  rw [pathOf_of_relative h, pathOf_of_relative h'] at heq
  apply String.toList_injective
  have hlist := congrArg String.toList heq
  simp only [String.toList_append] at hlist
  exact List.append_cancel_left hlist

/-- The parts of a path below a directory are those of the directory, but for an empty one at their
end, and those of the file name. -/
lemma parts_pathOf (h : fileName.toList.head? ≠ some '/') :
    ∃ above, (parts m.directory = above ∨ parts m.directory = above ++ [""]) ∧
      parts (m.pathOf fileName) = above ++ parts fileName := by
  rw [pathOf_of_relative h, separator]
  by_cases hempty : m.directory = ""
  · refine ⟨[], .inr (by rw [hempty]; rfl), by simp [hempty]⟩
  · by_cases hslash : m.directory.toList.getLast? = some '/'
    · obtain ⟨above, habove⟩ := List.getLast?_eq_some_iff.1 hslash
      have hdirectory : m.directory = String.ofList above ++ "/" ++ "" := by
        apply String.toList_injective
        simp [habove]
      refine ⟨parts (String.ofList above), .inr ?_, ?_⟩
      · rw [hdirectory, parts_append_slash]
        rfl
      · rw [if_pos (.inr hslash), hdirectory, ← parts_append_slash]
        simp
    · refine ⟨parts m.directory, .inl rfl, ?_⟩
      rw [if_neg (not_or.2 ⟨hempty, hslash⟩), parts_append_slash]

/-- The path of a relative file name is walked along the directory and then along the name. -/
lemma walk_pathOf (h : fileName.toList.head? ≠ some '/') (start : List String) :
    walk start (m.pathOf fileName) = walk (walk start m.directory) fileName := by
  obtain ⟨above, hdirectory, hpath⟩ := parts_pathOf (m := m) h
  have habove : walk start m.directory = above.foldl enter start := by
    rcases hdirectory with hdirectory | hdirectory
    · rw [walk, hdirectory]
    · rw [walk, hdirectory, List.foldl_append]
      rfl
  rw [habove, walk, hpath, List.foldl_append, walk]

/-- The walk to a file starts where the walk to the directory does. -/
lemma startOf_pathOf (h : fileName.toList.head? ≠ some '/') (hdirectory : m.directory ≠ "") :
    startOf (m.pathOf fileName) = startOf m.directory := by
  have hhead : (m.pathOf fileName).toList.head? = m.directory.toList.head? := by
    rw [pathOf_of_relative h, String.toList_append, String.toList_append, List.append_assoc]
    cases hlist : m.directory.toList with
    | nil => exact absurd (String.toList_eq_nil_iff.1 hlist) hdirectory
    | cons c rest => rfl
  rw [startOf, hhead, startOf]

/-- In a tree, what is read at the path of an admissible file name stands below the directory. -/
lemma read_pathOf {t : FileTree} {directory : List String} {bytes : ByteArray}
    (hname : FileName.Admissible fileName)
    (hdirectory : t.resolve m.directory = .ok (.inside directory))
    (h : t.read (m.pathOf fileName) = .ok bytes) :
    ∃ below, t.entry? (directory ++ below) = some (some bytes) := by
  obtain ⟨place, hplace, hentry⟩ := read_eq_ok h
  obtain ⟨-, hplace⟩ := resolve_eq_ok hplace
  obtain ⟨hnonempty, hdirectory⟩ := resolve_eq_ok hdirectory
  obtain ⟨above, hparts, hpath⟩ := parts_pathOf (m := m) hname.relative
  have habove : above.foldlM t.follow (startOf m.directory) = .ok (.inside directory) := by
    rcases hparts with hparts | hparts
    · rwa [hparts] at hdirectory
    · -- an empty part at the end of the directory stays where it is
      rw [hparts, List.foldlM_append, except_bind_eq_ok] at hdirectory
      obtain ⟨last, hlast, hstay⟩ := hdirectory
      have hsame : last = .inside directory := by
        simp only [List.foldlM_cons, List.foldlM_nil, follow] at hstay
        split at hstay
        case isTrue => cases hstay
        case isFalse =>
          cases hstay
          rfl
      rw [hlast, hsame]
  rw [startOf_pathOf hname.relative hnonempty, hpath, List.foldlM_append, habove] at hplace
  have hstays : ".." ∉ parts fileName := fun hmem => hname.stays (mem_parts_iff.1 hmem)
  obtain ⟨below, hbelow⟩ := foldlM_follow_stays hstays hplace
  cases hbelow
  exact ⟨below, hentry⟩

end MountSettings

end SecretMount
