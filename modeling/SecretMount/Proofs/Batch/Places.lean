import SecretMount.Proofs.Batch.Duplicates
import SecretMount.Proofs.FileTree.Walk
import SecretMount.Proofs.PathTranslation.Apply

/-!
# The places of a batch

A file name leads to a place by those of its segments that are neither empty nor `.`: its steps. A
file is at the place of the directory and the steps from there (`walk_eq_append_steps`). Acceptance
compares file names as they are spelled, and each place has one spelling without other segments, a
plain one. So an accepted batch has a place of its own below the directory for each file whose name
is plain, and where slashes are replaced every name but `.` is. Main statement: `accept_places`.
-/

namespace SecretMount

namespace FileName

variable {fileName fileName' : String}

/-- The segment that stays where it is. -/
def here : List Char := ['.']

/-- The segments that lead on, in order. -/
def steps (fileName : String) : List (List Char) :=
  (segments fileName).filter fun segment => segment ≠ [] ∧ segment ≠ here

/-- A file name all of whose segments lead on. -/
def Plain (fileName : String) : Prop :=
  ∀ segment ∈ segments fileName, segment ≠ [] ∧ segment ≠ here

instance (fileName : String) : Decidable (Plain fileName) :=
  inferInstanceAs (Decidable (∀ segment ∈ segments fileName, segment ≠ [] ∧ segment ≠ here))

/-- A file name is known by its segments. -/
lemma eq_of_segments_eq (h : segments fileName = segments fileName') : fileName = fileName' := by
  apply String.toList_injective
  rw [← Text.join_split '/' fileName.toList, ← Text.join_split '/' fileName'.toList]
  exact congrArg (Text.join '/') h

/-- In a plain file name every segment is a step. -/
lemma steps_of_plain (h : Plain fileName) : steps fileName = segments fileName := by
  apply List.filter_eq_self.2
  intro segment hsegment
  exact decide_eq_true (h segment hsegment)

/-- A plain file name takes at least one step. -/
lemma steps_ne_nil (h : Plain fileName) : steps fileName ≠ [] := by
  rw [steps_of_plain h]
  exact Text.split_ne_nil '/' fileName.toList

/-- A place has one plain spelling. -/
lemma eq_of_steps_eq (h : Plain fileName) (h' : Plain fileName')
    (hsteps : steps fileName = steps fileName') : fileName = fileName' := by
  rw [steps_of_plain h, steps_of_plain h'] at hsteps
  exact eq_of_segments_eq hsteps

/-- Without a slash there is one segment. -/
lemma segments_of_no_slash (h : '/' ∉ fileName.toList) : segments fileName = [fileName.toList] :=
  Text.split_of_notMem h

/-- Without a slash a file name is plain, unless it is empty or a dot. -/
lemma plain_of_no_slash (h : '/' ∉ fileName.toList) (hempty : fileName ≠ "")
    (hdot : fileName ≠ ".") : Plain fileName := by
  intro segment hsegment
  rw [segments_of_no_slash h, List.mem_singleton] at hsegment
  subst hsegment
  constructor
  · intro hnil
    exact hempty (String.toList_eq_nil_iff.1 hnil)
  · intro hhere
    exact hdot (String.toList_injective hhere)

/-- Of two different names without slashes one is plain at least, so their steps differ. -/
lemma steps_ne_of_no_slash (h : '/' ∉ fileName.toList) (h' : '/' ∉ fileName'.toList)
    (hempty : fileName ≠ "") (hempty' : fileName' ≠ "") (hne : fileName ≠ fileName') :
    steps fileName ≠ steps fileName' := by
  have hdot : steps "." = [] := by decide
  intro hsteps
  -- only `.` is not plain; it has no steps, and the other name has some
  by_cases hd : fileName = "."
  · subst hd
    rw [hdot] at hsteps
    exact steps_ne_nil (plain_of_no_slash h' hempty' hne.symm) hsteps.symm
  · by_cases hd' : fileName' = "."
    · subst hd'
      rw [hdot] at hsteps
      exact steps_ne_nil (plain_of_no_slash h hempty hne) hsteps
    · exact hne (eq_of_steps_eq (plain_of_no_slash h hempty hd)
        (plain_of_no_slash h' hempty' hd') hsteps)

end FileName

namespace FileTree

/-- Segments that do not climb are entered one after the other; empty ones and dots are left out. -/
lemma foldl_enter_segments {segments : List (List Char)} (h : FileName.parent ∉ segments)
    (start : List String) :
    (segments.map String.ofList).foldl enter start =
      start ++ (segments.filter fun segment => segment ≠ [] ∧ segment ≠ FileName.here).map
        String.ofList := by
  induction segments generalizing start with
  | nil => exact (List.append_nil start).symm
  | cons segment rest ih =>
    obtain ⟨hparent, hrest⟩ := List.ne_and_not_mem_of_not_mem_cons h
    have hup : String.ofList segment ≠ ".." := by
      intro hup
      exact hparent.symm (String.ofList_injective hup)
    have hstays : (String.ofList segment = "" ∨ String.ofList segment = ".") ↔
        (segment = [] ∨ segment = FileName.here) :=
      or_congr ⟨fun he => String.ofList_injective he, fun he => he ▸ rfl⟩
        ⟨fun he => String.ofList_injective he, fun he => he ▸ rfl⟩
    rw [List.map_cons, List.foldl_cons, ih hrest, enter, if_neg hup]
    by_cases hstay : segment = [] ∨ segment = FileName.here
    · rw [if_pos (hstays.2 hstay), List.filter_cons_of_neg]
      simpa [or_iff_not_imp_left] using hstay
    · rw [if_neg (fun hs => hstay (hstays.1 hs)), List.filter_cons_of_pos, List.map_cons,
        List.append_assoc, List.singleton_append]
      simpa [not_or] using hstay

/-- A path that does not climb leads on by its steps. -/
lemma walk_eq_append_steps {path : String} (h : FileName.parent ∉ FileName.segments path)
    (start : List String) :
    walk start path = start ++ (FileName.steps path).map String.ofList :=
  foldl_enter_segments h start

end FileTree

namespace SecretObject

variable {o p : SecretObject}

/-- The text that a valid object's file name is made from is not empty. -/
lemma fileName_of_check (h : o.check = .ok ()) (hp : p ∈ o :: o.entryObjects) :
    ∃ s, s ≠ "" ∧ p.fileName = o.mount.translation.apply s := by
  obtain ⟨hname, -, hentries⟩ := check_eq_ok_iff.1 h
  rcases List.mem_cons.1 hp with rfl | hp
  · refine ⟨p.alias?.getD p.name, ?_, rfl⟩
    cases halias : p.alias? with
    | none =>
      intro hempty
      rw [Option.getD_none] at hempty
      rw [checkName, if_pos hempty] at hname
      cases hname
    | some a => exact (nonEmpty_eq_some_iff.1 halias).2
  · obtain ⟨entry, hentry, rfl⟩ := List.mem_map.1 hp
    exact ⟨entry.objectAlias, (hentries entry hentry).2.1, o.fileName_ofEntry entry⟩

end SecretObject

namespace Batch

open FileTree FileName

variable {mount : MountSettings} {records : List SecretRecord} {objects : List SecretObject}
  {p : SecretObject}

/-- The objects of a batch, each followed by those of its entries. -/
def files (objects : List SecretObject) : List SecretObject :=
  objects.flatMap fun o => o :: o.entryObjects

/-- The files of objects have the file names of the objects and their entries. -/
lemma files_fileName (objects : List SecretObject) :
    (files objects).map SecretObject.fileName = objects.flatMap SecretObject.fileNames :=
  List.map_flatMap

/-- In an accepted batch no two files have the same file name. -/
lemma pairwise_fileName_ne (h : accept mount records = .ok objects) :
    (files objects).Pairwise fun p q => p.fileName ≠ q.fileName := by
  have hnodup := fileNames_nodup h
  rw [← files_fileName] at hnodup
  exact List.pairwise_map.1 hnodup

/-- A file of an accepted batch has the batch's mount settings and an admissible name, made from a
text that is not empty. -/
lemma file_of_accept (h : accept mount records = .ok objects) (hp : p ∈ files objects) :
    p.mount = mount ∧ Admissible p.fileName ∧
      ∃ s, s ≠ "" ∧ p.fileName = mount.translation.apply s := by
  obtain ⟨rfl, hadmitted⟩ := accept_eq_ok_iff.1 h
  obtain ⟨o, ho, hp⟩ := List.mem_flatMap.1 hp
  have hcheck := hadmitted.valid o ho
  obtain ⟨record, -, rfl⟩ := List.mem_map.1 ho
  exact ⟨SecretObject.mount_of_mem hp, SecretObject.admissible_of_check hcheck hp,
    SecretObject.fileName_of_check hcheck hp⟩

/-- Where slashes are replaced, a file name is one segment. -/
lemma no_slash_of_replace (h : accept mount records = .ok objects) {c : Char} (hc : c ≠ '/')
    (htranslation : mount.translation = .replace c) (hp : p ∈ files objects) :
    '/' ∉ p.fileName.toList ∧ p.fileName ≠ "" := by
  obtain ⟨-, -, s, hs, hname⟩ := file_of_accept h hp
  rw [hname, htranslation]
  exact ⟨PathTranslation.apply_replace_no_slash hc s, PathTranslation.apply_replace_ne_empty c hs⟩

/-- The files of an accepted batch are at the place of its directory and their steps from there. A
plain name leads below the directory, and two different files with plain names are at different
places. Where slashes are replaced by another character, every name but `.` is plain, and any two
files are at different places. -/
theorem accept_places (h : accept mount records = .ok objects) :
    (∀ p ∈ files objects,
      placeOf p.mountPath = placeOf mount.directory ++ (steps p.fileName).map String.ofList ∧
      (Plain p.fileName → steps p.fileName ≠ [])) ∧
    (files objects).Pairwise (fun p q =>
      Plain p.fileName → Plain q.fileName → steps p.fileName ≠ steps q.fileName) ∧
    (∀ c, c ≠ '/' → mount.translation = .replace c →
      (∀ p ∈ files objects, p.fileName ≠ "." → Plain p.fileName) ∧
      (files objects).Pairwise fun p q => steps p.fileName ≠ steps q.fileName) := by
  refine ⟨?_, ?_, ?_⟩
  · intro p hp
    obtain ⟨rfl, hname, -⟩ := file_of_accept h hp
    refine ⟨?_, steps_ne_nil⟩
    rw [placeOf_eq_walk p.mountPath, SecretObject.mountPath,
      MountSettings.walk_pathOf hname.relative, walk_eq_append_steps hname.stays, placeOf_eq_walk]
  · apply (pairwise_fileName_ne h).imp
    intro p q hne hp hq hsteps
    exact hne (eq_of_steps_eq hp hq hsteps)
  · intro c hc htranslation
    constructor
    · intro p hp hdot
      obtain ⟨hslash, hempty⟩ := no_slash_of_replace h hc htranslation hp
      exact plain_of_no_slash hslash hempty hdot
    · apply (pairwise_fileName_ne h).imp_of_mem
      intro p q hp hq hne
      obtain ⟨hslash, hempty⟩ := no_slash_of_replace h hc htranslation hp
      obtain ⟨hslash', hempty'⟩ := no_slash_of_replace h hc htranslation hq
      exact steps_ne_of_no_slash hslash hslash' hempty hempty' hne

/-- An object and its entry, whose names are kept as paths. -/
theorem accept_places_kept :
    let mount : MountSettings := ⟨"/m", .keep⟩
    let records : List SecretRecord := [{ name := "/a/b", entries := [⟨"user", "a/user"⟩] }]
    accept mount records = .ok (objectsOf mount records) ∧
    (files (objectsOf mount records)).Pairwise (fun p q =>
      Plain p.fileName → Plain q.fileName → steps p.fileName ≠ steps q.fileName) := by
  intro mount records
  have haccept : accept mount records = .ok (objectsOf mount records) := by decide +kernel
  exact ⟨haccept, (accept_places haccept).2.1⟩

/-- Two spellings of one place are accepted side by side, and so is a name that leads to the mount
directory itself. -/
theorem accept_one_place_twice :
    let mount : MountSettings := ⟨"/m", .keep⟩
    let twice : List SecretRecord := [{ name := "a/b" }, { name := "a//b" }]
    let top : List SecretRecord := [{ name := "/" }]
    accept mount twice = .ok (objectsOf mount twice) ∧
    (files (objectsOf mount twice)).map (fun p => steps p.fileName) =
      [[['a'], ['b']], [['a'], ['b']]] ∧
    accept mount top = .ok (objectsOf mount top) ∧
    (files (objectsOf mount top)).map (fun p => steps p.fileName) = [[]] := by
  decide +kernel

end Batch

end SecretMount
