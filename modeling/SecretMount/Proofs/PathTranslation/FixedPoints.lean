import SecretMount.Proofs.Batch.Places

/-!
# File names are fixed points

A translation may change what it has made, but then that starts with a slash and is no admissible
file name. So admissible file names stay as they are when they are translated again, and among them
all file names of an accepted batch. Main statement: `fileNames_fixed`.
-/

namespace SecretMount

/-- The translation of an accepted batch changes none of its file names. -/
lemma Batch.apply_fileName {mount : MountSettings} {records : List SecretRecord}
    {objects : List SecretObject} {p : SecretObject} (h : accept mount records = .ok objects)
    (hp : p ∈ files objects) : mount.translation.apply p.fileName = p.fileName := by
  obtain ⟨-, hadmissible, s, -, hname⟩ := file_of_accept h hp
  rw [hname] at hadmissible ⊢
  exact PathTranslation.apply_apply hadmissible.relative

namespace PathTranslation

open Batch

/-- A setting stands for a translation if it is empty, spells `false`, or is one character. A name
keeps its length when slashes are replaced, and has the other character where it had a slash and its
own characters everywhere else; when slashes are kept, it loses one at the start and is not changed
otherwise. To translate an admissible file name again changes nothing, in particular none of the
file names that the objects of an accepted batch and their entries have. -/
theorem fileNames_fixed :
    (∀ setting,
      ((∃ t, ofSetting setting = .ok t) ↔
        setting = "" ∨ Text.Spells "false" setting ∨ setting.length = 1) ∧
      ∀ t, ofSetting setting = .ok t ↔ Selects setting t) ∧
    (∀ c name, ((replace c).apply name).length = name.length ∧
      ∀ i : Nat, ((replace c).apply name).toList[i]? =
        if name.toList[i]? = some '/' then some c else name.toList[i]?) ∧
    (∀ name, keep.apply ("/" ++ name) = name) ∧
    (∀ name : String, name.toList.head? ≠ some '/' → keep.apply name = name) ∧
    (∀ (t : PathTranslation) name object, FileName.check (t.apply name) object = .ok () →
      t.apply (t.apply name) = t.apply name) ∧
    (∀ mount records objects, accept mount records = .ok objects →
      ∀ p ∈ files objects, mount.translation.apply p.fileName = p.fileName) := by
  refine ⟨?_, ?_, apply_keep_slash, ?_, ?_, ?_⟩
  · intro setting
    refine ⟨?_, fun _ => ofSetting_eq_ok_iff⟩
    simp only [ofSetting_eq_ok_iff]
    exact exists_selects_iff
  · intro c name
    exact ⟨length_apply_replace c name, getElem?_apply_replace c name⟩
  · intro name h
    exact apply_keep_eq_self_iff.2 h
  · intro t name object h
    exact apply_apply (FileName.check_eq_ok_iff.1 h).relative
  · intro mount records objects h p hp
    exact apply_fileName h hp

/-- Slashes inside a kept name stay, but one of two at the start is left to be dropped next, and the
file name is refused. -/
theorem fileNames_fixed_kept :
    let mount : MountSettings := ⟨"/m", .replace '→'⟩
    let records : List SecretRecord := [{ name := "/a", entries := [⟨"user", "x/_→"⟩] }]
    "a//b".toList.head? ≠ some '/' ∧ keep.apply "a//b" = "a//b" ∧
    FileName.check (keep.apply "/a//b") "/a//b" = .ok () ∧
    keep.apply (keep.apply "/a//b") = keep.apply "/a//b" ∧
    FileName.check (keep.apply "//a") "//a" ≠ .ok () ∧
    keep.apply (keep.apply "//a") ≠ keep.apply "//a" ∧
    accept mount records = .ok (objectsOf mount records) ∧
    ∀ p ∈ files (objectsOf mount records), mount.translation.apply p.fileName = p.fileName := by
  intro mount records
  obtain ⟨-, -, -, hsame, hfixed, hfiles⟩ := fileNames_fixed
  have hrelative : "a//b".toList.head? ≠ some '/' := by decide
  have hcheck : FileName.check (keep.apply "/a//b") "/a//b" = .ok () := by decide +kernel
  have haccept : accept mount records = .ok (objectsOf mount records) := by decide +kernel
  exact ⟨hrelative, hsame "a//b" hrelative, hcheck, hfixed keep "/a//b" _ hcheck, by decide +kernel,
    by decide, haccept, hfiles _ _ _ haccept⟩

end PathTranslation

end SecretMount
