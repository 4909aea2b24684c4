import SecretMount.Proofs.Batch.Places
import SecretMount.Proofs.ResourceName.Sections

/-!
# The grammar of objects

What a valid object looks like, said without the checks: its name, a qualified one by its sections;
its entries; and the file names of all of them. The file names are looked at after translation,
which may make a segment `..` out of slashes, but then it is the whole name. Main statement:
`check_grammar`.
-/

namespace SecretMount

namespace FileName

/-- Without a slash a file name is one segment, which must not be the parent. -/
lemma admissible_iff_of_no_slash {fileName : String} (h : '/' ∉ fileName.toList) :
    Admissible fileName ↔
      fileName ≠ ".." ∧ ∀ c ∈ fileName.toList, Text.isControl c = false := by
  have hclimbs : parent ∈ segments fileName ↔ fileName = ".." := by
    rw [segments_of_no_slash h, List.mem_singleton]
    exact ⟨fun hparent => String.toList_injective hparent.symm, fun hdots => hdots ▸ rfl⟩
  constructor
  · intro hadmissible
    exact ⟨fun hdots => hadmissible.stays (hclimbs.2 hdots), hadmissible.printable⟩
  · rintro ⟨hdots, hprintable⟩
    refine ⟨?_, fun hparent => hdots (hclimbs.1 hparent), hprintable⟩
    intro hslash
    exact h (List.mem_of_head? hslash)

end FileName

namespace SecretObject

variable {o : SecretObject}

/-- What an object has to look like. -/
structure Grammatical (o : SecretObject) : Prop where
  named : o.name ≠ ""
  qualified : ResourceName.start <+: o.name.toList →
    5 ≤ (ResourceName.sections o.name).length ∧ (ResourceName.sections o.name)[1]? = some "kms"
  entries : ∀ entry ∈ o.entries, entry.path ≠ "" ∧ entry.objectAlias ≠ ""
  files : ∀ p ∈ o :: o.entryObjects, FileName.Admissible p.fileName

/-- A name passes where it is not empty and, if it is qualified, has its five sections and the
service that is supported. -/
lemma checkName_eq_ok_iff :
    o.checkName = .ok () ↔ o.name ≠ "" ∧
      (ResourceName.start <+: o.name.toList →
        5 ≤ (ResourceName.sections o.name).length ∧
          (ResourceName.sections o.name)[1]? = some supportedService) := by
  unfold checkName
  split
  case isTrue hempty => exact ⟨nofun, fun h => absurd hempty h.1⟩
  case isFalse hnamed =>
    split
    case isFalse hfree =>
      refine ⟨fun _ => ⟨hnamed, fun hstart => ?_⟩, fun _ => rfl⟩
      exact absurd (ResourceName.isQualified_iff.2 hstart) hfree
    case isTrue hqualified =>
      have hstart := ResourceName.isQualified_iff.1 hqualified
      have hread := ResourceName.exists_read_iff supportedService hstart
      split
      case h_1 fault hfault =>
        refine ⟨nofun, fun ⟨_, hsections⟩ => ?_⟩
        obtain ⟨n, hn, -⟩ := hread.2 (hsections hstart)
        cases hfault.symm.trans hn
      case h_2 n hn =>
        split
        case isTrue hservice =>
          exact ⟨fun _ => ⟨hnamed, fun _ => hread.1 ⟨n, hn, hservice⟩⟩, fun _ => rfl⟩
        case isFalse hservice =>
          refine ⟨nofun, fun ⟨_, hsections⟩ => ?_⟩
          obtain ⟨n', hn', hservice'⟩ := hread.2 (hsections hstart)
          cases hn.symm.trans hn'
          exact absurd hservice' hservice

/-- The check of an object accepts just the grammar. -/
lemma check_eq_ok_iff_grammatical : o.check = .ok () ↔ o.Grammatical := by
  rw [check_eq_ok_iff, checkName_eq_ok_iff]
  constructor
  · rintro ⟨⟨hnamed, hqualified⟩, hfile, hentries⟩
    refine ⟨hnamed, hqualified, fun entry hentry => ?_, ?_⟩
    · obtain ⟨hpath, halias, -⟩ := hentries entry hentry
      exact ⟨hpath, halias⟩
    · rw [List.forall_mem_cons, entryObjects, List.forall_mem_map]
      exact ⟨hfile, fun entry hentry => (hentries entry hentry).2.2⟩
  · rintro ⟨hnamed, hqualified, hentries, hfiles⟩
    rw [List.forall_mem_cons, entryObjects, List.forall_mem_map] at hfiles
    refine ⟨⟨hnamed, hqualified⟩, hfiles.1, fun entry hentry => ?_⟩
    exact ⟨(hentries entry hentry).1, (hentries entry hentry).2, hfiles.2 entry hentry⟩

/-- Exactly the grammatical objects are valid. Where another character takes the place of slashes, a
file name is admissible if it is not `..` as a whole and holds no control character. -/
theorem check_grammar (o : SecretObject) :
    (o.check = .ok () ↔ o.Grammatical) ∧
    ∀ c, c ≠ '/' → ∀ name,
      FileName.Admissible ((PathTranslation.replace c).apply name) ↔
        (PathTranslation.replace c).apply name ≠ ".." ∧
          ∀ d ∈ ((PathTranslation.replace c).apply name).toList, Text.isControl d = false := by
  refine ⟨check_eq_ok_iff_grammatical, ?_⟩
  intro c hc name
  exact FileName.admissible_iff_of_no_slash (PathTranslation.apply_replace_no_slash hc name)

/-- Two slashes become the one name of dots that is not admissible, and the object with this alias
is refused though its name is a qualified one. -/
theorem check_grammar_dots :
    let o : SecretObject :=
      ⟨{ name := "acs:kms:r:1:a:b", objectAlias := some "//" }, { translation := .replace '.' }⟩
    (ResourceName.sections o.name = ["acs", "kms", "r", "1", "a", "b"]) ∧ o.fileName = ".." ∧
    ¬ FileName.Admissible o.fileName ∧ o.check ≠ .ok () := by
  intro o
  obtain ⟨hgrammar, hdots⟩ := check_grammar o
  have hrefused : ¬ FileName.Admissible o.fileName := by
    intro hadmissible
    exact ((hdots '.' (by decide) "//").1 hadmissible).1 (by decide)
  refine ⟨by decide, by decide, hrefused, ?_⟩
  intro hok
  exact hrefused ((hgrammar.1 hok).files o List.mem_cons_self)

end SecretObject

end SecretMount
