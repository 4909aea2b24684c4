import Mathlib.Data.List.Flatten
import Mathlib.Data.List.Induction
import Mathlib.Data.List.Perm.Subperm
import SecretMount.Proofs.Batch.Accept
import SecretMount.Spec

/-!
# Selections of a batch

What an accepted batch takes is distinct, in whatever order it is taken and whatever is left out
(`Admitted.of_subperm`). So acceptance does not depend on the order of the records, and records can
be dropped from an accepted batch. A batch that is refused is refused as its first records are that
cannot be accepted, whatever comes after them (`acceptAfter_append_of_error`,
`exists_shortestRefused`). Main statement: `acceptance_of_selections`.
-/

namespace SecretMount

/-- What is fresh is so in another order and without some of it. -/
lemma Fresh.of_subperm {taken l l' : List String} (h : Fresh taken l) (hsub : l'.Subperm l) :
    Fresh taken l' := by
  refine ⟨?_, fun s hs => h.2 s (hsub.subset hs)⟩
  obtain ⟨chosen, hperm, hsublist⟩ := hsub
  exact hperm.nodup_iff.1 (h.1.sublist hsublist)

namespace Batch

variable {mount : MountSettings} {directory setting spec : String}
  {records others : List SecretRecord} {objects chosen : List SecretObject} {taken : Taken}
  {failure : Failure}

/-- Objects that can stand beside what has been taken can do so in another order, and without some
of them. -/
lemma Admitted.of_subperm (h : Admitted taken objects) (hsub : chosen.Subperm objects) :
    Admitted taken chosen := by
  have hvalid : ∀ o ∈ chosen, o.check = .ok () := fun o ho => h.valid o (hsub.subset ho)
  obtain ⟨l, hperm, hsublist⟩ := hsub
  exact ⟨hvalid,
    h.keys.of_subperm ⟨_, hperm.map _, hsublist.map _⟩,
    h.aliases.of_subperm ⟨_, hperm.flatMap_right _, hsublist.flatMap _⟩,
    h.fileNames.of_subperm ⟨_, hperm.flatMap_right _, hsublist.flatMap _⟩⟩

/-- What is accepted is so in another order and without some of it. -/
lemma accept_of_subperm (h : accept mount records = .ok objects) (hsub : others.Subperm records) :
    accept mount others = .ok (objectsOf mount others) := by
  obtain ⟨-, hadmitted⟩ := accept_eq_ok_iff.1 h
  obtain ⟨l, hperm, hsublist⟩ := hsub
  exact accept_eq_ok_iff.2
    ⟨rfl, hadmitted.of_subperm ⟨_, hperm.map _, hsublist.map _⟩⟩

/-- Nothing that comes after a refused record changes what is reported. -/
lemma acceptAfter_append_of_error (h : acceptAfter mount taken records = .error failure)
    (rest : List SecretRecord) : acceptAfter mount taken (records ++ rest) = .error failure := by
  induction records generalizing taken with
  | nil => cases h
  | cons record others ih =>
    rw [acceptAfter, except_bind_eq_error] at h
    rw [List.cons_append, acceptAfter, except_bind_eq_error]
    rcases h with h | ⟨next, hadd, h⟩
    · exact .inl h
    · rw [except_bind_eq_error] at h
      rcases h with h | ⟨_, -, h⟩
      · exact .inr ⟨next, hadd, except_bind_eq_error.2 (.inl (ih h))⟩
      · cases h

/-- The objects of records under a directory and a setting of the translation, or the first
violation. -/
def ofRecords (directory setting : String) (records : List SecretRecord) :
    Except Failure (List SecretObject) := do
  let translation ← PathTranslation.ofSetting setting
  accept ⟨directory, translation⟩ records

/-- A text that can be read is accepted as its records are. -/
lemma ofText_eq_ofRecords (h : recordsOfText spec = .ok records) :
    ofText directory setting spec = ofRecords directory setting records := by
  rw [ofText, ofRecords]
  cases PathTranslation.ofSetting setting with
  | error failure => rfl
  | ok translation =>
    rw [h]
    rfl

/-- Records are accepted under a setting that selects a translation. -/
lemma ofRecords_eq_ok (h : ofRecords directory setting records = .ok objects) :
    ∃ translation, PathTranslation.ofSetting setting = .ok translation ∧
      accept ⟨directory, translation⟩ records = .ok objects :=
  except_bind_eq_ok.1 h

/-- What is refused stays so, for the same reason, with more records after it. -/
lemma ofRecords_append_of_error (h : ofRecords directory setting records = .error failure)
    (rest : List SecretRecord) : ofRecords directory setting (records ++ rest) = .error failure := by
  rw [ofRecords, except_bind_eq_error] at h ⊢
  rcases h with h | ⟨translation, hsetting, h⟩
  · exact .inl h
  · exact .inr ⟨translation, hsetting, acceptAfter_append_of_error h rest⟩

/-- Accepted records are accepted without the last ones. -/
lemma ofRecords_of_prefix (h : ofRecords directory setting records = .ok objects)
    (hbegins : others <+: records) : ∃ objects, ofRecords directory setting others = .ok objects := by
  obtain ⟨translation, hsetting, haccept⟩ := ofRecords_eq_ok h
  exact ⟨_, except_bind_eq_ok.2
    ⟨translation, hsetting, accept_of_subperm haccept hbegins.sublist.subperm⟩⟩

/-- The shortest beginning of the records that is refused: what is reported of it is reported
whatever comes after it, and anything shorter is accepted. -/
structure ShortestRefused (directory setting : String) (records : List SecretRecord)
    (failure : Failure) (first : List SecretRecord) : Prop where
  begins : first <+: records
  refused : ∀ rest, ofRecords directory setting (first ++ rest) = .error failure
  shortest : ∀ shorter, shorter <+: first → shorter ≠ first →
    ∃ objects, ofRecords directory setting shorter = .ok objects

/-- Refused records start with a shortest list that is refused for the same reason. -/
lemma exists_shortestRefused (h : ofRecords directory setting records = .error failure) :
    ∃ first, ShortestRefused directory setting records failure first := by
  induction records using List.reverseRecOn generalizing failure with
  | nil =>
    refine ⟨[], List.prefix_refl _, ofRecords_append_of_error h, ?_⟩
    intro shorter hshorter hne
    exact absurd (List.prefix_nil.1 hshorter) hne
  | append_singleton before record ih =>
    cases hbefore : ofRecords directory setting before with
    | error failure' =>
      -- the last record does not matter: the records before it are refused already
      have hsame := ofRecords_append_of_error hbefore [record]
      rw [h] at hsame
      cases hsame
      obtain ⟨first, hfirst⟩ := ih hbefore
      exact ⟨first, hfirst.begins.trans (List.prefix_append _ _), hfirst.refused, hfirst.shortest⟩
    | ok objects =>
      refine ⟨before ++ [record], List.prefix_refl _, ofRecords_append_of_error h, ?_⟩
      intro shorter hshorter hne
      have hbegins : shorter <+: before := (List.prefix_concat_iff.1 hshorter).resolve_left hne
      exact ofRecords_of_prefix hbefore hbegins

/-- Acceptance does not depend on the order of the records, and records can be dropped: any selection
of the records of an accepted batch, in any order, is accepted with the objects of its own records.
A batch that is refused is refused as the shortest beginning of it that is, whatever comes after
that. Texts are accepted and refused as their records are. -/
theorem acceptance_of_selections (directory setting : String) (records : List SecretRecord) :
    (∀ objects, ofRecords directory setting records = .ok objects →
      ∃ translation, PathTranslation.ofSetting setting = .ok translation ∧
        let objectOf (record : SecretRecord) : SecretObject := ⟨record, ⟨directory, translation⟩⟩
        objects = records.map objectOf ∧
        ∀ others : List SecretRecord, others.Subperm records →
          ofRecords directory setting others = .ok (others.map objectOf)) ∧
    (∀ failure, ofRecords directory setting records = .error failure →
      ∃ first, ShortestRefused directory setting records failure first) ∧
    (∀ spec, recordsOfText spec = .ok records →
      ofText directory setting spec = ofRecords directory setting records) := by
  refine ⟨?_, ?_, ?_⟩
  · intro objects h
    obtain ⟨translation, hsetting, haccept⟩ := ofRecords_eq_ok h
    refine ⟨translation, hsetting, (accept_eq_ok_iff.1 haccept).1, ?_⟩
    intro others hsub
    exact except_bind_eq_ok.2 ⟨translation, hsetting, accept_of_subperm haccept hsub⟩
  · intro failure h
    exact exists_shortestRefused h
  · intro spec h
    exact ofText_eq_ofRecords h

/-- Two of three records in the other order, and a record that is repeated. -/
theorem acceptance_of_selections_reversed :
    let first : SecretRecord := { name := "a/b", entries := [⟨"user", "x"⟩] }
    let second : SecretRecord := { name := "b" }
    let third : SecretRecord := { name := "c", objectAlias := some "d" }
    let mount : MountSettings := ⟨"/m", .keep⟩
    let failure : Failure := .validation "b" (.duplicateName "b" "kms")
    ofRecords "/m" "False" [first, second, third] =
      .ok (objectsOf mount [first, second, third]) ∧
    ofRecords "/m" "False" [third, first] = .ok (objectsOf mount [third, first]) ∧
    ofRecords "/m" "False" [first, second, second, third, third] = .error failure ∧
    ∃ shortest, ShortestRefused "/m" "False" [first, second, second, third, third] failure
      shortest := by
  intro first second third mount failure
  have haccept : ofRecords "/m" "False" [first, second, third] =
      .ok (objectsOf mount [first, second, third]) := by decide +kernel
  have hselects : [third, first].Subperm [first, second, third] := by decide +kernel
  have hrefuse : ofRecords "/m" "False" [first, second, second, third, third] = .error failure := by
    decide +kernel
  obtain ⟨translation, hsetting, -, hselection⟩ :=
    (acceptance_of_selections "/m" "False" [first, second, third]).1 _ haccept
  cases hsetting
  exact ⟨haccept, hselection _ hselects, hrefuse,
    (acceptance_of_selections "/m" "False" _).2.1 failure hrefuse⟩

end Batch

end SecretMount
