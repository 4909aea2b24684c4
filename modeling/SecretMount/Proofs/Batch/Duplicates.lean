import Mathlib.Data.List.Flatten
import Mathlib.Data.List.Nodup
import SecretMount.Proofs.Batch.Accept
import SecretMount.Proofs.Batch.Valid

/-!
# What a batch is refused for

A batch is refused at its first object that is not valid or uses something that is taken: `Refused`
lists the causes, and `accept_eq_error` finds the object. An alias makes a file name, so where the
file names are distinct the aliases are too (`aliases_nodup`), and only the keys are left to be
taken twice. A key puts name, alias and type between colons without marking the colons that they
hold themselves, so it belongs to one triple only where alias and type have none (`key_eq_key`).
Main statement: `accept_of_distinct`.
-/

namespace SecretMount

namespace Taken

variable {fault : String → Failure} {failure : Failure} {taken l : List String} {s : String}
  {t : Taken} {o : SecretObject}

/-- A text is refused because it is taken. -/
lemma add_eq_error (h : add fault taken s = .error failure) : s ∈ taken ∧ failure = fault s := by
  unfold add at h
  split at h
  case isTrue hmem =>
    cases h
    exact ⟨List.contains_iff_mem.1 hmem, rfl⟩
  case isFalse => cases h

/-- Several texts are refused because one of them is taken or repeated. -/
lemma addAll_eq_error (h : addAll fault taken l = .error failure) :
    ¬ Fresh taken l ∧ ∃ s ∈ l, failure = fault s := by
  constructor
  · intro hfresh
    rw [addAll_eq_ok_iff.2 ⟨hfresh, rfl⟩] at h
    cases h
  · induction l generalizing taken with
    | nil => cases h
    | cons s rest ih =>
      rw [addAll, except_bind_eq_error] at h
      rcases h with h | ⟨next, -, h⟩
      · exact ⟨s, List.mem_cons_self, (add_eq_error h).2⟩
      · obtain ⟨s', hs', heq⟩ := ih h
        exact ⟨s', List.mem_cons_of_mem _ hs', heq⟩

/-- Why an object cannot be taken beside what has been taken: it is not valid, or its key, an alias
or a file name is used already. -/
inductive Refused (t : Taken) (o : SecretObject) : Failure → Prop where
  | invalid {failure : Failure} :
    o.check = .error failure →
    Refused t o failure
  | name :
    o.key ∈ t.keys →
    Refused t o (.validation o.name (.duplicateName o.name o.type))
  | ownAlias {a : String} :
    ¬ Fresh t.aliases o.aliases →
    Refused t o (.validation o.name (.duplicateAlias a))
  | entryAlias {a : String} :
    ¬ Fresh t.aliases o.aliases →
    Refused t o (.validation o.name (.duplicateEntryAlias a))
  | fileName {f : String} :
    ¬ Fresh t.fileNames o.fileNames →
    Refused t o (.validation o.name (.duplicateFileName f))

/-- An object is refused because it is invalid, or because of something that is taken or repeated.
-/
lemma addObject_eq_error (h : t.addObject o = .error failure) : Refused t o failure := by
  rw [addObject, except_bind_eq_error] at h
  rcases h with h | ⟨_, -, h⟩
  · exact .invalid h
  rw [except_bind_eq_error] at h
  rcases h with h | ⟨_, -, h⟩
  · obtain ⟨hmem, rfl⟩ := add_eq_error h
    exact .name hmem
  rw [except_bind_eq_error] at h
  rcases h with h | ⟨_, hown, h⟩
  · obtain ⟨hnot, a, -, rfl⟩ := addAll_eq_error h
    exact .ownAlias fun hfresh => hnot (Fresh.append_iff.1 hfresh).1
  obtain ⟨-, rfl⟩ := addAll_eq_ok_iff.1 hown
  rw [except_bind_eq_error] at h
  rcases h with h | ⟨_, -, h⟩
  · obtain ⟨hnot, a, -, rfl⟩ := addAll_eq_error h
    exact .entryAlias fun hfresh => hnot (Fresh.append_iff.1 hfresh).2
  rw [except_bind_eq_error] at h
  rcases h with h | ⟨_, -, h⟩
  · obtain ⟨hnot, f, -, rfl⟩ := addAll_eq_error h
    exact .fileName hnot
  · cases h

/-- What is taken after several objects. -/
def afterAll (t : Taken) (objects : List SecretObject) : Taken :=
  objects.foldl after t

/-- What is taken after several objects are their keys, aliases and file names, the last ones first.
-/
lemma afterAll_eq (t : Taken) (objects : List SecretObject) :
    t.afterAll objects =
      { keys := (objects.map SecretObject.key).reverse ++ t.keys
        aliases := (objects.flatMap SecretObject.aliases).reverse ++ t.aliases
        fileNames := (objects.flatMap SecretObject.fileNames).reverse ++ t.fileNames } := by
  induction objects generalizing t with
  | nil => rfl
  | cons o rest ih =>
    rw [afterAll, List.foldl_cons, ← afterAll, ih, after]
    simp

end Taken

namespace Text

/-- Two texts that agree with a separator agree before and after it, if it is the last one. -/
lemma append_sep_inj {sep : Char} {s s' t t' : List Char} (ht : sep ∉ t) (ht' : sep ∉ t')
    (h : s ++ sep :: t = s' ++ sep :: t') : s = s' ∧ t = t' := by
  rcases List.append_eq_append_iff.1 h with ⟨u, hs, hrest⟩ | ⟨u, hs, hrest⟩
  · cases u with
    | nil =>
      rw [List.append_nil] at hs
      exact ⟨hs.symm, (List.cons.inj hrest).2⟩
    | cons c u =>
      obtain ⟨-, rfl⟩ := List.cons.inj hrest
      exact absurd (List.mem_append_right u List.mem_cons_self) ht
  · cases u with
    | nil =>
      rw [List.append_nil] at hs
      exact ⟨hs, (List.cons.inj hrest).2.symm⟩
    | cons c u =>
      obtain ⟨-, rfl⟩ := List.cons.inj hrest
      exact absurd (List.mem_append_right u List.mem_cons_self) ht'

end Text

namespace SecretObject

variable {o p : SecretObject}

/-- An optional text counts where it is there and not empty. -/
lemma nonEmpty_eq_some_iff {s : Option String} {t : String} :
    nonEmpty s = some t ↔ s = some t ∧ t ≠ "" := by
  simp [nonEmpty, Option.filter_eq_some_iff]

/-- A text and nothing instead of an empty text come to the same. -/
lemma nonEmpty_getD (s : String) : (nonEmpty (some s)).getD "" = s := by
  by_cases hs : s = ""
  · subst hs
    rfl
  · rw [nonEmpty_eq_some_iff.2 ⟨rfl, hs⟩, Option.getD_some]

/-- The file name of an entry is made from the entry's alias. -/
lemma fileName_ofEntry (o : SecretObject) (entry : JmesEntry) :
    (o.ofEntry entry).fileName = o.mount.translation.apply entry.objectAlias :=
  congrArg o.mount.translation.apply (nonEmpty_getD entry.objectAlias)

/-- What the translation makes of the aliases of an object are file names of the object. -/
lemma aliases_sublist (o : SecretObject) :
    (o.aliases.map o.mount.translation.apply).Sublist o.fileNames := by
  have hentries : (o.entries.map JmesEntry.objectAlias).map o.mount.translation.apply =
      o.entryObjects.map fileName := by
    rw [entryObjects, List.map_map, List.map_map]
    exact List.map_congr_left fun entry _ => (o.fileName_ofEntry entry).symm
  rw [aliases, fileNames, List.map_append, hentries]
  cases halias : o.alias? with
  | none => exact List.sublist_cons_self _ _
  | some a =>
    have hname : o.fileName = o.mount.translation.apply a := by rw [fileName, halias]; rfl
    rw [hname]
    exact List.Sublist.refl _

/-- Neither alias nor type holds the colon that stands between the parts of a key. -/
def Unmarked (o : SecretObject) : Prop :=
  ':' ∉ (o.alias?.getD "").toList ∧ ':' ∉ o.type.toList

instance (o : SecretObject) : Decidable o.Unmarked :=
  inferInstanceAs (Decidable (_ ∧ _))

/-- Two aliases are the same if they are the same with an empty text for none. -/
lemma alias?_eq_of_getD (h : o.alias?.getD "" = p.alias?.getD "") : o.alias? = p.alias? := by
  cases ho : o.alias? with
  | none =>
    cases hp : p.alias? with
    | none => rfl
    | some b =>
      rw [ho, hp] at h
      exact absurd h.symm (nonEmpty_eq_some_iff.1 hp).2
  | some a =>
    cases hp : p.alias? with
    | none =>
      rw [ho, hp] at h
      exact absurd h (nonEmpty_eq_some_iff.1 ho).2
    | some b =>
      rw [ho, hp] at h
      exact congrArg some h

/-- Where colons mark the parts only, a key belongs to one name, alias and type. -/
lemma key_eq_key (ho : o.Unmarked) (hp : p.Unmarked) (h : o.key = p.key) :
    o.name = p.name ∧ o.alias? = p.alias? ∧ o.type = p.type := by
  have hlist : (o.name.toList ++ ':' :: (o.alias?.getD "").toList) ++ ':' :: o.type.toList =
      (p.name.toList ++ ':' :: (p.alias?.getD "").toList) ++ ':' :: p.type.toList := by
    simpa [key] using congrArg String.toList h
  obtain ⟨hfront, htype⟩ := Text.append_sep_inj ho.2 hp.2 hlist
  obtain ⟨hname, halias⟩ := Text.append_sep_inj ho.1 hp.1 hfront
  exact ⟨String.toList_injective hname, alias?_eq_of_getD (String.toList_injective halias),
    String.toList_injective htype⟩

end SecretObject

namespace Batch

variable {mount : MountSettings} {records : List SecretRecord} {objects : List SecretObject}
  {failure : Failure}

/-- Records are refused because of one object, after those before it were admitted. -/
lemma acceptAfter_eq_error {taken : Taken} (h : acceptAfter mount taken records = .error failure) :
    ∃ before o after,
      objectsOf mount records = before ++ o :: after ∧
      Admitted taken before ∧
      Taken.Refused (taken.afterAll before) o failure := by
  induction records generalizing taken with
  | nil => cases h
  | cons record rest ih =>
    rw [acceptAfter, except_bind_eq_error] at h
    rcases h with h | ⟨next, hadd, h⟩
    · exact ⟨[], _, objectsOf mount rest, rfl, admitted_nil taken, Taken.addObject_eq_error h⟩
    · obtain ⟨hcheck, hkey, haliases, hfiles, rfl⟩ := Taken.addObject_eq_ok_iff.1 hadd
      rw [except_bind_eq_error] at h
      rcases h with h | ⟨_, -, h⟩
      · obtain ⟨before, o, after, hobjects, hbefore, hrefused⟩ := ih h
        refine ⟨⟨record, mount⟩ :: before, o, after, ?_, ?_, hrefused⟩
        · rw [objectsOf, List.map_cons, ← objectsOf, hobjects, List.cons_append]
        · exact admitted_cons_iff.2 ⟨⟨hcheck, hkey, haliases, hfiles⟩, hbefore⟩
      · cases h

/-- A batch is refused at the first object that cannot be taken beside those before it. -/
lemma accept_eq_error (h : accept mount records = .error failure) :
    ∃ before o after,
      objectsOf mount records = before ++ o :: after ∧
      Admitted {} before ∧
      Taken.Refused (Taken.afterAll {} before) o failure :=
  acceptAfter_eq_error h

/-- Where the file names of a batch are distinct, so are its aliases. -/
lemma aliases_nodup (h : ((objectsOf mount records).flatMap SecretObject.fileNames).Nodup) :
    ((objectsOf mount records).flatMap SecretObject.aliases).Nodup := by
  apply List.Nodup.of_map mount.translation.apply
  rw [List.map_flatMap]
  refine h.sublist (List.Sublist.flatMap_right _ ?_)
  intro o ho
  obtain ⟨record, -, rfl⟩ := List.mem_map.1 ho
  exact SecretObject.aliases_sublist ⟨record, mount⟩

/-- Where the file names of a batch are distinct and its colons mark parts of keys only, the keys
are distinct. -/
lemma keys_nodup (h : ((objectsOf mount records).flatMap SecretObject.fileNames).Nodup)
    (hcolon : ∀ o ∈ objectsOf mount records, o.Unmarked) :
    ((objectsOf mount records).map SecretObject.key).Nodup := by
  have hnames : ((objectsOf mount records).map SecretObject.fileName).Nodup := by
    refine h.sublist ?_
    rw [← List.flatMap_singleton' ((objectsOf mount records).map _), List.flatMap_map]
    exact List.Sublist.flatMap_right _ fun o _ => by simp [SecretObject.fileNames]
  refine List.Nodup.map_on ?_ hnames.of_map
  -- objects with one key have one name and one alias, and these make the file name
  intro o ho p hp hkey
  obtain ⟨hname, halias, -⟩ := SecretObject.key_eq_key (hcolon o ho) (hcolon p hp) hkey
  apply List.inj_on_of_nodup_map hnames ho hp
  obtain ⟨record, -, rfl⟩ := List.mem_map.1 ho
  obtain ⟨record', -, rfl⟩ := List.mem_map.1 hp
  rw [SecretObject.fileName, SecretObject.fileName, hname, halias]

/-- Valid objects with distinct file names and distinct keys are accepted. -/
lemma accept_of_distinct_keys (hvalid : ∀ o ∈ objectsOf mount records, o.check = .ok ())
    (hfiles : ((objectsOf mount records).flatMap SecretObject.fileNames).Nodup)
    (hkeys : ((objectsOf mount records).map SecretObject.key).Nodup) :
    accept mount records = .ok (objectsOf mount records) :=
  accept_eq_ok_iff.2 ⟨rfl, hvalid, fresh_nil_iff.2 hkeys, fresh_nil_iff.2 (aliases_nodup hfiles),
    fresh_nil_iff.2 hfiles⟩

/-- A failure that reports an object as the duplicate of one before it that has the same key. -/
inductive DuplicateKey (objects : List SecretObject) : Failure → Prop where
  | intro {before after : List SecretObject} {p o : SecretObject} :
    objects = before ++ o :: after →
    p ∈ before →
    p.key = o.key →
    DuplicateKey objects (.validation o.name (.duplicateName o.name o.type))

/-- An object whose key was taken before it is refused for its name and type. -/
lemma duplicateKey_of_mem {before after : List SecretObject} {o : SecretObject}
    (hobjects : objects = before ++ o :: after) (hkey : o.key ∈ (Taken.afterAll {} before).keys) :
    DuplicateKey objects (.validation o.name (.duplicateName o.name o.type)) := by
  rw [Taken.afterAll_eq, List.append_nil, List.mem_reverse] at hkey
  obtain ⟨p, hp, hkey⟩ := List.mem_map.1 hkey
  exact .intro hobjects hp hkey

/-- What is distinct over a whole batch can be taken for each object beside those before it. -/
lemma fresh_of_nodup {f : SecretObject → List String} {before after : List SecretObject}
    {o : SecretObject} (h : ((before ++ o :: after).flatMap f).Nodup) :
    Fresh ((before.flatMap f).reverse ++ []) (f o) := by
  rw [List.flatMap_append, List.flatMap_cons] at h
  obtain ⟨-, hrest⟩ := Fresh.append_iff.1 (fresh_nil_iff.2 h)
  exact (Fresh.append_iff.1 hrest).1

/-- Where all objects are valid and the file names distinct, nothing but a key can be refused. -/
lemma duplicateKey_of_error (hvalid : ∀ o ∈ objectsOf mount records, o.check = .ok ())
    (hfiles : ((objectsOf mount records).flatMap SecretObject.fileNames).Nodup)
    (h : accept mount records = .error failure) :
    DuplicateKey (objectsOf mount records) failure := by
  have haliases := aliases_nodup hfiles
  obtain ⟨before, o, after, hobjects, -, hrefused⟩ := accept_eq_error h
  rw [hobjects] at hvalid hfiles haliases
  cases hrefused with
  | invalid hcheck =>
    rw [hvalid o (List.mem_append_right _ List.mem_cons_self)] at hcheck
    cases hcheck
  | name hkey => exact duplicateKey_of_mem hobjects hkey
  | ownAlias hnot =>
    rw [Taken.afterAll_eq] at hnot
    exact absurd (fresh_of_nodup haliases) hnot
  | entryAlias hnot =>
    rw [Taken.afterAll_eq] at hnot
    exact absurd (fresh_of_nodup haliases) hnot
  | fileName hnot =>
    rw [Taken.afterAll_eq] at hnot
    exact absurd (fresh_of_nodup hfiles) hnot

/-- An object is reported as a duplicate only if one before it has the same key. -/
lemma duplicateKey_of_duplicateName {object name type : String}
    (h : accept mount records = .error (.validation object (.duplicateName name type))) :
    DuplicateKey (objectsOf mount records) (.validation object (.duplicateName name type)) := by
  obtain ⟨before, o, after, hobjects, -, hrefused⟩ := accept_eq_error h
  cases hrefused with
  | invalid hcheck => cases SecretObject.check_eq_error hcheck with | fileName hfile => cases hfile
  | name hkey => exact duplicateKey_of_mem hobjects hkey

/-- The checks between the objects of a batch are complete but for colons. Where every object is
valid and the file names are distinct, the batch is accepted if no alias and no type holds a colon;
in any case it is accepted if the keys are distinct, and else an object is reported that has the key
of one before it. Whatever the batch, a report of a duplicate name is about two objects with one
key, and they agree in name, alias and type unless an alias or a type of theirs holds a colon. -/
theorem accept_of_distinct (mount : MountSettings) (records : List SecretRecord) :
    let objects := objectsOf mount records
    ((∀ o ∈ objects, o.check = .ok ()) → (objects.flatMap SecretObject.fileNames).Nodup →
      ((∀ o ∈ objects, o.Unmarked) → accept mount records = .ok objects) ∧
      ((objects.map SecretObject.key).Nodup → accept mount records = .ok objects) ∧
      (¬ (objects.map SecretObject.key).Nodup →
        ∃ failure, accept mount records = .error failure ∧ DuplicateKey objects failure)) ∧
    (∀ object name type,
      accept mount records = .error (.validation object (.duplicateName name type)) →
      ∃ before p o after,
        objects = before ++ o :: after ∧
        p ∈ before ∧
        p.key = o.key ∧
        object = o.name ∧ name = o.name ∧ type = o.type ∧
        (p.Unmarked → o.Unmarked → p.name = o.name ∧ p.alias? = o.alias? ∧ p.type = o.type)) := by
  intro objects
  refine ⟨?_, ?_⟩
  · intro hvalid hfiles
    refine ⟨?_, accept_of_distinct_keys hvalid hfiles, ?_⟩
    · intro hcolon
      exact accept_of_distinct_keys hvalid hfiles (keys_nodup hfiles hcolon)
    · intro hkeys
      cases haccept : accept mount records with
      | error failure => exact ⟨failure, rfl, duplicateKey_of_error hvalid hfiles haccept⟩
      | ok accepted =>
        obtain ⟨-, hadmitted⟩ := accept_eq_ok_iff.1 haccept
        exact absurd (fresh_nil_iff.1 hadmitted.keys) hkeys
  · intro object name type h
    obtain ⟨hobjects, hp, hkey⟩ := duplicateKey_of_duplicateName h
    exact ⟨_, _, _, _, hobjects, hp, hkey, rfl, rfl, rfl,
      fun hp' ho' => SecretObject.key_eq_key hp' ho' hkey⟩

/-- A qualified name, with its colons, twice: once with an entry and once with an alias. -/
theorem accept_of_distinct_qualified :
    let name := "acs:kms:cn-hangzhou:1:secret/db"
    let records : List SecretRecord :=
      [{ name, entries := [⟨"user", "user"⟩] }, { name, objectAlias := some "db" }]
    (∀ o ∈ objectsOf {} records, o.check = .ok ()) ∧
    ((objectsOf {} records).flatMap SecretObject.fileNames).Nodup ∧
    (∀ o ∈ objectsOf {} records, o.Unmarked) ∧
    accept {} records = .ok (objectsOf {} records) := by
  intro name records
  have hvalid : ∀ o ∈ objectsOf {} records, o.check = .ok () := by decide +kernel
  have hfiles : ((objectsOf {} records).flatMap SecretObject.fileNames).Nodup := by decide +kernel
  have hcolon : ∀ o ∈ objectsOf {} records, o.Unmarked := by decide +kernel
  exact ⟨hvalid, hfiles, hcolon, ((accept_of_distinct {} records).1 hvalid hfiles).1 hcolon⟩

/-- A colon in an alias makes the key of another record: neither name, alias nor file name is the
same, and the second record is reported as a duplicate. -/
theorem accept_refuses_distinct :
    let records : List SecretRecord :=
      [{ name := "a:b", objectAlias := some "c" }, { name := "a", objectAlias := some "b:c" }]
    (∀ o ∈ objectsOf {} records, o.check = .ok ()) ∧
    ((objectsOf {} records).flatMap SecretObject.fileNames).Nodup ∧
    accept {} records = .error (.validation "a" (.duplicateName "a" "kms")) := by
  decide +kernel

end Batch

end SecretMount
