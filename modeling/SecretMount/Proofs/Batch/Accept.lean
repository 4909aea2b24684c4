import Mathlib.Data.List.Basic
import SecretMount.Batch
import SecretMount.Proofs.Except

/-!
# Accepted batches

When a batch is accepted. Going through the records takes their keys, aliases and file names one
after the other; `Fresh` says that a list can be taken beside what has been taken already, and
`Fresh.append_iff` splits this along the batch. Main statement: `acceptAfter_eq_ok_iff`, a batch is
accepted if each object is valid on its own and the batch is fresh in its keys, its aliases and its
file names.
-/

namespace SecretMount

/-- Texts that can be taken beside others: they are distinct, and none has been taken. -/
def Fresh (taken l : List String) : Prop := l.Nodup ∧ ∀ s ∈ l, s ∉ taken

/-- What the first list takes counts as taken for the second. -/
lemma Fresh.append_iff {taken l l' : List String} :
    Fresh taken (l ++ l') ↔ Fresh taken l ∧ Fresh (l.reverse ++ taken) l' := by
  unfold Fresh
  rw [List.nodup_append]
  constructor
  · rintro ⟨⟨hl, hl', hne⟩, htaken⟩
    refine ⟨⟨hl, fun s hs => htaken s (List.mem_append_left _ hs)⟩, hl', ?_⟩
    intro s hs hmem
    rcases List.mem_append.1 hmem with hmem | hmem
    · exact hne s (List.mem_reverse.1 hmem) s hs rfl
    · exact htaken s (List.mem_append_right _ hs) hmem
  · rintro ⟨⟨hl, htaken⟩, hl', htaken'⟩
    refine ⟨⟨hl, hl', ?_⟩, ?_⟩
    · intro s hs s' hs' heq
      exact htaken' s' hs' (List.mem_append_left _ (List.mem_reverse.2 (heq ▸ hs)))
    · intro s hs hmem
      rcases List.mem_append.1 hs with hs | hs
      · exact htaken s hs hmem
      · exact htaken' s hs (List.mem_append_right _ hmem)

/-- A list is fresh where its head is new and its tail is new with the head taken too. -/
lemma Fresh.cons_iff {taken l : List String} {s : String} :
    Fresh taken (s :: l) ↔ s ∉ taken ∧ Fresh (s :: taken) l := by
  have hone : Fresh taken [s] ↔ s ∉ taken := by simp [Fresh]
  rw [← List.singleton_append, Fresh.append_iff, hone, List.reverse_singleton,
    List.singleton_append]

/-- Where nothing is taken, a list is fresh if it repeats nothing. -/
lemma fresh_nil_iff {l : List String} : Fresh [] l ↔ l.Nodup := by
  simp [Fresh]

namespace Taken

variable {fault : String → Failure} {taken taken' : List String} {s : String} {l : List String}

/-- A text is added just if it is not taken. -/
lemma add_eq_ok_iff : add fault taken s = .ok taken' ↔ s ∉ taken ∧ taken' = s :: taken := by
  unfold add
  split
  case isTrue hmem =>
    have hs : s ∈ taken := List.contains_iff_mem.1 hmem
    exact ⟨nofun, fun h => absurd hs h.1⟩
  case isFalse hmem =>
    have hs : s ∉ taken := fun hs => hmem (List.contains_iff_mem.2 hs)
    constructor
    · intro h
      cases h
      exact ⟨hs, rfl⟩
    · rintro ⟨-, rfl⟩
      rfl

/-- Several texts are added just if none is taken and none is repeated. -/
lemma addAll_eq_ok_iff :
    addAll fault taken l = .ok taken' ↔ Fresh taken l ∧ taken' = l.reverse ++ taken := by
  induction l generalizing taken with
  | nil =>
    have hnil : Fresh taken [] := ⟨List.nodup_nil, nofun⟩
    constructor
    · intro h
      cases h
      exact ⟨hnil, rfl⟩
    · rintro ⟨-, rfl⟩
      rfl
  | cons s rest ih =>
    rw [addAll, except_bind_eq_ok, Fresh.cons_iff, List.reverse_cons, List.append_assoc,
      List.singleton_append]
    constructor
    · rintro ⟨next, hadd, h⟩
      obtain ⟨hs, rfl⟩ := add_eq_ok_iff.1 hadd
      obtain ⟨hrest, rfl⟩ := ih.1 h
      exact ⟨⟨hs, hrest⟩, rfl⟩
    · rintro ⟨⟨hs, hrest⟩, rfl⟩
      exact ⟨_, add_eq_ok_iff.2 ⟨hs, rfl⟩, ih.2 ⟨hrest, rfl⟩⟩

end Taken

namespace SecretObject

/-- The aliases that an object takes, its own first. -/
def aliases (o : SecretObject) : List String :=
  o.alias?.toList ++ o.entries.map JmesEntry.objectAlias

end SecretObject

namespace Taken

/-- What is taken after an object. -/
def after (t : Taken) (o : SecretObject) : Taken where
  keys := o.key :: t.keys
  aliases := o.aliases.reverse ++ t.aliases
  fileNames := o.fileNames.reverse ++ t.fileNames

/-- An object is added just if it is valid and its key, its aliases and its file names are new. -/
lemma addObject_eq_ok_iff {t t' : Taken} {o : SecretObject} :
    t.addObject o = .ok t' ↔
      o.check = .ok () ∧ o.key ∉ t.keys ∧ Fresh t.aliases o.aliases ∧
        Fresh t.fileNames o.fileNames ∧ t' = t.after o := by
  simp only [addObject, except_bind_eq_ok, add_eq_ok_iff, addAll_eq_ok_iff]
  constructor
  · rintro ⟨_, hcheck, _, ⟨hkey, rfl⟩, _, ⟨hown, rfl⟩, _, ⟨hentries, rfl⟩, _, ⟨hfiles, rfl⟩, h⟩
    cases h
    refine ⟨hcheck, hkey, Fresh.append_iff.2 ⟨hown, hentries⟩, hfiles, ?_⟩
    simp [after, SecretObject.aliases]
  · rintro ⟨hcheck, hkey, haliases, hfiles, rfl⟩
    obtain ⟨hown, hentries⟩ := Fresh.append_iff.1 haliases
    refine ⟨(), hcheck, _, ⟨hkey, rfl⟩, _, ⟨hown, rfl⟩, _, ⟨hentries, rfl⟩, _, ⟨hfiles, rfl⟩, ?_⟩
    simp [after, SecretObject.aliases, pure, Except.pure]

end Taken

namespace Batch

variable {mount : MountSettings} {records : List SecretRecord} {objects : List SecretObject}

/-- The objects of the records of a batch. -/
def objectsOf (mount : MountSettings) (records : List SecretRecord) : List SecretObject :=
  records.map fun record => ⟨record, mount⟩

/-- Objects that can stand beside what has been taken: each is valid on its own, and together they
are fresh in all that is used once. -/
structure Admitted (taken : Taken) (objects : List SecretObject) : Prop where
  valid : ∀ o ∈ objects, o.check = .ok ()
  keys : Fresh taken.keys (objects.map SecretObject.key)
  aliases : Fresh taken.aliases (objects.flatMap SecretObject.aliases)
  fileNames : Fresh taken.fileNames (objects.flatMap SecretObject.fileNames)

/-- No objects are always admitted. -/
lemma admitted_nil (taken : Taken) : Admitted taken [] :=
  ⟨nofun, ⟨.nil, nofun⟩, ⟨.nil, nofun⟩, ⟨.nil, nofun⟩⟩

/-- Objects are admitted where the first one is added and the others are admitted after it. -/
lemma admitted_cons_iff {taken : Taken} {o : SecretObject} :
    Admitted taken (o :: objects) ↔
      (o.check = .ok () ∧ o.key ∉ taken.keys ∧ Fresh taken.aliases o.aliases ∧
        Fresh taken.fileNames o.fileNames) ∧ Admitted (taken.after o) objects := by
  constructor
  · rintro ⟨hvalid, hkeys, haliases, hfiles⟩
    obtain ⟨hcheck, hrest⟩ := List.forall_mem_cons.1 hvalid
    obtain ⟨hkey, hkeys⟩ := Fresh.cons_iff.1 hkeys
    obtain ⟨halias, haliases⟩ := Fresh.append_iff.1 haliases
    obtain ⟨hfile, hfiles⟩ := Fresh.append_iff.1 hfiles
    exact ⟨⟨hcheck, hkey, halias, hfile⟩, hrest, hkeys, haliases, hfiles⟩
  · rintro ⟨⟨hcheck, hkey, halias, hfile⟩, hvalid, hkeys, haliases, hfiles⟩
    exact ⟨List.forall_mem_cons.2 ⟨hcheck, hvalid⟩, Fresh.cons_iff.2 ⟨hkey, hkeys⟩,
      Fresh.append_iff.2 ⟨halias, haliases⟩, Fresh.append_iff.2 ⟨hfile, hfiles⟩⟩

/-- Records are accepted just if their objects are admitted, and these are what comes out. -/
lemma acceptAfter_eq_ok_iff {taken : Taken} :
    acceptAfter mount taken records = .ok objects ↔
      objects = objectsOf mount records ∧ Admitted taken (objectsOf mount records) := by
  induction records generalizing taken objects with
  | nil =>
    constructor
    · intro h
      cases h
      exact ⟨rfl, admitted_nil taken⟩
    · rintro ⟨rfl, -⟩
      rfl
  | cons record rest ih =>
    have hcons : objectsOf mount (record :: rest) = ⟨record, mount⟩ :: objectsOf mount rest := rfl
    simp only [acceptAfter, except_bind_eq_ok, Taken.addObject_eq_ok_iff, ih]
    rw [hcons, admitted_cons_iff]
    constructor
    · rintro ⟨_, ⟨hcheck, hkey, halias, hfile, rfl⟩, _, ⟨rfl, hrest⟩, h⟩
      cases h
      exact ⟨rfl, ⟨hcheck, hkey, halias, hfile⟩, hrest⟩
    · rintro ⟨rfl, ⟨hcheck, hkey, halias, hfile⟩, hrest⟩
      exact ⟨_, ⟨hcheck, hkey, halias, hfile, rfl⟩, _, ⟨rfl, hrest⟩, rfl⟩

/-- A batch of its own is accepted with its objects in order. -/
lemma accept_eq_ok_iff :
    accept mount records = .ok objects ↔
      objects = objectsOf mount records ∧ Admitted {} (objectsOf mount records) :=
  acceptAfter_eq_ok_iff

/-- The file names of an accepted batch, those of the entries included, are distinct. -/
lemma fileNames_nodup (h : accept mount records = .ok objects) :
    (objects.flatMap SecretObject.fileNames).Nodup := by
  obtain ⟨rfl, hadmitted⟩ := accept_eq_ok_iff.1 h
  exact fresh_nil_iff.1 hadmitted.fileNames

end Batch

end SecretMount
