import Mathlib.Data.List.Sort
import SecretMount.VersionMap

/-!
# Looking up versions

What the operations on version maps do to the version under a file name: a write changes its own
names and no other (`get?_insert`, `get?_insertEach`), and a list of ids and versions counts by the
last version that it has for an id (`get?_ofList`). A map is what is found in it (`eq_of_get?_eq`),
and the list of a map makes the map again (`ofList_toList`).
-/

namespace SecretMount

namespace KeyedList

variable {β : Type} {m m' : List (String × β)} {k : String} {x : β}

/-- Looking up a key is finding the first entry that has it. -/
lemma get?_eq_find? : get? k m = (m.find? fun e => e.1 = k).map Prod.snd := by
  induction m with
  | nil => rfl
  | cons e rest ih =>
    obtain ⟨k', x'⟩ := e
    rw [get?]
    by_cases hk : k = k'
    · simp [hk]
    · simp [hk, Ne.symm hk, ih]

/-- What is found is the first entry for the key. -/
lemma get?_eq_some_iff_append : get? k m = some x ↔
    ∃ before after, m = before ++ (k, x) :: after ∧ ∀ e ∈ before, e.1 ≠ k := by
  rw [get?_eq_find?, Option.map_eq_some_iff]
  constructor
  · rintro ⟨⟨k', x'⟩, hfind, rfl⟩
    obtain ⟨hk, before, after, hlist, hbefore⟩ := List.find?_eq_some_iff_append.1 hfind
    obtain rfl : k' = k := of_decide_eq_true hk
    exact ⟨before, after, hlist, by simpa using hbefore⟩
  · rintro ⟨before, after, hlist, hbefore⟩
    refine ⟨(k, x), List.find?_eq_some_iff_append.2 ⟨decide_eq_true rfl, ?_⟩, rfl⟩
    exact ⟨before, after, hlist, by simpa using hbefore⟩

/-- What is found stands in the list. -/
lemma mem_of_get? (h : get? k m = some x) : (k, x) ∈ m := by
  obtain ⟨before, after, rfl, -⟩ := get?_eq_some_iff_append.1 h
  exact List.mem_append_right before List.mem_cons_self

/-- In a list that is in order every entry is found. -/
lemma get?_eq_some_iff (h : Ascending m) : get? k m = some x ↔ (k, x) ∈ m := by
  refine ⟨mem_of_get?, ?_⟩
  intro hmem
  obtain ⟨before, after, rfl⟩ := List.append_of_mem hmem
  refine get?_eq_some_iff_append.2 ⟨before, after, rfl, ?_⟩
  -- the keys before an entry are smaller than its own
  rintro e he rfl
  have hlt := (List.pairwise_append.1 h).2.2 e he _ List.mem_cons_self
  exact String.lt_irrefl _ hlt

/-- The entries of a map are among those that were listed for it. -/
lemma mem_of_mem_ofList {e : String × β} (h : e ∈ ofList m) : e ∈ m := by
  have hget := (get?_eq_some_iff (ascending_ofList m)).2 h
  rw [get?_ofList] at hget
  exact List.mem_reverse.1 (mem_of_get? hget)

/-- In a list that is made by a function a key finds its value. -/
lemma get?_map_of_mem {keys : List String} (g : String → β) (h : k ∈ keys) :
    get? k (keys.map fun key => (key, g key)) = some (g k) := by
  induction keys with
  | nil => cases h
  | cons key rest ih =>
    rw [List.map_cons, get?]
    split
    case isTrue heq => rw [heq]
    case isFalse hne => exact ih ((List.mem_cons.1 h).resolve_left hne)

/-- In a map that is listed by a function, its keys find their values. -/
lemma get?_ofList_map {keys : List String} (g : String → β) (h : k ∈ keys) :
    get? k (ofList (keys.map fun key => (key, g key))) = some (g k) := by
  rw [get?_ofList, ← List.map_reverse]
  exact get?_map_of_mem g (List.mem_reverse.2 h)

/-- What is left out is not found, and all else is. -/
lemma get?_filter (h : Ascending m) (p : β → Bool) :
    get? k (m.filter fun e => p e.2) = (get? k m).filter p := by
  have hfilter : Ascending (m.filter fun e => p e.2) := List.Pairwise.filter _ h
  ext x
  rw [get?_eq_some_iff hfilter, List.mem_filter, Option.filter_eq_some_iff, get?_eq_some_iff h]

/-- Without some keys the others are found as before. -/
lemma get?_filter_key (p : String → Bool) :
    get? k (m.filter fun e => p e.1) = if p k then get? k m else none := by
  induction m with
  | nil => exact (ite_self none).symm
  | cons e rest ih =>
    obtain ⟨k', x'⟩ := e
    by_cases hkey : k = k'
    · subst hkey
      cases hp : p k <;> simp [hp, ih, get?]
    · cases hp : p k' <;> simp [hp, ih, get?, hkey]

/-- In a list of names and values the value of a name stands in its place. -/
lemma get?_zip {names : List String} {values : List β} (h : values.length ≤ names.length) :
    get? k (names.zip values) = values[names.idxOf k]? := by
  induction names generalizing values with
  | nil => rw [List.eq_nil_of_length_eq_zero (Nat.le_zero.1 h), List.zip_nil_left, get?,
      List.getElem?_nil]
  | cons name names ih =>
    cases values with
    | nil => rw [List.zip_nil_right, get?, List.getElem?_nil]
    | cons x values =>
      rw [List.zip_cons_cons, get?]
      by_cases hname : k = name
      · rw [if_pos hname, hname, List.idxOf_cons_self, List.getElem?_cons_zero]
      · rw [if_neg hname, List.idxOf_cons_ne _ (Ne.symm hname), List.getElem?_cons_succ,
          ih (Nat.le_of_succ_le_succ h)]

/-- A list that is in order repeats nothing. -/
lemma Ascending.nodup (h : Ascending m) : m.Nodup := by
  apply List.Pairwise.imp _ h
  rintro a b hlt rfl
  exact String.lt_irrefl _ hlt

/-- Lists in order in which the same is found are the same. -/
lemma eq_of_get?_eq (h : Ascending m) (h' : Ascending m') (hget : ∀ k, get? k m = get? k m') :
    m = m' := by
  have hperm : m.Perm m' := by
    apply (List.perm_ext_iff_of_nodup h.nodup h'.nodup).2
    rintro ⟨k, x⟩
    rw [← get?_eq_some_iff h, ← get?_eq_some_iff h', hget]
  apply hperm.eq_of_pairwise _ h h'
  intro a b _ _ hab hba
  exact absurd (String.lt_trans hab hba) (String.lt_irrefl _)

/-- A key that is listed is found. -/
lemma exists_get?_of_mem {e : String × β} (h : e ∈ m) : ∃ x, get? e.1 m = some x := by
  rw [← Option.isSome_iff_exists, get?_eq_find?, Option.isSome_map, List.find?_isSome]
  exact ⟨e, h, decide_eq_true rfl⟩

/-- Any list of the entries of a map makes the map. -/
lemma ofList_eq_of_mem_iff (h : Ascending m') (hmem : ∀ e, e ∈ m ↔ e ∈ m') : ofList m = m' := by
  have hfound {k : String} {x : β} (hx : get? k (ofList m) = some x) : get? k m' = some x := by
    rw [get?_ofList] at hx
    exact (get?_eq_some_iff h).2 ((hmem _).1 (List.mem_reverse.1 (mem_of_get? hx)))
  apply eq_of_get?_eq (ascending_ofList m) h
  intro k
  cases hk : get? k m' with
  | none =>
    rw [Option.eq_none_iff_forall_ne_some]
    intro x hx
    rw [hfound hx] at hk
    cases hk
  | some x =>
    have hlisted : (k, x) ∈ m.reverse := List.mem_reverse.2 ((hmem _).2 (mem_of_get? hk))
    obtain ⟨y, hy⟩ := exists_get?_of_mem hlisted
    rw [← get?_ofList] at hy
    rw [hy, ← hk, hfound hy]

end KeyedList

namespace VersionMap

/-- A write changes the version under its name and no other. -/
lemma get?_insert (m : VersionMap) (f g version : String) :
    (m.insert f version).get? g = if g = f then some version else m.get? g :=
  KeyedList.get?_insert f g version m.entries

/-- Writing under several names changes the versions under these names and no other. -/
lemma get?_insertEach (m : VersionMap) (fs : List String) (g version : String) :
    (m.insertEach fs version).get? g = if g ∈ fs then some version else m.get? g := by
  induction fs generalizing m with
  | nil => simp [insertEach]
  | cons f rest ih =>
    rw [insertEach, List.foldl_cons, ← insertEach, ih, get?_insert]
    by_cases hrest : g ∈ rest
    · simp [hrest]
    · by_cases hf : g = f <;> simp [hrest, hf]

/-- The version of an id in a list of ids and versions is the last one listed for it. -/
def lastListed (list : List (String × String)) (id : String) : Option String :=
  KeyedList.get? id list.reverse

/-- The map of a list has the versions that are listed last. -/
lemma get?_ofList (list : List (String × String)) (id : String) :
    (ofList list).get? id = lastListed list id :=
  KeyedList.get?_ofList id list

/-- Maps are known by what is found in them. -/
lemma eq_of_get?_eq {m m' : VersionMap} (h : ∀ f, m.get? f = m'.get? f) : m = m' := by
  obtain ⟨entries, ascending⟩ := m
  obtain ⟨entries', ascending'⟩ := m'
  cases KeyedList.eq_of_get?_eq ascending ascending' h
  rfl

/-- The list of a map makes the map. -/
lemma ofList_toList (m : VersionMap) : ofList m.toList = m := by
  obtain ⟨entries, ascending⟩ := m
  simp only [ofList, toList, KeyedList.ofList_eq_self ascending]

end VersionMap

end SecretMount
