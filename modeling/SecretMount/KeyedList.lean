/-!
# Lists of entries in ascending key order

A finite map with text keys is kept as the list of its entries in strictly ascending order of the
key (code point order, which is also the byte order of UTF-8). `insert` replaces the entry of an
existing key, so that a later write wins. Main statements: `ascending_insert` and
`ascending_ofList` (every map built by writes is in order, hence has each key once), `get?_insert`
(what a write changes, in any list) and `get?_ofList` (the last entry listed for a key is the one
that is found).
-/

namespace SecretMount.KeyedList

variable {β : Type}

/-- The value stored under the key, the first one if the list has several. -/
def get? (k : String) : List (String × β) → Option β
  | [] => none
  | (k', x) :: rest => if k = k' then some x else get? k rest

/-- Writes one entry, in its place in the order. -/
def insert (k : String) (x : β) : List (String × β) → List (String × β)
  | [] => [(k, x)]
  | (k', x') :: rest =>
    if k < k' then (k, x) :: (k', x') :: rest
    else if k = k' then (k, x) :: rest
    else (k', x') :: insert k x rest

/-- Writes all entries, one after the other. -/
def insertAll (entries m : List (String × β)) : List (String × β) :=
  entries.foldl (fun m e => insert e.1 e.2 m) m

/-- The map of a list of entries, in which a later entry for a key replaces an earlier one. -/
def ofList (entries : List (String × β)) : List (String × β) :=
  insertAll entries []

/-- The keys stand in strictly ascending order. -/
def Ascending (m : List (String × β)) : Prop :=
  m.Pairwise (fun a b => a.1 < b.1)

instance (m : List (String × β)) : Decidable (Ascending m) :=
  inferInstanceAs (Decidable (m.Pairwise fun a b => a.1 < b.1))

/-- A write is found under its key and leaves what is found under every other key. -/
theorem get?_insert (k j : String) (x : β) (m : List (String × β)) :
    get? j (insert k x m) = if j = k then some x else get? j m := by
  induction m with
  | nil => simp [insert, get?]
  | cons e rest ih =>
    obtain ⟨k', x'⟩ := e
    by_cases h₁ : k < k'
    · simp [insert, h₁, get?]
    · by_cases h₂ : k = k'
      · subst h₂
        by_cases h₃ : j = k <;> simp [insert, get?, h₃]
      · by_cases h₃ : j = k'
        · subst h₃
          simp [insert, h₁, h₂, get?, Ne.symm h₂]
        · simp [insert, h₁, h₂, get?, h₃, ih]

/-- An entry after a write is the written one or was there before. -/
theorem mem_insert {k : String} {x : β} {e : String × β} {m : List (String × β)}
    (h : e ∈ insert k x m) : e = (k, x) ∨ e ∈ m := by
  induction m with
  | nil => exact Or.inl (by simpa [insert] using h)
  | cons e' rest ih =>
    obtain ⟨k', x'⟩ := e'
    by_cases h₁ : k < k'
    · simpa [insert, h₁] using h
    · by_cases h₂ : k = k'
      · rw [insert, if_neg h₁, if_pos h₂] at h
        rcases List.mem_cons.1 h with h | h
        · exact Or.inl h
        · exact Or.inr (List.mem_cons_of_mem _ h)
      · rw [insert, if_neg h₁, if_neg h₂] at h
        rcases List.mem_cons.1 h with h | h
        · exact Or.inr (h ▸ List.mem_cons_self)
        · exact (ih h).imp id (List.mem_cons_of_mem _)

/-- Of two different keys one comes first. -/
theorem lt_of_not_lt {a b : String} (h : ¬ a < b) (hne : a ≠ b) : b < a := by
  by_cases hba : b < a
  · exact hba
  · exact absurd (String.le_antisymm (String.not_lt.1 hba) (String.not_lt.1 h)) hne

/-- A write keeps the order of the keys. -/
theorem ascending_insert {m : List (String × β)} (k : String) (x : β) (h : Ascending m) :
    Ascending (insert k x m) := by
  induction m with
  | nil => simp [insert, Ascending]
  | cons e rest ih =>
    obtain ⟨k', x'⟩ := e
    obtain ⟨hhead, htail⟩ := List.pairwise_cons.1 h
    by_cases h₁ : k < k'
    · rw [insert, if_pos h₁]
      refine List.pairwise_cons.2 ⟨fun e he => ?_, h⟩
      rcases List.mem_cons.1 he with he | he
      · exact he ▸ h₁
      · exact String.lt_trans h₁ (hhead e he)
    · by_cases h₂ : k = k'
      · subst h₂
        rw [insert, if_neg h₁, if_pos rfl]
        exact List.pairwise_cons.2 ⟨fun e he => hhead e he, htail⟩
      · rw [insert, if_neg h₁, if_neg h₂]
        refine List.pairwise_cons.2 ⟨fun e he => ?_, ih htail⟩
        rcases mem_insert he with he | he
        · exact he ▸ lt_of_not_lt h₁ h₂
        · exact hhead e he

/-- Any number of writes keep the order of the keys. -/
theorem ascending_insertAll (entries : List (String × β)) {m : List (String × β)}
    (h : Ascending m) : Ascending (insertAll entries m) := by
  induction entries generalizing m with
  | nil => exact h
  | cons e rest ih => exact ih (ascending_insert e.1 e.2 h)

/-- What is built by writes is in order. -/
theorem ascending_ofList (entries : List (String × β)) : Ascending (ofList entries) :=
  ascending_insertAll entries List.Pairwise.nil

/-- Of two lists the first one that has the key decides. -/
theorem get?_append (j : String) (a b : List (String × β)) :
    get? j (a ++ b) = (get? j a).or (get? j b) := by
  induction a with
  | nil => rfl
  | cons e a ih => by_cases h : j = e.1 <;> simp [get?, h, ih]

/-- The last entry listed for the key, or what the map had before. -/
theorem get?_insertAll (j : String) (entries m : List (String × β)) :
    get? j (insertAll entries m) = (get? j entries.reverse).or (get? j m) := by
  induction entries generalizing m with
  | nil => rfl
  | cons e rest ih =>
    rw [insertAll, List.foldl_cons, ← insertAll, ih, get?_insert, List.reverse_cons,
      get?_append]
    by_cases h : j = e.1 <;> cases get? j rest.reverse <;> simp [get?, h]

/-- In a map that is built by writes the last entry for a key is the one that is found. -/
theorem get?_ofList (j : String) (entries : List (String × β)) :
    get? j (ofList entries) = get? j entries.reverse := by
  simp [ofList, get?_insertAll, get?]

/-- Writing at the end of a list that is in order. -/
theorem insert_append {m : List (String × β)} (k : String) (x : β)
    (h : ∀ e ∈ m, e.1 < k) : insert k x m = m ++ [(k, x)] := by
  induction m with
  | nil => rfl
  | cons e rest ih =>
    obtain ⟨k', x'⟩ := e
    have hlt : k' < k := h _ List.mem_cons_self
    have hnot : ¬ k < k' := fun hc => String.lt_irrefl _ (String.lt_trans hlt hc)
    have hne : k ≠ k' := fun hc => String.lt_irrefl k' (hc ▸ hlt)
    rw [insert, if_neg hnot, if_neg hne, ih fun e he => h e (List.mem_cons_of_mem _ he)]
    rfl

/-- Writing the rest of a list that is in order. -/
theorem insertAll_eq_append {done rest : List (String × β)} (h : Ascending (done ++ rest)) :
    insertAll rest done = done ++ rest := by
  induction rest generalizing done with
  | nil => exact (List.append_nil done).symm
  | cons e rest ih =>
    have hlt : ∀ e' ∈ done, e'.1 < e.1 := fun e' he' =>
      (List.pairwise_append.1 h).2.2 e' he' e List.mem_cons_self
    rw [List.append_cons] at h ⊢
    rw [insertAll, List.foldl_cons, insert_append e.1 e.2 hlt, ← insertAll, ih h]

/-- A list that is in order is its own map. -/
theorem ofList_eq_self {m : List (String × β)} (h : Ascending m) : ofList m = m :=
  insertAll_eq_append h

end SecretMount.KeyedList
