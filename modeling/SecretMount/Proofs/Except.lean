import Mathlib.Tactic.Lemma

/-!
# Computations that may fail

When a sequence, a mapped computation and a traversal of a list succeed or fail, and with what; and
the relation of two computations that succeed or fail together.
-/

namespace SecretMount

variable {ε α β : Type} {x : Except ε α} {b : β}

/-- A sequence succeeds where both of its parts do. -/
lemma except_bind_eq_ok {f : α → Except ε β} :
    x >>= f = .ok b ↔ ∃ a, x = .ok a ∧ f a = .ok b := by
  cases x with
  | error e => exact ⟨nofun, nofun⟩
  | ok a => exact ⟨fun h => ⟨a, rfl, h⟩, fun ⟨_, h, hf⟩ => by cases h; exact hf⟩

/-- A sequence fails in its first part or, after that, in its second. -/
lemma except_bind_eq_error {f : α → Except ε β} {e : ε} :
    x >>= f = .error e ↔ x = .error e ∨ ∃ a, x = .ok a ∧ f a = .error e := by
  cases x with
  | error e' =>
    constructor
    · intro h
      cases h
      exact .inl rfl
    · rintro (h | ⟨_, h, -⟩)
      · cases h
        rfl
      · cases h
  | ok a =>
    constructor
    · intro h
      exact .inr ⟨a, rfl, h⟩
    · rintro (h | ⟨_, h, hf⟩)
      · cases h
      · cases h
        exact hf

/-- A mapped result is a success where the result is one. -/
lemma except_map_eq_ok {f : α → β} : x.map f = .ok b ↔ ∃ a, x = .ok a ∧ f a = b := by
  cases x with
  | error e => exact ⟨nofun, nofun⟩
  | ok a =>
    constructor
    · intro h
      cases h
      exact ⟨a, rfl, rfl⟩
    · rintro ⟨_, h, rfl⟩
      cases h
      rfl

/-- A mapped result fails as the result does. -/
lemma except_map_eq_error {f : α → β} {e : ε} : x.map f = .error e ↔ x = .error e := by
  cases x with
  | error e' => exact ⟨fun h => by cases h; rfl, fun h => by cases h; rfl⟩
  | ok a => exact ⟨nofun, nofun⟩

/-- A traversal succeeds where it does for each item. -/
lemma exists_mapM_eq_ok_iff {f : α → Except ε β} {l : List α} :
    (∃ bs, l.mapM f = .ok bs) ↔ ∀ a ∈ l, ∃ b, f a = .ok b := by
  induction l with
  | nil => exact ⟨nofun, fun _ => ⟨[], rfl⟩⟩
  | cons a rest ih =>
    rw [List.forall_mem_cons, ← ih]
    simp only [List.mapM_cons, except_bind_eq_ok]
    constructor
    · rintro ⟨_, b, hb, others, hothers, -⟩
      exact ⟨⟨b, hb⟩, others, hothers⟩
    · rintro ⟨⟨b, hb⟩, others, hothers⟩
      exact ⟨b :: others, b, hb, others, hothers, rfl⟩

/-- A traversal fails with the error of the first item that fails. -/
lemma mapM_eq_error_iff {f : α → Except ε β} {l : List α} {e : ε} :
    l.mapM f = .error e ↔ ∃ before a after, l = before ++ a :: after ∧
      (∀ a' ∈ before, ∃ b, f a' = .ok b) ∧ f a = .error e := by
  constructor
  · intro h
    induction l with
    | nil => cases h
    | cons a rest ih =>
      rw [List.mapM_cons, except_bind_eq_error] at h
      rcases h with ha | ⟨b, hb, h⟩
      · exact ⟨[], a, rest, rfl, nofun, ha⟩
      rw [except_bind_eq_error] at h
      rcases h with hrest | ⟨_, -, h⟩
      · obtain ⟨before, a', after, rfl, hbefore, ha'⟩ := ih hrest
        exact ⟨a :: before, a', after, rfl, List.forall_mem_cons.2 ⟨⟨b, hb⟩, hbefore⟩, ha'⟩
      · cases h
  · rintro ⟨before, a, after, rfl, hbefore, ha⟩
    obtain ⟨bs, hbs⟩ := exists_mapM_eq_ok_iff.2 hbefore
    rw [List.mapM_append, hbs, List.mapM_cons, ha]
    rfl

/-- A traversal that gives one-item lists, put together, is the traversal that gives the items. -/
lemma map_flatten_mapM_singleton (f : α → Except ε β) (l : List α) :
    (l.mapM fun a => (f a).map fun b => [b]).map List.flatten = l.mapM f := by
  induction l with
  | nil => rfl
  | cons a rest ih =>
    rw [List.mapM_cons, List.mapM_cons, ← ih]
    cases f a with
    | error e => rfl
    | ok b =>
      cases rest.mapM fun a => (f a).map fun b => [b] with
      | error e => rfl
      | ok bs => rfl

/-- Both computations fail, with related errors, or both succeed, with related values. -/
inductive ExceptRel (E : ε → ε → Prop) (R : α → β → Prop) : Except ε α → Except ε β → Prop
  | error {e e' : ε} : E e e' → ExceptRel E R (.error e) (.error e')
  | ok {a : α} {b : β} : R a b → ExceptRel E R (.ok a) (.ok b)

/-- Related results are related after related maps. -/
lemma ExceptRel.map {α' β' : Type} {E : ε → ε → Prop} {R : α → β → Prop} {S : α' → β' → Prop}
    {y : Except ε β} {f : α → α'} {g : β → β'} (h : ExceptRel E R x y)
    (hmap : ∀ a b, R a b → S (f a) (g b)) : ExceptRel E S (x.map f) (y.map g) := by
  cases h with
  | error he => exact .error he
  | ok hr => exact .ok (hmap _ _ hr)

end SecretMount
