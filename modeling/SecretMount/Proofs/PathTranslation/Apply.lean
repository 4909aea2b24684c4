import SecretMount.PathTranslation
import SecretMount.Proofs.Text.Case

/-!
# Translations of names

Which settings select a translation (`ofSetting_eq_ok_iff`), and what a translation makes of a name,
character by character. Replaced slashes are gone for good, unless slashes take their place; of
several slashes at the start only one is dropped at a time. So a translation leaves alone what it
has made of a name if that does not start with a slash (`apply_apply`).
-/

namespace SecretMount.PathTranslation

variable {setting name : String} {t : PathTranslation} {c : Char} {failure : Failure}

/-- The translation that a setting stands for. -/
inductive Selects : String → PathTranslation → Prop where
  | unset : Selects "" (replace '_')
  | off {setting : String} :
    Text.Spells "false" setting →
    Selects setting keep
  | character {setting : String} {c : Char} :
    setting.toList = [c] →
    Selects setting (replace c)

/-- A setting is the word that disables translation in either case of its letters. -/
lemma equalIgnoringCase_false_iff :
    Text.equalIgnoringCase setting "false" = true ↔ Text.Spells "false" setting := by
  have hlower : "false".toList.all Char.isLower = true := by decide +kernel
  exact Text.equalIgnoringCase_iff (List.all_eq_true.1 hlower) setting

/-- The word that disables translation is no single character. -/
lemma length_of_spells_false (h : Text.Spells "false" setting) : setting.toList.length = 5 :=
  h.length_eq

/-- A setting is read as the translation that it selects. -/
lemma ofSetting_eq_ok_iff : ofSetting setting = .ok t ↔ Selects setting t := by
  constructor
  · intro h
    unfold ofSetting at h
    split at h
    case isTrue hempty =>
      cases h
      exact hempty ▸ .unset
    case isFalse =>
      split at h
      case isTrue hfalse =>
        cases h
        exact .off (equalIgnoringCase_false_iff.1 hfalse)
      case isFalse =>
        split at h
        case h_1 c hc =>
          cases h
          exact .character hc
        case h_2 => cases h
  · intro h
    cases h with
    | unset => rfl
    | off hspells =>
      -- the five letters are not the empty setting, which is looked for first
      have hlength := length_of_spells_false hspells
      rw [ofSetting, if_neg, if_pos (equalIgnoringCase_false_iff.2 hspells)]
      rintro rfl
      cases hlength
    | character hc =>
      rw [ofSetting, if_neg, if_neg, hc]
      · intro hfalse
        have hlength := length_of_spells_false (equalIgnoringCase_false_iff.1 hfalse)
        rw [hc] at hlength
        cases hlength
      · rintro rfl
        cases hc

/-- A setting that selects nothing is a configuration error. -/
lemma ofSetting_eq_error (h : ofSetting setting = .error failure) :
    failure = .configuration .badTranslation := by
  unfold ofSetting at h
  split at h
  case isTrue => cases h
  case isFalse =>
    split at h
    case isTrue => cases h
    case isFalse =>
      split at h
      case h_1 => cases h
      case h_2 =>
        cases h
        rfl

/-- The settings that select a translation. -/
lemma exists_selects_iff :
    (∃ t, Selects setting t) ↔
      setting = "" ∨ Text.Spells "false" setting ∨ setting.length = 1 := by
  constructor
  · rintro ⟨t, h⟩
    cases h with
    | unset => exact .inl rfl
    | off hspells => exact .inr (.inl hspells)
    | character hc => exact .inr (.inr (String.length_toList.symm.trans (congrArg List.length hc)))
  · rintro (rfl | hspells | hlength)
    · exact ⟨_, .unset⟩
    · exact ⟨_, .off hspells⟩
    · obtain ⟨c, hc⟩ := List.length_eq_one_iff.1 (String.length_toList.trans hlength)
      exact ⟨_, .character hc⟩

/-- Replacing goes character by character. -/
lemma toList_apply_replace (c : Char) (name : String) :
    ((replace c).apply name).toList = name.toList.map fun d => if d = '/' then c else d :=
  String.toList_ofList

/-- Replacing keeps the length of a name. -/
lemma length_apply_replace (c : Char) (name : String) :
    ((replace c).apply name).length = name.length := by
  rw [← String.length_toList, ← String.length_toList, toList_apply_replace, List.length_map]

/-- In each place of a name a slash is replaced, and any other character stays. -/
lemma getElem?_apply_replace (c : Char) (name : String) (i : Nat) :
    ((replace c).apply name).toList[i]? =
      if name.toList[i]? = some '/' then some c else name.toList[i]? := by
  rw [toList_apply_replace, List.getElem?_map]
  cases name.toList[i]? with
  | none => rfl
  | some d => by_cases hd : d = '/' <;> simp [hd]

/-- No slash is left unless slashes are replaced by slashes. -/
lemma apply_replace_no_slash {c : Char} (hc : c ≠ '/') (s : String) :
    '/' ∉ ((replace c).apply s).toList := by
  rw [toList_apply_replace, List.mem_map]
  rintro ⟨d, -, hd⟩
  split at hd
  case isTrue => exact hc hd
  case isFalse hne => exact hne hd

/-- Replacing leaves something of every name. -/
lemma apply_replace_ne_empty (c : Char) {s : String} (hs : s ≠ "") : (replace c).apply s ≠ "" := by
  intro h
  have hlist := congrArg String.toList h
  rw [toList_apply_replace] at hlist
  exact hs (String.toList_eq_nil_iff.1 (List.map_eq_nil_iff.1 hlist))

/-- Where slashes are replaced, the fixed points have none. -/
lemma apply_replace_eq_self_iff :
    (replace c).apply name = name ↔ c = '/' ∨ '/' ∉ name.toList := by
  constructor
  · intro h
    rw [or_iff_not_imp_left]
    intro hc
    rw [← h]
    exact apply_replace_no_slash hc name
  · intro h
    have hsame : ∀ d ∈ name.toList, (if d = '/' then c else d) = d := by
      intro d hd
      split
      case isTrue hslash =>
        subst hslash
        exact h.resolve_right (absurd hd)
      case isFalse => rfl
    apply String.toList_injective
    rw [toList_apply_replace, List.map_congr_left hsame, List.map_id']

/-- One slash at the front is dropped. -/
lemma apply_keep_slash (name : String) : keep.apply ("/" ++ name) = name := by
  simp [apply]

/-- A name that starts with a slash is a slash and a name. -/
lemma exists_eq_slash_append (h : name.toList.head? = some '/') : ∃ rest, name = "/" ++ rest := by
  obtain ⟨rest, hrest⟩ := List.head?_eq_some_iff.1 h
  exact ⟨String.ofList rest, String.toList_injective (by simp [hrest])⟩

/-- Where slashes are kept, the fixed points do not start with one. -/
lemma apply_keep_eq_self_iff : keep.apply name = name ↔ name.toList.head? ≠ some '/' := by
  constructor
  · intro h hslash
    obtain ⟨rest, rfl⟩ := exists_eq_slash_append hslash
    rw [apply_keep_slash] at h
    have hlength := congrArg String.length h
    simp at hlength
  · intro h
    rw [apply]
    split
    case h_1 rest hrest => exact absurd (List.head?_eq_some_iff.2 ⟨rest, hrest⟩) h
    case h_2 => rfl

/-- What has been made of a name is a fixed point, unless it starts with a slash still. -/
lemma apply_apply (h : (t.apply name).toList.head? ≠ some '/') :
    t.apply (t.apply name) = t.apply name := by
  cases t with
  | replace c =>
    rw [apply_replace_eq_self_iff, or_iff_not_imp_left]
    intro hc
    exact apply_replace_no_slash hc name
  | keep => exact apply_keep_eq_self_iff.2 h

end SecretMount.PathTranslation
