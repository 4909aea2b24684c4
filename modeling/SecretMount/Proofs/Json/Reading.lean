import SecretMount.Proofs.Json.Integer
import SecretMount.Proofs.Json.Spelling

/-!
# Reading what is printed

The compact text of a value without doubles is the text of one tree, the value's own
(`readsBack`), whatever comes after it that ends a value. Main statement: `read?_text`.
-/

namespace SecretMount.Json

/-- A value that has no double in it. -/
inductive Whole : Json → Prop where
  | null : Whole .null
  | bool {b : Bool} : Whole (.bool b)
  | int {n : Int} : Whole (.number (.int n))
  | string {s : String} : Whole (.string s)
  | array {items : List Json} :
    (∀ item ∈ items, Whole item) →
    Whole (.array items)
  | object {fields : List (String × Json)} :
    (∀ field ∈ fields, Whole field.2) →
    Whole (.object fields)

/-- A traversal that undoes a map. -/
lemma mapM_map_eq_some {α β : Type} {f : α → β} {g : β → Option α} (h : ∀ a, g (f a) = some a)
    (l : List α) : (l.map f).mapM g = some l := by
  induction l with
  | nil => rfl
  | cons a rest ih =>
    rw [List.map_cons, List.mapM_cons, h, ih]
    rfl

/-- An object of texts. -/
lemma whole_texts {α : Type} (key text : α → String) (l : List α) :
    Whole (.object (l.map fun a => (key a, .string (text a)))) := by
  apply Whole.object
  intro field hfield
  obtain ⟨a, -, rfl⟩ := List.mem_map.1 hfield
  exact .string

/-- The tree of a printed number; what is no finite double is printed as null. -/
def Number.written (n : Number) : Written :=
  match readNumeral n.print with
  | some (numeral, _) => .number numeral
  | none => .null

mutual

/-- The tree of the compact text of a value. -/
def written : Json → Written
  | .null => .null
  | .bool b => .bool b
  | .number n => n.written
  | .string s => .string (Piece.ofText s)
  | .array items => .array (writtenItems items)
  | .object fields => .object (writtenFields fields)

/-- The trees of the items of an array. -/
def writtenItems : List Json → List Written
  | [] => []
  | v :: rest => written v :: writtenItems rest

/-- The fields of an object as they are written. -/
def writtenFields : List (String × Json) → List (List Piece × Written)
  | [] => []
  | (k, v) :: rest => (Piece.ofText k, written v) :: writtenFields rest

end

/-- The tree of an integer is its numeral. -/
lemma written_int (n : Int) : written (.number (.int n)) = .number (.ofInt n) := by
  have hread := readNumeral_printInt n ends_nil
  rw [List.append_nil] at hread
  rw [written, Number.written, Number.print, hread]

/-- The trees of items are those of each item. -/
lemma writtenItems_eq_map (items : List Json) : writtenItems items = items.map written := by
  induction items with
  | nil => rfl
  | cons v rest ih => rw [writtenItems, ih, List.map_cons]

/-- The fields are written one by one. -/
lemma writtenFields_eq_map (fields : List (String × Json)) :
    writtenFields fields = fields.map fun field => (Piece.ofText field.1, written field.2) := by
  induction fields with
  | nil => rfl
  | cons field rest ih => rw [writtenFields, ih, List.map_cons]

/-- A printed value is read as its tree and nothing after it is touched. A container takes two steps
for each of its characters at most. -/
def ReadsBack (v : Json) : Prop :=
  ∀ fuel rest, 2 * (print v).length ≤ fuel → Ends rest →
    readValue fuel (print v ++ rest) = some (written v, rest)

/-- A character that is no white space is not skipped. -/
lemma skipBlank_cons {c : Char} {cs : List Char} (h : c ∉ [' ', '\t', '\n', '\r']) :
    skipBlank (c :: cs) = c :: cs := by
  simp only [List.mem_cons, List.not_mem_nil, or_false, not_or] at h
  obtain ⟨h₁, h₂, h₃, h₄⟩ := h
  simp [skipBlank, h₁, h₂, h₃, h₄]

/-- A number starts neither with white space nor with a closing bracket. -/
lemma notMem_of_sign_or_digit {c : Char} (h : c = '-' ∨ c.isDigit = true) :
    c ∉ [' ', '\t', '\n', '\r', ']'] := by
  intro hmem
  simp only [List.mem_cons, List.not_mem_nil, or_false] at hmem
  rcases hmem with rfl | rfl | rfl | rfl | rfl <;> rcases h with h | h <;> cases h

/-- No printed value starts with white space or with a closing bracket. -/
lemma exists_head_print {v : Json} (h : Whole v) :
    ∃ c cs, print v = c :: cs ∧ c ∉ [' ', '\t', '\n', '\r', ']'] := by
  cases h with
  | null => exact ⟨_, _, rfl, by decide⟩
  | @bool b => cases b <;> exact ⟨_, _, rfl, by decide⟩
  | @int n =>
    obtain ⟨c, cs, hprint, hc⟩ := exists_head_printInt n
    exact ⟨c, cs, hprint, notMem_of_sign_or_digit hc⟩
  | string => exact ⟨_, _, rfl, by decide⟩
  | array => exact ⟨_, _, rfl, by decide⟩
  | object => exact ⟨_, _, rfl, by decide⟩

/-- The items of an array start neither with white space nor with a closing bracket. -/
lemma exists_head_printItems {v : Json} (h : Whole v) (others : List Json) :
    ∃ c cs, printItems (v :: others) = c :: cs ∧ c ∉ [' ', '\t', '\n', '\r', ']'] := by
  obtain ⟨c, cs, hprint, hc⟩ := exists_head_print h
  cases others with
  | nil =>
    rw [printItems, hprint]
    exact ⟨c, _, rfl, hc⟩
  | cons w others =>
    rw [printItems, hprint]
    · exact ⟨c, _, rfl, hc⟩
    · nofun

/-- The fields of an object start with a quote. -/
lemma exists_head_printFields (field : String × Json) (others : List (String × Json)) :
    ∃ cs, printFields (field :: others) = '"' :: cs := by
  cases others with
  | nil => exact ⟨_, rfl⟩
  | cons field' others =>
    rw [printFields]
    · exact ⟨_, rfl⟩
    · nofun

/-- A value that starts with a sign or a digit is a number. -/
lemma readValue_numeral {c : Char} {cs : List Char} (h : c = '-' ∨ c.isDigit = true) (fuel : Nat) :
    readValue (fuel + 1) (c :: cs) =
      (readNumeral (c :: cs)).map fun r => (.number r.1, r.2) := by
  have hblank : skipBlank (c :: cs) = c :: cs :=
    skipBlank_cons fun hc => notMem_of_sign_or_digit h (List.mem_append_left [']'] hc)
  rw [readValue, hblank]
  split
  case h_7 => rfl
  -- a brace, a bracket, a quote or a letter is neither a sign nor a digit
  all_goals
    rename_i heq
    cases heq
    rcases h with h | h <;> cases h

/-- A value that starts with a bracket that is not closed at once is an array of items. -/
lemma readValue_items {c : Char} {cs : List Char} (h : c ∉ [' ', '\t', '\n', '\r', ']'])
    (fuel : Nat) :
    readValue (fuel + 1) ('[' :: c :: cs) =
      (readItems fuel (c :: cs)).map fun r => (.array r.1, r.2) := by
  have hinner : skipBlank (c :: cs) = c :: cs :=
    skipBlank_cons fun hc => h (List.mem_append_left [']'] hc)
  have hclose : c ≠ ']' := fun hc => h (by simp [hc])
  rw [readValue, skipBlank_cons (by decide)]
  simp only [hinner]
  split
  case h_1 heq =>
    cases heq
    exact absurd rfl hclose
  case h_2 => rfl

/-- A value that starts with a brace and a quote is an object with fields. -/
lemma readValue_fields (cs : List Char) (fuel : Nat) :
    readValue (fuel + 1) ('\x7b' :: '"' :: cs) =
      (readFields fuel ('"' :: cs)).map fun r => (.object r.1, r.2) := by
  rw [readValue, skipBlank_cons (by decide)]
  rfl

/-- The item before the closing bracket is the last one. -/
lemma readItems_last {fuel : Nat} {cs rest : List Char} {item : Written}
    (h : readValue fuel cs = some (item, ']' :: rest)) :
    readItems (fuel + 1) cs = some ([item], rest) := by
  rw [readItems, h]
  rfl

/-- Behind an item and a comma the other items are read. -/
lemma readItems_cons {fuel : Nat} {cs more rest : List Char} {item : Written} {items : List Written}
    (h : readValue fuel cs = some (item, ',' :: more))
    (hmore : readItems fuel more = some (items, rest)) :
    readItems (fuel + 1) cs = some (item :: items, rest) := by
  rw [readItems, h]
  show (readItems fuel more >>= fun r => some (item :: r.1, r.2)) = _
  rw [hmore]
  rfl

/-- The field before the closing brace is the last one. -/
lemma readFields_last {fuel : Nat} {cs after rest : List Char} {key : List Piece} {item : Written}
    (hkey : readPieces cs = some (key, ':' :: after))
    (h : readValue fuel after = some (item, '\x7d' :: rest)) :
    readFields (fuel + 1) ('"' :: cs) = some ([(key, item)], rest) := by
  rw [readFields, skipBlank_cons (by decide)]
  simp only [hkey]
  show (readValue fuel after >>= _) = _
  rw [h]
  rfl

/-- Behind a field and a comma the other fields are read. -/
lemma readFields_cons {fuel : Nat} {cs after more rest : List Char} {key : List Piece}
    {item : Written} {fields : List (List Piece × Written)}
    (hkey : readPieces cs = some (key, ':' :: after))
    (h : readValue fuel after = some (item, ',' :: more))
    (hmore : readFields fuel more = some (fields, rest)) :
    readFields (fuel + 1) ('"' :: cs) = some ((key, item) :: fields, rest) := by
  rw [readFields, skipBlank_cons (by decide)]
  simp only [hkey]
  show (readValue fuel after >>= _) = _
  rw [h]
  show (readFields fuel more >>= fun r => some ((key, item) :: r.1, r.2)) = _
  rw [hmore]
  rfl

/-- Printed items that are each read back are read back together. -/
lemma readItems_print {items : List Json} (hne : items ≠ [])
    (hitems : ∀ item ∈ items, ReadsBack item) {fuel : Nat}
    (hfuel : 2 * (printItems items).length ≤ fuel) (rest : List Char) :
    readItems fuel (printItems items ++ rest) = some (writtenItems items, rest) := by
  induction items generalizing fuel with
  | nil => exact absurd rfl hne
  | cons v others ih =>
    obtain ⟨hv, hothers⟩ := List.forall_mem_cons.1 hitems
    cases others with
    | nil =>
      rw [printItems, List.length_append, List.length_singleton] at hfuel
      obtain ⟨fuel, rfl⟩ := Nat.exists_eq_succ_of_ne_zero (show fuel ≠ 0 by omega)
      rw [printItems, List.append_assoc]
      exact readItems_last (hv fuel _ (by omega) (ends_cons (by simp)))
    | cons w others =>
      rw [printItems, List.length_append, List.length_cons] at hfuel
      · obtain ⟨fuel, rfl⟩ := Nat.exists_eq_succ_of_ne_zero (show fuel ≠ 0 by omega)
        rw [printItems, List.append_assoc]
        · exact readItems_cons (hv fuel _ (by omega) (ends_cons (by simp)))
            (ih (List.cons_ne_nil _ _) hothers (by omega))
        · nofun
      · nofun

/-- A printed text is a quote and its spelling. -/
lemma readPieces_printString (k : String) (rest : List Char) :
    ∃ cs, printString k ++ rest = '"' :: cs ∧ readPieces cs = some (Piece.ofText k, rest) :=
  ⟨_, by simp [printString], (spelling_print k.toList).readPieces rest⟩

/-- Printed fields whose values are each read back are read back together. -/
lemma readFields_print {fields : List (String × Json)} (hne : fields ≠ [])
    (hfields : ∀ field ∈ fields, ReadsBack field.2) {fuel : Nat}
    (hfuel : 2 * (printFields fields).length ≤ fuel) (rest : List Char) :
    readFields fuel (printFields fields ++ rest) = some (writtenFields fields, rest) := by
  induction fields generalizing fuel with
  | nil => exact absurd rfl hne
  | cons field others ih =>
    obtain ⟨k, v⟩ := field
    obtain ⟨hv, hothers⟩ := List.forall_mem_cons.1 hfields
    change ReadsBack v at hv
    cases others with
    | nil =>
      simp only [printFields, List.length_append, List.length_cons] at hfuel
      obtain ⟨fuel, rfl⟩ := Nat.exists_eq_succ_of_ne_zero (show fuel ≠ 0 by omega)
      obtain ⟨cs, hcs, hkey⟩ := readPieces_printString k (':' :: (print v ++ '\x7d' :: rest))
      have hprint : printFields [(k, v)] ++ rest = '"' :: cs := by
        rw [← hcs]
        simp [printFields]
      rw [hprint]
      exact readFields_last hkey (hv fuel _ (by omega) (ends_cons (by simp)))
    | cons field others =>
      have hsplit : printFields ((k, v) :: field :: others) =
          printString k ++ ':' :: print v ++ ',' :: printFields (field :: others) := by
        rw [printFields]
        nofun
      simp only [hsplit, List.length_append, List.length_cons] at hfuel
      obtain ⟨fuel, rfl⟩ := Nat.exists_eq_succ_of_ne_zero (show fuel ≠ 0 by omega)
      obtain ⟨cs, hcs, hkey⟩ := readPieces_printString k
        (':' :: (print v ++ ',' :: (printFields (field :: others) ++ rest)))
      have hprint : printFields ((k, v) :: field :: others) ++ rest = '"' :: cs := by
        rw [← hcs, hsplit]
        simp
      rw [hprint]
      exact readFields_cons hkey (hv fuel _ (by omega) (ends_cons (by simp)))
        (ih (List.cons_ne_nil _ _) hothers (by omega))

/-- No printed value is empty, so there is fuel for its first step. -/
lemma ReadsBack.intro {v : Json} (h : Whole v)
    (hread : ∀ fuel rest, 2 * (print v).length ≤ fuel + 1 → Ends rest →
      readValue (fuel + 1) (print v ++ rest) = some (written v, rest)) : ReadsBack v := by
  intro fuel rest hfuel hrest
  obtain ⟨c, cs, hprint, -⟩ := exists_head_print h
  cases fuel with
  | zero =>
    rw [hprint, List.length_cons] at hfuel
    omega
  | succ fuel => exact hread fuel rest hfuel hrest

/-- Every value without doubles is read back. -/
lemma readsBack {v : Json} (h : Whole v) : ReadsBack v := by
  induction h with
  | null =>
    apply ReadsBack.intro .null
    intro fuel rest _ _
    rw [print, List.cons_append, readValue, skipBlank_cons (by decide)]
    rfl
  | @bool b =>
    apply ReadsBack.intro .bool
    intro fuel rest _ _
    cases b
    all_goals
      rw [print, List.cons_append, readValue, skipBlank_cons (by decide)]
      rfl
  | @int n =>
    apply ReadsBack.intro .int
    intro fuel rest _ hrest
    obtain ⟨c, cs, hprint, hc⟩ := exists_head_printInt n
    have hread := readNumeral_printInt n hrest
    rw [print, Number.print, written_int]
    rw [hprint, List.cons_append] at hread ⊢
    rw [readValue_numeral hc, hread, Option.map_some]
  | @string s =>
    apply ReadsBack.intro .string
    intro fuel rest _ _
    obtain ⟨cs, hcs, hpieces⟩ := readPieces_printString s rest
    rw [print, hcs, readValue, skipBlank_cons (by decide)]
    simp only [hpieces, Option.map_some]
    rfl
  | @array items hitems ih =>
    apply ReadsBack.intro (.array hitems)
    intro fuel rest hfuel _
    rw [print, List.length_cons] at hfuel
    cases items with
    | nil =>
      rw [print, List.cons_append, readValue, skipBlank_cons (by decide)]
      rfl
    | cons v others =>
      have hread := readItems_print (List.cons_ne_nil v others) ih
        (show 2 * (printItems (v :: others)).length ≤ fuel by omega) rest
      obtain ⟨c, cs, hprint, hc⟩ := exists_head_printItems (hitems v List.mem_cons_self) others
      rw [print, written, List.cons_append]
      rw [hprint, List.cons_append] at hread ⊢
      rw [readValue_items hc, hread, Option.map_some]
  | @object fields hfields ih =>
    apply ReadsBack.intro (.object hfields)
    intro fuel rest hfuel _
    rw [print, List.length_cons] at hfuel
    cases fields with
    | nil =>
      rw [print, List.cons_append, readValue, skipBlank_cons (by decide)]
      rfl
    | cons field others =>
      have hread := readFields_print (List.cons_ne_nil field others) ih
        (show 2 * (printFields (field :: others)).length ≤ fuel by omega) rest
      obtain ⟨cs, hprint⟩ := exists_head_printFields field others
      rw [print, written, List.cons_append]
      rw [hprint, List.cons_append] at hread ⊢
      rw [readValue_fields, hread, Option.map_some]

/-- The compact text of a value without doubles is read as the tree of the value. -/
lemma read?_text {v : Json} (h : Whole v) : Written.read? v.text = some (written v) := by
  apply Written.read?_of_readValue
  have hread := readsBack h (2 * v.text.toList.length + 2) []
  rw [text, String.toList_ofList, List.append_nil] at *
  exact hread (by omega) ends_nil

/-- The bytes of a text are the bytes of this text. -/
lemma fromUTF8?_toUTF8 (s : String) : String.fromUTF8? s.toUTF8 = some s :=
  dif_pos s.isValidUTF8

/-- Reading the bytes of a text is reading the text. -/
lemma ofBytes?_toUTF8 (s : String) : ofBytes? s.toUTF8 = read? s := by
  rw [ofBytes?, fromUTF8?_toUTF8]
  rfl

end SecretMount.Json
