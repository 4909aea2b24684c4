import SecretMount.Proofs.JmesPath.Quoted
import SecretMount.Proofs.Json.Canonical
import SecretMount.Proofs.SecretValue.Entries

/-!
# Payloads made of texts

A map of texts to texts is written as a JSON object, and entries whose paths are quoted keys take it
apart again. The key of an entry and the key in the payload may be spelled differently; what counts
is the text that both denote. Main statement: `extract_texts`.
-/

namespace SecretMount.SecretValue

variable {keys : List String} {values : String → String} {data : Json}

/-- The object that has the keys for its fields, each with its text. -/
def textObject (keys : List String) (values : String → String) : Json :=
  .object (keys.map fun key => (key, .string (values key)))

/-- The compact text of the object, with the fields in the given order. -/
def textPayload (keys : List String) (values : String → String) : ByteArray :=
  (textObject keys values).text.toUTF8

/-- The payload denotes an object in which every key has its text. -/
lemma exists_ofBytes?_textPayload (keys : List String) (values : String → String) :
    ∃ data, Json.ofBytes? (textPayload keys values) = some data ∧
      ∀ key ∈ keys, data.field? key = some (.string (values key)) := by
  have hcanonical : ∀ field ∈ keys.map fun key => (key, Json.string (values key)),
      Json.Canonical (Json.depthLimit - 1) field.2 := by
    intro field hfield
    obtain ⟨key, -, rfl⟩ := List.mem_map.1 hfield
    exact .string
  refine ⟨.object (KeyedList.ofList (keys.map fun key => (key, .string (values key)))), ?_, ?_⟩
  · rw [textPayload, Json.ofBytes?_toUTF8]
    exact Json.read?_text_object hcanonical
  · intro key hkey
    exact KeyedList.get?_ofList_map (fun key => Json.string (values key)) hkey

/-- A quoted key finds the text of its field, and the part is that text as it is. -/
lemma matchOf_quoted {key path text : String} (hquotes : Json.Quotes key path)
    (hfield : data.field? key = some (.string text)) : matchOf path data = .ok text.toUTF8 := by
  have hsearch : (JmesPath.Expr.field key).search? data = some (.value (.string text)) := by
    rw [JmesPath.Expr.search?, JmesPath.Expr.eval?]
    simp only [hfield, Option.getD_some]
  rw [matchOf, JmesPath.Expr.compile?_quoted hquotes]
  simp only [hsearch, bytesOfMatch]

/-- Entries whose paths quote keys take out the texts under these keys. -/
lemma extractEntries_quoted (o : SecretObject) {chosen : List String} {entries : List JmesEntry}
    (hdata : ∀ key ∈ chosen, data.field? key = some (.string (values key)))
    (hentries : List.Forall₂ (fun key entry => Json.Quotes key entry.path) chosen entries) :
    ∃ parts, extractEntries o data entries = .ok parts ∧
      parts.map bytes = (chosen.map fun key => (values key).toUTF8) ∧
      parts.map object = entries.map o.ofEntry := by
  induction hentries with
  | nil => exact ⟨[], rfl, rfl, rfl⟩
  | @cons key entry chosen entries hquotes _ ih =>
    obtain ⟨hkey, hrest⟩ := List.forall_mem_cons.1 hdata
    obtain ⟨parts, hparts, hbytes, hobjects⟩ := ih hrest
    have hpart : extractEntry o data entry = .ok ⟨(values key).toUTF8, o.ofEntry entry⟩ := by
      rw [extractEntry, matchOf_quoted hquotes hkey]
    refine ⟨⟨(values key).toUTF8, o.ofEntry entry⟩ :: parts, ?_, ?_, ?_⟩
    · rw [extractEntries, hpart, hparts]
      rfl
    · rw [List.map_cons, List.map_cons, hbytes]
    · rw [List.map_cons, List.map_cons, hobjects]

/-- Texts that were put into an object come out as they were. For entries whose paths are keys of
the object between quotes, in any spelling, there is one part for each entry, in order: the bytes of
the text of its key. -/
theorem extract_texts (keys : List String) (values : String → String) (o : SecretObject)
    {chosen : List String} (hchosen : ∀ key ∈ chosen, key ∈ keys)
    (hentries : List.Forall₂ (fun key entry => Json.Quotes key entry.path) chosen o.entries) :
    ∃ parts, (SecretValue.mk (textPayload keys values) o).extract = .ok parts ∧
      parts.map bytes = (chosen.map fun key => (values key).toUTF8) ∧
      parts.map object = o.entries.map o.ofEntry := by
  obtain ⟨data, hdata, hfields⟩ := exists_ofBytes?_textPayload keys values
  obtain ⟨parts, hparts, hbytes, hobjects⟩ :=
    extractEntries_quoted o (fun key hkey => hfields key (hchosen key hkey)) hentries
  refine ⟨parts, ?_, hbytes, hobjects⟩
  rw [extract_of_json (s := ⟨textPayload keys values, o⟩) hdata, ← extractEntries_eq_mapM]
  exact hparts

/-- The key of a quote, a backslash and a line break, spelled by numbers and short escapes, and the
empty key as it is printed. -/
theorem extract_texts_spelled :
    let odd := "\"\\\n"
    let entries : List JmesEntry := [⟨"\"\\u0022\\\\\\n\"", "odd"⟩,
      ⟨String.ofList (Json.printString ""), "empty"⟩]
    let o : SecretObject := { record := { name := "db", entries } }
    List.Forall₂ (fun key entry => Json.Quotes key entry.path) [odd, ""] o.entries ∧
    ∃ parts,
      (SecretValue.mk (textPayload ["", odd] fun key => key ++ "\x01") o).extract = .ok parts ∧
      parts.map bytes = ["\"\\\n\x01".toUTF8, "\x01".toUTF8] := by
  intro odd entries o
  have hquote : Json.Spelled '"' ['\\', 'u', '0', '0', '2', '2'] [.unit 0x22] :=
    .unit (by decide) (by decide)
  have hescape : Json.Spelled '\\' ['\\', '\\'] [.char '\\'] := .short (by decide)
  have hbreak : Json.Spelled '\n' ['\\', 'n'] [.char '\n'] := .short (by decide)
  have hspelling := Json.Spelling.cons hquote (.cons hescape (.cons hbreak .nil))
  have hodd : Json.Quotes odd "\"\\u0022\\\\\\n\"" := by
    have hchars : odd.toList = ['"', '\\', '\n'] := by decide
    rw [← hchars] at hspelling
    exact ⟨_, _, hspelling, by decide⟩
  have hentries : List.Forall₂ (fun key entry => Json.Quotes key entry.path) [odd, ""] o.entries :=
    .cons hodd (.cons (Json.quotes_printString "") .nil)
  obtain ⟨parts, hparts, hbytes, -⟩ :=
    extract_texts ["", odd] (fun key => key ++ "\x01") o (by decide) hentries
  exact ⟨hentries, parts, hparts, hbytes⟩

end SecretMount.SecretValue
