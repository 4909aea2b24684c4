import SecretMount.Proofs.Json.Canonical
import SecretMount.Proofs.SecretValue.Entries

/-!
# Payloads as they are

The path `@` finds the payload itself. For a payload with integers for numbers, the part that it
gives is the one text of the value that the payload denotes: the part denotes the value too, and is
its own part in turn. Main statement: `extract_current_canonical`.
-/

namespace SecretMount.SecretValue

variable {payload payload' : ByteArray} {v v' : Json}

/-- The entry that finds the payload itself. -/
def currentEntry (name : String) : JmesEntry := ⟨"@", name⟩

/-- What a payload of the object comes to with this entry. -/
def extractCurrent (o : SecretObject) (name : String) (payload : ByteArray) :
    Except Failure (List SecretValue) :=
  (SecretValue.only ⟨payload, o⟩ (currentEntry name)).extract

/-- A payload that is JSON, all of whose numbers are plain integers, with a value other than null
and a text. -/
structure IntegralPayload (payload : ByteArray) (v : Json) : Prop where
  json : Json.ofBytes? payload = some v
  integral : ∃ text w, String.fromUTF8? payload = some text ∧
    Json.Written.read? text = some w ∧ w.Integral
  not_null : v ≠ .null
  not_text : ∀ s, v ≠ .string s

/-- The path of a single sign is the payload itself. -/
lemma compile?_current : JmesPath.Expr.compile? "@" = some .current := by
  have htokens : JmesPath.Token.ofText? "@" = some [.atSign] := rfl
  rw [JmesPath.Expr.compile?, htokens]
  simp [JmesPath.Expr.readExpr, JmesPath.Expr.readFirst, JmesPath.Expr.readMore,
    JmesPath.Expr.powerAt]

/-- The payload itself is taken out as its compact text, unless it is null or a text. -/
lemma extractCurrent_of_json (o : SecretObject) (name : String)
    (hjson : Json.ofBytes? payload = some v) (hnull : v ≠ .null) (htext : ∀ s, v ≠ .string s) :
    extractCurrent o name payload = .ok [⟨v.text.toUTF8, o.ofEntry (currentEntry name)⟩] := by
  have hbytes : bytesOfMatch v = v.text.toUTF8 := by
    cases v with
    | string s => exact absurd rfl (htext s)
    | _ => rfl
  have hmatch : matchOf (currentEntry name).path v = .ok v.text.toUTF8 := by
    rw [currentEntry, matchOf, compile?_current, ← hbytes]
    cases v with
    | null => exact absurd rfl hnull
    | _ => rfl
  rw [extractCurrent, extract_only (currentEntry name) hjson, extractEntry, hmatch]
  rfl

/-- The value of an integral payload is canonical. -/
lemma IntegralPayload.canonical (h : IntegralPayload payload v) :
    Json.Canonical Json.depthLimit v := by
  obtain ⟨hjson, ⟨text, w, htext, hw, hintegral⟩, -, -⟩ := h
  have hv : w.value? Json.depthLimit = some v := by
    rw [Json.ofBytes?, htext] at hjson
    rw [← hjson]
    show _ = (Json.Written.read? text >>= _)
    rw [hw]
    rfl
  exact Json.canonical_of_integral hintegral hv

/-- The text of the value denotes it again. -/
lemma IntegralPayload.ofBytes?_text (h : IntegralPayload payload v) :
    Json.ofBytes? v.text.toUTF8 = some v := by
  rw [Json.ofBytes?_toUTF8]
  exact Json.read?_text_of_canonical h.canonical

/-- A field with an integer. -/
def integerField (field : String × Int) : String × Json := (field.1, .number (.int field.2))

/-- The compact text of an object with integers for its fields, in whatever order and however often
a key is repeated. -/
lemma IntegralPayload.of_fields {text : String} (fields : List (String × Int))
    (htext : (Json.object (fields.map integerField)).text = text)
    (hwords : ∀ field ∈ fields, Json.IsWord field.2) :
    IntegralPayload text.toUTF8 (.object (KeyedList.ofList (fields.map integerField))) := by
  have hcanonical : ∀ field ∈ fields.map integerField,
      Json.Canonical (Json.depthLimit - 1) field.2 := by
    intro field hfield
    obtain ⟨_, hmem, rfl⟩ := List.mem_map.1 hfield
    exact .int (hwords _ hmem)
  have hwhole : Json.Whole (.object (fields.map integerField)) :=
    .object fun field hfield => (hcanonical field hfield).whole
  have hread := Json.read?_text hwhole
  rw [htext] at hread
  constructor
  case json =>
    rw [Json.ofBytes?_toUTF8, ← htext]
    exact Json.read?_text_object hcanonical
  case integral =>
    refine ⟨_, _, Json.fromUTF8?_toUTF8 _, hread, ?_⟩
    rw [Json.written, Json.writtenFields_eq_map, List.map_map]
    apply Json.Written.Integral.object
    intro field hfield
    obtain ⟨⟨k, n⟩, hmem, rfl⟩ := List.mem_map.1 hfield
    show (Json.written (.number (.int n))).Integral
    rw [Json.written_int]
    exact .number (Json.Numeral.plain_ofInt (hwords _ hmem))
  case not_null =>
    intro hnull
    cases hnull
  case not_text =>
    intro s hstring
    cases hstring

/-- A payload with integers for numbers gives one part at `@`, bytes that denote the same value, and
these give themselves. Two such payloads give the same bytes exactly where they denote the same
value. -/
theorem extract_current_canonical (o : SecretObject) (name : String)
    (h : IntegralPayload payload v) (h' : IntegralPayload payload' v') :
    ∃ bytes bytes',
      extractCurrent o name payload = .ok [⟨bytes, o.ofEntry (currentEntry name)⟩] ∧
      extractCurrent o name payload' = .ok [⟨bytes', o.ofEntry (currentEntry name)⟩] ∧
      Json.ofBytes? bytes = some v ∧
      extractCurrent o name bytes = .ok [⟨bytes, o.ofEntry (currentEntry name)⟩] ∧
      (bytes = bytes' ↔ v = v') := by
  have hparse := h.ofBytes?_text
  refine ⟨v.text.toUTF8, v'.text.toUTF8,
    extractCurrent_of_json o name h.json h.not_null h.not_text,
    extractCurrent_of_json o name h'.json h'.not_null h'.not_text, hparse,
    extractCurrent_of_json o name hparse h.not_null h.not_text, ?_⟩
  constructor
  · intro hbytes
    rw [hbytes, h'.ofBytes?_text] at hparse
    exact (Option.some.inj hparse).symm
  · rintro rfl
    rfl

/-- A payload with a key that stands twice and with keys out of order gives what the payload that
has each key once, in order, gives. -/
theorem extract_current_canonical_repeated :
    let o : SecretObject := { record := { name := "db" } }
    let payload := "\x7b\"b\":1,\"a\":2,\"b\":-3\x7d".toUTF8
    let sorted := "\x7b\"a\":2,\"b\":-3\x7d".toUTF8
    let v : Json := .object [("a", .number (.int 2)), ("b", .number (.int (-3)))]
    IntegralPayload payload v ∧ IntegralPayload sorted v ∧
      extractCurrent o "whole" payload = extractCurrent o "whole" sorted := by
  intro o payload sorted v
  have hpayload : IntegralPayload payload v :=
    .of_fields [("b", 1), ("a", 2), ("b", -3)] (by decide +kernel) (by decide)
  have hsorted : IntegralPayload sorted v :=
    .of_fields [("a", 2), ("b", -3)] (by decide +kernel) (by decide)
  obtain ⟨bytes, bytes', hbytes, hbytes', -, -, hsame⟩ :=
    extract_current_canonical o "whole" hpayload hsorted
  refine ⟨hpayload, hsorted, ?_⟩
  rw [hbytes, hbytes', hsame.2 rfl]

end SecretMount.SecretValue
