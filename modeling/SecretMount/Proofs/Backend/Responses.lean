import SecretMount.Proofs.Except
import SecretMount.Proofs.Process.Trace
import SecretMount.Proofs.Text.Case

/-!
# Responses of clients

What comes back from the client behind a backend (`Backend.incoming`), and the secret that the
backend makes of it (`Backend.answer_eq`). A response delivers a secret (`Incoming.Delivers`) or it
is unusable, for the first reason in the order in which the backend looks at it
(`Incoming.Unusable`). There is nothing else than errors of the client (`Incoming.cases_of_kind`).
`Backends.exchanged` lists what goes out with several calls and what comes back.
-/

namespace SecretMount

/-- The word for binary data, each letter in either case. -/
def SpellsBinary (type : String) : Prop :=
  List.Forall₂ (fun c l => c = l ∨ c = l.toUpper) type.toList "binary".toList

/-- A type is the binary one where it spells the word, whatever the case of its letters. -/
lemma isBinaryType_iff (type : String) : isBinaryType type = true ↔ SpellsBinary type := by
  have hlower : binaryTag.toList.all Char.isLower = true := by decide +kernel
  exact Text.equalIgnoringCase_iff (List.all_eq_true.1 hlower) type

/-- A tag that says that the payload is binary. -/
def TaggedBinary (tag : Option String) : Prop := ∃ type, tag = some type ∧ SpellsBinary type

variable {tag : Option String}

/-- A tag that says binary is refused. -/
lemma checkDataType_of_binary (h : TaggedBinary tag) :
    checkDataType tag = .error (.unsupportedDataType "binary") := by
  obtain ⟨type, rfl, hspells⟩ := h
  exact if_pos ((isBinaryType_iff type).2 hspells)

/-- Any other tag passes, and so does none at all. -/
lemma checkDataType_of_not_binary (h : ¬ TaggedBinary tag) : checkDataType tag = .ok () := by
  cases tag with
  | none => rfl
  | some type =>
    apply if_neg
    intro hbinary
    exact h ⟨type, rfl, (isBinaryType_iff type).1 hbinary⟩

/-- What comes back for a call: what a store answers, or what the client of a service does. -/
inductive Incoming where
  | store (result : FetchResult)
  | kms (response : Except BackendError Kms.Response)
  | oos (response : Except BackendError Oos.Response)

namespace Incoming

/-- The service whose client it comes from. -/
def kind? : Incoming → Option BackendKind
  | .store _ => none
  | .kms _ => some .kms
  | .oos _ => some .oos

/-- What a backend makes of it. -/
def result : Incoming → FetchResult
  | .store result => result
  | .kms response => response >>= Kms.Response.secret
  | .oos response => response >>= Oos.Response.secret

/-- A response of a service with a payload that is not binary, and the payload and the version that
the secret has from it. -/
inductive Delivers : BackendKind → Incoming → FetchedSecret → Prop
  | kms {r : Kms.Response} {data version : String} :
    ¬ TaggedBinary r.secretDataType →
    r.secretData = some data →
    r.versionId = some version →
    Delivers .kms (.kms (.ok r)) ⟨data.toUTF8, version⟩
  | oos {p : Oos.Parameter} {data : String} :
    ¬ TaggedBinary p.dataType →
    p.value = some data →
    Delivers .oos (.oos (.ok ⟨some p⟩)) ⟨data.toUTF8, "v1"⟩

/-- A response of which no secret can be made. -/
inductive Defective : Incoming → Prop
  | kms {r : Kms.Response} :
    TaggedBinary r.secretDataType ∨ r.secretData = none ∨ r.versionId = none →
    Defective (.kms (.ok r))
  | noParameter : Defective (.oos (.ok ⟨none⟩))
  | oos {p : Oos.Parameter} :
    TaggedBinary p.dataType ∨ p.value = none →
    Defective (.oos (.ok ⟨some p⟩))

/-- The first reason for which no secret can be made of a response. -/
inductive Unusable : Incoming → BackendError → Prop
  | kmsBinary {r : Kms.Response} :
    TaggedBinary r.secretDataType →
    Unusable (.kms (.ok r)) (.unsupportedDataType "binary")
  | kmsData {r : Kms.Response} :
    ¬ TaggedBinary r.secretDataType →
    r.secretData = none →
    Unusable (.kms (.ok r)) (.missingField "SecretData")
  | kmsVersion {r : Kms.Response} {data : String} :
    ¬ TaggedBinary r.secretDataType →
    r.secretData = some data →
    r.versionId = none →
    Unusable (.kms (.ok r)) (.missingField "VersionId")
  | oosParameter : Unusable (.oos (.ok ⟨none⟩)) (.missingField "Parameter")
  | oosBinary {p : Oos.Parameter} :
    TaggedBinary p.dataType →
    Unusable (.oos (.ok ⟨some p⟩)) (.unsupportedDataType "binary")
  | oosValue {p : Oos.Parameter} :
    ¬ TaggedBinary p.dataType →
    p.value = none →
    Unusable (.oos (.ok ⟨some p⟩)) (.missingField "Parameter.Value")

variable {i : Incoming} {kind : BackendKind} {secret : FetchedSecret} {e : BackendError}

/-- The backend makes the secret of a response that delivers one. -/
lemma Delivers.result_eq (h : i.Delivers kind secret) : i.result = .ok secret := by
  cases h with
  | @kms r _ _ htag hdata hversion =>
    show r.secret = _
    rw [Kms.Response.secret, checkDataType_of_not_binary htag, hdata, hversion]
    rfl
  | @oos p _ htag hdata =>
    show Oos.Response.secret ⟨some p⟩ = _
    simp only [Oos.Response.secret, checkDataType_of_not_binary htag, hdata]
    rfl

/-- The backend makes of an unusable response the error for its first reason. -/
lemma Unusable.result_eq (h : i.Unusable e) : i.result = .error e := by
  cases h with
  | @kmsBinary r htag =>
    show r.secret = _
    rw [Kms.Response.secret, checkDataType_of_binary htag]
    rfl
  | @kmsData r htag hdata =>
    show r.secret = _
    rw [Kms.Response.secret, checkDataType_of_not_binary htag, hdata]
    rfl
  | @kmsVersion r _ htag hdata hversion =>
    show r.secret = _
    rw [Kms.Response.secret, checkDataType_of_not_binary htag, hdata, hversion]
    rfl
  | oosParameter => rfl
  | @oosBinary p htag =>
    show Oos.Response.secret ⟨some p⟩ = _
    simp only [Oos.Response.secret, checkDataType_of_binary htag]
    rfl
  | @oosValue p htag hdata =>
    show Oos.Response.secret ⟨some p⟩ = _
    simp only [Oos.Response.secret, checkDataType_of_not_binary htag, hdata]
    rfl

/-- What is wrong with a response is no error that passes. -/
lemma Unusable.isTransient_eq (h : i.Unusable e) : e.isTransient = false := by
  cases h <;> rfl

/-- Of several things that are wrong with a response one comes first. -/
lemma Defective.exists_unusable (h : i.Defective) : ∃ e, i.Unusable e := by
  cases h with
  | @kms r hlacks =>
    by_cases htag : TaggedBinary r.secretDataType
    · exact ⟨_, .kmsBinary htag⟩
    · cases hdata : r.secretData with
      | none => exact ⟨_, .kmsData htag hdata⟩
      | some data =>
        have hversion := (hlacks.resolve_left htag).resolve_left (by simp [hdata])
        exact ⟨_, .kmsVersion htag hdata hversion⟩
  | noParameter => exact ⟨_, .oosParameter⟩
  | @oos p hlacks =>
    by_cases htag : TaggedBinary p.dataType
    · exact ⟨_, .oosBinary htag⟩
    · exact ⟨_, .oosValue htag (hlacks.resolve_left htag)⟩

/-- A service answers with an error, with a response that delivers, or with a defective one. -/
lemma cases_of_kind (hkind : i.kind? = some kind) :
    (∃ e, i.result = .error e) ∨ (∃ secret, i.Delivers kind secret) ∨ i.Defective := by
  cases i with
  | store => cases hkind
  | kms response =>
    cases hkind
    cases response with
    | error e => exact .inl ⟨e, rfl⟩
    | ok r =>
      by_cases htag : TaggedBinary r.secretDataType
      · exact .inr (.inr (.kms (.inl htag)))
      · cases hdata : r.secretData with
        | none => exact .inr (.inr (.kms (.inr (.inl hdata))))
        | some data =>
          cases hversion : r.versionId with
          | none => exact .inr (.inr (.kms (.inr (.inr hversion))))
          | some version => exact .inr (.inl ⟨_, .kms htag hdata hversion⟩)
  | oos response =>
    cases hkind
    match response with
    | .error e => exact .inl ⟨e, rfl⟩
    | .ok ⟨none⟩ => exact .inr (.inr .noParameter)
    | .ok ⟨some p⟩ =>
      by_cases htag : TaggedBinary p.dataType
      · exact .inr (.inr (.oos (.inl htag)))
      · cases hdata : p.value with
        | none => exact .inr (.inr (.oos (.inr hdata)))
        | some data => exact .inr (.inl ⟨_, .oos htag hdata⟩)

/-- A secret that is made of what comes back from a service is delivered by it. -/
lemma delivers_of_result_eq (hkind : i.kind? = some kind) (h : i.result = .ok secret) :
    i.Delivers kind secret := by
  rcases cases_of_kind hkind with ⟨e, herror⟩ | ⟨secret', hdelivers⟩ | hdefective
  · rw [herror] at h
    cases h
  · rw [hdelivers.result_eq] at h
    cases h
    exact hdelivers
  · obtain ⟨e, hunusable⟩ := hdefective.exists_unusable
    rw [hunusable.result_eq] at h
    cases h

end Incoming

namespace Backend

variable {b : Backend} {kind : BackendKind}

/-- What comes back to the backend for a query now. -/
def incoming (b : Backend) (q : Query) : Incoming :=
  match b.handler with
  | .store _ answer => .store (answer b.served q)
  | .kms client => .kms (client b.served (.ofQuery q))
  | .oos client => .oos (client b.served (.ofQuery q))

/-- The answer of a backend is what it makes of what comes back to it. -/
lemma answer_eq (b : Backend) (q : Query) : b.answer q = (b.incoming q).result := by
  obtain ⟨handler, served⟩ := b
  cases handler <;> rfl

/-- The backend is an adapter over a client of the service for the kind. -/
inductive Adapts : BackendKind → Backend → Prop
  | kms {client : Nat → Kms.Request → Except BackendError Kms.Response} {served : Nat} :
    Adapts .kms ⟨.kms client, served⟩
  | oos {client : Nat → Oos.Request → Except BackendError Oos.Response} {served : Nat} :
    Adapts .oos ⟨.oos client, served⟩

/-- An adapter is still one after a call. -/
lemma Adapts.next (h : b.Adapts kind) : b.next.Adapts kind := by
  cases h with
  | kms => exact .kms
  | oos => exact .oos

/-- The request for a query to the service for a kind. -/
def request (kind : BackendKind) (q : Query) : Outgoing :=
  match kind with
  | .kms => .kms (.ofQuery q)
  | .oos => .oos (.ofQuery q)

/-- What goes out from an adapter is the request to the service of its kind. -/
lemma Adapts.outgoing_eq (h : b.Adapts kind) (q : Query) : b.outgoing q = request kind q := by
  cases h with
  | kms => rfl
  | oos => rfl

/-- What comes back to an adapter comes from the service of its kind. -/
lemma Adapts.kind?_incoming (h : b.Adapts kind) (q : Query) :
    (b.incoming q).kind? = some kind := by
  cases h with
  | kms => rfl
  | oos => rfl

end Backend

namespace Backends

variable {bs : Backends}

/-- Every backend is an adapter over a client of the service for its kind. -/
def Adapted (bs : Backends) : Prop :=
  ∀ kind b, PerKind.get bs kind = some b → b.Adapts kind

/-- Adapters are adapters after a call. -/
lemma Adapted.serve (h : bs.Adapted) (c : AnsweredCall) : (bs.serve c).Adapted := by
  intro kind b hb
  rw [Backends.serve, PerKind.get_set] at hb
  split at hb
  case isTrue heq =>
    obtain ⟨b', hb', rfl⟩ := Option.map_eq_some_iff.1 hb
    rw [heq]
    exact (h c.kind b' hb').next
  case isFalse => exact h kind b hb

/-- Adapters are adapters after several calls. -/
lemma Adapted.after (h : bs.Adapted) (calls : List AnsweredCall) : (bs.after calls).Adapted := by
  induction calls generalizing bs with
  | nil => exact h
  | cons c rest ih => exact ih (h.serve c)

/-- What goes out with several calls, each with what comes back for it. -/
def exchanged (bs : Backends) : List AnsweredCall → List (Outgoing × Incoming)
  | [] => []
  | c :: rest =>
    ((PerKind.get bs c.kind).map fun b => (b.outgoing c.query, b.incoming c.query)).toList ++
      (bs.serve c).exchanged rest

/-- What is exchanged with later calls is exchanged with the backends as the earlier ones leave
them. -/
lemma exchanged_append (bs : Backends) (calls later : List AnsweredCall) :
    bs.exchanged (calls ++ later) = bs.exchanged calls ++ (bs.after calls).exchanged later := by
  induction calls generalizing bs with
  | nil => rfl
  | cons c rest ih =>
    rw [List.cons_append, exchanged, exchanged, ih, List.append_assoc]
    rfl

/-- The requests of what is exchanged are what has gone out. -/
lemma map_fst_exchanged (bs : Backends) (calls : List AnsweredCall) :
    (bs.exchanged calls).map Prod.fst = bs.sent calls := by
  induction calls generalizing bs with
  | nil => rfl
  | cons c rest ih =>
    rw [exchanged, sent, List.map_append, ih]
    cases PerKind.get bs c.kind <;> rfl

end Backends

/-- Adapters are adapters after any process. -/
lemma Process.adapted_run {α : Type} (p : Process α) {w : World} (h : w.backends.Adapted) :
    (p.run w).2.backends.Adapted := by
  rw [(p.calls_run w).1]
  exact h.after _

end SecretMount
