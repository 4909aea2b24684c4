import SecretMount.Proofs.Pass.Extraction
import SecretMount.Proofs.Pass.Object
import SecretMount.Proofs.VersionMap.Lookup

/-!
# What an object delivers

An object that succeeds gives a pass a version, a value and the parts of the value: a `Delivery`.
`deliver` is what the work for an object comes to (`run_handle`), `deliver_isOf` relates its values
to the object and its entries, and `deliver_source` says where its version and its bytes come from.
`recordAll` is the map after several deliveries; where file names are distinct, it holds for each
the version of its own delivery (`get?_recordAll_of_mem`).
-/

namespace SecretMount.Pass

open Process

variable {settings : FetchSettings} {o : SecretObject} {m : VersionMap} {w : World} {t : Trace}
  {version version' : String} {value : SecretValue}

/-- What a pass has for an object that succeeded: its version, its value and the parts of that. -/
structure Delivery where
  version : String
  value : SecretValue
  parts : List SecretValue

namespace Delivery

/-- The values, the object's own first. -/
def values (d : Delivery) : List SecretValue := d.value :: d.parts

/-- The file names of the values. -/
def fileNames (d : Delivery) : List String :=
  d.values.map fun value => value.object.fileName

/-- The map with the version under the file names of the values. -/
def record (d : Delivery) (m : VersionMap) : VersionMap :=
  Pass.record m d.version d.value d.parts

/-- A delivery changes the versions of its own file names and no other. -/
lemma get?_record (d : Delivery) (m : VersionMap) (f : String) :
    (d.record m).get? f = if f ∈ d.fileNames then some d.version else m.get? f := by
  rw [record, Pass.record, VersionMap.get?_insert, VersionMap.get?_insertEach, fileNames, values,
    List.map_cons]
  by_cases hown : f = d.value.object.fileName
  · simp [hown]
  · simp [hown]

/-- The map after several deliveries. -/
def recordAll (ds : List Delivery) (m : VersionMap) : VersionMap :=
  ds.foldl (fun m d => d.record m) m

/-- Deliveries change nothing under file names that they do not have. -/
lemma get?_recordAll_of_notMem {ds : List Delivery} {f : String}
    (h : f ∉ ds.flatMap fileNames) (m : VersionMap) : (recordAll ds m).get? f = m.get? f := by
  induction ds generalizing m with
  | nil => rfl
  | cons d rest ih =>
    rw [List.flatMap_cons, List.mem_append, not_or] at h
    exact (ih h.2 _).trans ((d.get?_record m f).trans (if_neg h.1))

/-- No delivery is overwritten by a later one whose file names are others. -/
lemma get?_recordAll_of_mem {ds : List Delivery} {d : Delivery} {f : String}
    (hdistinct : (ds.flatMap fileNames).Nodup) (hd : d ∈ ds) (hf : f ∈ d.fileNames)
    (m : VersionMap) : (recordAll ds m).get? f = some d.version := by
  induction ds generalizing m with
  | nil => cases hd
  | cons first rest ih =>
    rw [List.flatMap_cons, List.nodup_append] at hdistinct
    obtain ⟨-, hrest, hapart⟩ := hdistinct
    rcases List.mem_cons.1 hd with rfl | hd
    · have hlater : f ∉ rest.flatMap fileNames := fun hmem => hapart f hf f hmem rfl
      exact (get?_recordAll_of_notMem hlater _).trans ((d.get?_record m f).trans (if_pos hf))
    · exact ih hrest hd _

/-- A delivery is what a pass has for the object: its own value, and that of each entry in order. -/
structure IsOf (o : SecretObject) (d : Delivery) : Prop where
  object : d.value.object = o
  parts : List.Forall₂ d.value.IsPart o.entries d.parts

/-- A delivery has the file names of its object. -/
lemma IsOf.fileNames_eq {d : Delivery} (h : d.IsOf o) : d.fileNames = o.fileNames := by
  have hobjects := SecretValue.parts_objects (h.object ▸ h.parts)
  rw [h.object] at hobjects
  rw [fileNames, values, List.map_cons, SecretObject.fileNames, h.object, ← hobjects, List.map_map]
  rfl

end Delivery

/-- What a pass has for an object that it reaches with a map in a world, or why it fails. -/
def deliver (settings : FetchSettings) (o : SecretObject) (m : VersionMap) (w : World) :
    Except Failure Delivery := do
  let (version, value) ← ((obtain settings o m).run w).1
  let parts ← value.extract
  pure ⟨version, value, parts⟩

/-- An object whose value is not there fails for the reason. -/
lemma deliver_of_error {failure : Failure}
    (h : ((obtain settings o m).run w).1 = .error failure) :
    deliver settings o m w = .error failure := by
  rw [deliver, h]
  rfl

/-- An object whose value is there delivers it with its parts. -/
lemma deliver_of_obtained (h : ((obtain settings o m).run w).1 = .ok (version, value)) :
    deliver settings o m w = value.extract.map fun parts => ⟨version, value, parts⟩ := by
  rw [deliver, h]
  rfl

/-- An object changes the map by what it delivers, and by nothing if it fails. -/
lemma run_handle (settings : FetchSettings) (o : SecretObject) (m : VersionMap) (w : World) :
    ((handle settings o m).run w).1 =
      (deliver settings o m w).map fun d => (d.values, d.record m) := by
  rw [handle, run_sequence, deliver]
  cases ((obtain settings o m).run w).1 with
  | error failure => rfl
  | ok got =>
    obtain ⟨version, value⟩ := got
    change _ = ((value.extract >>= fun parts => pure ⟨version, value, parts⟩ :
      Except Failure Delivery).map _)
    dsimp only
    cases value.extract with
    | error failure => rfl
    | ok parts => simp only [run_sequence, run_pure]; rfl

/-- An object delivers just if its value is there and can be taken apart. -/
lemma deliver_eq_ok_iff {d : Delivery} :
    deliver settings o m w = .ok d ↔
      ((obtain settings o m).run w).1 = .ok (d.version, d.value) ∧ d.value.extract = .ok d.parts := by
  unfold deliver
  rw [except_bind_eq_ok]
  constructor
  · rintro ⟨⟨version, value⟩, hgot, h⟩
    obtain ⟨parts, hparts, h⟩ := except_bind_eq_ok.1 h
    cases h
    exact ⟨hgot, hparts⟩
  · rintro ⟨hgot, hparts⟩
    exact ⟨_, hgot, except_bind_eq_ok.2 ⟨_, hparts, rfl⟩⟩

/-- Where nothing is limited, an object without entries delivers the answer of its backend. -/
lemma deliver_of_answer {kind : BackendKind} {backend : Backend} {secret : FetchedSecret}
    (hentries : o.entries = []) (hpin : ∀ version, ¬ o.HasPin m version) (hkind : o.kind = .ok kind)
    (hlimiter : w.limiter.get kind = none) (hbackend : w.backends.get kind = some backend)
    (hanswer : backend.answer o.query = .ok secret) :
    deliver settings o m w = .ok ⟨secret.version, ⟨secret.bytes, o⟩, []⟩ := by
  rw [deliver_eq_ok_iff, obtain_of_no_pin hpin]
  exact ⟨run_fetch_of_answer hkind hlimiter hbackend hanswer, if_pos hentries⟩

/-- The version and the bytes of an object are its pin and its file, or the last answer of its
backend. -/
inductive Source (o : SecretObject) (m : VersionMap) (w : World) (t : Trace) (d : Delivery) :
    Prop where
  | file :
    o.HasPin m d.version →
    t.reads = [o.mountPath] →
    w.disk o.mountPath = .ok d.value.bytes →
    Source o m w t d
  | backend {kind : BackendKind} {secret : FetchedSecret} :
    (∀ version, ¬ o.HasPin m version) →
    o.kind = .ok kind →
    t.calls.getLast? = some ⟨kind, o.query, .ok secret⟩ →
    secret.version = d.version →
    secret.bytes = d.value.bytes →
    Source o m w t d

/-- The result of the calls is that of the last one. -/
lemma Exchange.getLast?_calls {query : Query} {backend : Option Backend}
    {calls : List AnsweredCall} {result : FetchResult}
    (h : Exchange kind query backend calls (some result)) :
    calls.getLast? = some ⟨kind, query, result⟩ := by
  cases h with
  | once => rfl
  | twice => rfl

/-- What is read back has the pin for its version and the bytes of the file. -/
lemma Reread.delivered (h : Reread o version w t (.ok (version', value))) :
    version' = version ∧ value.object = o ∧ w.disk o.mountPath = .ok value.bytes := by
  have hresult := h.result
  cases hdisk : w.disk o.mountPath with
  | error fault =>
    rw [hdisk] at hresult
    cases hresult
  | ok bytes =>
    rw [hdisk] at hresult
    cases hresult
    exact ⟨rfl, rfl, rfl⟩

/-- What is fetched is the last answer. -/
lemma Fetched.delivered (h : Fetched settings o w t (.ok (version, value))) :
    ∃ kind secret, o.kind = .ok kind ∧
      t.calls.getLast? = some ⟨kind, o.query, .ok secret⟩ ∧
      version = secret.version ∧ value = ⟨secret.bytes, o⟩ := by
  generalize hgot : (.ok (version, value) : Except Failure (String × SecretValue)) = got at h
  cases h with
  | unsupported => cases hgot
  | refused => cases hgot
  | @admitted kind waited rest result hkind hwait htrace hrest hreads hcalls =>
    match result, hgot, hcalls with
    | some (.ok secret), hgot, hcalls =>
      cases hgot
      exact ⟨kind, secret, hkind, hcalls.getLast?_calls, rfl, rfl⟩

/-- A delivery is of its object and comes from its file or from its backend. -/
lemma deliver_source {d : Delivery} (h : deliver settings o m w = .ok d) :
    d.value.object = o ∧ Source o m w ((handle settings o m).trace w) d := by
  obtain ⟨hgot, -⟩ := deliver_eq_ok_iff.1 h
  have hobtained := handle_obtained settings o m w
  rw [hgot] at hobtained
  cases hobtained with
  | reread hpin hread =>
    obtain ⟨hversion, hobject, hdisk⟩ := hread.delivered
    exact ⟨hobject, .file (hversion ▸ hpin) hread.reads hdisk⟩
  | fetched hnone hfetch =>
    obtain ⟨kind, secret, hkind, hlast, hversion, hvalue⟩ := hfetch.delivered
    exact ⟨by rw [hvalue], .backend hnone hkind hlast hversion.symm (by rw [hvalue])⟩

/-- What is delivered for an object is the object's. -/
lemma deliver_isOf {d : Delivery} (h : deliver settings o m w = .ok d) : d.IsOf o := by
  obtain ⟨hobject, -⟩ := deliver_source h
  obtain ⟨-, hparts⟩ := deliver_eq_ok_iff.1 h
  exact ⟨hobject, hobject ▸ SecretValue.extract_parts hparts⟩

end SecretMount.Pass
