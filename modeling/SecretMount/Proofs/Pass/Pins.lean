import SecretMount.Proofs.Backend.Responses
import SecretMount.Proofs.Pass.Reconcile

/-!
# Pins for a service without versions

The operation orchestration service is asked by name alone, so a call to it does the same whatever
version the query pins (`call_of_name_eq`), and so does all of the work for an object that is
fetched from there: it leaves the same world (`FetchedUnversioned.world_handle`) and delivers the
same (`FetchedUnversioned.deliver_eq`). Main statement: `reconcile_repinned`, a pass with other pins
for such an object is the same pass.
-/

namespace SecretMount

namespace SecretObject

/-- The object with another version and another version stage to pin. -/
def repinned (o : SecretObject) (version versionLabel : Option String) : SecretObject :=
  { o with record := { o.record with version, versionLabel } }

/-- Pins play no part in the kind. -/
lemma kind_repinned (o : SecretObject) (version versionLabel : Option String) :
    (o.repinned version versionLabel).kind = o.kind := rfl

end SecretObject

namespace SecretValue

/-- Pins play no part in what entries find. -/
lemma extractEntries_repinned (o : SecretObject) (version versionLabel : Option String)
    (data : Json) (entries : List JmesEntry) :
    extractEntries (o.repinned version versionLabel) data entries =
      extractEntries o data entries := by
  induction entries with
  | nil => rfl
  | cons entry rest ih =>
    rw [extractEntries, extractEntries, ih]
    rfl

/-- The parts of a payload do not depend on the pins of its object. -/
lemma extract_repinned (bytes : ByteArray) (o : SecretObject)
    (version versionLabel : Option String) :
    extract ⟨bytes, o.repinned version versionLabel⟩ = extract ⟨bytes, o⟩ := by
  have hsame : (o.repinned version versionLabel).entries = o.entries := rfl
  simp only [extract, hsame, extractEntries_repinned]
  rfl

end SecretValue

namespace Pass

open Process

variable {settings : FetchSettings} {o : SecretObject} {before : List SecretObject}
  {m : VersionMap} {w : World} {query query' : Query} {version versionLabel : Option String}

/-- The service without versions is called alike for the same name. -/
lemma call_of_name_eq (h : w.backends.Adapted) (hname : query.name = query'.name) :
    w.call .oos query = w.call .oos query' := by
  cases hb : w.backends.get .oos with
  | none => rw [World.call_of_none hb, World.call_of_none hb]
  | some backend =>
    have hrequest : Oos.Request.ofQuery query = Oos.Request.ofQuery query' := by
      rw [Oos.Request.ofQuery, Oos.Request.ofQuery, hname]
    cases h .oos backend hb with
    | oos =>
      rw [World.call_of_some hb, World.call_of_some hb]
      simp only [Backend.answer, Backend.outgoing, hrequest]

/-- Calls with the same name run alike. -/
lemma run_callCounted_of_name_eq (h : w.backends.Adapted) (hname : query.name = query'.name) :
    (callCounted .oos query).run w = (callCounted .oos query').run w := by
  rw [callCounted, callCounted, run_sequence, run_sequence, run_call, run_call,
    call_of_name_eq h hname]

/-- Second calls with the same name run alike. -/
lemma run_retry_of_name_eq (settings : FetchSettings) (h : w.backends.Adapted)
    (hname : query.name = query'.name) :
    (retry settings .oos query).run w = (retry settings .oos query').run w := by
  simp only [retry, run_sequence, run_count, run_clock, run_sleepTo]
  exact run_callCounted_of_name_eq h hname

/-- Calls with the same name and their second calls run alike. -/
lemma run_callWithRetry_of_name_eq (settings : FetchSettings) (h : w.backends.Adapted)
    (hname : query.name = query'.name) :
    (callWithRetry settings .oos query).run w = (callWithRetry settings .oos query').run w := by
  have hafter : ((callCounted .oos query').run w).2.backends.Adapted := adapted_run _ h
  rw [callWithRetry, callWithRetry, run_sequence, run_sequence,
    run_callCounted_of_name_eq h hname]
  cases ((callCounted .oos query').run w).1 with
  | none => rfl
  | some answer =>
    cases answer with
    | ok secret => rfl
    | error e =>
      dsimp only
      split
      case isTrue => exact run_retry_of_name_eq settings hafter hname
      case isFalse => rfl

/-- Other pins change nothing in what a result comes to but the object. -/
lemma ofFetchResult_repinned (kind : BackendKind) (result : Option FetchResult) :
    ofFetchResult (o.repinned version versionLabel) kind result =
      (ofFetchResult o kind result).map
        fun got => (got.1, ⟨got.2.bytes, o.repinned version versionLabel⟩) := by
  match result with
  | none => rfl
  | some (.error e) => rfl
  | some (.ok secret) => rfl

/-- Other pins change nothing in the world, and in what a fetch gives nothing but its object. -/
lemma run_fetch_repinned (settings : FetchSettings) (h : w.backends.Adapted)
    (hkind : o.kind = .ok .oos) :
    (fetch settings (o.repinned version versionLabel)).run w =
      (((fetch settings o).run w).1.map
          fun got => (got.1, ⟨got.2.bytes, o.repinned version versionLabel⟩),
        ((fetch settings o).run w).2) := by
  have hname : (o.repinned version versionLabel).query.name = o.query.name := rfl
  have hadapted := adapted_run (wait .oos settings.waitTimeout) h
  rw [fetch, fetch, SecretObject.kind_repinned, hkind]
  dsimp only
  rw [run_sequence, run_sequence]
  -- both fetches go on from where the wait has ended, wherever that is
  generalize (wait .oos settings.waitTimeout).run w = waited at hadapted ⊢
  obtain ⟨outcome, v⟩ := waited
  cases outcome with
  | error exceeded => rfl
  | ok milliseconds =>
    have hcounted (events : List Metrics.Event) : ({ v with events } : World).backends.Adapted :=
      hadapted
    simp only [run_sequence, run_count, run_pure,
      run_callWithRetry_of_name_eq settings (hcounted _) hname, ofFetchResult_repinned]

/-- The delivery with its bytes and its version for another object. -/
def Delivery.forObject (d : Delivery) (o : SecretObject) : Delivery :=
  { d with value := ⟨d.value.bytes, o⟩ }

/-- The object is fetched from a service without versions, with its own pins and with the others.
-/
structure FetchedUnversioned (o : SecretObject) (version versionLabel : Option String)
    (m : VersionMap) (w : World) : Prop where
  adapted : w.backends.Adapted
  kind : o.kind = .ok .oos
  no_pin : ∀ pin, ¬ o.HasPin m pin
  no_pin_repinned : ∀ pin, ¬ (o.repinned version versionLabel).HasPin m pin

namespace FetchedUnversioned

/-- With other pins the object is fetched alike. -/
lemma run_obtain (h : FetchedUnversioned o version versionLabel m w) (settings : FetchSettings) :
    (obtain settings (o.repinned version versionLabel) m).run w =
      (((obtain settings o m).run w).1.map
          fun got => (got.1, ⟨got.2.bytes, o.repinned version versionLabel⟩),
        ((obtain settings o m).run w).2) := by
  rw [obtain_of_no_pin h.no_pin, obtain_of_no_pin h.no_pin_repinned,
    run_fetch_repinned settings h.adapted h.kind]

/-- The value that is there for the object is its own. -/
lemma exists_bytes (h : FetchedUnversioned o version versionLabel m w) {pin : String}
    {value : SecretValue} (hgot : ((obtain settings o m).run w).1 = .ok (pin, value)) :
    ∃ bytes, value = ⟨bytes, o⟩ := by
  have hfetched := fetch_fetched settings o w
  rw [← obtain_of_no_pin h.no_pin, hgot] at hfetched
  obtain ⟨_, secret, -, -, -, hvalue⟩ := hfetched.delivered
  exact ⟨secret.bytes, hvalue⟩

/-- With other pins the same is delivered for the other object. -/
lemma deliver_eq (h : FetchedUnversioned o version versionLabel m w) (settings : FetchSettings) :
    deliver settings (o.repinned version versionLabel) m w =
      (deliver settings o m w).map (·.forObject (o.repinned version versionLabel)) := by
  have hrun := h.run_obtain settings
  cases hgot : ((obtain settings o m).run w).1 with
  | error failure =>
    rw [hgot] at hrun
    rw [deliver_of_error hgot, deliver_of_error (congrArg Prod.fst hrun)]
    rfl
  | ok got =>
    obtain ⟨pin, value⟩ := got
    obtain ⟨bytes, rfl⟩ := h.exists_bytes hgot
    rw [hgot] at hrun
    rw [deliver_of_obtained hgot, deliver_of_obtained (congrArg Prod.fst hrun),
      SecretValue.extract_repinned]
    cases SecretValue.extract ⟨bytes, o⟩ with
    | error failure => rfl
    | ok parts => rfl

/-- With other pins the world is left the same. -/
lemma world_handle (h : FetchedUnversioned o version versionLabel m w) (settings : FetchSettings) :
    ((handle settings (o.repinned version versionLabel) m).run w).2 =
      ((handle settings o m).run w).2 := by
  rw [handle, handle, run_sequence, run_sequence, h.run_obtain settings]
  cases hgot : ((obtain settings o m).run w).1 with
  | error failure => rfl
  | ok got =>
    obtain ⟨pin, value⟩ := got
    obtain ⟨bytes, rfl⟩ := h.exists_bytes hgot
    simp only [Except.map, SecretValue.extract_repinned]
    cases SecretValue.extract ⟨bytes, o⟩ with
    | error failure => rfl
    | ok parts => simp only [run_sequence, run_pure]

end FetchedUnversioned

/-- Two runs that come to the same and leave the same world, but that one has a value for an object
where the other has a value with the same bytes for another object. -/
structure SameButObject (o o' : SecretObject)
    (r r' : (Except Failure (List SecretValue) × VersionMap) × World) : Prop where
  world : r.2 = r'.2
  map : r.1.2 = r'.1.2
  result : ExceptRel Eq
    (fun values values' => ∃ first bytes rest,
      values = first ++ ⟨bytes, o⟩ :: rest ∧ values' = first ++ ⟨bytes, o'⟩ :: rest) r.1.1 r'.1.1

/-- With other pins the work for the object and those after it differs in the object only. -/
lemma handleAll_repinned (h : FetchedUnversioned o version versionLabel m w)
    (settings : FetchSettings) (rest : List SecretObject) :
    SameButObject o (o.repinned version versionLabel) ((handleAll settings (o :: rest) m).run w)
      ((handleAll settings (o.repinned version versionLabel :: rest) m).run w) := by
  have hdeliver := h.deliver_eq settings
  have hworld := h.world_handle settings
  cases hd : deliver settings o m w with
  | error failure =>
    rw [hd] at hdeliver
    rw [run_handleAll_of_error hd, run_handleAll_of_error hdeliver, hworld]
    exact ⟨rfl, rfl, .error rfl⟩
  | ok d =>
    have hobject := (deliver_source hd).1
    rw [hd] at hdeliver
    -- the file name is the same, so the rest starts with the same map in the same world
    have hrecord : (d.forObject (o.repinned version versionLabel)).record m = d.record m := by
      rw [Delivery.record, Delivery.record, Pass.record, Pass.record, hobject]
      rfl
    rw [run_handleAll_of_ok hd, run_handleAll_of_ok hdeliver, hrecord, hworld]
    generalize (handleAll settings rest (d.record m)).run ((handle settings o m).run w).2 = later
    obtain ⟨⟨result, _⟩, _⟩ := later
    refine ⟨rfl, rfl, ?_⟩
    cases result with
    | error failure => exact .error rfl
    | ok values =>
      refine .ok ⟨[], d.value.bytes, d.parts ++ values, ?_, rfl⟩
      rw [← hobject]
      rfl

/-- What comes before does not matter. -/
lemma SameButObject.append {o' : SecretObject}
    {r r' : (Except Failure (List SecretValue) × VersionMap) × World}
    (h : SameButObject o o' r r') (values : List SecretValue) :
    SameButObject o o' ((r.1.1.map (values ++ ·), r.1.2), r.2)
      ((r'.1.1.map (values ++ ·), r'.1.2), r'.2) where
  world := h.world
  map := h.map
  result := by
    refine h.result.map ?_
    rintro _ _ ⟨first, bytes, rest, rfl, rfl⟩
    exact ⟨values ++ first, bytes, rest, by simp, by simp⟩

/-- Outcomes with the same failure, or both without one, are counted alike. -/
lemma outcomeEvents_of_rel {R : List SecretValue → List SecretValue → Prop}
    {result result' : Except Failure (List SecretValue)} (h : ExceptRel Eq R result result') :
    outcomeEvents result = outcomeEvents result' := by
  cases h with
  | error hfailure => rw [hfailure]
  | ok => rfl

/-- What a pass counts depends on the failure and on the clock only. -/
lemma SameButObject.reconcile {o' : SecretObject} {xs ys : List SecretObject}
    (h : SameButObject o o' ((handleAll settings xs m).run (begun w))
      ((handleAll settings ys m).run (begun w))) :
    SameButObject o o' ((reconcile settings xs m).run w) ((reconcile settings ys m).run w) := by
  rw [run_reconcile, run_reconcile]
  refine ⟨?_, h.map, h.result⟩
  simp only [closing, outcomeEvents_of_rel h.result, h.world]

/-- Other pins for an object that is fetched from a service without versions change nothing about a
pass: not what goes out and when, what is counted, the map, the bytes or the failure. -/
lemma reconcile_repinned (settings : FetchSettings) (before after : List SecretObject)
    (h : ∀ values m₁ w₁, (handleAll settings before m).run (begun w) = ((.ok values, m₁), w₁) →
      FetchedUnversioned o version versionLabel m₁ w₁) :
    SameButObject o (o.repinned version versionLabel)
      ((reconcile settings (before ++ o :: after) m).run w)
      ((reconcile settings (before ++ o.repinned version versionLabel :: after) m).run w) := by
  apply SameButObject.reconcile
  rcases hbefore : (handleAll settings before m).run (begun w) with ⟨⟨failure | values, m₁⟩, w₁⟩
  · -- the object is not reached
    have hfailed := congrArg Prod.fst hbefore
    rw [(handleAll_append_of_error _ hfailed).1, (handleAll_append_of_error _ hfailed).1, hbefore]
    exact ⟨rfl, rfl, .error rfl⟩
  · have hsucceeded := congrArg Prod.fst hbefore
    rw [(handleAll_append_of_ok _ hsucceeded).1, (handleAll_append_of_ok _ hsucceeded).1, hbefore]
    exact (handleAll_repinned (h values m₁ w₁ hbefore) settings after).append values

end Pass

end SecretMount
