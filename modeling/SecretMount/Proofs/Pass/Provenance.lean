import SecretMount.Proofs.Pass.Again
import SecretMount.Proofs.Pass.Pins

/-!
# Where values come from

The requests of a pass and the responses to them are those of its visits (`exchanged_handleAll`).
For an object that is fetched there are few (`Heard`): what the backend makes of the last response
stands, and those before it have failed for a reason that passes. So the value of the object is the
payload of the last response (`Visit.supplied`), and a response of which no secret can be made is
the last one of all (`concludes_of_defective`). Main statement: `value_of_last_response`.
-/

namespace SecretMount.Pass

open Process

variable {settings : FetchSettings} {objects : List SecretObject} {m : VersionMap} {w : World}
  {v : Visit} {d : Delivery} {bs : Backends} {kind : BackendKind} {query : Query}
  {calls : List AnsweredCall} {result : Option FetchResult} {x : Outgoing × Incoming}
  {earlier later : List (Outgoing × Incoming)}

/-- The requests and the responses of the calls for one object: all but the last have failed for a
reason that passes, and what the backend makes of the last one stands. -/
inductive Heard : List (Outgoing × Incoming) → Option FetchResult → Prop
  | nothing : Heard [] none
  | last {earlier : List (Outgoing × Incoming)} {x : Outgoing × Incoming} :
    (∀ y ∈ earlier, failedForNow y.2.result = true) →
    Heard (earlier ++ [x]) (some x.2.result)

/-- An answer is made of the last response. -/
lemma Heard.exists_last {exchanged : List (Outgoing × Incoming)} {answer : FetchResult}
    (h : Heard exchanged (some answer)) :
    ∃ x, exchanged.getLast? = some x ∧ x.2.result = answer := by
  cases h with
  | last => exact ⟨_, List.getLast?_concat, rfl⟩

/-- What is exchanged in the calls for an object is heard as it is said. -/
lemma Exchange.heard (h : Exchange kind query (PerKind.get bs kind) calls result) :
    Heard (bs.exchanged calls) result := by
  generalize hbackend : PerKind.get bs kind = backend at h
  cases h with
  | absent => exact .nothing
  | @once b =>
    rw [Backend.answer_eq, Backends.exchanged, hbackend]
    exact .last (List.forall_mem_nil _)
  | @twice b hanswer =>
    have hnext : PerKind.get (bs.serve ⟨kind, query, b.answer query⟩) kind = some b.next := by
      rw [Backends.serve, PerKind.get_set, if_pos rfl, hbackend, Option.map_some]
    rw [Backend.answer_eq b.next, Backends.exchanged, Backends.exchanged, hbackend, hnext]
    rw [Backend.answer_eq] at hanswer
    exact .last (List.forall_mem_singleton.2 hanswer)

/-- All calls of an exchange are of its kind and with its query. -/
lemma Exchange.calls_eq {backend : Option Backend}
    (h : Exchange kind query backend calls result) :
    ∀ c ∈ calls, c.kind = kind ∧ c.query = query := by
  cases h with
  | absent => exact List.forall_mem_nil _
  | once => simp
  | twice => simp

/-- Calls with one query to the service for one kind: the requests are all the same, and the
responses come from this service. -/
lemma of_mem_exchanged (h : bs.Adapted) (hcalls : ∀ c ∈ calls, c.kind = kind ∧ c.query = query)
    (hx : x ∈ bs.exchanged calls) : x.1 = Backend.request kind query ∧ x.2.kind? = some kind := by
  induction calls generalizing bs with
  | nil => cases hx
  | cons c rest ih =>
    obtain ⟨⟨rfl, rfl⟩, hrest⟩ := List.forall_mem_cons.1 hcalls
    rcases List.mem_append.1 hx with hx | hx
    · obtain ⟨b, hb, rfl⟩ := Option.map_eq_some_iff.1 (Option.mem_toList.1 hx)
      have hadapts := h c.kind b hb
      exact ⟨hadapts.outgoing_eq c.query, hadapts.kind?_incoming c.query⟩
    · exact ih (h.serve c) hrest hx

/-- A response of which no secret can be made is the last one, and it stands. -/
lemma Heard.of_defective (h : Heard (earlier ++ x :: later) result) (hx : x.2.Defective) :
    later = [] ∧ ∃ e, x.2.Unusable e ∧ result = some (.error e) := by
  obtain ⟨e, hunusable⟩ := hx.exists_unusable
  generalize hall : earlier ++ x :: later = all at h
  cases h with
  | nothing => simp at hall
  | @last before y hbefore =>
    rcases List.eq_nil_or_concat later with rfl | ⟨between, z, rfl⟩
    · obtain ⟨-, hlast⟩ := List.append_inj' hall rfl
      cases hlast
      exact ⟨rfl, e, hunusable, by rw [hunusable.result_eq]⟩
    · -- else it is one of those that have failed for a reason that passes
      rw [List.concat_eq_append, ← List.cons_append, ← List.append_assoc] at hall
      obtain ⟨rfl, -⟩ := List.append_inj' hall rfl
      have hpassed := hbefore x (List.mem_append_right _ List.mem_cons_self)
      rw [hunusable.result_eq, failedForNow, hunusable.isTransient_eq] at hpassed
      cases hpassed

/-- Nothing is exchanged for an object that is fetched, and it fails; or its client has answered. -/
lemma Fetched.exchanged_cases {o : SecretObject} {t : Trace}
    {got : Except Failure (String × SecretValue)} (h : Fetched settings o w t got) :
    (w.backends.exchanged t.calls = [] ∧ ∃ failure, got = .error failure) ∨
      ∃ kind result, o.kind = .ok kind ∧ (∀ c ∈ t.calls, c.kind = kind ∧ c.query = o.query) ∧
        Heard (w.backends.exchanged t.calls) (some result) ∧
        got = ofFetchResult o kind (some result) := by
  cases h with
  | unsupported _ _ hcalls =>
    rw [hcalls]
    exact .inl ⟨rfl, _, rfl⟩
  | refused _ _ _ _ _ hcalls =>
    rw [hcalls]
    exact .inl ⟨rfl, _, rfl⟩
  | @admitted kind _ _ result hkind _ _ _ _ hcalls =>
    have hheard := hcalls.heard
    cases result with
    | none =>
      generalize w.backends.exchanged t.calls = exchanged at hheard ⊢
      cases hheard
      exact .inl ⟨rfl, _, rfl⟩
    | some result => exact .inr ⟨kind, result, hkind, hcalls.calls_eq, hheard, rfl⟩

/-- What goes out for the object of the visit, each request with the response to it. -/
def Visit.exchanged (settings : FetchSettings) (v : Visit) : List (Outgoing × Incoming) :=
  v.world.backends.exchanged (v.trace settings).calls

/-- What goes out for an object: to the service with versions its name and what it pins, where this is
not empty; to the other service its name alone, and to be decrypted. -/
inductive RequestFor (o : SecretObject) : Outgoing → Prop
  | kms :
    o.kind = .ok .kms →
    RequestFor o (.kms
      { secretName := o.record.name
        versionId := nonEmpty o.record.version
        versionStage := nonEmpty o.record.versionLabel })
  | oos :
    o.kind = .ok .oos →
    RequestFor o (.oos { name := o.record.name, withDecryption := true })

/-- All that goes out on a visit is the request for its object. -/
lemma Visit.requestFor (h : v.world.backends.Adapted) (hx : x ∈ v.exchanged settings) :
    RequestFor v.object x.1 := by
  cases handle_obtained settings v.object v.map v.world with
  | reread _ hread =>
    rw [Visit.exchanged, Visit.trace, hread.calls] at hx
    cases hx
  | fetched _ hfetch =>
    rcases hfetch.exchanged_cases with ⟨hnone, -⟩ | ⟨kind, -, hkind, hcalls, -, -⟩
    · rw [Visit.exchanged, Visit.trace, hnone] at hx
      cases hx
    · rw [(of_mem_exchanged h hcalls hx).1]
      cases kind with
      | kms => exact .kms hkind
      | oos => exact .oos hkind

/-- The value and the version of an object are the payload and the version of the last response that
the client of its kind has given to its request, and this version is recorded under its file name.
-/
structure Visit.Supplied (settings : FetchSettings) (v : Visit) (d : Delivery) : Prop where
  object : d.value.object = v.object
  last : ∃ kind response, v.object.kind = .ok kind ∧
    (v.exchanged settings).getLast? = some (Backend.request kind v.object.query, response) ∧
    response.Delivers kind ⟨d.value.bytes, d.version⟩
  recorded : (d.record v.map).get? v.object.fileName = some d.version

/-- An object that is fetched and succeeds is supplied by the last response. -/
lemma Visit.supplied (h : v.world.backends.Adapted) (hfetch : v.Fetches settings)
    (hd : v.outcome settings = .ok d) : v.Supplied settings d := by
  obtain ⟨hobject, -⟩ := deliver_source hd
  obtain ⟨hgot, -⟩ := deliver_eq_ok_iff.1 hd
  have hrecorded : (d.record v.map).get? v.object.fileName = some d.version := by
    rw [Delivery.get?_record, ← hobject]
    exact if_pos List.mem_cons_self
  rw [Visit.Fetches, hgot] at hfetch
  rcases hfetch.exchanged_cases with ⟨-, _, hfailed⟩ | ⟨kind, answer, hkind, hcalls, hheard, hvalue⟩
  · cases hfailed
  · match answer with
    | .error e => cases hvalue
    | .ok secret =>
      obtain ⟨hversion, hvalue⟩ := Prod.mk.inj (Except.ok.inj hvalue)
      obtain ⟨x, hlast, hmade⟩ := hheard.exists_last
      obtain ⟨hrequest, hservice⟩ := of_mem_exchanged h hcalls (List.mem_of_getLast? hlast)
      have hdelivers := Incoming.delivers_of_result_eq hservice hmade
      refine ⟨hobject, ⟨kind, x.2, hkind, ?_, ?_⟩, hrecorded⟩
      · rw [← hrequest]
        exact hlast
      · rw [hversion, hvalue]
        exact hdelivers

/-- A response of which no secret can be made is the last one for its object, which fails for it. -/
lemma Visit.fails_of_defective (h : v.exchanged settings = earlier ++ x :: later)
    (hx : x.2.Defective) :
    later = [] ∧ v.Fetches settings ∧ ∃ e, x.2.Unusable e ∧
      v.outcome settings = .error (.fetch v.object.name e.message) := by
  have hsome : v.exchanged settings ≠ [] := by simp [h]
  cases handle_obtained settings v.object v.map v.world with
  | reread _ hread =>
    exfalso
    apply hsome
    rw [Visit.exchanged, Visit.trace, hread.calls, Backends.exchanged]
  | fetched _ hfetch =>
    rcases hfetch.exchanged_cases with ⟨hnone, -⟩ | ⟨kind, answer, -, -, hheard, hgot⟩
    · exact absurd hnone hsome
    · change Heard (v.exchanged settings) (some answer) at hheard
      rw [h] at hheard
      obtain ⟨hlater, e, hunusable, hanswer⟩ := hheard.of_defective hx
      cases hanswer
      exact ⟨hlater, hfetch, e, hunusable, deliver_of_error hgot⟩

/-- All visits meet the clients that the pass has met, after more calls. -/
lemma visits_adapted (h : w.backends.Adapted) (hv : v ∈ visits settings objects m w) :
    v.world.backends.Adapted :=
  visits_world_of_step (P := fun u => u.backends.Adapted) h (fun _ _ _ hu => adapted_run _ hu) hv

/-- What is exchanged for the objects is what is exchanged on their visits. -/
lemma exchanged_handleAll (settings : FetchSettings) (objects : List SecretObject)
    (m : VersionMap) (w : World) :
    w.backends.exchanged ((handleAll settings objects m).trace w).calls =
      (visits settings objects m w).flatMap (Visit.exchanged settings) := by
  induction objects generalizing m w with
  | nil => rfl
  | cons o rest ih =>
    cases hd : deliver settings o m w with
    | error failure =>
      rw [trace_handleAll_of_error hd, visits_of_error hd, List.flatMap_singleton]
      rfl
    | ok d =>
      rw [trace_handleAll_of_ok hd, visits_of_ok hd, Trace.calls_append, Backends.exchanged_append,
        ← (calls_run (handle settings o m) w).1, ih, List.flatMap_cons]
      rfl

/-- What goes out in a pass is what goes out on its visits. -/
lemma sent_reconcile (settings : FetchSettings) (objects : List SecretObject) (m : VersionMap)
    (w : World) :
    ((reconcile settings objects m).run w).2.calls.map Call.outgoing =
      w.calls.map Call.outgoing ++
        ((visits settings objects m (begun w)).flatMap (Visit.exchanged settings)).map
          Prod.fst := by
  rw [(calls_run _ w).2, calls_reconcile, ← exchanged_handleAll, Backends.map_fst_exchanged]
  rfl

/-- A visit that delivers has met no response of which no secret can be made. -/
lemma notMem_exchanged_of_outcomes {vs : List Visit} {ds : List Delivery}
    (h : List.Forall₂ (fun v d => v.outcome settings = .ok d) vs ds) (hx : x.2.Defective) :
    x ∉ vs.flatMap (Visit.exchanged settings) := by
  induction h with
  | nil => exact List.not_mem_nil
  | @cons v d vs ds hd _ ih =>
    rw [List.flatMap_cons, List.mem_append, not_or]
    refine ⟨fun hmem => ?_, ih⟩
    obtain ⟨before, after, hexchanged⟩ := List.append_of_mem hmem
    obtain ⟨-, -, e, -, hfails⟩ := Visit.fails_of_defective hexchanged hx
    rw [hd] at hfails
    cases hfails

/-- Nothing goes out after a response of which no secret can be made. -/
lemma concludes_of_defective {vs : List Visit}
    {outcome : Except Failure (List SecretValue) × VersionMap}
    (h : Concludes settings m vs outcome)
    (hall : vs.flatMap (Visit.exchanged settings) = earlier ++ x :: later)
    (hx : x.2.Defective) :
    later = [] ∧ ∃ v e, vs.getLast? = some v ∧ v.Fetches settings ∧
      (v.exchanged settings).getLast? = some x ∧ x.2.Unusable e ∧
      outcome.1 = .error (.fetch v.object.name e.message) := by
  cases h with
  | ok hds =>
    exfalso
    apply notMem_exchanged_of_outcomes hds hx
    rw [hall]
    exact List.mem_append_right _ List.mem_cons_self
  | @error vs ds v failure hds hfails =>
    rw [List.flatMap_append, List.flatMap_singleton] at hall
    have hlast : ∃ before, v.exchanged settings = before ++ x :: later := by
      rcases List.append_eq_append_iff.1 hall with ⟨before, -, hbefore⟩ | ⟨more, hmore, hrest⟩
      · exact ⟨before, hbefore⟩
      · cases more with
        | nil => exact ⟨[], hrest.symm⟩
        | cons y more =>
          cases hrest
          exact absurd (by rw [hmore]; simp) (notMem_exchanged_of_outcomes hds hx)
    obtain ⟨before, hbefore⟩ := hlast
    obtain ⟨rfl, hfetch, e, hunusable, houtcome⟩ := Visit.fails_of_defective hbefore hx
    rw [hfails] at houtcome
    cases houtcome
    refine ⟨rfl, v, e, by simp, hfetch, ?_, hunusable, rfl⟩
    rw [hbefore, List.getLast?_concat]

/-- In a pass whose backends are adapters over clients of the two services, what goes out is what
goes out on the visits, each request with the response to it: the name of the object, to the service
with versions also the version and the version stage that it pins. An object that is fetched and succeeds
has the payload and the version of the last response to it, which is not tagged as binary; values
and versions of the pass are those of its objects. A response of which no secret can be made is the
last one: it ends the pass with a fetch error for its object. For an object of the service without
versions that is not read back, another version and another version stage to pin change nothing. -/
theorem value_of_last_response {w : World} (h : w.backends.Adapted) (settings : FetchSettings)
    (objects : List SecretObject) (m : VersionMap) :
    let reached := visits settings objects m (begun w)
    let exchanged := reached.flatMap (Visit.exchanged settings)
    let pass := (reconcile settings objects m).run w
    pass.2.calls.map Call.outgoing = w.calls.map Call.outgoing ++ exchanged.map Prod.fst ∧
    Concludes settings m reached pass.1 ∧
    (∀ v ∈ reached, ∀ x ∈ v.exchanged settings, RequestFor v.object x.1) ∧
    (∀ v ∈ reached, ∀ d, v.Fetches settings → v.outcome settings = .ok d →
      v.Supplied settings d) ∧
    (∀ earlier x later, exchanged = earlier ++ x :: later → x.2.Defective →
      later = [] ∧ ∃ v e, reached.getLast? = some v ∧ v.Fetches settings ∧
        (v.exchanged settings).getLast? = some x ∧ x.2.Unusable e ∧
        pass.1.1 = .error (.fetch v.object.name e.message)) ∧
    ∀ before o after version versionLabel,
      let o' := o.repinned version versionLabel
      objects = before ++ o :: after → o.kind = .ok .oos →
      (∀ values m₁, ((reconcile settings before m).run w).1 = (.ok values, m₁) →
        ∀ pin, ¬ o.HasPin m₁ pin ∧ ¬ o'.HasPin m₁ pin) →
      SameButObject o o' pass ((reconcile settings (before ++ o' :: after) m).run w) := by
  intro reached exchanged pass
  have hconcludes : Concludes settings m reached pass.1 := by
    simp only [pass, outcome_reconcile]
    exact handleAll_concludes settings objects m (begun w)
  refine ⟨sent_reconcile settings objects m w, hconcludes, ?_, ?_, ?_, ?_⟩
  · intro v hv x hx
    exact Visit.requestFor (visits_adapted (w := begun w) h hv) hx
  · intro v hv d hfetch hd
    exact Visit.supplied (visits_adapted (w := begun w) h hv) hfetch hd
  · intro earlier x later hall hx
    exact concludes_of_defective hconcludes hall hx
  · intro before o after version versionLabel o' hobjects hkind hpins
    simp only [pass, hobjects]
    apply reconcile_repinned
    intro values m₁ w₁ hbefore
    have hreached := hpins values m₁ (by rw [outcome_reconcile, hbefore])
    have hadapted : ((handleAll settings before m).run (begun w)).2.backends.Adapted :=
      adapted_run _ h
    rw [hbefore] at hadapted
    exact ⟨hadapted, hkind, fun pin => (hreached pin).1, fun pin => (hreached pin).2⟩

/-- A parameter that is tagged as binary, in capitals, ends the pass after one request, and so it
does if a version is pinned. -/
theorem value_of_last_response_binary :
    let o : SecretObject := ⟨{ name := "key", type := some "oos" }, {}⟩
    let o' := o.repinned (some "9") none
    let m : VersionMap := .empty
    let p : Oos.Parameter := { value := some "x", dataType := some "BINARY" }
    let w : World := { backends := ⟨none, some ⟨.oos fun _ _ => .ok ⟨some p⟩, 0⟩⟩ }
    let pass := (reconcile {} [o] m).run w
    w.backends.Adapted ∧ o.kind = .ok .oos ∧
      (∀ pin, ¬ o.HasPin m pin ∧ ¬ o'.HasPin m pin) ∧
      (visits {} [o] m (begun w)).flatMap (Visit.exchanged {}) =
        [(.oos ⟨"key", true⟩, .oos (.ok ⟨some p⟩))] ∧
      pass.2.calls.map Call.outgoing = [.oos ⟨"key", true⟩] ∧
      pass.1.1 = .error (.fetch "key" "secret data type 'binary' is not supported") ∧
      SameButObject o o' pass ((reconcile {} [o'] m).run w) := by
  intro o o' m p w pass
  have hadapted : w.backends.Adapted := by
    intro kind b hb
    cases kind with
    | kms => cases hb
    | oos =>
      cases hb
      exact .oos
  have hkind : o.kind = .ok .oos := by decide +kernel
  have hpin : ∀ pin, ¬ o.HasPin m pin ∧ ¬ o'.HasPin m pin :=
    fun pin => ⟨fun h => (nomatch h.2), fun h => (nomatch h.2)⟩
  have hexchanged : (visits {} [o] m (begun w)).flatMap (Visit.exchanged {}) =
      [(.oos ⟨"key", true⟩, .oos (.ok ⟨some p⟩))] := by
    have hfetched := handle_fetched {} (begun w) fun pin => (hpin pin).1
    rw [visits_singleton, List.flatMap_singleton]
    show (begun w).backends.exchanged ((handle {} o m).trace (begun w)).calls = _
    generalize (handle {} o m).trace (begun w) = t at hfetched ⊢
    generalize ((obtain {} o m).run (begun w)).1 = got at hfetched
    cases hfetched with
    | unsupported hother =>
      rw [hkind] at hother
      cases hother
    | refused hsame hwait =>
      rw [hkind] at hsame
      cases hsame
      rw [run_wait_of_unlimited rfl] at hwait
      cases hwait
    | @admitted kind _ _ _ hsame _ _ _ _ hcalls =>
      rw [hkind] at hsame
      cases hsame
      generalize hbackend : (begun w).backends.get .oos = backend at hcalls
      cases hbackend
      generalize t.calls = calls at hcalls ⊢
      cases hcalls with
      | once => rfl
      | twice hpassed => exact absurd hpassed (by decide +kernel)
  have hbinary : Incoming.Defective (.oos (.ok ⟨some p⟩)) :=
    .oos (.inl ⟨"BINARY", rfl, (isBinaryType_iff _).1 (by decide +kernel)⟩)
  obtain ⟨hsent, -, -, -, hdefective, hpins⟩ := value_of_last_response hadapted {} [o] m
  rw [hexchanged] at hsent
  obtain ⟨-, v, e, hlast, -, -, hunusable, hfails⟩ := hdefective [] _ [] hexchanged hbinary
  rw [visits_singleton] at hlast
  cases hlast
  have hmessage : e.message = "secret data type 'binary' is not supported" := by
    cases hunusable with
    | oosBinary => decide +kernel
    | oosValue _ hvalue => cases hvalue
  rw [hmessage] at hfails
  refine ⟨hadapted, hkind, hpin, hexchanged, hsent, hfails, ?_⟩
  apply hpins [] o [] (some "9") none rfl hkind
  intro values m₁ hbefore
  rw [outcome_reconcile] at hbefore
  cases hbefore
  exact hpin

end SecretMount.Pass
