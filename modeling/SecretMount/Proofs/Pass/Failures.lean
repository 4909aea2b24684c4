import SecretMount.Proofs.Batch.Valid
import SecretMount.Proofs.Pass.Reuse

/-!
# Why a pass fails

A pass that fails does so at one object, which cannot be read back, fetched or decomposed
(`Visit.Fails`). The text of a failure mentions the object that the failure carries
(`Failure.mentions_subject`). Main statement: `failure_mentions_object`, in a pass over an accepted
batch the text mentions the object at which the pass has failed, unless that object is to be fetched
and its kind has no client. The text for a missing client is the same for all objects
(`missing_client_unnamed`).
-/

namespace SecretMount

namespace Failure

variable {failure : Failure} {object word s t : String}

/-- The text of the failure has the word in it. -/
def Mentions (failure : Failure) (word : String) : Prop :=
  word.toList <:+: failure.message.toList

instance (failure : Failure) (word : String) : Decidable (failure.Mentions word) :=
  inferInstanceAs (Decidable (word.toList <:+: failure.message.toList))

/-- The object that the failure carries, if it carries one. -/
def subject? : Failure → Option String
  | .configuration (.unsupportedType _ object) => some object
  | .configuration (.unsupportedService _ object) => some object
  | .configuration _ => none
  | .validation object _ => some object
  | .fetch object _ => some object
  | .rateLimitTimeout object _ _ => some object
  | .decomposition object _ => some object
  | .diskRead object _ _ => some object

/-- What a text has in it is in every text that the text starts. -/
lemma infix_append_left (h : word.toList <:+: s.toList) : word.toList <:+: (s ++ t).toList := by
  rw [String.toList_append]
  exact List.infix_append_of_infix_left h

/-- What a text has in it is in every text that the text ends. -/
lemma infix_append_right (h : word.toList <:+: t.toList) : word.toList <:+: (s ++ t).toList := by
  rw [String.toList_append]
  exact List.infix_append_of_infix_right h

/-- The word stands between the texts before and after it. -/
lemma infix_between (word s t : String) : word.toList <:+: (s ++ word ++ t).toList :=
  infix_append_left (infix_append_right (List.infix_refl _))

/-- The text of a failure mentions the object that it carries. -/
lemma mentions_subject (h : failure.subject? = some object) : failure.Mentions object := by
  cases failure with
  | configuration fault =>
    cases fault with
    | unsupportedType type object' =>
      cases h
      exact infix_append_right (infix_between ..)
    | unsupportedService service object' =>
      cases h
      exact infix_append_right (infix_between ..)
    | _ => cases h
  | rateLimitTimeout object' kind waited =>
    cases h
    exact infix_append_right (List.infix_refl _)
  | diskRead object' path fault =>
    cases h
    exact infix_append_left (infix_append_left (infix_append_left (infix_between ..)))
  | _ =>
    cases h
    exact infix_append_left (infix_between ..)

/-- The text of an unknown type mentions the type. -/
lemma mentions_type (type object : String) :
    (configuration (.unsupportedType type object)).Mentions type := by
  unfold Mentions message ConfigurationFault.message
  exact infix_append_right (infix_append_left (infix_append_left (infix_between ..)))

end Failure

namespace Pass

open Process

variable {settings : FetchSettings} {o : SecretObject} {objects : List SecretObject}
  {m m' : VersionMap} {w : World} {v : Visit} {failure : Failure}

/-- Why an object is not fetched: its type is unknown, no token was had in time, its kind has no
client, or its backend has refused. -/
inductive Unfetched (o : SecretObject) (w : World) : Failure → Prop where
  | unsupported : Unfetched o w (.configuration (.unsupportedType o.type o.displayName))
  | timeout {kind : BackendKind} {waited : Duration.Nanoseconds} :
    Unfetched o w (.rateLimitTimeout o.name kind waited)
  | missing {kind : BackendKind} :
    o.kind = .ok kind →
    w.backends.get kind = none →
    Unfetched o w (.configuration (.missingClient kind))
  | refused {message : String} : Unfetched o w (.fetch o.name message)

/-- Only without a backend there is no answer. -/
lemma Exchange.backend_eq_none {kind : BackendKind} {query : Query} {backend : Option Backend}
    {calls : List AnsweredCall} (h : Exchange kind query backend calls none) : backend = none := by
  cases h with
  | absent => rfl

/-- A fetch that fails does so for one of the reasons that a fetch has. -/
lemma Fetched.failed {t : Trace} (h : Fetched settings o w t (.error failure)) :
    Unfetched o w failure := by
  generalize hgot : (.error failure : Except Failure (String × SecretValue)) = got at h
  cases h with
  | unsupported hkind =>
    cases hgot
    rw [SecretObject.kind_eq_error hkind]
    exact .unsupported
  | refused =>
    cases hgot
    exact .timeout
  | @admitted _ _ _ result hkind _ _ _ _ hcalls =>
    match result, hgot, hcalls with
    | none, hgot, hcalls =>
      cases hgot
      exact .missing hkind hcalls.backend_eq_none
    | some (.error e), hgot, _ =>
      cases hgot
      exact .refused

/-- A fetch reads no file, so it does not fail for one. -/
lemma Unfetched.kind_ne (h : Unfetched o w failure) : failure.kind ≠ .diskRead := by
  cases h with
  | _ => exact nofun

/-- Why an object that is reached fails: its file cannot be read, it cannot be fetched, or its
payload cannot be decomposed. -/
inductive Visit.Fails (settings : FetchSettings) (v : Visit) : Failure → Prop where
  | unread {version : String} {fault : ReadFault} :
    v.object.HasPin v.map version →
    v.world.disk v.object.mountPath = .error fault →
    Fails settings v (.diskRead v.object.displayName v.object.mountPath fault)
  | unfetched {failure : Failure} :
    Fetched settings v.object v.world (v.trace settings) (.error failure) →
    Fails settings v failure
  | undecomposed {version : String} {value : SecretValue} {fault : DecompositionFault} :
    ((obtain settings v.object v.map).run v.world).1 = .ok (version, value) →
    value.extract = .error (.decomposition value.object.displayName fault) →
    Fails settings v (.decomposition value.object.displayName fault)

/-- Reading back fails because the file cannot be read. -/
lemma Reread.failed {version : String} {t : Trace} (h : Reread o version w t (.error failure)) :
    ∃ fault, w.disk o.mountPath = .error fault ∧
      failure = .diskRead o.displayName o.mountPath fault := by
  have hresult := h.result
  cases hdisk : w.disk o.mountPath with
  | error fault =>
    rw [hdisk] at hresult
    cases hresult
    exact ⟨fault, rfl, rfl⟩
  | ok bytes =>
    rw [hdisk] at hresult
    cases hresult

/-- A visit that fails does so for one of the reasons that a visit has. -/
lemma Visit.fails_of_outcome {v : Visit} (h : v.outcome settings = .error failure) :
    v.Fails settings failure := by
  rw [outcome, deliver, except_bind_eq_error] at h
  rcases h with h | ⟨⟨version, value⟩, hgot, h⟩
  · have hobtained := handle_obtained settings v.object v.map v.world
    rw [h] at hobtained
    cases hobtained with
    | reread hpin hread =>
      obtain ⟨fault, hdisk, rfl⟩ := hread.failed
      exact .unread hpin hdisk
    | fetched _ hfetch => exact .unfetched hfetch
  · rw [except_bind_eq_error] at h
    rcases h with h | ⟨_, -, h⟩
    · obtain ⟨fault, rfl⟩ := SecretValue.extract_eq_error h
      exact .undecomposed hgot h
    · cases h

/-- A pass that fails does so at an object that it reaches. -/
lemma exists_visit_of_error
    (h : ((handleAll settings objects m).run w).1 = (.error failure, m')) :
    ∃ v ∈ visits settings objects m w, v.outcome settings = .error failure := by
  have hconcludes := handleAll_concludes settings objects m w
  rw [h] at hconcludes
  generalize visits settings objects m w = vs at hconcludes ⊢
  cases hconcludes with
  | error _ hfails => exact ⟨_, List.mem_append_right _ List.mem_cons_self, hfails⟩

/-- The value that is there for an object is a value of this object. -/
lemma object_of_obtain {version : String} {value : SecretValue}
    (h : ((obtain settings o m).run w).1 = .ok (version, value)) : value.object = o := by
  have hobtained := handle_obtained settings o m w
  rw [h] at hobtained
  cases hobtained with
  | reread _ hread => exact hread.delivered.2.1
  | fetched _ hfetch =>
    obtain ⟨_, _, -, -, -, rfl⟩ := hfetch.delivered
    rfl

/-- The failure of an object that has a name carries this name, unless the object is to be fetched
and its kind has no client. -/
lemma Visit.Fails.subject (h : v.Fails settings failure) (hname : v.object.name ≠ "") :
    failure.subject? = some v.object.name ∨
      ∃ kind, v.object.kind = .ok kind ∧ v.world.backends.get kind = none ∧
        (∀ version, ¬ v.object.HasPin v.map version) ∧
        failure = .configuration (.missingClient kind) := by
  have hdisplay : v.object.displayName = v.object.name := if_neg hname
  cases h with
  | unread =>
    rw [hdisplay]
    exact .inl rfl
  | unfetched hfetch =>
    cases hfetch.failed with
    | unsupported =>
      rw [hdisplay]
      exact .inl rfl
    | timeout => exact .inl rfl
    | missing hkind hclient => exact .inr ⟨_, hkind, hclient, hfetch.no_pin, rfl⟩
    | refused => exact .inl rfl
  | undecomposed hgot =>
    rw [object_of_obtain hgot, hdisplay]
    exact .inl rfl

/-- Where a pass over an accepted batch fails, the text of the failure mentions the name of the first
object that fails, unless this object is to be fetched and its kind has no client: then the text
names the kind, and no object. -/
theorem failure_mentions_object {mount : MountSettings} {records : List SecretRecord}
    {objects : List SecretObject} (h : Batch.accept mount records = .ok objects)
    (settings : FetchSettings) (m : VersionMap) (w : World) :
    ∀ failure m', ((reconcile settings objects m).run w).1 = (.error failure, m') →
      ∃ before o after values,
        objects = before ++ o :: after ∧
        ((reconcile settings before m).run w).1 = (.ok values, m') ∧
        ((reconcile settings (before ++ [o]) m).run w).1 = (.error failure, m') ∧
        o.name ≠ "" ∧
        (failure.Mentions o.name ∨
          ∃ kind, o.kind = .ok kind ∧ w.backends.get kind = none ∧
            (∀ version, ¬ o.HasPin m' version) ∧
            failure = .configuration (.missingClient kind)) := by
  intro failure m' hpass
  obtain ⟨before, o, after, values, rfl, hbefore, hfails, hlast⟩ := reconcile_eq_error hpass
  have hname : o.name ≠ "" := by
    obtain ⟨hobjects, hadmitted⟩ := Batch.accept_eq_ok_iff.1 h
    rw [← hobjects] at hadmitted
    apply SecretObject.name_ne_of_check
    apply hadmitted.valid
    exact List.mem_append_right before List.mem_cons_self
  refine ⟨before, o, after, values, rfl, hbefore, hfails, hname, ?_⟩
  let reached : Visit := ⟨o, m', ((handleAll settings before m).run (begun w)).2⟩
  have hvisit : reached.Fails settings failure := Visit.fails_of_outcome hlast
  rcases hvisit.subject hname with hsubject | ⟨kind, hkind, hclient, hpin, rfl⟩
  · exact .inl (Failure.mentions_subject hsubject)
  · -- which clients there are does not change in a pass
    have hstart := backends_isSome_run (handleAll settings before m) (begun w) kind
    rw [hclient] at hstart
    have hnone : w.backends.get kind = none := by simpa [begun] using hstart.symm
    exact .inr ⟨kind, hkind, hnone, hpin, rfl⟩

/-- The first object of a batch is fetched and succeeds. The second is mounted as it is pinned, and
its file is missing: the failure mentions this object. -/
theorem failure_mentions_object_unread :
    let mount : MountSettings := ⟨"/m", .default⟩
    let a : SecretObject := ⟨{ name := "db" }, mount⟩
    let b : SecretObject := ⟨{ name := "app/key", version := some "7" }, mount⟩
    let m := VersionMap.ofList [("app_key", "7")]
    let store : Backend := { handler := .store .kms fun _ _ => .ok ⟨.empty, "3"⟩ }
    let w : World := { backends := ⟨some store, none⟩ }
    let failure : Failure := .diskRead "app/key" "/m/app_key" .missing
    Batch.accept mount [a.record, b.record] = .ok [a, b] ∧
    ∃ values m',
      ((reconcile {} [a] m).run w).1 = (.ok values, m') ∧
      ((reconcile {} [a, b] m).run w).1 = (.error failure, m') ∧
      b.name ≠ "" ∧ failure.Mentions b.name := by
  intro mount a b m store w failure
  have haccept : Batch.accept mount [a.record, b.record] = .ok [a, b] := by decide +kernel
  let d : Delivery := ⟨"3", ⟨.empty, a⟩, []⟩
  have hunpinned : ∀ version, ¬ a.HasPin m version := fun version hpin => nomatch hpin.1
  have hkind : a.kind = .ok .kms := by decide +kernel
  have hanswer : store.answer a.query = .ok ⟨.empty, "3"⟩ := rfl
  have hfirst : deliver {} a m (begun w) = .ok d :=
    deliver_of_answer rfl hunpinned hkind rfl rfl hanswer
  have hsecond : deliver {} b (d.record m) ((handle {} a m).run (begun w)).2 = .error failure := by
    have hpin : b.HasPin (d.record m) "7" := ⟨by decide +kernel, by decide +kernel⟩
    have hpath : b.mountPath = "/m/app_key" := by decide +kernel
    have hread := (reload_reread b "7" ((handle {} a m).run (begun w)).2).result
    rw [disk_run, hpath] at hread
    apply deliver_of_error
    rw [obtain_of_pin hpin]
    exact hread
  have halone : ((reconcile {} [a] m).run w).1 = (.ok d.values, d.record m) := by
    rw [outcome_reconcile, run_handleAll_of_ok hfirst]
    rfl
  have hpass : ((reconcile {} [a, b] m).run w).1 = (.error failure, d.record m) := by
    rw [outcome_reconcile, run_handleAll_of_ok hfirst, run_handleAll_of_error hsecond]
    rfl
  obtain ⟨before, o, after, values, hobjects, -, hfails, hname, hmention⟩ :=
    failure_mentions_object haccept {} m w failure _ hpass
  -- the object that fails is not the first one, which succeeds alone
  obtain rfl : b = o := by
    rcases before with _ | ⟨x, _ | ⟨y, before⟩⟩
    · cases hobjects
      rw [List.nil_append, halone] at hfails
      cases hfails
    · cases hobjects
      rfl
    · simp at hobjects
  refine ⟨haccept, d.values, d.record m, halone, hpass, hname, ?_⟩
  rcases hmention with hmention | ⟨kind, -, -, -, hmissing⟩
  · exact hmention
  · simp [failure] at hmissing

/-- An object of an accepted batch fails for a missing client, and the text does not have its name
in it. -/
theorem missing_client_unnamed :
    let o : SecretObject := ⟨{ name := "db" }, ⟨"mnt", .default⟩⟩
    let m : VersionMap := .empty
    Batch.accept o.mount [o.record] = .ok [o] ∧
      ∃ failure, ((reconcile {} [o] m).run {}).1 = (.error failure, m) ∧
        failure.message = "configuration error: kms client is empty" ∧
        ¬ failure.Mentions o.name := by
  intro o m
  have hkind : o.kind = .ok .kms := by decide +kernel
  have hnone : ∀ version, ¬ o.HasPin m version := fun version hpin => nomatch hpin.1
  refine ⟨by decide +kernel, .configuration (.missingClient .kms), ?_, rfl, ?_⟩
  · have hdeliver : deliver {} o m (begun {}) = .error (.configuration (.missingClient .kms)) := by
      apply deliver_of_error
      rw [obtain_of_no_pin hnone]
      exact run_fetch_of_missing hkind rfl rfl
    rw [outcome_reconcile, run_handleAll_of_error hdeliver]
  · decide +kernel

end Pass

end SecretMount
