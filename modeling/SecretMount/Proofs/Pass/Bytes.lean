import SecretMount.Proofs.Pass.Reconcile
import SecretMount.Proofs.Process.TwoRuns

/-!
# Passes and the bytes of secrets

In two worlds that are the same but for bytes, the value of an object is obtained alike: the same is
asked, counted and waited for, and the version is the same (`obtain_alike`). The one thing that
looks into the bytes is the decomposition of an object that has entries. Either it fails in one of
the two worlds, or a pass goes alike in both (`reconcile_alike`).
-/

namespace SecretMount.Pass

open Process

variable {settings : FetchSettings} {kind : BackendKind} {o : SecretObject}
  {objects : List SecretObject} {m : VersionMap} {w v : World}

/-- Asking for tokens brings no bytes. -/
lemma bytefree_of_only_token {r : Request} (h : Request.Only (.token kind) r) : r.Bytefree := by
  cases r with
  | call other query => rcases h with h | h <;> cases h
  | read path => rcases h with h | h <;> cases h
  | _ => trivial

/-- Waits for a token run alike. -/
lemma wait_alike (kind : BackendKind) (timeout : Duration.Nanoseconds) :
    Alike Eq (wait kind timeout) (wait kind timeout) :=
  alike_self ((wait_asks timeout).mono fun _ => bytefree_of_only_token)

/-- Calls run alike and give the same result but for bytes. -/
lemma callCounted_alike (kind : BackendKind) (query : Query) :
    Alike (Option.Rel FetchResult.SameButBytes) (callCounted kind query)
      (callCounted kind query) := by
  refine alike_bind (alike_call kind query) fun reply reply' hreply => ?_
  cases hreply with
  | none => exact alike_pure .none
  | some hresult =>
    refine alike_bind (alike_count _) fun _ _ _ => ?_
    cases hresult with
    | ok hversion => exact alike_pure (.some (.ok hversion))
    | error halike =>
      exact alike_bind (alike_count _) fun _ _ _ => alike_pure (.some (.error halike))

/-- Second calls run alike and give the same result but for bytes. -/
lemma retry_alike (settings : FetchSettings) (kind : BackendKind) (query : Query) :
    Alike (Option.Rel FetchResult.SameButBytes) (retry settings kind query)
      (retry settings kind query) := by
  refine alike_bind (alike_count _) fun _ _ _ => ?_
  refine alike_bind (alike_request .clock) ?_
  rintro now _ ⟨⟩
  exact alike_bind (alike_sleepTo _) fun _ _ _ => callCounted_alike kind query

/-- Calls with their second calls run alike and give the same result but for bytes. -/
lemma callWithRetry_alike (settings : FetchSettings) (kind : BackendKind) (query : Query) :
    Alike (Option.Rel FetchResult.SameButBytes) (callWithRetry settings kind query)
      (callWithRetry settings kind query) := by
  refine alike_bind (callCounted_alike kind query) fun reply reply' hreply => ?_
  cases hreply with
  | none => exact alike_pure .none
  | some hresult =>
    cases hresult with
    | ok hversion => exact alike_pure (.some (.ok hversion))
    | error halike =>
      dsimp only
      rw [halike.isTransient_eq]
      split
      case isTrue => exact retry_alike settings kind query
      case isFalse => exact alike_pure (.some (.error halike))

/-- The same version, and values of the same object. -/
structure SameGot (o : SecretObject) (got got' : String × SecretValue) : Prop where
  version_eq : got.1 = got'.1
  object : got.2.object = o
  object' : got'.2.object = o

/-- Results that differ in bytes come to values that differ in bytes. -/
lemma ofFetchResult_alike {result result' : Option FetchResult}
    (h : Option.Rel FetchResult.SameButBytes result result') :
    ExceptRel Eq (SameGot o) (ofFetchResult o kind result) (ofFetchResult o kind result') := by
  cases h with
  | none => exact .error rfl
  | some hresult =>
    cases hresult with
    | ok hversion => exact .ok ⟨hversion, rfl, rfl⟩
    | error halike => exact .error (by rw [halike.message_eq])

/-- Fetches of an object run alike and give the same but for bytes. -/
lemma fetch_alike (settings : FetchSettings) (o : SecretObject) :
    Alike (ExceptRel Eq (SameGot o)) (fetch settings o) (fetch settings o) := by
  unfold fetch
  cases o.kind with
  | error failure => exact alike_pure (.error rfl)
  | ok kind =>
    refine alike_bind (wait_alike kind settings.waitTimeout) ?_
    rintro waited _ rfl
    cases waited with
    | error exceeded => exact alike_pure (.error rfl)
    | ok ms =>
      refine alike_bind (alike_count _) fun _ _ _ => ?_
      refine alike_bind (callWithRetry_alike settings kind o.query) fun result result' hresult => ?_
      exact alike_pure (ofFetchResult_alike hresult)

/-- Reading back the value of an object runs alike and gives the same but for bytes. -/
lemma reload_alike (o : SecretObject) (version : String) :
    Alike (ExceptRel Eq (SameGot o)) (reload o version) (reload o version) := by
  refine alike_bind (alike_request (.read o.mountPath)) fun reply reply' hreply => ?_
  cases hreply with
  | error hfault =>
    cases hfault
    exact alike_pure (.error rfl)
  | ok =>
    exact alike_bind (alike_count _) fun _ _ _ => alike_pure (.ok ⟨rfl, rfl, rfl⟩)

/-- Getting the value of an object runs alike and gives the same but for bytes. -/
lemma obtain_alike (settings : FetchSettings) (o : SecretObject) (m : VersionMap) :
    Alike (ExceptRel Eq (SameGot o)) (obtain settings o m) (obtain settings o m) := by
  unfold obtain
  cases o.current? m with
  | none => exact fetch_alike settings o
  | some version => exact reload_alike o version

/-- Values of the same objects. -/
def SameObjects (values values' : List SecretValue) : Prop :=
  values.map SecretValue.object = values'.map SecretValue.object

/-- The work for an object has failed because its payload could not be decomposed. -/
def Undecomposed {α : Type} (o : SecretObject) (result : Except Failure α) : Prop :=
  o.entries ≠ [] ∧ ∃ fault, result = .error (.decomposition o.displayName fault)

/-- Counting as many parts runs alike. -/
lemma countParts_alike {parts parts' : List SecretValue} (h : SameObjects parts parts') :
    Alike Eq (countParts parts) (countParts parts') := by
  have hlength : parts.length = parts'.length := by
    rw [← List.length_map SecretValue.object, h, List.length_map]
  have hnil : parts = [] ↔ parts' = [] := by
    rw [← List.length_eq_zero_iff, hlength, List.length_eq_zero_iff]
  unfold countParts
  simp only [hnil, hlength]
  split
  case isTrue => exact alike_pure rfl
  case isFalse => exact alike_count _

/-- Values of the same objects are recorded alike. -/
lemma record_alike {value value' : SecretValue} {parts parts' : List SecretValue}
    (hobject : value.object = value'.object) (h : SameObjects parts parts') (m : VersionMap)
    (version : String) : record m version value parts = record m version value' parts' := by
  have hfiles (parts : List SecretValue) : parts.map (fun part => part.object.fileName) =
      (parts.map SecretValue.object).map SecretObject.fileName := by
    rw [List.map_map]
    rfl
  rw [record, record, hfiles, hfiles, h, hobject]

/-- What the work for an object comes to is the same but for bytes. -/
def SameHandled (handled handled' : List SecretValue × VersionMap) : Prop :=
  SameObjects handled.1 handled'.1 ∧ handled.2 = handled'.2

/-- A payload that is there and fails to be decomposed makes its object fail for that. -/
lemma undecomposed_of_obtained {version : String} {value : SecretValue} {failure : Failure}
    (h : ((obtain settings o m).run w).1 = .ok (version, value)) (hobject : value.object = o)
    (hparts : value.extract = .error failure) : Undecomposed o (deliver settings o m w) := by
  have hentries := SecretValue.entries_ne_nil_of_extract_eq_error hparts
  obtain ⟨fault, rfl⟩ := SecretValue.extract_eq_error hparts
  rw [hobject] at hentries hparts
  exact ⟨hentries, fault, by rw [deliver_of_obtained h, hparts]; rfl⟩

/-- The work for an object runs alike, unless a payload cannot be decomposed. -/
lemma handle_alike (settings : FetchSettings) (o : SecretObject) (m : VersionMap)
    (h : w.SameButBytes v) :
    RunsAlike (ExceptRel Eq SameHandled) (handle settings o m) (handle settings o m) w v ∨
      Undecomposed o (deliver settings o m w) ∨ Undecomposed o (deliver settings o m v) := by
  have hobtained := obtain_alike settings o m h
  have hresult := hobtained.result
  generalize hgot : ((obtain settings o m).run w).1 = got at hresult
  generalize hgot' : ((obtain settings o m).run v).1 = got' at hresult
  cases hresult with
  | @error failure _ hsame =>
    cases hsame
    refine .inl (hobtained.bind ?_)
    rw [hgot, hgot']
    exact alike_pure (.error rfl) hobtained.world
  | @ok got got' hsame =>
    obtain ⟨version, value⟩ := got
    obtain ⟨version', value'⟩ := got'
    obtain ⟨hversion, hobject, hobject'⟩ := hsame
    cases hversion
    cases hparts : value.extract with
    | error failure => exact .inr (.inl (undecomposed_of_obtained hgot hobject hparts))
    | ok parts =>
      cases hparts' : value'.extract with
      | error failure => exact .inr (.inr (undecomposed_of_obtained hgot' hobject' hparts'))
      | ok parts' =>
        -- the parts of both values are those of the entries of `o`
        have hobjects : SameObjects parts parts' := by
          rw [SameObjects, SecretValue.parts_objects (SecretValue.extract_parts hparts),
            SecretValue.parts_objects (SecretValue.extract_parts hparts'), hobject, hobject']
        have hvalue : value.object = value'.object := hobject.trans hobject'.symm
        refine .inl (hobtained.bind ?_)
        rw [hgot, hgot']
        dsimp only
        rw [hparts, hparts']
        refine alike_bind (countParts_alike hobjects) (fun _ _ _ => ?_) hobtained.world
        exact alike_pure (.ok ⟨congrArg₂ List.cons hvalue hobjects,
          record_alike hvalue hobjects m version⟩)

/-- Where the work for an object runs alike, it delivers the same but for bytes or fails in the same
way. -/
lemma deliver_alike
    (h : RunsAlike (ExceptRel Eq SameHandled) (handle settings o m) (handle settings o m) w v) :
    (∃ failure, deliver settings o m w = .error failure ∧ deliver settings o m v = .error failure) ∨
    ∃ d d', deliver settings o m w = .ok d ∧ deliver settings o m v = .ok d' ∧
      SameObjects d.values d'.values ∧ d.record m = d'.record m := by
  have hresult := h.result
  rw [run_handle, run_handle] at hresult
  cases hd : deliver settings o m w with
  | error failure =>
    cases hd' : deliver settings o m v with
    | error failure' =>
      rw [hd, hd'] at hresult
      cases hresult with
      | error hsame => exact .inl ⟨failure, rfl, by rw [hsame]⟩
    | ok d' =>
      rw [hd, hd'] at hresult
      cases hresult
  | ok d =>
    cases hd' : deliver settings o m v with
    | error failure' =>
      rw [hd, hd'] at hresult
      cases hresult
    | ok d' =>
      rw [hd, hd'] at hresult
      cases hresult with
      | ok hsame => exact .inr ⟨d, d', rfl, rfl, hsame.1, hsame.2⟩

/-- What passes come to is the same but for bytes. -/
def SamePass (pass pass' : Except Failure (List SecretValue) × VersionMap) : Prop :=
  ExceptRel Eq SameObjects pass.1 pass'.1 ∧ pass.2 = pass'.2

/-- Lists with the same objects have them together. -/
lemma SameObjects.append {values values' others others' : List SecretValue}
    (h : SameObjects values values') (h' : SameObjects others others') :
    SameObjects (values ++ others) (values' ++ others') := by
  rw [SameObjects, List.map_append, List.map_append, h, h']

/-- A failure to decompose is one whatever is made of a success. -/
lemma Undecomposed.map {α β : Type} {result : Except Failure α} (h : Undecomposed o result)
    (f : α → β) : Undecomposed o (result.map f) := by
  obtain ⟨hentries, fault, rfl⟩ := h
  exact ⟨hentries, fault, rfl⟩

/-- An object that cannot be decomposed ends the work for the objects. -/
lemma Undecomposed.handleAll (h : Undecomposed o (deliver settings o m w))
    (rest : List SecretObject) :
    Undecomposed o ((handleAll settings (o :: rest) m).run w).1.1 := by
  obtain ⟨hentries, fault, hfails⟩ := h
  rw [run_handleAll_of_error hfails]
  exact ⟨hentries, fault, rfl⟩

/-- The work for several objects runs alike, unless a payload cannot be decomposed. -/
lemma handleAll_alike (settings : FetchSettings) (objects : List SecretObject) (m : VersionMap)
    (h : w.SameButBytes v) :
    RunsAlike SamePass (handleAll settings objects m) (handleAll settings objects m) w v ∨
      ∃ o ∈ objects, Undecomposed o ((handleAll settings objects m).run w).1.1 ∨
        Undecomposed o ((handleAll settings objects m).run v).1.1 := by
  induction objects generalizing m w v with
  | nil => exact .inl (alike_pure ⟨.ok rfl, rfl⟩ h)
  | cons o rest ih =>
    rcases handle_alike settings o m h with hhandled | hfails | hfails
    · rcases deliver_alike hhandled with
        ⟨failure, hd, hd'⟩ | ⟨d, d', hd, hd', hobjects, hmap⟩
      · refine .inl (hhandled.bind ?_)
        rw [run_handle, run_handle, hd, hd']
        exact alike_pure ⟨.error rfl, rfl⟩ hhandled.world
      · rcases ih (d.record m) hhandled.world with hrest | ⟨o', ho', hfails⟩
        · refine .inl (hhandled.bind ?_)
          rw [run_handle, run_handle, hd, hd']
          simp only [Except.map, ← hmap]
          -- both passes go on with the same map, and put their values before the others
          refine hrest.bind (alike_pure ?_ hrest.world)
          exact ⟨hrest.result.1.map fun _ _ hvalues => hobjects.append hvalues, hrest.result.2⟩
        · refine .inr ⟨o', List.mem_cons_of_mem o ho', ?_⟩
          rw [run_handleAll_of_ok hd, run_handleAll_of_ok hd', ← hmap]
          exact hfails.imp (·.map _) (·.map _)
    · exact .inr ⟨o, List.mem_cons_self, .inl (hfails.handleAll rest)⟩
    · exact .inr ⟨o, List.mem_cons_self, .inr (hfails.handleAll rest)⟩

/-- Outcomes that differ in bytes are counted alike. -/
lemma countOutcome_alike {result result' : Except Failure (List SecretValue)}
    (h : ExceptRel Eq SameObjects result result') :
    Alike Eq (countOutcome result) (countOutcome result') := by
  cases h with
  | error hsame =>
    cases hsame
    exact alike_count _
  | ok => exact alike_pure rfl

/-- Worlds that differ in bytes still do when a pass has begun. -/
lemma begun_alike (h : w.SameButBytes v) : (begun w).SameButBytes (begun v) :=
  (alike_count .reconciliation h).world

/-- A pass goes alike in worlds that are the same but for bytes, or the decomposition of an object
with entries fails in one of them. -/
lemma reconcile_alike (settings : FetchSettings) (objects : List SecretObject) (m : VersionMap)
    (h : w.SameButBytes v) :
    RunsAlike SamePass (reconcile settings objects m) (reconcile settings objects m) w v ∨
      ∃ o ∈ objects, Undecomposed o ((reconcile settings objects m).run w).1.1 ∨
        Undecomposed o ((reconcile settings objects m).run v).1.1 := by
  rcases handleAll_alike settings objects m (begun_alike h) with hwork | hfails
  · left
    refine (alike_request .clock h).bind ?_
    rw [show ((request .clock).run v).1 = ((request .clock).run w).1 from h.clock_eq.symm]
    refine (alike_count .reconciliation h).bind (hwork.bind ?_)
    refine alike_bind (alike_request .clock) ?_ hwork.world
    rintro finish _ ⟨⟩
    refine alike_bind (alike_count _) fun _ _ _ => ?_
    exact alike_bind (countOutcome_alike hwork.result.1) fun _ _ _ => alike_pure hwork.result
  · right
    rw [outcome_reconcile, outcome_reconcile]
    exact hfails

end SecretMount.Pass
