import SecretMount.Proofs.Pass.Again
import SecretMount.Proofs.Pass.Failures

/-!
# Objects of unsupported types

A pass looks at the type of an object when it is to fetch the object, and only then. An object whose
type names no backend ends a pass that is to fetch it, and nothing is done for the object
(`handle_unsupported`); one whose pin is mounted is read back like any other. Main statement:
`reconcile_unsupported`, what a pass comes to at such an object. `unsupported_read_back` is a pass
that succeeds although it has one.
-/

namespace SecretMount

namespace SecretObject

variable {o : SecretObject} {type : String}

/-- The record of the object has a type, and the type names no backend. -/
structure HasUnknownType (o : SecretObject) (type : String) : Prop where
  type_eq : o.record.type = some type
  not_empty : type ≠ ""
  not_kms : type ≠ "kms"
  not_oos : type ≠ "oos"

/-- An object of an unknown type has no kind. -/
lemma HasUnknownType.kind_eq (h : o.HasUnknownType type) :
    o.kind = .error (.configuration (.unsupportedType type o.displayName)) := by
  have htype : o.type = type := by
    rw [SecretObject.type, nonEmpty, h.type_eq, Option.filter_some, if_pos (by simp [h.not_empty])]
    rfl
  have hnone : BackendKind.ofObjectType? type = none := by
    rw [BackendKind.ofObjectType?, if_neg (not_or.2 ⟨h.not_empty, h.not_kms⟩), if_neg h.not_oos]
  rw [kind, htype, hnone]

end SecretObject

namespace Pass

open Process

variable {settings : FetchSettings} {o : SecretObject} {before : List SecretObject}
  {m m₁ : VersionMap} {w : World} {failure : Failure} {values : List SecretValue} {version : String}

/-- Nothing is done for an object whose type is unknown, if it is to be fetched. -/
lemma handle_unsupported (settings : FetchSettings) (hpin : ∀ version, ¬ o.HasPin m version)
    (hkind : o.kind = .error failure) : handle settings o m = pure (.error failure) := by
  rw [handle, obtain_of_no_pin hpin, fetch, hkind]
  rfl

/-- An object without a kind that is to be fetched ends the pass, and nothing is done for it. -/
lemma reconcile_of_unsupported (after : List SecretObject)
    (hbefore : ((reconcile settings before m).run w).1 = (.ok values, m₁))
    (hpin : ∀ version, ¬ o.HasPin m₁ version) (hkind : o.kind = .error failure) :
    ((reconcile settings (before ++ o :: after) m).run w).1 = (.error failure, m₁) ∧
    ((reconcile settings (before ++ o :: after) m).run w).2.SameButCounts
      ((reconcile settings before m).run w).2 ∧
    SameUses ((reconcile settings (before ++ o :: after) m).trace w)
      ((reconcile settings before m).trace w) := by
  rw [outcome_reconcile] at hbefore
  have hrest : handleAll settings (o :: after) m₁ = pure (.error failure, m₁) := by
    rw [handleAll, handle_unsupported settings hpin hkind]
    rfl
  -- the work after `before` is `hrest`, which neither asks nor sleeps
  obtain ⟨hrun, htrace⟩ := handleAll_append_of_ok (o :: after) hbefore
  rw [hrest, run_pure] at hrun
  rw [hrest, trace_pure, List.append_nil] at htrace
  refine ⟨?_, ?_, ?_⟩
  · rw [outcome_reconcile, hrun]
    rfl
  · rw [run_reconcile, run_reconcile, hrun]
    rfl
  · have hwhole := sameUses_reconcile settings (before ++ o :: after) m w
    have hfirst := sameUses_reconcile settings before m w
    rw [htrace] at hwhole
    exact ⟨hwhole.calls.trans hfirst.calls.symm, hwhole.reads.trans hfirst.reads.symm,
      hwhole.tokens.trans hfirst.tokens.symm⟩

/-- The values of an object that is read back from its file. -/
def readBack (o : SecretObject) (disk : Disk) : Except Failure (List SecretValue) := do
  let bytes ← (disk o.mountPath).mapError (.diskRead o.displayName o.mountPath)
  (SecretValue.extract ⟨bytes, o⟩).map fun parts => ⟨bytes, o⟩ :: parts

/-- An object with a pin delivers what is read back. -/
lemma deliver_of_pin (h : o.HasPin m version) :
    (deliver settings o m w).map Delivery.values = readBack o w.disk := by
  have hgot := (handle_reread settings w h).result
  cases hdisk : w.disk o.mountPath with
  | error fault =>
    rw [hdisk] at hgot
    rw [deliver_of_error hgot, readBack, hdisk]
    rfl
  | ok bytes =>
    rw [hdisk] at hgot
    have hread : readBack o w.disk =
        (SecretValue.extract ⟨bytes, o⟩).map fun parts => ⟨bytes, o⟩ :: parts := by
      rw [readBack, hdisk]
      rfl
    rw [deliver_of_obtained hgot, hread]
    cases SecretValue.extract ⟨bytes, o⟩ with
    | error failure => rfl
    | ok parts => rfl

/-- The work for a single object comes to what it delivers. -/
lemma run_handleAll_singleton (settings : FetchSettings) (o : SecretObject) (m : VersionMap)
    (w : World) :
    ((handleAll settings [o] m).run w).1.1 = (deliver settings o m w).map Delivery.values := by
  cases h : deliver settings o m w with
  | error failure =>
    rw [run_handleAll_of_error h]
    rfl
  | ok d =>
    rw [run_handleAll_of_ok h]
    exact congrArg Except.ok (List.append_nil _)

/-- After the objects before it, an object is read back: one read, of its own file, and what the
file holds. -/
structure ReadsBack (settings : FetchSettings) (before : List SecretObject) (o : SecretObject)
    (m : VersionMap) (w : World) (values : List SecretValue) : Prop where
  result : ((reconcile settings (before ++ [o]) m).run w).1.1 =
    (readBack o w.disk).map (values ++ ·)
  calls : ((reconcile settings (before ++ [o]) m).trace w).calls =
    ((reconcile settings before m).trace w).calls
  tokens : ((reconcile settings (before ++ [o]) m).trace w).tokens =
    ((reconcile settings before m).trace w).tokens
  reads : ((reconcile settings (before ++ [o]) m).trace w).reads =
    ((reconcile settings before m).trace w).reads ++ [o.mountPath]

/-- A pass reads back an object with a pin, whatever its type is. -/
lemma readsBack_of_pin (hbefore : ((reconcile settings before m).run w).1 = (.ok values, m₁))
    (hpin : o.HasPin m₁ version) : ReadsBack settings before o m w values := by
  rw [outcome_reconcile] at hbefore
  obtain ⟨hrun, htrace⟩ := handleAll_append_of_ok [o] hbefore
  rw [trace_handleAll settings [o], visits_singleton, List.flatMap_singleton] at htrace
  have hread := handle_reread settings ((handleAll settings before m).run (begun w)).2 hpin
  have hwhole := sameUses_reconcile settings (before ++ [o]) m w
  have hfirst := sameUses_reconcile settings before m w
  rw [htrace] at hwhole
  constructor
  · rw [outcome_reconcile, hrun, run_handleAll_singleton, deliver_of_pin hpin, disk_run]
    rfl
  · rw [hwhole.calls, Trace.calls_append, Visit.trace, hread.calls, hfirst.calls, List.append_nil]
  · rw [hwhole.tokens, Trace.tokens_append, Visit.trace, hread.tokens, hfirst.tokens,
      List.append_nil]
  · rw [hwhole.reads, Trace.reads_append, Visit.trace, hread.reads, hfirst.reads]

/-- After the objects before it, an object ends the pass for its type. The text of the failure
mentions the type, and nothing is done that the pass over the objects before does not do. -/
structure EndsForType (settings : FetchSettings) (before : List SecretObject) (o : SecretObject)
    (after : List SecretObject) (m : VersionMap) (w : World) (type : String) (m₁ : VersionMap) :
    Prop where
  result : ((reconcile settings (before ++ o :: after) m).run w).1 =
    (.error (.configuration (.unsupportedType type o.displayName)), m₁)
  mentions : (Failure.configuration (.unsupportedType type o.displayName)).Mentions type
  world : ((reconcile settings (before ++ o :: after) m).run w).2.SameButCounts
    ((reconcile settings before m).run w).2
  uses : SameUses ((reconcile settings (before ++ o :: after) m).trace w)
    ((reconcile settings before m).trace w)

/-- A pass over an object of an unsupported type ends there for the type, without a call, a token or
a read for the object, if the objects before it succeed and leave a map without its pin. Where they
leave a map with its pin, the object is read back and its type is not looked at; only so can the
pass succeed. -/
theorem reconcile_unsupported {o : SecretObject} {type : String} (h : o.HasUnknownType type)
    (settings : FetchSettings) (before after : List SecretObject) (m : VersionMap) (w : World) :
    let first := ((reconcile settings before m).run w).1
    (∀ values m', ((reconcile settings (before ++ o :: after) m).run w).1 = (.ok values, m') →
      ∃ values₁ m₁ version, first = (.ok values₁, m₁) ∧ o.HasPin m₁ version) ∧
    ∀ values m₁, first = (.ok values, m₁) →
      ((∀ version, ¬ o.HasPin m₁ version) →
        EndsForType settings before o after m w type m₁) ∧
      ∀ version, o.HasPin m₁ version → ReadsBack settings before o m w values := by
  intro first
  constructor
  · intro values m' hwhole
    rcases hfirst : first with ⟨failure | values₁, m₁⟩
    · -- the pass has failed before it reaches `o`
      rw [(reconcile_append_of_error (o :: after) hfirst).1] at hwhole
      have hsame := hfirst.symm.trans hwhole
      cases hsame
    · by_cases hpin : ∃ version, o.HasPin m₁ version
      · obtain ⟨version, hpin⟩ := hpin
        exact ⟨values₁, m₁, version, rfl, hpin⟩
      · have hnone := not_exists.1 hpin
        rw [(reconcile_of_unsupported after hfirst hnone h.kind_eq).1] at hwhole
        cases hwhole
  · intro values m₁ hfirst
    constructor
    · intro hpin
      obtain ⟨hresult, hworld, huses⟩ := reconcile_of_unsupported after hfirst hpin h.kind_eq
      exact ⟨hresult, Failure.mentions_type type o.displayName, hworld, huses⟩
    · intro version hpin
      exact readsBack_of_pin hfirst hpin

/-- An object of an unknown type that is mounted and pins nothing ends the pass. -/
theorem reconcile_unsupported_unpinned :
    let o : SecretObject := ⟨{ name := "a", type := some "vault" }, ⟨"mnt", .default⟩⟩
    let m := VersionMap.ofList [("a", "7")]
    o.HasUnknownType "vault" ∧ ((reconcile {} [] m).run {}).1 = (.ok [], m) ∧
      (∀ version, ¬ o.HasPin m version) ∧ EndsForType {} [] o [o] m {} "vault" m := by
  intro o m
  have htype : o.HasUnknownType "vault" := ⟨rfl, by decide, by decide, by decide⟩
  have hfirst : ((reconcile {} [] m).run {}).1 = (.ok [], m) := by
    rw [outcome_reconcile]
    rfl
  have hpin : ∀ version, ¬ o.HasPin m version := fun version hpin => nomatch hpin.1
  exact ⟨htype, hfirst, hpin, ((reconcile_unsupported htype {} [] [o] m {}).2 [] m hfirst).1 hpin⟩

/-- An accepted batch with an object of an unsupported type, and a pass over it that succeeds. -/
theorem unsupported_read_back :
    let o : SecretObject :=
      ⟨{ name := "a", version := some "7", type := some "vault" }, ⟨"mnt", .default⟩⟩
    let m := VersionMap.ofList [("a", "7")]
    let w : World :=
      { disk := fun path => if path = "mnt/a" then .ok "x".toUTF8 else .error .missing }
    Batch.accept o.mount [o.record] = .ok [o] ∧ o.HasUnknownType "vault" ∧
      ((reconcile {} [o] m).run w).1.1 = .ok [⟨"x".toUTF8, o⟩] := by
  intro o m w
  have hpin : o.HasPin m "7" := ⟨by decide +kernel, by decide +kernel⟩
  have hpath : o.mountPath = "mnt/a" := by decide +kernel
  refine ⟨by decide +kernel, ⟨rfl, by decide, by decide, by decide⟩, ?_⟩
  rw [outcome_reconcile, run_handleAll_singleton, deliver_of_pin hpin, readBack, hpath]
  rfl

end Pass

end SecretMount
