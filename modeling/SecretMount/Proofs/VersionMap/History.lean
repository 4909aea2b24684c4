import SecretMount.Proofs.Text.ByteOrder
import SecretMount.Proofs.VersionMap.RoundTrip

/-!
# Histories of version maps

A version map comes about by operations: a write, or a rebuild from a list or from JSON. What is
found under an id is its last write since the last rebuild; a load that cannot be read is none. One
operation keeps the map the one that these writes make (`apply_ofList`), and so do any number of
them (`run_eq_ofList`). Main statement: `run_history`.
-/

namespace SecretMount.VersionMap

variable {list : List (String × String)}

/-- The list has the version for the id, and nothing for it after that. -/
def LastWrite (list : List (String × String)) (id version : String) : Prop :=
  ∃ before after, list = before ++ (id, version) :: after ∧ ∀ e ∈ after, e.1 ≠ id

/-- The version that is listed last is that of the last write. -/
lemma lastListed_eq_some_iff {id version : String} :
    lastListed list id = some version ↔ LastWrite list id version := by
  rw [lastListed, KeyedList.get?_eq_some_iff_append]
  constructor
  · rintro ⟨before, after, hlist, hbefore⟩
    refine ⟨after.reverse, before.reverse, ?_, fun e he => hbefore e (List.mem_reverse.1 he)⟩
    rw [← List.reverse_reverse list, hlist]
    simp
  · rintro ⟨before, after, rfl, hafter⟩
    refine ⟨after.reverse, before.reverse, ?_, fun e he => hafter e (List.mem_reverse.1 he)⟩
    simp

/-- The version of an id in the map of a list is that of the last write in the list. -/
lemma get?_ofList_eq_some_iff {id version : String} :
    (ofList list).get? id = some version ↔ LastWrite list id version := by
  rw [get?_ofList, lastListed_eq_some_iff]

/-- A map is rebuilt from the last version listed for each id, and from nothing else. -/
lemma ofList_eq_ofList_iff (list list' : List (String × String)) :
    ofList list = ofList list' ↔
      ∀ id version, LastWrite list id version ↔ LastWrite list' id version := by
  simp only [← get?_ofList_eq_some_iff]
  constructor
  · intro h id version
    rw [h]
  · intro h
    apply eq_of_get?_eq
    intro id
    ext version
    exact h id version

/-- A step in the life of a version map. -/
inductive Operation where
  | insert (id version : String)
  | rebuild (list : List (String × String))
  /-- Reads the JSON text of a map. -/
  | loadMap (text : String)
  /-- Reads the JSON text of a list. -/
  | loadList (text : String)

/-- The map after an operation. What cannot be read leaves the map as it is. -/
def Operation.apply (m : VersionMap) : Operation → VersionMap
  | .insert id version => m.insert id version
  | .rebuild list => ofList list
  | .loadMap text => (ofMapText? text).getD m
  | .loadList text => ((listOfText? text).map ofList).getD m

/-- The map after operations on the empty one. -/
def run (operations : List Operation) : VersionMap := operations.foldl Operation.apply empty

/-- The writes since the last rebuild, after an operation. A rebuild starts over with what is
listed. -/
def Operation.record (writes : List (String × String)) : Operation → List (String × String)
  | .insert id version => writes ++ [(id, version)]
  | .rebuild list => list
  | .loadMap text => (fieldsOfText? text).getD writes
  | .loadList text => (listOfText? text).getD writes

/-- The writes since the last rebuild, after operations on the empty map. -/
def writesOf (operations : List Operation) : List (String × String) :=
  operations.foldl Operation.record []

/-- A write at the end of a list. -/
lemma ofList_concat (list : List (String × String)) (id version : String) :
    ofList (list ++ [(id, version)]) = (ofList list).insert id version := by
  simp only [ofList, insert, KeyedList.ofList, KeyedList.insertAll, List.foldl_append,
    List.foldl_cons, List.foldl_nil]

/-- If the map is made by the writes, it still is after an operation. -/
lemma Operation.apply_ofList (operation : Operation) (writes : List (String × String)) :
    operation.apply (ofList writes) = ofList (operation.record writes) := by
  cases operation with
  | insert id version => exact (ofList_concat writes id version).symm
  | rebuild list => rfl
  | loadMap text =>
    rw [apply, record, ofMapText?_eq_map]
    cases fieldsOfText? text <;> rfl
  | loadList text =>
    rw [apply, record]
    cases listOfText? text <;> rfl

/-- Operations on the map of some writes make the map of these writes and their own. -/
lemma foldl_apply_ofList (operations : List Operation) (writes : List (String × String)) :
    operations.foldl Operation.apply (ofList writes) =
      ofList (operations.foldl Operation.record writes) := by
  induction operations generalizing writes with
  | nil => rfl
  | cons operation rest ih => rw [List.foldl_cons, List.foldl_cons, operation.apply_ofList, ih]

/-- After any operations the map is made by the writes since the last rebuild. -/
lemma run_eq_ofList (operations : List Operation) :
    run operations = ofList (writesOf operations) :=
  foldl_apply_ofList operations []

/-- After any operations the entries of the map are in strictly ascending byte order of the id, and
what is found under an id is its last write since the last rebuild. The list of the map makes the
map again, and so do the JSON texts of the map and of its list. A load that cannot be read changes
nothing. And what is rebuilt from a list depends on the last version for each id alone. -/
theorem run_history (operations : List Operation) :
    (run operations).entries.Pairwise (fun e e' => Text.bytes e.1 < Text.bytes e'.1) ∧
    (∀ id version, (run operations).get? id = some version ↔
      LastWrite (writesOf operations) id version) ∧
    ofList (run operations).toList = run operations ∧
    ofMapText? (run operations).mapText = some (run operations) ∧
    (listOfText? (run operations).listText).map ofList = some (run operations) ∧
    (∀ text, ofMapText? text = none → run (operations ++ [.loadMap text]) = run operations) ∧
    (∀ text, listOfText? text = none → run (operations ++ [.loadList text]) = run operations) ∧
    ∀ list list', ofList list = ofList list' ↔
      ∀ id version, LastWrite list id version ↔ LastWrite list' id version := by
  have hrun (operation : Operation) :
      run (operations ++ [operation]) = operation.apply (run operations) := by
    rw [run, List.foldl_concat]
    rfl
  refine ⟨(run operations).ascending.imp Text.bytes_lt_of_lt, ?_, ofList_toList _,
    ofMapText?_mapText _, ?_, ?_, ?_, ofList_eq_ofList_iff⟩
  · intro id version
    rw [run_eq_ofList, get?_ofList_eq_some_iff]
  · rw [listOfText?_listText, Option.map_some, ofList_toList]
  · intro text hnone
    rw [hrun, Operation.apply, hnone, Option.getD_none]
  · intro text hnone
    rw [hrun, Operation.apply, hnone, Option.map_none, Option.getD_none]

/-- A list that has an id twice, a write, and a load of what is no map. -/
theorem run_history_failed_load :
    let operations : List Operation :=
      [.rebuild [("b", "v1"), ("a", "v2"), ("b", "v3")], .insert "\"c" "v4"]
    ofMapText? "[]" = none ∧ run (operations ++ [.loadMap "[]"]) = run operations ∧
      LastWrite (writesOf operations) "b" "v3" ∧ (run operations).get? "b" = some "v3" := by
  intro operations
  obtain ⟨-, hget, -, -, -, hload, -, -⟩ := run_history operations
  have hnone : ofMapText? "[]" = none := by decide +kernel
  have hwrite : LastWrite (writesOf operations) "b" "v3" :=
    ⟨[("b", "v1"), ("a", "v2")], [("\"c", "v4")], rfl, by simp⟩
  exact ⟨hnone, hload "[]" hnone, hwrite, (hget "b" "v3").2 hwrite⟩

end SecretMount.VersionMap
