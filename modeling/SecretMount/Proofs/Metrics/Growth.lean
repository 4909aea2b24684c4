import Mathlib.Algebra.BigOperators.Group.List.Basic
import Mathlib.Algebra.GroupWithZero.Nat
import Mathlib.Tactic.Lemma
import SecretMount.Backend.Kind
import SecretMount.Metrics
import SecretMount.Proofs.VersionMap.Lookup

/-!
# By how much metrics grow

`Metrics.grown` is the size of a metric's entry in the change of all metrics through some events: a
counter's number, or the number of a histogram's samples. It is the sum of what the events add
(`grown_eq_added`), so it can be reckoned event by event. The change of the metrics goes by the
texts of their names, which no two names share (`Name.text_inj`), and every metric is either a
counter or a histogram (`isSamples_of_mem_changes`), so that no two amounts are added that do not
fit.
-/

namespace SecretMount

/-- Kinds are known by their names. -/
@[simp] lemma BackendKind.name_inj {kind kind' : BackendKind} :
    kind.name = kind'.name ↔ kind = kind' := by
  cases kind <;> cases kind' <;> decide

namespace Metrics

namespace Name

/-- The passes. -/
abbrev reconciliations : Name := ⟨"reconciliations_total", none⟩

/-- The durations of passes. -/
abbrev reconciliationDuration : Name := ⟨"reconciliation_duration_seconds", none⟩

/-- The passes that failed with an error of a kind. -/
abbrev errors (kind : String) : Name := ⟨"errors_total", some kind⟩

/-- The calls to a backend. -/
abbrev fetches (kind : BackendKind) : Name := ⟨"backend_fetches_total", some kind.name⟩

/-- The durations of calls to a backend. -/
abbrev fetchDuration (kind : BackendKind) : Name :=
  ⟨"backend_fetch_duration_seconds", some kind.name⟩

/-- The calls to a backend that failed. -/
abbrev fetchErrors (kind : BackendKind) : Name := ⟨"backend_fetch_errors_total", some kind.name⟩

/-- The second calls to a backend. -/
abbrev retries (kind : BackendKind) : Name := ⟨"backend_retries_total", some kind.name⟩

/-- The waits for a token of a kind. -/
abbrev waits (kind : BackendKind) : Name := ⟨"rate_limit_wait_seconds", some kind.name⟩

/-- The values that were read back. -/
abbrev reloads : Name := ⟨"secrets_reloaded_total", none⟩

/-- The parts that were taken out of payloads. -/
abbrev extracted : Name := ⟨"jmes_secrets_total", none⟩

/-- The name has no colon but the one before its label. -/
def Plain (n : Name) : Prop := ':' ∉ n.base.toList

/-- The text of the label with the colon before it. -/
def tail (n : Name) : List Char :=
  match n.label with
  | none => []
  | some label => ':' :: label.toList

/-- The text of a metric is its base and what its label adds. -/
lemma toList_text (n : Name) : n.text.toList = n.base.toList ++ n.tail := by
  unfold text tail
  cases n.label with
  | none => exact (List.append_nil _).symm
  | some label => simp

/-- Labels are known by what they add to the text. -/
lemma tail_inj {m n : Name} (h : m.tail = n.tail) : m.label = n.label := by
  unfold tail at h
  cases hm : m.label with
  | none =>
    cases hn : n.label with
    | none => rfl
    | some label =>
      rw [hm, hn] at h
      cases h
  | some label =>
    cases hn : n.label with
    | none =>
      rw [hm, hn] at h
      cases h
    | some label' =>
      rw [hm, hn] at h
      rw [String.toList_injective (List.cons.inj h).2]

/-- The base is what stands before the first colon. -/
lemma takeWhile_text {n : Name} (h : n.Plain) :
    n.text.toList.takeWhile (· ≠ ':') = n.base.toList := by
  rw [toList_text, List.takeWhile_append_of_pos]
  · unfold tail
    cases n.label with
    | none => simp
    | some label => simp
  · intro c hc
    apply decide_eq_true
    rintro rfl
    exact h hc

/-- Metrics are known by their texts where their bases have no colon. -/
lemma text_inj {m n : Name} (hm : m.Plain) (hn : n.Plain) (h : m.text = n.text) : m = n := by
  have hbase : m.base.toList = n.base.toList := by
    rw [← takeWhile_text hm, ← takeWhile_text hn, h]
  have hlists := congrArg String.toList h
  rw [toList_text, toList_text, hbase] at hlists
  obtain ⟨base, label⟩ := m
  cases String.toList_injective hbase
  cases tail_inj (List.append_cancel_left hlists)
  rfl

end Name

/-- A number, or how many samples there are. -/
def Amount.size : Amount → ℕ
  | .count n => n
  | .samples total _ => total

/-- Whether an amount is one of a histogram. -/
def Amount.isSamples : Amount → Bool
  | .count _ => false
  | .samples _ _ => true

/-- The size of two amounts of one sort is the sum of their sizes. -/
lemma Amount.size_add {a b : Amount} (h : a.isSamples = b.isSamples) :
    (a.add b).size = a.size + b.size := by
  cases a <;> cases b <;> first | rfl | cases h

/-- An amount stays of its sort when more is added. -/
lemma Amount.isSamples_add (a b : Amount) : (a.add b).isSamples = a.isSamples := by
  cases a <;> cases b <;> rfl

/-- An amount that is nothing has no size. -/
lemma Amount.size_of_isZero {a : Amount} (h : a.isZero = true) : a.size = 0 := by
  cases a <;> exact of_decide_eq_true h

/-- The names of histograms. -/
def Name.isHistogram (n : Name) : Bool :=
  n.base ∈ ["reconciliation_duration_seconds", "backend_fetch_duration_seconds",
    "rate_limit_wait_seconds"]

/-- The bases of the metrics that events change have no colon. -/
lemma plain_of_mem_changes {e : Event} {c : Name × Change} (h : c ∈ e.changes) : c.1.Plain := by
  cases e <;> simp only [Event.changes, List.mem_cons, List.not_mem_nil, or_false] at h <;>
    rcases h with rfl | rfl <;> simp [Name.Plain]

/-- Events add samples to the histograms and numbers to the other metrics. -/
lemma isSamples_of_mem_changes {e : Event} {c : Name × Change} (h : c ∈ e.changes) :
    c.2.amount.isSamples = c.1.isHistogram := by
  cases e <;> simp only [Event.changes, List.mem_cons, List.not_mem_nil, or_false] at h <;>
    rcases h with rfl | rfl <;> rfl

/-- The size of the amount under a text. -/
def sizeAt (text : String) (amounts : List (String × Amount)) : ℕ :=
  ((KeyedList.get? text amounts).map Amount.size).getD 0

/-- By how much a metric grows through the events. -/
def grown (events : List Event) (name : Name) : ℕ := sizeAt name.text (delta events)

/-- What an event adds to a metric. -/
def Event.adds (name : Name) (e : Event) : ℕ :=
  (e.changes.map fun c => if c.1 = name then c.2.amount.size else 0).sum

section Adds

variable (name : Name) (label : String) (seconds : Float)

/-- A pass adds one to the passes. -/
@[simp] lemma adds_reconciliation :
    Event.reconciliation.adds name = if .reconciliations = name then 1 else 0 :=
  List.sum_singleton

/-- The duration of a pass is one sample. -/
@[simp] lemma adds_reconciliationDuration :
    (Event.reconciliationDuration seconds).adds name =
      if .reconciliationDuration = name then 1 else 0 :=
  List.sum_singleton

/-- An error adds one to the errors of its kind. -/
@[simp] lemma adds_error :
    (Event.error label).adds name = if .errors label = name then 1 else 0 :=
  List.sum_singleton

/-- A call adds one to the calls of its kind and is one sample of their durations. -/
@[simp] lemma adds_fetch (kind : BackendKind) :
    (Event.fetch kind.name seconds).adds name =
      (if .fetches kind = name then 1 else 0) + if .fetchDuration kind = name then 1 else 0 :=
  (List.sum_cons).trans (congrArg _ List.sum_singleton)

/-- A failed call adds one to the failed calls of its kind. -/
@[simp] lemma adds_fetchError (kind : BackendKind) :
    (Event.fetchError kind.name).adds name = if .fetchErrors kind = name then 1 else 0 :=
  List.sum_singleton

/-- A second call adds one to the second calls of its kind. -/
@[simp] lemma adds_retry (kind : BackendKind) :
    (Event.retry kind.name).adds name = if .retries kind = name then 1 else 0 :=
  List.sum_singleton

/-- A wait is one sample of the waits of its kind. -/
@[simp] lemma adds_rateLimitWait (kind : BackendKind) :
    (Event.rateLimitWait kind.name seconds).adds name = if .waits kind = name then 1 else 0 :=
  List.sum_singleton

/-- A value that is read back adds one to those. -/
@[simp] lemma adds_reload : Event.reload.adds name = if .reloads = name then 1 else 0 :=
  List.sum_singleton

/-- Parts add their number to the parts. -/
@[simp] lemma adds_extraction (n : ℕ) :
    (Event.extraction n).adds name = if .extracted = name then n else 0 :=
  List.sum_singleton

end Adds

/-- What events add to a metric. -/
def added (events : List Event) (name : Name) : ℕ := (events.map (Event.adds name)).sum

/-- Without events nothing is added. -/
@[simp] lemma added_nil (name : Name) : added [] name = 0 := rfl

/-- What events add is what the first one adds and what the others add. -/
@[simp] lemma added_cons (e : Event) (rest : List Event) (name : Name) :
    added (e :: rest) name = e.adds name + added rest name := List.sum_cons

/-- What two lists of events add is the sum of what each of them adds. -/
@[simp] lemma added_append (first second : List Event) (name : Name) :
    added (first ++ second) name = added first name + added second name := by
  rw [added, List.map_append, List.sum_append, added, added]

variable {text : String} {amounts : List (String × Amount)} {b : Bool}

/-- All amounts under the text are of one sort. -/
def OfSort (text : String) (b : Bool) (amounts : List (String × Amount)) : Prop :=
  ∀ a, KeyedList.get? text amounts = some a → a.isSamples = b

/-- A change is added under the name of its metric, and no other amount changes. -/
lemma get?_addChange (name : Name) (change : Change) :
    KeyedList.get? text (addChange amounts name change) =
      if text = name.text then
        some (((KeyedList.get? text amounts).map (·.add change.amount)).getD change.amount)
      else KeyedList.get? text amounts := by
  rw [addChange, KeyedList.get?_insert]
  split
  case isTrue heq =>
    rw [heq]
    cases KeyedList.get? name.text amounts <;> rfl
  case isFalse => rfl

/-- A change keeps the sort of the amounts of a metric and adds its size to theirs. -/
lemma OfSort.addChange {c : Name × Change} (h : OfSort text b amounts)
    (hc : text = c.1.text → c.2.amount.isSamples = b) :
    OfSort text b (addChange amounts c.1 c.2) ∧
      sizeAt text (Metrics.addChange amounts c.1 c.2) =
        sizeAt text amounts + if text = c.1.text then c.2.amount.size else 0 := by
  unfold OfSort sizeAt
  rw [get?_addChange]
  split
  case isFalse => exact ⟨h, rfl⟩
  case isTrue heq =>
    cases hget : KeyedList.get? text amounts with
    | none => simpa using hc heq
    | some before =>
      have hsort : before.isSamples = c.2.amount.isSamples := (h _ hget).trans (hc heq).symm
      simpa [Amount.size_add hsort, Amount.isSamples_add] using h _ hget

/-- Changes add the sizes of those that are of the metric. -/
lemma sizeAt_foldl {changes : List (Name × Change)} (h : OfSort text b amounts)
    (hc : ∀ c ∈ changes, text = c.1.text → c.2.amount.isSamples = b) :
    sizeAt text (changes.foldl (fun acc c => addChange acc c.1 c.2) amounts) =
      sizeAt text amounts +
        (changes.map fun c => if text = c.1.text then c.2.amount.size else 0).sum := by
  induction changes generalizing amounts with
  | nil => rfl
  | cons c rest ih =>
    obtain ⟨hfirst, hrest⟩ := List.forall_mem_cons.1 hc
    obtain ⟨hsort, hsize⟩ := h.addChange hfirst
    rw [List.foldl_cons, ih hsort hrest, hsize, Nat.add_assoc, List.map_cons, List.sum_cons]

/-- Changes keep the amounts in the order of their names. -/
lemma ascending_foldl (changes : List (Name × Change)) (h : KeyedList.Ascending amounts) :
    KeyedList.Ascending (changes.foldl (fun acc c => addChange acc c.1 c.2) amounts) := by
  induction changes generalizing amounts with
  | nil => exact h
  | cons c rest ih => exact ih (KeyedList.ascending_insert _ _ h)

/-- What has not changed has no size, so that nothing is lost where it is left out. -/
lemma sizeAt_filter (h : KeyedList.Ascending amounts) :
    sizeAt text (amounts.filter fun e => !e.2.isZero) = sizeAt text amounts := by
  rw [sizeAt, KeyedList.get?_filter h fun a => !a.isZero, sizeAt]
  cases KeyedList.get? text amounts with
  | none => rfl
  | some a =>
    cases hzero : a.isZero with
    | false => simp [Option.filter, hzero]
    | true => simp [Option.filter, hzero, Amount.size_of_isZero hzero]

/-- A metric grows by what the events add to it. -/
lemma grown_eq_added (events : List Event) {name : Name} (h : name.Plain) :
    grown events name = added events name := by
  have hname : ∀ c ∈ events.flatMap Event.changes, name.text = c.1.text ↔ c.1 = name := by
    intro c hc
    obtain ⟨e, -, hc⟩ := List.mem_flatMap.1 hc
    exact ⟨fun heq => (Name.text_inj h (plain_of_mem_changes hc) heq).symm, fun heq => by rw [heq]⟩
  have hsort : ∀ c ∈ events.flatMap Event.changes, name.text = c.1.text →
      c.2.amount.isSamples = name.isHistogram := by
    intro c hc heq
    rw [← (hname c hc).1 heq]
    obtain ⟨e, -, hc⟩ := List.mem_flatMap.1 hc
    exact isSamples_of_mem_changes hc
  have hnone : OfSort name.text name.isHistogram [] := nofun
  have hsum : (events.flatMap Event.changes).map
        (fun c => if name.text = c.1.text then c.2.amount.size else 0) =
      (events.flatMap Event.changes).map fun c => if c.1 = name then c.2.amount.size else 0 :=
    List.map_congr_left fun c hc => by simp only [hname c hc]
  rw [grown, delta, sizeAt_filter (ascending_foldl _ List.Pairwise.nil), sizeAt_foldl hnone hsort,
    hsum]
  show 0 + _ = _
  rw [Nat.zero_add, List.map_flatMap, List.flatMap_def, List.sum_flatten, List.map_map]
  rfl

end Metrics

end SecretMount
