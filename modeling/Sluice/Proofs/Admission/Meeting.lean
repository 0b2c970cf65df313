import Mathlib.Tactic.Common
import Sluice.Admission.Authorizer

/-!
# Meeting demands

An authorizer and the broker behind it decide every access in one way at any moment: by the
decision kept, or else by what the broker reports. Asking the broker only moves an entry of this
table from the broker into the decisions, so the table stays as it is while demands are met, and
the result is the first demand that fails under it.

## Main definitions

* `Authorizer.table`: how every access is decided at the moment.
* `Demand.failure`, `Demand.outcome`, `Demand.checked`: what demands come to under fixed decisions,
  and the accesses that are checked on the way.

## Main statements

* `Authorizer.meet_result`: the result is the outcome under the table.
* `Authorizer.decision?_meet`, `Authorizer.asked_meet`: the checked accesses are decided
  afterwards, and those of them that were not decided before were asked for, each once.
-/

namespace Sluice

/-! ## Demands under fixed decisions -/

namespace Demand

/-- Why a demand of a principal is not met under fixed decisions, if it is not. -/
def failure (table : AccessKey → Bool) (principal : String) : Demand → Option AdmissionError
  | .access topic operation =>
    if table ⟨principal, topic, operation⟩ then none else some (.denied ⟨operation, topic⟩)
  | .unresolved e => some (.unresolved e)

/-- What demands come to under fixed decisions: the first failure. -/
def outcome (table : AccessKey → Bool) (principal : String) (demands : List Demand) :
    Except AdmissionError Unit :=
  match demands.findSome? (failure table principal) with
  | none => .ok ()
  | some e => .error e

/-- The accesses that are checked for demands under fixed decisions, up to the first failure. -/
def checked (table : AccessKey → Bool) (principal : String) : List Demand → List AccessKey
  | [] | .unresolved _ :: _ => []
  | .access topic operation :: rest =>
    let key := ⟨principal, topic, operation⟩
    key :: if table key then checked table principal rest else []

variable {table : AccessKey → Bool} {principal : String} {demands : List Demand}

theorem outcome_eq_error_iff {e : AdmissionError} :
    outcome table principal demands = .error e ↔
      demands.findSome? (failure table principal) = some e := by
  unfold outcome
  cases demands.findSome? (failure table principal) with
  | none => simp
  | some first => simp

/-- Only accesses of the principal are checked. -/
theorem principal_of_mem_checked {key : AccessKey} (h : key ∈ checked table principal demands) :
    key.principal = principal := by
  induction demands with
  | nil => simp [checked] at h
  | cons d rest ih =>
    cases d with
    | unresolved e => simp [checked] at h
    | access topic operation =>
      unfold checked at h
      -- the first access is one of the principal, and any other is checked by the rest
      rcases List.mem_cons.mp h with rfl | h
      · rfl
      · split at h
        · exact ih h
        · simp at h

/-- Decisions that agree on the accesses checked give the same outcome and check the same. -/
theorem outcome_congr {table' : AccessKey → Bool}
    (h : ∀ key ∈ checked table principal demands, table key = table' key) :
    outcome table principal demands = outcome table' principal demands ∧
      checked table principal demands = checked table' principal demands := by
  -- by the demands: the tables need only agree as far as the accesses are checked
  induction demands with
  | nil => exact ⟨rfl, rfl⟩
  | cons d rest ih =>
    cases d with
    | unresolved e => exact ⟨rfl, rfl⟩
    | access topic operation =>
      -- the first access is always checked, the rest only if it is allowed
      have same := h ⟨principal, topic, operation⟩ (by simp [checked])
      unfold outcome checked
      simp only [List.findSome?_cons, failure, ← same]
      cases hkey : table ⟨principal, topic, operation⟩ with
      | false => simp
      | true =>
        obtain ⟨sameOutcome, sameChecked⟩ := ih (by
          intro key hmem
          exact h key (by simp [checked, hkey, hmem]))
        unfold outcome at sameOutcome
        simp [sameOutcome, sameChecked]

end Demand

namespace Authorizer

variable (a : Authorizer) (broker : Broker) (principal : String) (key : AccessKey)
  (demands : List Demand)

/-! ## One decision -/

/-- How an access is decided at the moment: by the decision kept, or else by the broker. -/
def table : Bool :=
  (a.decision? key).getD ((broker key.topic).allows key.operation)

/-- Only the decision that is recorded changes, if decisions are kept. -/
theorem decision?_record (allowed : Bool) (other : AccessKey) :
    (a.record key allowed).decision? other =
      if a.keeps ∧ other = key then some allowed else a.decision? other := by
  unfold record decision?
  by_cases hkeeps : a.keeps
  · by_cases hother : other = key
    · simp [hkeeps, hother]
    · have hne : (other == key) = false := beq_eq_false_iff_ne.mpr hother
      simp [hkeeps, hother, List.lookup_cons, hne]
  · simp [hkeeps]

theorem decide_result : (a.decide broker key).result = a.table broker key := by
  unfold decide table
  cases a.decision? key <;> rfl

theorem nodup_asked_decide : (a.decide broker key).asked.Nodup := by
  unfold decide
  cases a.decision? key <;> simp

/-- The broker is asked about an access that is not decided. -/
theorem mem_asked_decide {other : AccessKey} :
    other ∈ (a.decide broker key).asked ↔ other = key ∧ a.decision? key = none := by
  unfold decide
  cases a.decision? key <;> simp

@[simp]
theorem keeps_decide : (a.decide broker key).authorizer.keeps = a.keeps := by
  unfold decide record
  cases a.decision? key with
  | some allowed => rfl
  | none => dsimp only; split <;> rfl

/-- After a decision the access is decided, if decisions are kept; nothing else changes. -/
theorem decision?_decide (other : AccessKey) :
    (a.decide broker key).authorizer.decision? other =
      if a.keeps ∧ other = key then some (a.table broker key) else a.decision? other := by
  unfold decide table
  cases hkey : a.decision? key with
  | none => exact decision?_record a key _ other
  | some allowed =>
    -- the decision that is recorded is the one that was kept
    by_cases hother : other = key
    · simp [hother, hkey]
    · simp [hother]

/-- Deciding an access does not change how any access is decided. -/
theorem table_decide : (a.decide broker key).authorizer.table broker = a.table broker := by
  funext other
  unfold table
  rw [decision?_decide]
  split
  · -- the decision that is recorded is the one that the table has
    rename_i h
    simp [h.2, table]
  · rfl

/-! ## Many demands -/

/-- Meeting an access first checks it, and goes on only if it is allowed. -/
theorem meet_access (topic : String) (operation : AclOperation) (rest : List Demand) :
    a.meet broker principal (.access topic operation :: rest) =
      let v := a.decide broker ⟨principal, topic, operation⟩
      if v.result then
        let w := v.authorizer.meet broker principal rest
        ⟨w.result, v.asked ++ w.asked, w.authorizer⟩
      else ⟨.error (.denied ⟨operation, topic⟩), v.asked, v.authorizer⟩ := by
  simp only [meet, checkAccess]
  cases (a.decide broker ⟨principal, topic, operation⟩).result <;> rfl

/-- The result of meeting demands is their outcome under the decisions of the moment. -/
theorem meet_result :
    (a.meet broker principal demands).result =
      Demand.outcome (a.table broker) principal demands := by
  induction demands generalizing a with
  | nil => rfl
  | cons d rest ih =>
    cases d with
    | unresolved e => rfl
    | access topic operation =>
      -- this decision is a denial, or it leaves the result to the rest
      rw [meet_access]
      simp only [decide_result, Demand.outcome, List.findSome?_cons, Demand.failure]
      cases hkey : a.table broker ⟨principal, topic, operation⟩ with
      | false => simp
      | true =>
        -- the rest is met under the same table
        have next := ih (a.decide broker ⟨principal, topic, operation⟩).authorizer
        rw [table_decide] at next
        simpa [Demand.outcome] using next

@[simp]
theorem keeps_meet : (a.meet broker principal demands).authorizer.keeps = a.keeps := by
  induction demands generalizing a with
  | nil => rfl
  | cons d rest ih =>
    cases d with
    | unresolved e => rfl
    | access topic operation =>
      rw [meet_access]
      dsimp only
      split
      · exact (ih _).trans (keeps_decide a broker _)
      · exact keeps_decide a broker _

/-- If decisions are kept, the accesses that were checked are decided afterwards, and no other
decision changes. -/
theorem decision?_meet (hkeeps : a.keeps) :
    (a.meet broker principal demands).authorizer.decision? key =
      if key ∈ Demand.checked (a.table broker) principal demands then some (a.table broker key)
      else a.decision? key := by
  -- by the demands; what this access is decided to be is kept before the rest is met
  induction demands generalizing a with
  | nil => simp [meet, Demand.checked]
  | cons d rest ih =>
    cases d with
    | unresolved e => simp [meet, Demand.checked]
    | access topic operation =>
      have after := decision?_decide a broker ⟨principal, topic, operation⟩ key
      rw [meet_access]
      simp only [decide_result, Demand.checked, List.mem_cons]
      cases hkey : a.table broker ⟨principal, topic, operation⟩ with
      | false =>
        -- a denial is the last decision that is made
        simp only [Bool.false_eq_true, if_false, List.not_mem_nil, or_false]
        rw [after]
        by_cases hsame : key = ⟨principal, topic, operation⟩
        · simp [hkeeps, hsame]
        · simp [hsame]
      | true =>
        simp only [if_true]
        rw [ih _ ((keeps_decide a broker _).trans hkeeps), table_decide, after]
        -- the key is the one decided here, or it is left to the rest
        by_cases hsame : key = ⟨principal, topic, operation⟩
        · simp [hkeeps, hsame]
        · simp [hsame]

/-- If decisions are kept, the broker is asked for exactly the checked accesses that were not
decided before, each once. -/
theorem asked_meet (hkeeps : a.keeps) :
    (a.meet broker principal demands).asked.Nodup ∧
      ∀ key, key ∈ (a.meet broker principal demands).asked ↔
        key ∈ Demand.checked (a.table broker) principal demands ∧ a.decision? key = none := by
  -- by the demands, of any authorizer that keeps its decisions
  induction demands generalizing a with
  | nil => simp [meet, Demand.checked]
  | cons d rest ih =>
    cases d with
    | unresolved e => simp [meet, Demand.checked]
    | access topic operation =>
      -- for the rest, the access decided here counts as decided before
      obtain ⟨nodup, mem⟩ := ih (a.decide broker ⟨principal, topic, operation⟩).authorizer
        ((keeps_decide a broker _).trans hkeeps)
      simp only [table_decide, decision?_decide, hkeeps, true_and] at mem
      rw [meet_access]
      simp only [decide_result, Demand.checked, List.mem_cons]
      cases hkey : a.table broker ⟨principal, topic, operation⟩ with
      | false =>
        refine ⟨nodup_asked_decide a broker _, ?_⟩
        -- after a denial, the broker was asked for this access or for none
        intro key
        by_cases hsame : key = ⟨principal, topic, operation⟩
        · simp [mem_asked_decide, hsame]
        · simp [mem_asked_decide, hsame]
      | true =>
        simp only [if_true]
        constructor
        · refine List.nodup_append.mpr ⟨nodup_asked_decide a broker _, nodup, ?_⟩
          -- what is asked for later was not decided by the first check
          intro first hfirst later hlater same
          subst same
          obtain ⟨rfl, -⟩ := (mem_asked_decide a broker _).mp hfirst
          simpa using ((mem _).mp hlater).2
        · intro key
          rw [List.mem_append, mem_asked_decide, mem]
          by_cases hsame : key = ⟨principal, topic, operation⟩
          · simp [hsame]
          · simp [hsame]

end Authorizer

end Sluice
