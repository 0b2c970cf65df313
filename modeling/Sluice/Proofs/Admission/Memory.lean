import Sluice.Proofs.Admission.Gate

/-!
# Decisions are remembered

An authorizer that keeps its decisions asks the broker about an access at its first check and never
again. A whole run is therefore answered as if one fixed table had decided every access from the
start, whatever happened to the grants and the catalog on the way: the entries of the table are
what the broker answered at the first checks, failures to answer included.

## Main definitions

* `Gate.Remembers`: a log is answered by one table of decisions.

## Main statements

* `Gate.handle_spec`: what one event does, seen from any later table.
* `Gate.exists_remembers`: every run is answered by one table.
-/

namespace Sluice

namespace Gate

/-- A log that began with some decisions is answered by one table of decisions. -/
structure Remembers (start : Authorizer) (log : List Entry) (decided : AccessKey → Bool) :
    Prop where
  /-- the decisions at the beginning stay -/
  known : ∀ key allowed, start.decision? key = some allowed → decided key = allowed
  /-- every check is answered by the table -/
  result : ∀ entry ∈ log, entry.reply.result = entry.outcome decided
  /-- the broker is asked for an access at its first check, and only then -/
  asked : ∀ before entry after, log = before ++ entry :: after →
    ∀ key, key ∈ entry.reply.asked ↔ key ∈ entry.checked decided ∧
      start.decision? key = none ∧ ∀ earlier ∈ before, key ∉ earlier.checked decided
  /-- the broker is asked for an access once in the whole log -/
  askedOnce : (log.flatMap (·.reply.asked)).Nodup
  /-- the table has what the broker answered when it was asked -/
  answered : ∀ entry ∈ log, ∀ key ∈ entry.reply.asked,
    decided key = ((entry.gate.brokers key.principal) key.topic).allows key.operation

variable {g : Gate} {decided : AccessKey → Bool}

/-- What one event does, seen from a table that has all decisions after it. -/
theorem handle_spec (event : GateEvent) (hkeeps : g.authorizer.keeps)
    (hdecided : ∀ key allowed, (g.handle event).2.authorizer.decision? key = some allowed →
      decided key = allowed) :
    let entry : Entry := ⟨g, event, (g.handle event).1⟩
    entry.reply.result = entry.outcome decided ∧
      entry.reply.asked.Nodup ∧
      (∀ key, key ∈ entry.reply.asked ↔
        key ∈ entry.checked decided ∧ g.authorizer.decision? key = none) ∧
      (∀ key ∈ entry.reply.asked,
        decided key = ((g.brokers key.principal) key.topic).allows key.operation) ∧
      ∀ key, (g.handle event).2.authorizer.decision? key = none ↔
        key ∉ entry.checked decided ∧ g.authorizer.decision? key = none := by
  -- only an event with a principal checks anything
  cases h : event.principal? with
  | none =>
    obtain ⟨hreply, hauthorizer⟩ := handle_of_change g event h
    simp [hreply, hauthorizer, Entry.outcome, Entry.checked, h]
  | some p =>
    rw [handle_of_principal g event h] at hdecided ⊢
    simp only [Entry.outcome, Entry.checked, h]
    simp only [Authorizer.decision?_meet _ _ _ _ _ hkeeps] at hdecided ⊢
    obtain ⟨nodup, mem⟩ := Authorizer.asked_meet g.authorizer (g.brokers p) p
      (event.demands g.catalog) hkeeps
    -- the table agrees with the gate on everything that is checked here
    have agree : ∀ key ∈ Demand.checked (g.authorizer.table (g.brokers p)) p
        (event.demands g.catalog), g.authorizer.table (g.brokers p) key = decided key := by
      intro key hkey
      exact (hdecided key _ (if_pos hkey)).symm
    obtain ⟨sameOutcome, sameChecked⟩ := Demand.outcome_congr agree
    -- the outcome, the accesses asked for, what the broker said of them, and what stays undecided
    refine ⟨?_, nodup, ?_, ?_, ?_⟩
    · rw [Authorizer.meet_result, sameOutcome]
    · intro key
      rw [mem, sameChecked]
    · intro key hkey
      obtain ⟨hchecked, hnone⟩ := (mem key).mp hkey
      rw [← agree key hchecked, Demand.principal_of_mem_checked hchecked]
      simp [Authorizer.table, hnone]
    · intro key
      rw [← sameChecked]
      split
      · rename_i hchecked
        simp [hchecked]
      · rename_i hchecked
        simp [hchecked]

/-- A decision that is kept stays through every event. -/
theorem decision?_handle_of_some (event : GateEvent) (hkeeps : g.authorizer.keeps)
    {key : AccessKey} {allowed : Bool} (h : g.authorizer.decision? key = some allowed) :
    (g.handle event).2.authorizer.decision? key = some allowed := by
  cases hp : event.principal? with
  | none => rw [(handle_of_change g event hp).2, h]
  | some p =>
    rw [handle_of_principal g event hp]
    simp [Authorizer.decision?_meet _ _ _ _ _ hkeeps, Authorizer.table, h]

/-- A decision that is kept stays through every run. -/
theorem decision?_after_of_some {events : List GateEvent} (hkeeps : g.authorizer.keeps)
    {key : AccessKey} {allowed : Bool} (h : g.authorizer.decision? key = some allowed) :
    (g.after events).authorizer.decision? key = some allowed := by
  induction events generalizing g with
  | nil => exact h
  | cons event rest ih =>
    exact ih ((keeps_handle g event).trans hkeeps) (decision?_handle_of_some event hkeeps h)

/-- Every table that has all decisions at the end of a run answers the run. -/
theorem remembers_log {events : List GateEvent} (hkeeps : g.authorizer.keeps)
    (hdecided : ∀ key allowed, (g.after events).authorizer.decision? key = some allowed →
      decided key = allowed) :
    Remembers g.authorizer (g.log events) decided := by
  -- by the events, from any gate that keeps its decisions
  induction events generalizing g with
  | nil =>
    refine ⟨hdecided, by simp [log], ?_, by simp [log], by simp [log]⟩
    intro before entry after h
    cases before <;> cases h
  | cons event rest ih =>
    have hkeeps' : (g.handle event).2.authorizer.keeps := (keeps_handle g event).trans hkeeps
    -- the rest of the run begins with the decisions that this event leaves
    have later := ih hkeeps' hdecided
    obtain ⟨result, nodup, asked, answered, undecided⟩ := handle_spec event hkeeps later.known
    refine ⟨?_, ?_, ?_, ?_, ?_⟩
    · intro key allowed h
      -- what is known at the beginning is known at the end of the run, where the table is from
      exact hdecided key allowed (decision?_after_of_some hkeeps h)
    · -- every event has the outcome that the table at the end gives it
      intro entry hentry
      rcases List.mem_cons.mp hentry with rfl | hentry
      · exact result
      · exact later.result entry hentry
    · -- it asks for what it checks, unless an earlier event checked it or it was decided before
      intro before entry after h key
      cases before with
      | nil =>
        obtain ⟨rfl, -⟩ := List.cons.inj h
        simpa using asked key
      | cons first before =>
        obtain ⟨rfl, hrest⟩ := List.cons.inj h
        -- not decided after the first event means neither checked by it nor decided before
        rw [later.asked before entry after hrest key, undecided key]
        simp only [List.mem_cons, forall_eq_or_imp]
        tauto
    · rw [log, List.flatMap_cons, List.nodup_append]
      refine ⟨nodup, later.askedOnce, ?_⟩
      -- what the first event asked for is decided in the rest of the run
      intro key hkey key' hkey' same
      subst same
      obtain ⟨entry, hentry, hasked⟩ := List.mem_flatMap.mp hkey'
      obtain ⟨before, after, hsplit⟩ := List.append_of_mem hentry
      have hnone := ((later.asked before entry after hsplit key).mp hasked).2.1
      exact ((undecided key).mp hnone).1 ((asked key).mp hkey).1
    · intro entry hentry
      rcases List.mem_cons.mp hentry with rfl | hentry
      · exact answered
      · exact later.answered entry hentry

/-- Every run of an authorizer that keeps its decisions is answered by one table of decisions. -/
theorem exists_remembers (decisions : List (AccessKey × Bool)) (catalog : Catalog)
    (brokers : String → Broker) (events : List GateEvent) :
    let start : Authorizer := { keeps := true, decisions }
    ∃ decided, Remembers start ((Gate.mk start catalog brokers).log events) decided := by
  intro start
  let final := (Gate.mk start catalog brokers).after events
  refine ⟨fun key => (final.authorizer.decision? key).getD false,
    remembers_log (g := ⟨start, catalog, brokers⟩) rfl ?_⟩
  -- the table is read off the decisions at the end of the run
  intro key allowed h
  simp [final, h]

end Gate

end Sluice
