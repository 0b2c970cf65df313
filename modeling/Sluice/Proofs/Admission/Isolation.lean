import Sluice.Proofs.Admission.Gate

/-!
# Principals do not influence one another

Decisions are kept by principal, so what an authorizer keeps for one principal is out of reach for
another. If all checks of other principals are left out of a run, the checks of a principal get the
same answers and ask the broker about the same accesses in the same order.

The two runs are related step by step: their authorizers agree on the decisions of the principal. A
check of the principal keeps this on both sides, and a check of another one on the side where it
happens.

## Main definitions

* `Authorizer.AgreeFor`: the relation between the two authorizers.
* `GateEvent.concerns`: what stays in the run of a principal.

## Main statements

* `Gate.log_filter_concerns`: the run of a principal by itself.
-/

namespace Sluice

/-! ## Authorizers that agree for a principal -/

namespace Authorizer

/-- Two authorizers keep the same decisions of a principal. -/
structure AgreeFor (p : String) (a b : Authorizer) : Prop where
  keeps : a.keeps = b.keeps
  decisions : ∀ key : AccessKey, key.principal = p → a.decision? key = b.decision? key

namespace AgreeFor

variable {p q : String} {a b c : Authorizer}

protected theorem refl (p : String) (a : Authorizer) : AgreeFor p a a :=
  ⟨rfl, fun _ _ => rfl⟩

protected theorem symm (h : AgreeFor p a b) : AgreeFor p b a :=
  ⟨h.keeps.symm, fun key hkey => (h.decisions key hkey).symm⟩

protected theorem trans (h : AgreeFor p a b) (h' : AgreeFor p b c) : AgreeFor p a c :=
  ⟨h.keeps.trans h'.keeps, fun key hkey => (h.decisions key hkey).trans (h'.decisions key hkey)⟩

/-- An access of the principal is decided alike on both sides, and they agree afterwards. -/
theorem decide (h : AgreeFor p a b) (broker : Broker) {key : AccessKey}
    (hkey : key.principal = p) :
    (a.decide broker key).result = (b.decide broker key).result ∧
      (a.decide broker key).asked = (b.decide broker key).asked ∧
      AgreeFor p (a.decide broker key).authorizer (b.decide broker key).authorizer := by
  -- a decision comes from the one that is kept for the access, or else from the broker
  have same := h.decisions key hkey
  have sameTable : a.table broker key = b.table broker key := by simp [table, same]
  refine ⟨?_, ?_, ?_, ?_⟩
  · rw [decide_result, decide_result, sameTable]
  · simp only [Authorizer.decide, same]
    cases b.decision? key <;> rfl
  · rw [keeps_decide, keeps_decide, h.keeps]
  · intro other hother
    rw [decision?_decide, decision?_decide, h.keeps, sameTable, h.decisions other hother]

/-- Demands of the principal come to the same on both sides, and they agree afterwards. -/
theorem meet (h : AgreeFor p a b) (broker : Broker) (demands : List Demand) :
    (a.meet broker p demands).result = (b.meet broker p demands).result ∧
      (a.meet broker p demands).asked = (b.meet broker p demands).asked ∧
      AgreeFor p (a.meet broker p demands).authorizer (b.meet broker p demands).authorizer := by
  -- by the demands, in the order in which they are met
  induction demands generalizing a b with
  | nil => exact ⟨rfl, rfl, h⟩
  | cons d rest ih =>
    cases d with
    | unresolved e => exact ⟨rfl, rfl, h⟩
    | access topic operation =>
      have same : (⟨p, topic, operation⟩ : AccessKey).principal = p := rfl
      obtain ⟨sameResult, sameAsked, agree⟩ := h.decide broker same
      rw [meet_access, meet_access]
      simp only [sameResult, sameAsked]
      cases (b.decide broker ⟨p, topic, operation⟩).result with
      -- a denial ends the meeting on both sides
      | false => exact ⟨rfl, rfl, agree⟩
      | true =>
        -- both sides go on with the same demands
        obtain ⟨sameRest, sameLater, agreeRest⟩ := ih agree
        simp only [if_true, sameRest, sameLater, true_and]
        exact agreeRest

/-- Demands of one principal leave the decisions of every other one as they are. -/
theorem meet_of_ne (hne : q ≠ p) (a : Authorizer) (broker : Broker) (demands : List Demand) :
    AgreeFor p (a.meet broker q demands).authorizer a := by
  -- whatever is decided here is an access of `q`, so no decision of `p` is touched
  induction demands generalizing a with
  | nil => exact .refl p a
  | cons d rest ih =>
    cases d with
    | unresolved e => exact .refl p a
    | access topic operation =>
      have decided : AgreeFor p (a.decide broker ⟨q, topic, operation⟩).authorizer a := by
        refine ⟨keeps_decide a broker _, ?_⟩
        intro key hkey
        rw [decision?_decide, if_neg]
        -- the access that is decided is one of the other principal
        rintro ⟨-, rfl⟩
        exact hne hkey
      rw [meet_access]
      dsimp only
      split
      · exact (ih _).trans decided
      · exact decided

end AgreeFor

end Authorizer

/-! ## Runs -/

/-- What stays when the checks of all other principals are left out. -/
def GateEvent.concerns (p : String) (event : GateEvent) : Bool :=
  event.principal?.all (· == p)

/-- What a principal sees of an entry: the event and the reply to it. -/
def Gate.Entry.visible (entry : Gate.Entry) : GateEvent × Reply :=
  (entry.event, entry.reply)

namespace Gate

/-- Two gates are alike for a principal. -/
structure AlikeFor (p : String) (g h : Gate) : Prop where
  authorizers : Authorizer.AgreeFor p g.authorizer h.authorizer
  catalogs : g.catalog = h.catalog
  brokers : g.brokers = h.brokers

variable {p : String} {g h : Gate} {event : GateEvent}

/-- An event that concerns the principal is answered alike, and the gates stay alike. -/
theorem AlikeFor.handle (alike : AlikeFor p g h) (concerns : event.concerns p) :
    (g.handle event).1 = (h.handle event).1 ∧
      AlikeFor p (g.handle event).2 (h.handle event).2 := by
  obtain ⟨authorizers, catalogs, brokers⟩ := alike
  cases hp : event.principal? with
  | none =>
    -- without a principal, the event changes the grants or the catalog, of both gates alike
    cases event with
    | checkAccess user topic operation => cases hp
    | checkStatement user statement => cases hp
    | changeGrants grants => exact ⟨rfl, authorizers, catalogs, rfl⟩
    | changeCatalog catalog => exact ⟨rfl, authorizers, rfl, brokers⟩
  | some q =>
    obtain rfl : q = p := by simpa [GateEvent.concerns, hp] using concerns
    -- the catalogs are the same, so the same demands are met
    obtain ⟨result, asked, agree⟩ := authorizers.meet (h.brokers q)
      (event.demands h.catalog)
    rw [handle_of_principal g event hp, handle_of_principal h event hp, catalogs, brokers]
    refine ⟨?_, agree, rfl, rfl⟩
    simp only [result, asked]

/-- A check of another principal leaves the gate alike. -/
theorem AlikeFor.handle_other (alike : AlikeFor p g h) (other : ¬event.concerns p) :
    AlikeFor p (g.handle event).2 h := by
  cases hp : event.principal? with
  | none => simp [GateEvent.concerns, hp] at other
  | some q =>
    have hne : q ≠ p := by simpa [GateEvent.concerns, hp] using other
    rw [handle_of_principal g event hp]
    exact ⟨(Authorizer.AgreeFor.meet_of_ne hne ..).trans alike.authorizers, alike.catalogs,
      alike.brokers⟩

/-- Gates that are alike for a principal show it the same, with and without the other checks. -/
theorem AlikeFor.log_visible (alike : AlikeFor p g h) (events : List GateEvent) :
    ((g.log events).filter (·.event.concerns p)).map Entry.visible =
      (h.log (events.filter (·.concerns p))).map Entry.visible := by
  induction events generalizing g h with
  | nil => rfl
  | cons event rest ih =>
    by_cases concerns : event.concerns p
    · obtain ⟨sameReply, alike'⟩ := alike.handle concerns
      simp only [log, concerns, List.filter_cons_of_pos, List.map_cons, Entry.visible, sameReply]
      exact congrArg _ (ih alike')
    · -- only the full run takes this step
      simp only [log, concerns, List.filter_cons_of_neg, Bool.false_eq_true, not_false_eq_true]
      exact ih (alike.handle_other concerns)

/-- Leaving out the checks of all other principals changes neither the answers that a principal gets
nor the accesses that the broker is asked about for it. -/
theorem log_filter_concerns (g : Gate) (p : String) (events : List GateEvent) :
    ((g.log events).filter (·.event.concerns p)).map Entry.visible =
      (g.log (events.filter (·.concerns p))).map Entry.visible :=
  AlikeFor.log_visible ⟨.refl p g.authorizer, rfl, rfl⟩ events

end Gate

end Sluice
