import NodeAdmission.Admission.Remediation
import NodeAdmission.Proofs.Transcript

/-!
# Expulsions

What a remediation does, seen from its log: the steps against the node are taken in order up to the
first that the orchestrator refuses, and the remediation succeeds only if it refuses none.

* `takeSteps_follows` — any list of steps is a plan cut at the first refusal, by induction on the
  steps; `remediate_expulsion` is the case of the three steps of a remediation.
* `Expulsion.cases` — the three logs that this leaves: refused at the cordon, refused at the drain,
  or the deletion was asked for, whatever came of it.
* `Expulsion.of_mem_delete` — a deletion is never asked for unless the node was cordoned and
  drained before it with success.

No step is undone and none is tried twice. That is part of the equality with the three lists and
needs no statement of its own.
-/

namespace NodeAdmission.Admission

open Cluster (OrchestratorError Step)

/-- A step against a node that the orchestrator refused. -/
def Event.Refused (e : Event) : Prop :=
  ∃ step node cause, e = .applied step node (.error cause)

/-- The calls of a remediation to which nothing happens. -/
def expulsionPlan (node : String) : List Request := remediationSteps.map (.apply · node)

/-- The events of a remediation of a node. -/
def Expulsion (node : String) (events : List Event) : Prop :=
  CutAtFailure Event.Refused (expulsionPlan node) events

theorem not_refused_applied_ok (step : Step) (node : String) :
    ¬ (Event.applied step node (.ok ())).Refused := by
  rintro ⟨_, _, _, h⟩
  cases h

theorem refused_applied_error (step : Step) (node : String) (cause : OrchestratorError) :
    (Event.applied step node (.error cause)).Refused := ⟨step, node, cause, rfl⟩

/-- Steps follow the plan made of them, and their success is that none was refused. -/
theorem takeSteps_follows (env : Environment ω) (node : String) (steps : List Step)
    (s : Session ω) :
    ∃ es, s.Calls env es (takeSteps env node steps s).2 ∧
      CutAtFailure Event.Refused (steps.map (.apply · node)) (events es) ∧
      ((takeSteps env node steps s).1 = .ok () ↔ ∀ e ∈ events es, ¬ e.Refused) := by
  induction steps generalizing s with
  | nil => exact ⟨[], .refl s, .nil, by simp [takeSteps, events]⟩
  | cons step steps ih =>
    have happly := s.calls_apply env step node
    unfold takeSteps
    generalize s.apply env step node = reply at happly ⊢
    obtain ⟨cause | u, s₁⟩ := reply
    · -- The step is refused: nothing else is asked, and the failure is the outcome.
      have hrefused := refused_applied_error step node cause
      exact ⟨_, happly, .stop rfl hrefused, by simp [events, hrefused]⟩
    · obtain ⟨es, hes, hcut, hok⟩ := ih s₁
      refine ⟨_, happly.trans hes, .next rfl (not_refused_applied_ok step node) hcut, ?_⟩
      simp only [events, List.cons_append, List.nil_append, List.map_cons, List.forall_mem_cons]
      exact hok.trans ⟨fun h => ⟨not_refused_applied_ok step node, h⟩, fun h => h.2⟩

/-- A remediation is an expulsion, and it succeeds just if no step was refused. -/
theorem remediate_expulsion (env : Environment ω) (node : String) (s : Session ω) :
    ∃ es, s.Calls env es (remediate env node s).2 ∧ Expulsion node (events es) ∧
      ((remediate env node s).1 = .ok () ↔ ∀ e ∈ events es, ¬ e.Refused) :=
  takeSteps_follows env node remediationSteps s

theorem takeSteps_drawn (env : Environment ω) (node : String) (steps : List Step) (s : Session ω) :
    (takeSteps env node steps s).2.drawn = s.drawn := by
  induction steps generalizing s with
  | nil => rfl
  | cons step steps ih =>
    have happly : (s.apply env step node).2.drawn = s.drawn := rfl
    unfold takeSteps
    generalize s.apply env step node = reply at happly ⊢
    obtain ⟨cause | u, s₁⟩ := reply
    · exact happly
    · exact (ih s₁).trans happly

/-! ### What an expulsion looks like -/

/-- The answer to a step is that it was refused or that it was taken. -/
theorem Event.of_request_apply {e : Event} {step : Step} {node : String}
    (h : e.request = .apply step node) :
    ∃ result, e = .applied step node result ∧ (e.Refused ↔ ∃ cause, result = .error cause) := by
  cases e <;> cases h
  next result =>
    refine ⟨result, rfl, ?_, ?_⟩
    · rintro ⟨_, _, cause, heq⟩
      cases heq
      exact ⟨cause, rfl⟩
    · rintro ⟨cause, rfl⟩
      exact ⟨_, _, cause, rfl⟩

/-- What is not refused succeeded. -/
theorem Event.eq_applied_ok {e : Event} {step : Step} {node : String}
    (h : e.request = .apply step node) (he : ¬ e.Refused) : e = .applied step node (.ok ()) := by
  obtain ⟨cause | ⟨⟩, rfl, hrefused⟩ := Event.of_request_apply h
  · exact absurd (hrefused.mpr ⟨cause, rfl⟩) he
  · rfl

theorem Event.eq_applied_error {e : Event} {step : Step} {node : String}
    (h : e.request = .apply step node) (he : e.Refused) :
    ∃ cause, e = .applied step node (.error cause) := by
  obtain ⟨result, rfl, hrefused⟩ := Event.of_request_apply h
  obtain ⟨cause, rfl⟩ := hrefused.mp he
  exact ⟨cause, rfl⟩

namespace Expulsion

variable {node : String} {events : List Event}

/-- An expulsion stops at the cordon, at the drain, or after the deletion was asked for. -/
theorem cases (h : Expulsion node events) :
    (∃ cause, events = [.applied .cordon node (.error cause)]) ∨
      (∃ cause, events = [.applied .cordon node (.ok ()), .applied .drain node (.error cause)]) ∨
      ∃ result, events = [.applied .cordon node (.ok ()), .applied .drain node (.ok ()),
        .applied .delete node result] := by
  rcases CutAtFailure.of_cons h with ⟨e, rfl, hq, he⟩ | ⟨e, es, rfl, hq, he, hdrain⟩
  · obtain ⟨cause, rfl⟩ := Event.eq_applied_error hq he
    exact .inl ⟨cause, rfl⟩
  -- The cordon succeeded.
  obtain rfl := Event.eq_applied_ok hq he
  rcases hdrain.of_cons with ⟨e, rfl, hq, he⟩ | ⟨e, es, rfl, hq, he, hdelete⟩
  · obtain ⟨cause, rfl⟩ := Event.eq_applied_error hq he
    exact .inr (.inl ⟨cause, rfl⟩)
  obtain rfl := Event.eq_applied_ok hq he
  rcases hdelete.of_cons with ⟨e, rfl, hq, -⟩ | ⟨e, es, rfl, hq, -, hend⟩
  · obtain ⟨result, rfl, -⟩ := Event.of_request_apply hq
    exact .inr (.inr ⟨result, rfl⟩)
  · -- Behind the deletion the plan has nothing left.
    obtain rfl := hend.eq_nil
    obtain ⟨result, rfl, -⟩ := Event.of_request_apply hq
    exact .inr (.inr ⟨result, rfl⟩)

/-- Without a refusal all three steps are taken. -/
theorem of_not_refused (h : Expulsion node events) (hgood : ∀ e ∈ events, ¬ e.Refused) :
    events = [.applied .cordon node (.ok ()), .applied .drain node (.ok ()),
      .applied .delete node (.ok ())] := by
  rcases h.cases with ⟨cause, rfl⟩ | ⟨cause, rfl⟩ | ⟨cause | ⟨⟩, rfl⟩
  · exact absurd (refused_applied_error .cordon node cause) (hgood _ (by simp))
  · exact absurd (refused_applied_error .drain node cause) (hgood _ (by simp))
  · exact absurd (refused_applied_error .delete node cause) (hgood _ (by simp))
  · rfl

/-- A deletion comes right after a cordon and a drain that succeeded. -/
theorem of_mem_delete {n : String} {result : Except OrchestratorError Unit}
    (h : Expulsion node events) (hmem : .applied .delete n result ∈ events) :
    events = [.applied .cordon n (.ok ()), .applied .drain n (.ok ()),
      .applied .delete n result] := by
  rcases h.cases with ⟨cause, rfl⟩ | ⟨cause, rfl⟩ | ⟨_, rfl⟩
  · simp at hmem
  · simp at hmem
  · simp only [List.mem_cons, Event.applied.injEq, reduceCtorEq, false_and, List.not_mem_nil,
      true_and, or_false, false_or] at hmem
    obtain ⟨rfl, rfl⟩ := hmem
    rfl

/-- The cordon is asked for in any case. -/
theorem ne_nil (h : Expulsion node events) : events ≠ [] := by
  rcases h.cases with ⟨_, rfl⟩ | ⟨_, rfl⟩ | ⟨_, rfl⟩ <;> exact List.cons_ne_nil _ _

theorem isMutation (h : Expulsion node events) : ∀ e ∈ events, e.request.isMutation := by
  rcases h.cases with ⟨_, rfl⟩ | ⟨_, rfl⟩ | ⟨_, rfl⟩ <;> simp [Event.request, Request.isMutation]

end Expulsion

end NodeAdmission.Admission
