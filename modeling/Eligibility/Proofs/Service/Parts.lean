/-
# What the parts of an evaluation come to

An evaluation is carried out in a context, and what it fails with is reported; neither changes
what it comes to (`attended_apply`).  Past the store, the engine alone settles what is told about
an accepted subject (`alone`), whatever state the service is in.
-/

import Eligibility.Proofs.Step
import Eligibility.Proofs.Trial
import Eligibility.Service.Batch

namespace Eligibility
namespace Service

variable {σ α : Type} {settings : Settings} {criteria : Criteria} {subject : Value}

theorem result_report (failure : Failure) (s : Service σ) :
    (report failure s).result = .ok () := by
  unfold report
  cases failure.family? with
  | none => rfl
  | some family =>
    dsimp only
    split <;> rfl

/-- A part is carried out in its context, and what it fails with is reported. -/
theorem attended_apply (criteria : Criteria) (x : Action Failure (Service σ) α) (s : Service σ) :
    let came := x (openContext criteria s)
    (attended criteria x s).result = came.result ∧
      (attended criteria x s).state = closeContext (match came.result with
        | .ok _ => came.state
        | .error failure => (report failure came.state).state) := by
  unfold attended Action.ending
  dsimp only
  rw [Action.bind_apply]
  dsimp only [Action.modify]
  rw [Action.bind_apply]
  dsimp only [Action.attempt]
  cases came : (x (openContext criteria s)).result with
  | ok a => exact ⟨rfl, rfl⟩
  | error failure =>
    dsimp only
    rw [Action.bind_apply, result_report]
    exact ⟨rfl, rfl⟩

theorem result_attended {x : Step (Service σ) α} {s : Service σ} {a : α}
    (came : (x (openContext criteria s)).result = .ok a) :
    (attended criteria x s).result = .ok a :=
  (attended_apply criteria x s).1.trans came

/-- Whether a subject is accepted, where the settings want that. -/
def accepted (settings : Settings) (subject : Value) : Except Failure Unit :=
  if settings.validateInput then (Subject.validate settings subject).result else .ok ()

theorem accepted_eq_ok (valid : settings.validateInput = true →
      (Subject.validate settings subject).result = .ok ()) : accepted settings subject = .ok () := by
  unfold accepted
  split
  · next wanted => exact valid wanted
  · rfl

theorem accept_eq (settings : Settings) (subject : Value) (s : Service σ) :
    (accept settings subject s).result = accepted settings subject ∧
      (accept settings subject s).state = s := by
  unfold accept accepted
  split
  · exact ⟨rfl, rfl⟩
  · exact ⟨rfl, rfl⟩

theorem accept_apply (valid : settings.validateInput = true →
      (Subject.validate settings subject).result = .ok ()) (s : Service σ) :
    (accept settings subject s).result = .ok () ∧ (accept settings subject s).state = s := by
  rw [← accepted_eq_ok valid]
  exact accept_eq settings subject s

theorem result_compute (settings : Settings) (criteria : Criteria) (subject : Value)
    (s : Service σ) :
    (compute settings criteria subject s).result = (criteria.evaluate settings subject).result := by
  refine (Action.result_bind_of_steady (r := .ok) (fun _ _ => rfl) s).trans ?_
  exact bind_pure (criteria.evaluate settings subject).result

/-! ### Past the store -/

/-- What the engine alone makes of a subject that is accepted. -/
def alone (settings : Settings) (criteria : Criteria) (subject : Value) :
    Except Failure Evaluation :=
  accepted settings subject >>= fun _ => (criteria.evaluate settings subject).result

variable [Store σ]

theorem result_evaluateItem_past (settings : Settings) (criteria : Criteria) (subject : Value)
    (s : Service σ) :
    (evaluateItem settings criteria false subject s).result = alone settings criteria subject := by
  rw [alone, ← (accept_eq settings subject s).1]
  exact Action.result_bind_of_steady (fun _ t => result_compute settings criteria subject t) s

theorem result_embark_past (settings : Settings) (criteria : Criteria) (subject : Value)
    (s : Service σ) :
    (embark settings criteria subject false s).result =
      alone settings criteria subject >>= fun e => .ok (.done e) := by
  rw [alone, bind_assoc, ← (accept_eq settings subject s).1]
  refine Action.result_bind_of_steady (fun _ t => ?_) s
  rw [← result_compute settings criteria subject t]
  exact Action.result_bind_of_steady (r := fun e => .ok (Progress.done e)) (fun _ _ => rfl) t

/-- Past the store the engine alone is asked, whatever state the service is in. -/
theorem result_evaluate_past (settings : Settings) (criteria : Criteria) (subject : Value)
    (s : Service σ) :
    (evaluate settings (some criteria) subject (some false) s).result =
      alone settings criteria subject := by
  refine (attended_apply criteria _ s).1.trans ?_
  have begun := result_embark_past settings criteria subject (openContext criteria s)
  cases came : alone settings criteria subject with
  | error failure =>
    rw [came] at begun
    exact Action.result_bind_error begun
  | ok e =>
    rw [came] at begun
    exact Action.result_bind begun

end Service
end Eligibility
