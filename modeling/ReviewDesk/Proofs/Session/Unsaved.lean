import ReviewDesk.Proofs.Session.Correction
import ReviewDesk.Proofs.Session.LabelForm
import ReviewDesk.Proofs.Session.Waiting

/-!
A label that is not saved. Whether the form is refused before anything is asked or the request fails,
the page, the open item and the texts of the form stay; only the status of the form tells what
happened. Nothing is loaded again.
-/

namespace ReviewDesk
namespace Session

open Decimal (SpellsShare SpellsWord)
open Text (Blank trim)

variable {σ : Type}

/-- The same session but for the status of its form. -/
def withStatus (s : Session) (status : FormStatus) : Session :=
  { s with form := { s.form with status := status } }

variable {s : Session} {ticket : SubmitTicket}

theorem beginSubmit_of_refused {fault : FormFault}
    (refused : s.form.Refused s.selection.current fault) :
    s.beginSubmit = (s.withStatus (.invalid fault), .error fault) := by
  simp only [beginSubmit, LabelForm.beginSubmit, LabelForm.validate_of_refused refused, withStatus]

theorem beginSubmit_of_valid {submission : Submission}
    (valid : s.form.validate s.selection.current = .ok submission) :
    s.beginSubmit =
      (s.withStatus .submitting, .ok ⟨s.selection.current.getD "", submission⟩) := by
  simp only [beginSubmit, LabelForm.beginSubmit, valid, withStatus]

theorem beginSubmit_eq_error_iff {fault : FormFault} :
    s.beginSubmit.2 = .error fault ↔ s.form.Refused s.selection.current fault := by
  constructor
  · intro failed
    cases checked : s.form.validate s.selection.current with
    | error first =>
        rw [beginSubmit_of_refused (LabelForm.validate_eq_error_iff.mp checked)] at failed
        cases failed
        exact LabelForm.validate_eq_error_iff.mp checked
    | ok submission =>
        rw [beginSubmit_of_valid checked] at failed
        cases failed
  · intro refused
    rw [beginSubmit_of_refused refused]

/-- A ticket is for the open item. -/
theorem beginSubmit_of_ticket (sent : s.beginSubmit.2 = .ok ticket) :
    s.beginSubmit = (s.withStatus .submitting, .ok ticket) ∧
      s.selection.current = some ticket.id := by
  cases checked : s.form.validate s.selection.current with
  | error fault =>
      rw [beginSubmit_of_refused (LabelForm.validate_eq_error_iff.mp checked)] at sent
      cases sent
  | ok submission =>
      rw [beginSubmit_of_valid checked] at sent ⊢
      cases sent
      cases current : s.selection.current with
      | none =>
          rw [current] at checked
          cases checked
      | some id => exact ⟨rfl, rfl⟩

theorem onSubmitResult_error (s : Session) (fault : TransportFault) :
    s.onSubmitResult (.error fault) = (s.withStatus (.failed fault), none) := rfl

/-- A label is refused for the first thing that is wrong with it, and then nothing is asked; a label
that is let through is one for the open item, and when its request fails it was the only one. Either
way all that changes is the status of the form. -/
theorem unsaved_label_changes_status_only (service : Service σ) (s : Session)
    (state : σ × List Request) :
    ((∃ fault, s.beginSubmit.2 = .error fault) ↔ s.selection.current = none ∨
      Blank s.form.label ∨
      (¬Blank s.form.confidence ∧ ¬SpellsShare (trim s.form.confidence)) ∨
      (¬Blank s.form.count ∧ ¬SpellsWord (trim s.form.count))) ∧
    (∀ fault, s.beginSubmit.2 = .error fault ↔ s.form.Refused s.selection.current fault) ∧
    (∀ fault, s.beginSubmit.2 = .error fault →
      s.beginSubmit.1 = s.withStatus (.invalid fault) ∧
      s.submitNow service.noting state =
        (.error (.form fault), s.withStatus (.invalid fault), state)) ∧
    (∀ ticket, s.beginSubmit.2 = .ok ticket → s.selection.current = some ticket.id) ∧
    (∀ fault, s.onSubmitResult (.error fault) = (s.withStatus (.failed fault), none)) ∧
    ∀ ticket fault after, s.beginSubmit.2 = .ok ticket →
      service.submit ticket.id ticket.submission state.1 = (.error fault, after) →
      s.submitNow service.noting state =
        (.error (.transport fault), s.withStatus (.failed fault), after,
          state.2 ++ [.submit ticket.id ticket.submission]) := by
  refine ⟨?_, fun fault => beginSubmit_eq_error_iff, ?_, ?_, s.onSubmitResult_error, ?_⟩
  · rw [← LabelForm.exists_refused_iff]
    exact exists_congr fun fault => beginSubmit_eq_error_iff
  · intro fault failed
    have begun := beginSubmit_of_refused (beginSubmit_eq_error_iff.mp failed)
    exact ⟨congrArg Prod.fst begun, (SubmitHandled.refused begun).submitNow_eq⟩
  · intro ticket sent
    exact (beginSubmit_of_ticket sent).2
  · intro ticket fault after sent answered
    have noted : service.noting.submit ticket.id ticket.submission state =
        (.error fault, after, state.2 ++ [.submit ticket.id ticket.submission]) := by
      simp only [Service.noting, answered]
    exact (SubmitHandled.failed (beginSubmit_of_ticket sent).1 noted rfl).submitNow_eq

end Session
end ReviewDesk
