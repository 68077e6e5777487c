import WuRegalia.Form
import WuRegalia.Outcome

/-! # What the generated actions share

The actions that create, edit and delete a row are the same code up to the form,
the write and the pages they name.
-/

namespace WuRegalia

/-- `isSubmitted` and `isValid`, then `persist` and `flush`; otherwise the page
    with the form. -/
def FormType.save {α : Type} (form : FormType α) (method : Method) (payload : Payload)
    (write : α → Tables → Tables) (saved : Except Exception Response) (page : Response)
    (s : Store) : Outcome :=
  match form.handle method payload with
  | some submission =>
      if form.isValid submission then s.persist (form.row submission) write (fun _ => ([], saved))
      else .answer s page
  | none => .answer s page

theorem FormType.save_store {α : Type} (form : FormType α) (method : Method) (payload : Payload)
    (write : α → Tables → Tables) (saved : Except Exception Response) (page : Response)
    (s : Store) :
    (form.save method payload write saved page s).store =
      match form.submitted method payload with
      | some row => s.committed (write row)
      | none => s := by
  unfold FormType.save FormType.submitted
  cases form.handle method payload with
  | none => rfl
  | some submission =>
      simp only
      cases form.isValid submission with
      | false => rfl
      | true =>
          simp only [if_true]
          cases form.row submission with
          | none => rfl
          | some row => exact s.transact_store _ _

/-- A form that is accepted and complete is one transaction. -/
theorem FormType.save_of_submitted {α : Type} {form : FormType α} {method : Method}
    {payload : Payload} {row : α} (accepted : form.submitted method payload = some row)
    (write : α → Tables → Tables) (saved : Except Exception Response) (page : Response)
    (s : Store) :
    form.save method payload write saved page s = s.transact (write row) (fun _ => ([], saved)) := by
  obtain ⟨submission, handled, valid, built⟩ := FormType.submitted_some accepted
  simp only [FormType.save, handled, valid, if_true, built, Store.persist]

/-- A form leaves alone what its write leaves alone. -/
theorem FormType.save_keeps {α γ : Type} (form : FormType α) (method : Method) (payload : Payload)
    (write : α → Tables → Tables) (saved : Except Exception Response) (page : Response)
    (s : Store) (part : Tables → γ) (keeps : ∀ row t, part (write row t) = part t) :
    part (form.save method payload write saved page s).store.toTables = part s.toTables := by
  rw [save_store]
  split
  · exact s.committed_keeps part (keeps _ _)
  · rfl

/-- The delete form is consulted, and the redirect follows whether the row was
    removed or not. -/
def deleteEntity (method : Method) (payload : Payload) (redirect : Except Exception Response)
    (remove : Tables → Tables) (s : Store) : Outcome :=
  match payload.handle "form" .delete method with
  | some submission =>
      if DeleteForm.isValid submission then s.transact remove (fun _ => ([], redirect))
      else ⟨s, [], redirect⟩
  | none => ⟨s, [], redirect⟩

theorem deleteEntity_store (method : Method) (payload : Payload)
    (redirect : Except Exception Response) (remove : Tables → Tables) (s : Store) :
    (deleteEntity method payload redirect remove s).store =
      if DeleteForm.submitted method payload then s.committed remove else s := by
  unfold deleteEntity DeleteForm.submitted
  cases payload.handle "form" .delete method with
  | none => rfl
  | some submission =>
      simp only [Option.any_some]
      split
      · exact s.transact_store _ _
      · rfl

theorem deleteEntity_keeps {γ : Type} (method : Method) (payload : Payload)
    (redirect : Except Exception Response) (remove : Tables → Tables) (s : Store)
    (part : Tables → γ) (keeps : ∀ t, part (remove t) = part t) :
    part (deleteEntity method payload redirect remove s).store.toTables = part s.toTables := by
  rw [deleteEntity_store]
  split
  · exact s.committed_keeps part (keeps _)
  · rfl

end WuRegalia
