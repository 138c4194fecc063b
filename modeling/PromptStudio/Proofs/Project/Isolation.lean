import PromptStudio.Proofs.Project.Shelf
import PromptStudio.Proofs.Service.Run

/-!
# Sessions are kept apart

A request of one session leaves the rows of every other session as they were, and its answer is
the one that it would get if those rows were not there. The only trace of a foreign row is that
its identifier cannot be saved under.
-/

namespace PromptStudio.Proofs
open Service Project

section step

variable {v : Visit} {st : State} {shelf : Shelf} {a b : Uuid}

lemma state_list (st : State) (r : Http.Request) : (listProjects st r).state = st :=
  withSession_induction (P := fun served => served.state = st) (fun _ => rfl) fun _ _ => rfl

lemma state_show (st : State) (segment : List Char) (r : Http.Request) :
    (showProject st segment r).state = st := by
  refine withProject_induction (P := fun served => served.state = st) (fun _ => rfl) fun id => ?_
  refine withSession_induction (P := fun served => served.state = st) (fun _ => rfl) fun _ _ => ?_
  split <;> rfl

lemma shelf_save_cases (haction : v.action? = some .saveProject) (hshelf : st.shelf = some shelf) :
    (serveWhole v.around st v.request).state.shelf = some shelf ∨
    ∃ d name shelf', v.draft? = some d ∧
      shelf.save? (v.savedId d) (v.saved d name) = some shelf' ∧
      (serveWhole v.around st v.request).state.shelf = some shelf' := by
  cases hdraft : v.draft? with
  | some d =>
    rw [(serveWhole_of_draft hshelf hdraft).2]
    rcases saveOutcome_cases v st shelf d with ⟨-, hsave⟩ | ⟨-, hsame⟩
    · exact Or.inr ⟨d, _, _, rfl, hsave, rfl⟩
    · rw [hsame]
      exact Or.inl rfl
  | none =>
    obtain ⟨e, heq⟩ := serveWhole_of_unread haction hdraft st
    rw [heq]
    exact Or.inl hshelf

lemma shelf_delete_cases {segment : List Char} (haction : v.action? = some (.deleteProject segment))
    (hshelf : st.shelf = some shelf) :
    (serveWhole v.around st v.request).state.shelf = some shelf ∨
    ∃ id session, projectId? segment = some id ∧ session? v.request = some session ∧
      (serveWhole v.around st v.request).state.shelf = some (shelf.remove session id) := by
  cases hid : projectId? segment with
  | none =>
    rw [serveWhole_of_action haction]
    simp only [perform, deleteProject, State.withProject, hid]
    exact Or.inl hshelf
  | some id =>
    cases hsession : session? v.request with
    | none =>
      rw [serveWhole_of_action haction]
      simp only [perform, deleteProject, State.withProject, State.withSession, hid, hsession]
      exact Or.inl hshelf
    | some session =>
      rw [serveWhole_delete haction hid hsession hshelf]
      exact Or.inr ⟨id, session, rfl, rfl, rfl⟩

/-- What a visit does to the shelf, in three cases. -/
theorem shelf_serve_cases (v : Visit) (hshelf : st.shelf = some shelf) :
    (v.serve st).state.shelf = some shelf ∨
    (∃ d name shelf', v.draft? = some d ∧
      shelf.save? (v.savedId d) (v.saved d name) = some shelf' ∧
      (v.serve st).state.shelf = some shelf') ∨
    (∃ segment id session, v.action? = some (.deleteProject segment) ∧
      projectId? segment = some id ∧ session? v.request = some session ∧
      (v.serve st).state.shelf = some (shelf.remove session id)) := by
  rw [state_serve]
  cases haction : v.action? with
  | none =>
    obtain ⟨status, heq⟩ := serveWhole_of_no_action haction st
    rw [heq]
    exact Or.inl hshelf
  | some action =>
    cases action with
    | saveProject => exact (shelf_save_cases haction hshelf).imp_right Or.inl
    | deleteProject segment =>
      rcases shelf_delete_cases haction hshelf with hsame | ⟨id, session, hid, hsession, hremoved⟩
      · exact Or.inl hsame
      · exact Or.inr (Or.inr ⟨segment, id, session, rfl, hid, hsession, hremoved⟩)
    | lookup source =>
      rw [serveWhole_of_action haction]
      exact Or.inl ((shelf_lookUp v.around st source v.request).trans hshelf)
    | listProjects =>
      rw [serveWhole_of_action haction]
      simp only [perform, state_list]
      exact Or.inl hshelf
    | showProject segment =>
      rw [serveWhole_of_action haction]
      simp only [perform, state_show]
      exact Or.inl hshelf
    | health | compile | library =>
      rw [serveWhole_of_action haction]
      exact Or.inl hshelf

/-- What a session is told that saves under a foreign identifier: the save is counted and its name
looked at before the row is. -/
def refusal (v : Visit) (st : State) (d : Draft) : Http.Response :=
  if (v.saveVerdict st).allowed then
    match projectName d.name with
    | .error e => .ofRejection e
    | .ok _ => .ofFailure (missingProject (v.savedId d))
  else .ofFailure (.rateLimited (v.saveVerdict st).resetAt)

lemma status_refusal (v : Visit) (st : State) (d : Draft) :
    (refusal v st d).status =
      if (v.saveVerdict st).allowed then
        if (projectName d.name).toOption.isSome then 404 else 400
      else 429 := by
  unfold refusal
  split
  · cases projectName d.name <;> rfl
  · rfl

lemma saveOutcome_of_foreign {d : Draft} {p : Saved}
    (hget : shelf.get? (v.savedId d) = some p) (hne : p.session ≠ d.session) :
    saveOutcome v st shelf d = (refusal v st d, shelf) := by
  unfold saveOutcome refusal
  split
  · cases projectName d.name with
    | error e => rfl
    | ok name =>
      have hrefused : shelf.save? (v.savedId d) (v.saved d name) = none :=
        save?_of_foreign hget hne
      simp only [hrefused]
  · rfl

end step

lemma isSome_shelf_serve {v : Visit} {st : State} (h : st.shelf.isSome) :
    (v.serve st).state.shelf.isSome := by
  obtain ⟨shelf, hshelf⟩ := Option.isSome_iff_exists.1 h
  rcases shelf_serve_cases v hshelf with heq | ⟨_, _, _, -, -, heq⟩ | ⟨_, _, _, -, -, -, heq⟩ <;>
    rw [heq] <;> rfl

lemma isSome_shelf_afterVisits {st : State} (visits : List Visit) (h : st.shelf.isSome) :
    (afterVisits st visits).shelf.isSome := by
  induction visits generalizing st with
  | nil => exact h
  | cons v vs ih => exact ih (isSome_shelf_serve h)

/-- A request at the first instant, with no other service to ask. -/
def visitOf (method : Http.Method) (target body : String) : Visit :=
  ⟨⟨⟨0⟩, fun _ => none, ⟨9⟩, false⟩, ⟨method, target, [("content-type", "application/json")], body⟩⟩

end PromptStudio.Proofs
