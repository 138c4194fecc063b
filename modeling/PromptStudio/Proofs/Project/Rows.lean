import PromptStudio.Proofs.Project.History
import PromptStudio.Proofs.Project.Identifiers

/-!
# The rows that saves leave behind

Whatever is requested, every row has a proper name and an identifier of its own. A save that has no
success leaves the shelf as it was, and one that has success changes the row that its answer names
and no other.
-/

namespace PromptStudio.Proofs
open Service Project

/-- A name of 1 to 60 characters without white space at either end. -/
structure ProperName (name : String) : Prop where
  first : ∀ c, name.toList.head? = some c → Text.isBlank c = false
  last : ∀ c, name.toList.getLast? = some c → Text.isBlank c = false
  length : 1 ≤ name.length ∧ name.length ≤ 60

/-- Every row has a proper name, and an identifier that no other row has. -/
structure WellKept (shelf : Shelf) : Prop where
  names : ∀ row ∈ shelf.entries, ProperName row.2.name
  identifiers : shelf.entries.Pairwise fun a b => a.1 ≠ b.1

/-- The status that a save is answered with: its body is read first, then its client is admitted,
then its name is checked, and last the owner of the row is asked for. -/
inductive SaveAnswered (v : Visit) (st : State) (shelf : Shelf) : Nat → Prop
  | unread (hdraft : v.draft? = none) : SaveAnswered v st shelf 400
  | denied {d : Draft} (hdraft : v.draft? = some d)
      (hdenied : (v.saveVerdict st).allowed = false) : SaveAnswered v st shelf 429
  | misnamed {d : Draft} (hdraft : v.draft? = some d)
      (hallowed : (v.saveVerdict st).allowed = true) (hname : ¬ ProperName (Text.trim d.name)) :
      SaveAnswered v st shelf 400
  | foreign {d : Draft} {p : Saved} (hdraft : v.draft? = some d)
      (hallowed : (v.saveVerdict st).allowed = true) (hname : ProperName (Text.trim d.name))
      (hrow : shelf.get? (v.savedId d) = some p) (howner : p.session ≠ d.session) :
      SaveAnswered v st shelf 404
  | saved {d : Draft} (hdraft : v.draft? = some d)
      (hallowed : (v.saveVerdict st).allowed = true) (hname : ProperName (Text.trim d.name))
      (howner : ∀ p, shelf.get? (v.savedId d) = some p → p.session = d.session) :
      SaveAnswered v st shelf 200

/-- The answer names a row that holds the draft, and every other row is as it was. -/
structure SavesRow (v : Visit) (st : State) (shelf : Shelf) (d : Draft) (id : Uuid) : Prop where
  draft : v.draft? = some d
  name : ProperName (Text.trim d.name)
  told : ∃ text, bodyAt? (v.serve st).response ["id"] = some (.str text) ∧
    Uuid.ofText? text = some id
  rows : ∃ shelf', (v.serve st).state.shelf = some shelf' ∧
    shelf'.get? id = some (v.saved d (Text.trim d.name)) ∧
    ∀ id', id' ≠ id → shelf'.get? id' = shelf.get? id'

/-- What a save does to the rows. -/
structure SaveKeeps (v : Visit) (st : State) (shelf : Shelf) : Prop where
  status : ∀ status, (v.serve st).response.status = status ↔ SaveAnswered v st shelf status
  unchanged : (v.serve st).response.status ≠ 200 → (v.serve st).state.shelf = some shelf
  changed : (v.serve st).response.status = 200 → ∃ d id, SavesRow v st shelf d id

/-! ## Names -/

lemma properName_trim_iff (s : String) :
    ProperName (Text.trim s) ↔ Text.trim s ≠ "" ∧ (Text.trim s).length ≤ 60 := by
  constructor
  · rintro ⟨-, -, hmin, hmax⟩
    refine ⟨?_, hmax⟩
    intro hempty
    rw [hempty] at hmin
    exact absurd hmin (by decide)
  · rintro ⟨hne, hmax⟩
    refine ⟨?_, ?_, ?_, hmax⟩
    · rw [Text.toList_trim]
      exact fun c => Text.isBlank_of_head?_trimChars
    · rw [Text.toList_trim]
      exact fun c => Text.isBlank_of_getLast?_trimChars
    · rw [Nat.one_le_iff_ne_zero, Ne, String.length_eq_zero_iff]
      exact hne

lemma projectName_of_proper {s : String} (h : ProperName (Text.trim s)) :
    projectName s = .ok (Text.trim s) := by
  obtain ⟨hne, hmax⟩ := (properName_trim_iff s).1 h
  exact (if_neg hne).trans (if_neg (Nat.not_lt.2 hmax))

lemma projectName_of_not_proper {s : String} (h : ¬ ProperName (Text.trim s)) :
    ∃ e, projectName s = .error e := by
  cases hname : projectName s with
  | error e => exact ⟨e, rfl⟩
  | ok name =>
    obtain ⟨rfl, hne, hmax⟩ := eq_of_projectName hname
    exact absurd ((properName_trim_iff s).2 ⟨hne, hmax⟩) h

/-! ## One save -/

section save

variable {v : Visit} {st : State} {shelf : Shelf} {d : Draft}

lemma serve_of_unread (st : State) (haction : v.action? = some .saveProject)
    (hdraft : v.draft? = none) :
    ∃ e, v.serve st = st.answer (.ofRejection e) := by
  have hpost : v.request.method ≠ .head := by
    rw [(path_of_saveProject haction).1]
    decide
  rw [serve_of_not_head hpost]
  exact serveWhole_of_unread haction hdraft st

lemma saveOutcome_of_denied (h : (v.saveVerdict st).allowed = false) :
    saveOutcome v st shelf d = (.ofFailure (.rateLimited (v.saveVerdict st).resetAt), shelf) := by
  unfold saveOutcome
  rw [h]
  rfl

lemma saveOutcome_of_misnamed (hallowed : (v.saveVerdict st).allowed = true) {e : Rejection}
    (hname : projectName d.name = .error e) :
    saveOutcome v st shelf d = (.ofRejection e, shelf) := by
  unfold saveOutcome
  rw [if_pos hallowed, hname]

lemma saveOutcome_of_own (hallowed : (v.saveVerdict st).allowed = true)
    (hname : ProperName (Text.trim d.name))
    (howner : ∀ p, shelf.get? (v.savedId d) = some p → p.session = d.session) :
    (saveOutcome v st shelf d).1.status = 200 := by
  unfold saveOutcome
  rw [if_pos hallowed, projectName_of_proper hname]
  rcases save?_cases shelf (v.savedId d) (v.saved d (Text.trim d.name)) with
    ⟨-, old, hold, hne⟩ | ⟨hput, -⟩
  · exact absurd (howner old hold) hne
  · simp only [hput]
    rfl

lemma status_of_saveAnswered (haction : v.action? = some .saveProject)
    (hshelf : st.shelf = some shelf) {status : Nat} (h : SaveAnswered v st shelf status) :
    (v.serve st).response.status = status := by
  cases h with
  | unread hdraft =>
    obtain ⟨e, hserve⟩ := serve_of_unread st haction hdraft
    rw [hserve]
    rfl
  | denied hdraft hdenied =>
    rw [(serve_of_draft hshelf hdraft).1, saveOutcome_of_denied hdenied]
    rfl
  | misnamed hdraft hallowed hname =>
    obtain ⟨e, he⟩ := projectName_of_not_proper hname
    rw [(serve_of_draft hshelf hdraft).1, saveOutcome_of_misnamed hallowed he]
    rfl
  | foreign hdraft hallowed hname hrow howner =>
    rw [(serve_of_draft hshelf hdraft).1, saveOutcome_of_foreign hrow howner, status_refusal,
      if_pos hallowed, projectName_of_proper hname]
    rfl
  | saved hdraft hallowed hname howner =>
    rw [(serve_of_draft hshelf hdraft).1]
    exact saveOutcome_of_own hallowed hname howner

lemma exists_saveAnswered (v : Visit) (st : State) (shelf : Shelf) :
    ∃ status, SaveAnswered v st shelf status := by
  cases hdraft : v.draft? with
  | none => exact ⟨400, .unread hdraft⟩
  | some d =>
    cases hallowed : (v.saveVerdict st).allowed with
    | false => exact ⟨429, .denied hdraft hallowed⟩
    | true =>
      by_cases hname : ProperName (Text.trim d.name)
      · by_cases howner : ∀ p, shelf.get? (v.savedId d) = some p → p.session = d.session
        · exact ⟨200, .saved hdraft hallowed hname howner⟩
        · simp only [not_forall, exists_prop] at howner
          obtain ⟨p, hrow, hforeign⟩ := howner
          exact ⟨404, .foreign hdraft hallowed hname hrow hforeign⟩
      · exact ⟨400, .misnamed hdraft hallowed hname⟩

lemma status_eq_iff_saveAnswered (haction : v.action? = some .saveProject)
    (hshelf : st.shelf = some shelf) (status : Nat) :
    (v.serve st).response.status = status ↔ SaveAnswered v st shelf status := by
  refine ⟨fun h => ?_, status_of_saveAnswered haction hshelf⟩
  obtain ⟨status', hanswered⟩ := exists_saveAnswered v st shelf
  rw [← h, status_of_saveAnswered haction hshelf hanswered]
  exact hanswered

lemma savesRow_of_success (hdraft : v.draft? = some d) (hname : ProperName (Text.trim d.name))
    (hshelf : st.shelf = some shelf) (hok : (v.serve st).response.status = 200) :
    SavesRow v st shelf d (v.savedId d) := by
  obtain ⟨hresponse, hafter⟩ := serve_of_draft hshelf hdraft
  rw [hresponse] at hok
  rcases saveOutcome_cases v st shelf d with ⟨htold, hsave⟩ | ⟨hfailed, -⟩
  · have hrow := get?_save hsave
    refine ⟨hdraft, hname, ⟨(v.savedId d).text, ?_, ofText?_text _⟩, _, hafter, ?_, ?_⟩
    · rw [hresponse, htold]
      exact bodyAt?_record 200 (by simp) (by simp)
    · rw [hrow, if_pos rfl]
    · intro id' hne
      rw [hrow, if_neg hne.symm]
  · exact absurd hok hfailed

theorem saveKeeps_serve (haction : v.action? = some .saveProject)
    (hshelf : st.shelf = some shelf) : SaveKeeps v st shelf where
  status := status_eq_iff_saveAnswered haction hshelf
  unchanged hfailed := by
    cases hdraft : v.draft? with
    | none =>
      obtain ⟨e, hserve⟩ := serve_of_unread st haction hdraft
      rw [hserve]
      exact hshelf
    | some d =>
      obtain ⟨hresponse, hafter⟩ := serve_of_draft hshelf hdraft
      rw [hresponse] at hfailed
      rcases saveOutcome_cases v st shelf d with ⟨htold, -⟩ | ⟨-, hsame⟩
      · rw [htold] at hfailed
        exact absurd rfl hfailed
      · rw [hafter, hsame]
  changed hok := by
    cases (status_eq_iff_saveAnswered haction hshelf 200).1 hok with
    | saved hdraft _ hname _ => exact ⟨_, _, savesRow_of_success hdraft hname hshelf hok⟩

end save

/-! ## Every row -/

lemma wellKept_empty : WellKept .empty :=
  ⟨fun _ hrow => absurd hrow List.not_mem_nil, List.Pairwise.nil⟩

lemma wellKept_of_get? {shelf : Shelf}
    (h : ∀ id p, shelf.get? id = some p → ProperName p.name) : WellKept shelf where
  names row hrow := h row.1 row.2 ((Table.get?_eq_some_iff shelf row.1 row.2).2 hrow)
  identifiers := List.pairwise_map.1 shelf.distinct

lemma WellKept.name {shelf : Shelf} (h : WellKept shelf) {id : Uuid} {p : Saved}
    (hget : shelf.get? id = some p) : ProperName p.name :=
  h.names (id, p) ((Table.get?_eq_some_iff shelf id p).1 hget)

lemma WellKept.serve {shelf : Shelf} {st : State} (h : WellKept shelf)
    (hshelf : st.shelf = some shelf) (v : Visit) :
    ∃ shelf', (v.serve st).state.shelf = some shelf' ∧ WellKept shelf' := by
  rcases shelf_serve_cases v hshelf with
    hsame | ⟨d, -, -, hdraft, -, -⟩ | ⟨segment, id, session, -, -, -, hremoved⟩
  · exact ⟨shelf, hsame, h⟩
  · have hkeeps := saveKeeps_serve (action?_of_draft? hdraft).1 hshelf
    by_cases hok : (v.serve st).response.status = 200
    · obtain ⟨d, id, hsaves⟩ := hkeeps.changed hok
      obtain ⟨shelf', hafter, hrow, hothers⟩ := hsaves.rows
      refine ⟨shelf', hafter, wellKept_of_get? fun id' p hget => ?_⟩
      by_cases hid : id' = id
      · rw [hid, hrow, Option.some.injEq] at hget
        rw [← hget]
        exact hsaves.name
      · exact h.name ((hothers id' hid).symm.trans hget)
    · exact ⟨shelf, hkeeps.unchanged hok, h⟩
  · exact ⟨_, hremoved, wellKept_of_get? fun id p hget => h.name (get?_of_get?_remove hget)⟩

lemma wellKept_afterVisits {st : State} {shelf : Shelf} (h : WellKept shelf)
    (hshelf : st.shelf = some shelf) (visits : List Visit) :
    ∃ shelf', (afterVisits st visits).shelf = some shelf' ∧ WellKept shelf' := by
  induction visits generalizing st shelf with
  | nil => exact ⟨shelf, hshelf, h⟩
  | cons v visits ih =>
    obtain ⟨shelf', hshelf', h'⟩ := h.serve hshelf v
    exact ih h' hshelf'

/-- In every run from an empty shelf on, every row has a name of 1 to 60 characters without white
space at either end, and an identifier of its own. Each save is answered as its body, its client's
budget, its name and the owner of its row say; without success it leaves the shelf as it was, and
with success it changes the row that its answer names and no other. -/
theorem rows_well_kept {st : State} (hempty : st.shelf = some .empty) (visits : List Visit) :
    ∃ shelf, (afterVisits st visits).shelf = some shelf ∧ WellKept shelf ∧
      ∀ v : Visit, v.action? = some .saveProject → SaveKeeps v (afterVisits st visits) shelf := by
  obtain ⟨shelf, hshelf, hkept⟩ := wellKept_afterVisits wellKept_empty hempty visits
  exact ⟨shelf, hshelf, hkept, fun v haction => saveKeeps_serve haction hshelf⟩

/-- One session saves a project under a name with white space around it, and another is refused to
save under the same identifier. -/
theorem rows_well_kept_after_refusal :
    let st : State := ⟨.empty, .memory .empty, some .empty⟩
    let save := visitOf .post "/api/v1/projects"
      "[\"00000000000000000000000000000001\",\"00000000000000000000000000000007\",\" Etna \",[]]"
    let refused := visitOf .post "/api/v1/projects"
      "[\"00000000000000000000000000000002\",\"00000000000000000000000000000007\",\"Fogo\",[]]"
    (st.shelf = some .empty ∧ refused.action? = some .saveProject) ∧
    ∃ shelf, (afterVisits st [save]).shelf = some shelf ∧ WellKept shelf ∧
      (shelf.get? ⟨7⟩).map Saved.name = some "Etna" ∧
      SaveAnswered refused (afterVisits st [save]) shelf 404 ∧
      (refused.serve (afterVisits st [save])).state.shelf = some shelf := by
  intro st save refused
  have haction : refused.action? = some .saveProject := by decide +kernel
  have hstatus : (refused.serve (afterVisits st [save])).response.status = 404 := by
    decide +kernel
  have hname : (afterVisits st [save]).shelf.map (fun shelf => (shelf.get? ⟨7⟩).map Saved.name) =
      some (some "Etna") := by
    decide +kernel
  obtain ⟨shelf, hshelf, hkept, hsaves⟩ := rows_well_kept (rfl : st.shelf = some .empty) [save]
  have hkeeps := hsaves refused haction
  rw [hshelf, Option.map_some, Option.some.injEq] at hname
  refine ⟨⟨rfl, haction⟩, shelf, hshelf, hkept, hname, (hkeeps.status 404).1 hstatus, ?_⟩
  exact hkeeps.unchanged (by rw [hstatus]; decide)

end PromptStudio.Proofs
