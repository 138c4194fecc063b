import Mathlib.Data.List.Induction
import PromptStudio.Proofs.Project.Isolation
import PromptStudio.Proofs.Prompt.RoundTrip
import PromptStudio.Proofs.Service.Counting

/-!
# What was saved is what is shown

What a session is shown under an identifier follows from the requests made so far and the answers
to them: the last document that the session has saved there with success, unless it has removed it
since.
-/

namespace PromptStudio.Proofs
open Service Project

/-- A request with its answer. -/
structure Exchange where
  visit : Visit
  answer : Http.Response

def Visit.exchange (v : Visit) (st : State) : Exchange :=
  ⟨v, (v.serve st).response⟩

/-- The requests of a run with their answers, in order. -/
def exchanges (st : State) : List Visit → List Exchange
  | [] => []
  | v :: visits => v.exchange st :: exchanges (v.serve st).state visits

/-- A session saves a draft under an identifier, with success. -/
structure Exchange.Saves (e : Exchange) (session id : Uuid) (d : Draft) : Prop where
  draft : e.visit.draft? = some d
  session : d.session = session
  id : e.visit.savedId d = id
  success : e.answer.status = 200

/-- A session asks to remove what it has under an identifier. -/
def Exchange.Removes (e : Exchange) (session id : Uuid) : Prop :=
  ∃ segment, e.visit.action? = some (.deleteProject segment) ∧ projectId? segment = some id ∧
    Service.session? e.visit.request = some session

def Exchange.Spares (e : Exchange) (session id : Uuid) : Prop :=
  ¬ e.Removes session id ∧ ∀ d, ¬ e.Saves session id d

/-- The draft is what the session has last saved under the identifier, and it has not removed it
since. -/
def LastSaved (es : List Exchange) (session id : Uuid) (v : Visit) (d : Draft) : Prop :=
  ∃ before answer after, es = before ++ ⟨v, answer⟩ :: after ∧
    Exchange.Saves ⟨v, answer⟩ session id d ∧ ∀ e ∈ after, e.Spares session id

/-! ## One request -/

section step

variable {v : Visit} {st : State} {shelf : Shelf} {d : Draft}

/-- What becomes of the row that each session finds under each identifier when the shelf is the
second one after the exchange and was the first one before. -/
def Follows (e : Exchange) (shelf shelf' : Shelf) : Prop :=
  ∀ session id,
    (∃ d, e.Saves session id d ∧
      shelf'.find? session id = some (e.visit.saved d (Text.trim d.name))) ∨
    (e.Removes session id ∧ (∀ d, ¬ e.Saves session id d) ∧ shelf'.find? session id = none) ∨
    (e.Spares session id ∧ shelf'.find? session id = shelf.find? session id)

lemma follows_of_draft (hshelf : st.shelf = some shelf) (hdraft : v.draft? = some d) :
    Follows (v.exchange st) shelf (saveOutcome v st shelf d).2 := by
  intro session id
  have hstatus : (v.exchange st).answer.status = (saveOutcome v st shelf d).1.status := by
    rw [Visit.exchange, (serve_of_draft hshelf hdraft).1]
  have hkept : ¬ (v.exchange st).Removes session id := by
    rintro ⟨segment, haction, -⟩
    cases (action?_of_draft? hdraft).1.symm.trans haction
  rcases saveOutcome_cases v st shelf d with ⟨hok, hsave⟩ | ⟨hfailed, hsame⟩
  · rw [find?_save hsave]
    by_cases hhere : v.savedId d = id ∧ d.session = session
    · exact Or.inl ⟨d, ⟨hdraft, hhere.2, hhere.1, by rw [hstatus, hok]; rfl⟩, if_pos hhere⟩
    · refine Or.inr (Or.inr ⟨⟨hkept, fun d' hsaves => ?_⟩, if_neg hhere⟩)
      obtain rfl : d = d' := Option.some.inj (hdraft.symm.trans hsaves.draft)
      exact hhere ⟨hsaves.id, hsaves.session⟩
  · refine Or.inr (Or.inr ⟨⟨hkept, fun d' hsaves => ?_⟩, by rw [hsame]⟩)
    exact hfailed (hstatus.symm.trans hsaves.success)

lemma follows_of_no_draft {shelf' : Shelf} (hshelf : st.shelf = some shelf)
    (hdraft : v.draft? = none) (hafter : (v.serve st).state.shelf = some shelf') :
    Follows (v.exchange st) shelf shelf' := by
  intro session id
  have hunsaved (d : Draft) : ¬ (v.exchange st).Saves session id d := by
    intro hsaves
    cases hdraft.symm.trans hsaves.draft
  by_cases hremoves : (v.exchange st).Removes session id
  · obtain ⟨segment, haction, hid, hsession⟩ := hremoves
    rw [state_serve, serveWhole_delete (v := v) haction hid hsession hshelf] at hafter
    cases hafter
    refine Or.inr (Or.inl ⟨⟨segment, haction, hid, hsession⟩, hunsaved, ?_⟩)
    rw [find?_remove, if_pos ⟨rfl, rfl⟩]
  · refine Or.inr (Or.inr ⟨⟨hremoves, hunsaved⟩, ?_⟩)
    rcases shelf_serve_cases v hshelf with
      hsame | ⟨d, -, -, hd, -, -⟩ | ⟨segment, id', session', haction, hid, hsession, heq⟩
    · cases hsame.symm.trans hafter
      rfl
    · cases hdraft.symm.trans hd
    · cases heq.symm.trans hafter
      rw [find?_remove, if_neg]
      rintro ⟨rfl, rfl⟩
      exact hremoves ⟨segment, haction, hid, hsession⟩

/-- A visit puts a row where it saves one and takes it away where it removes one, and every other
row that a session finds stays. -/
theorem follows_serve (v : Visit) (hshelf : st.shelf = some shelf) :
    ∃ shelf', (v.serve st).state.shelf = some shelf' ∧
      Follows (v.exchange st) shelf shelf' := by
  cases hdraft : v.draft? with
  | some d =>
    exact ⟨_, (serve_of_draft hshelf hdraft).2, follows_of_draft hshelf hdraft⟩
  | none =>
    have hup : st.shelf.isSome := by rw [hshelf]; rfl
    obtain ⟨shelf', hafter⟩ := Option.isSome_iff_exists.1 (isSome_shelf_serve (v := v) hup)
    exact ⟨shelf', hafter, follows_of_no_draft hshelf hdraft hafter⟩

end step

/-! ## A run -/

lemma exchanges_concat (st : State) (visits : List Visit) (v : Visit) :
    exchanges st (visits ++ [v]) =
      exchanges st visits ++ [v.exchange (afterVisits st visits)] := by
  induction visits generalizing st with
  | nil => rfl
  | cons w ws ih =>
    have hstep : afterVisits st (w :: ws) = afterVisits (w.serve st).state ws := rfl
    rw [List.cons_append, exchanges, exchanges, ih, hstep, List.cons_append]

lemma afterVisits_concat (st : State) (visits : List Visit) (v : Visit) :
    afterVisits st (visits ++ [v]) = (v.serve (afterVisits st visits)).state :=
  List.foldl_append

/-- What was last saved after one more exchange: what this one saves, or what it spares. -/
lemma lastSaved_concat (es : List Exchange) (e : Exchange) (session id : Uuid) (v : Visit)
    (d : Draft) :
    LastSaved (es ++ [e]) session id v d ↔
      (e.visit = v ∧ e.Saves session id d) ∨
      (e.Spares session id ∧ LastSaved es session id v d) := by
  constructor
  · rintro ⟨before, answer, after, heq, hsaves, hspared⟩
    -- The new exchange is the save itself, or the last of those after it.
    cases after using List.reverseRecOn with
    | nil =>
      obtain ⟨-, he⟩ := List.append_inj' heq rfl
      obtain rfl : e = ⟨v, answer⟩ := List.singleton_inj.1 he
      exact Or.inl ⟨rfl, hsaves⟩
    | append_singleton after last =>
      rw [← List.cons_append, ← List.append_assoc] at heq
      obtain ⟨hes, he⟩ := List.append_inj' heq rfl
      obtain rfl : e = last := List.singleton_inj.1 he
      refine Or.inr ⟨hspared e (by simp), before, answer, after, hes, hsaves, ?_⟩
      exact fun e' he' => hspared e' (List.mem_append_left _ he')
  · rintro (⟨rfl, hsaves⟩ | ⟨hspares, before, answer, after, rfl, hsaves, hspared⟩)
    · exact ⟨es, e.answer, [], rfl, hsaves, fun e' he' => by cases he'⟩
    · refine ⟨before, answer, after ++ [e], by simp, hsaves, fun e' he' => ?_⟩
      rcases List.mem_append.1 he' with hold | hnew
      · exact hspared e' hold
      · rw [List.mem_singleton.1 hnew]
        exact hspares

/-- What each session finds under each identifier is what it has last saved there. -/
def Shelved (es : List Exchange) (shelf : Shelf) : Prop :=
  ∀ session id p, shelf.find? session id = some p ↔
    ∃ v d, LastSaved es session id v d ∧ p = v.saved d (Text.trim d.name)

lemma shelved_empty : Shelved [] .empty := by
  intro session id p
  constructor
  · intro hfind
    cases hfind
  · rintro ⟨v, d, ⟨before, answer, after, heq, -⟩, -⟩
    cases before <;> cases heq

lemma Shelved.concat {es : List Exchange} {e : Exchange} {shelf shelf' : Shelf}
    (h : Shelved es shelf) (hfollows : Follows e shelf shelf') : Shelved (es ++ [e]) shelf' := by
  intro session id p
  simp only [lastSaved_concat]
  rcases hfollows session id with
    ⟨d, hsaves, hrow⟩ | ⟨hremoves, hunsaved, hrow⟩ | ⟨hspares, hrow⟩
  · rw [hrow]
    constructor
    · intro hp
      exact ⟨e.visit, d, Or.inl ⟨rfl, hsaves⟩, (Option.some.inj hp).symm⟩
    · rintro ⟨w, d', ⟨rfl, hsaves'⟩ | ⟨hspares, -⟩, rfl⟩
      · obtain rfl : d = d' := Option.some.inj (hsaves.draft.symm.trans hsaves'.draft)
        rfl
      · exact absurd hsaves (hspares.2 d)
  · rw [hrow]
    constructor
    · intro hp
      cases hp
    · rintro ⟨w, d, ⟨-, hsaves⟩ | ⟨hspares, -⟩, -⟩
      · exact absurd hsaves (hunsaved d)
      · exact absurd hremoves hspares.1
  · rw [hrow, h session id]
    constructor
    · rintro ⟨w, d, hlast, hp⟩
      exact ⟨w, d, Or.inr ⟨hspares, hlast⟩, hp⟩
    · rintro ⟨w, d, ⟨-, hsaves⟩ | ⟨-, hlast⟩, hp⟩
      · exact absurd hsaves (hspares.2 d)
      · exact ⟨w, d, hlast, hp⟩

theorem shelved_afterVisits {st : State} (hempty : st.shelf = some .empty) (visits : List Visit) :
    ∃ shelf, (afterVisits st visits).shelf = some shelf ∧ Shelved (exchanges st visits) shelf := by
  induction visits using List.reverseRecOn with
  | nil => exact ⟨.empty, hempty, shelved_empty⟩
  | append_singleton visits v ih =>
    obtain ⟨shelf, hshelf, hshelved⟩ := ih
    obtain ⟨shelf', hshelf', hfollows⟩ := follows_serve v hshelf
    rw [afterVisits_concat, exchanges_concat]
    exact ⟨shelf', hshelf', hshelved.concat hfollows⟩

/-! ## What is shown -/

/-- A session asks for what is under an identifier. -/
structure Visit.LooksAt (v : Visit) (session id : Uuid) : Prop where
  method : v.request.method = .get
  project : ∃ segment, v.action? = some (.showProject segment) ∧ projectId? segment = some id
  session : Service.session? v.request = some session

/-- The answer shows the draft as it was saved. -/
structure ShowsSave (answer : Http.Response) (id : Uuid) (v : Visit) (d : Draft) : Prop where
  status : answer.status = 200
  id : bodyAt? answer ["id"] = some (.str id.text)
  name : bodyAt? answer ["name"] = some (.str (Text.trim d.name))
  payload : ∃ j, bodyAt? answer ["payload"] = some j ∧
    (WrittenDocument.value j).document? = some d.document ∧
    (WrittenDocument.text j.print).document? = some d.document
  updatedAt : bodyAt? answer ["updated_at"] = some (.str v.around.now.stamp)

/-- A save without an identifier succeeds if it is admitted and its name fits, and then the answer
names a row that was not there before. -/
structure Creates (v : Visit) (st : State) (shelf : Shelf) (d : Draft) : Prop where
  success : (v.serve st).response.status = 200 ↔
    (v.saveVerdict st).allowed ∧ ∃ name, projectName d.name = .ok name
  id : (v.serve st).response.status = 200 →
    bodyAt? (v.serve st).response ["id"] = some (.str v.around.fresh.text)
  row : (v.serve st).response.status = 200 → ∃ shelf', (v.serve st).state.shelf = some shelf' ∧
    ∀ id, shelf'.get? id =
      if v.around.fresh = id then some (v.saved d (Text.trim d.name)) else shelf.get? id

lemma bodyAt?_record {members : List (String × Json)} {name : String} {v : Json} (status : Nat)
    (hdistinct : (members.map Prod.fst).Nodup) (h : (name, v) ∈ members) :
    bodyAt? (.json status (.record members)) [name] = some v := by
  have hget := get?_record_of_mem hdistinct h
  simp [bodyAt?, Http.Response.json, hget]

section shown

variable {v : Visit} {st : State} {shelf : Shelf} {d : Draft} {session id : Uuid}

lemma showsSave_toJson (w : Visit) (d : Draft) (id : Uuid) :
    ShowsSave (.json 200 ((w.saved d (Text.trim d.name)).toJson id)) id w d := by
  have hdistinct : ["id", "name", "payload", "updated_at"].Nodup := by decide
  have hread := read_document_toJson d.document
  constructor
  · rfl
  · exact bodyAt?_record 200 hdistinct (by simp)
  · exact bodyAt?_record 200 hdistinct (by simp [Visit.saved])
  · refine ⟨d.document.toJson, ?_, document?_value hread, document?_text hread⟩
    exact bodyAt?_record 200 hdistinct (by simp [Visit.saved])
  · exact bodyAt?_record 200 hdistinct (by simp [Visit.saved])

lemma response_of_looksAt (hlooks : v.LooksAt session id) (hshelf : st.shelf = some shelf) :
    (v.serve st).response =
      match shelf.find? session id with
      | some p => .json 200 (p.toJson id)
      | none => .ofFailure (missingProject id) := by
  obtain ⟨segment, haction, hid⟩ := hlooks.project
  have hget : v.request.method ≠ .head := by
    rw [hlooks.method]
    decide
  rw [serve_of_not_head hget, serveWhole_show haction hid hlooks.session hshelf]
  cases shelf.find? session id <;> rfl

lemma status_saveOutcome_of_none (hnone : shelf.get? (v.savedId d) = none) :
    (saveOutcome v st shelf d).1.status = 200 ↔
      (v.saveVerdict st).allowed ∧ ∃ name, projectName d.name = .ok name := by
  unfold saveOutcome
  by_cases hallowed : (v.saveVerdict st).allowed
  · rw [if_pos hallowed]
    cases hname : projectName d.name with
    | error e => simp [Http.Response.ofRejection, Http.Response.ofFailure, Http.Response.json,
        status_failure_ne_ok]
    | ok name =>
      simp only [save?_of_none hnone]
      exact ⟨fun _ => ⟨hallowed, name, rfl⟩, fun _ => rfl⟩
  · rw [if_neg hallowed]
    constructor
    · intro hok
      exact absurd hok (status_failure_ne_ok (.rateLimited (v.saveVerdict st).resetAt))
    · intro h
      exact absurd h.1 hallowed

lemma creates_serve (hshelf : st.shelf = some shelf) (hdraft : v.draft? = some d)
    (hid : d.id = none) (hfresh : shelf.get? v.around.fresh = none) : Creates v st shelf d := by
  have hsaved : v.savedId d = v.around.fresh := by
    rw [Visit.savedId, hid]
    rfl
  obtain ⟨hresponse, hshelf'⟩ := serve_of_draft hshelf hdraft
  constructor
  · rw [hresponse]
    exact status_saveOutcome_of_none (by rw [hsaved, hfresh])
  · intro hok
    rw [hresponse] at hok ⊢
    rcases saveOutcome_cases v st shelf d with ⟨htold, -⟩ | ⟨hfailed, -⟩
    · rw [htold, hsaved]
      exact bodyAt?_record 200 (by simp) (by simp)
    · exact absurd hok hfailed
  · intro hok
    rw [hresponse] at hok
    rcases saveOutcome_cases v st shelf d with ⟨-, hsave⟩ | ⟨hfailed, -⟩
    · refine ⟨(saveOutcome v st shelf d).2, hshelf', fun id => ?_⟩
      rw [hsaved, save?_of_none hfresh] at hsave
      rw [← Option.some.inj hsave, Table.get?_put]
    · exact absurd hok hfailed

end shown

/-- In every run from an empty shelf on, a session that asks for what is under an identifier is
shown what it has last saved there, and nothing if it has saved nothing there or has removed it
since. What is saved without an identifier gets a row of its own, under the identifier that is
told. -/
theorem shown_as_last_saved (st : State) (hempty : st.shelf = some .empty) (visits : List Visit)
    (v : Visit) :
    (∀ session id, v.LooksAt session id →
      ((v.serve (afterVisits st visits)).response.status = 200 ↔
        ∃ w d, LastSaved (exchanges st visits) session id w d) ∧
      (∀ w d, LastSaved (exchanges st visits) session id w d →
        ShowsSave (v.serve (afterVisits st visits)).response id w d) ∧
      ((¬ ∃ w d, LastSaved (exchanges st visits) session id w d) →
        (v.serve (afterVisits st visits)).response.status = 404)) ∧
    ∀ shelf d, (afterVisits st visits).shelf = some shelf → v.draft? = some d → d.id = none →
      shelf.get? v.around.fresh = none → Creates v (afterVisits st visits) shelf d := by
  refine ⟨fun session id hlooks => ?_, fun shelf d hshelf hdraft hid hfresh =>
    creates_serve hshelf hdraft hid hfresh⟩
  obtain ⟨shelf, hshelf, hshelved⟩ := shelved_afterVisits hempty visits
  have hresponse := response_of_looksAt hlooks hshelf
  have hshown (w : Visit) (d : Draft) (hlast : LastSaved (exchanges st visits) session id w d) :
      ShowsSave (v.serve (afterVisits st visits)).response id w d := by
    rw [hresponse, (hshelved session id _).2 ⟨w, d, hlast, rfl⟩]
    exact showsSave_toJson w d id
  have hmissing (hnone : ¬ ∃ w d, LastSaved (exchanges st visits) session id w d) :
      (v.serve (afterVisits st visits)).response.status = 404 := by
    cases hrow : shelf.find? session id with
    | none =>
      rw [hresponse, hrow]
      rfl
    | some p =>
      obtain ⟨w, d, hlast, -⟩ := (hshelved session id p).1 hrow
      exact absurd ⟨w, d, hlast⟩ hnone
  refine ⟨⟨fun hok => ?_, ?_⟩, hshown, hmissing⟩
  · by_contra hnone
    rw [hmissing hnone] at hok
    cases hok
  · rintro ⟨w, d, hlast⟩
    exact (hshown w d hlast).status

/-- A session saves a project, which another is refused to overwrite, and looks at it. Another
project is new and gets the fresh identifier. -/
theorem shown_as_last_saved_despite_another_session :
    let st : State := ⟨.empty, .memory .empty, some .empty⟩
    let save := visitOf .post "/api/v1/projects"
      "[\"00000000000000000000000000000001\",\"00000000000000000000000000000007\",\" Etna \",[]]"
    let refused := visitOf .post "/api/v1/projects"
      "[\"00000000000000000000000000000002\",\"00000000000000000000000000000007\",\"Fogo\",[]]"
    let new := visitOf .post "/api/v1/projects"
      "[\"00000000000000000000000000000002\",null,\"Fogo\",[]]"
    let look := visitOf .get ("/api/v1/projects/00000000000000000000000000000007?session_id=" ++
      "00000000000000000000000000000001") ""
    let d : Draft := ⟨⟨1⟩, some ⟨7⟩, " Etna ", ⟨"", [], "", .midjourney, .empty⟩⟩
    (look.LooksAt ⟨1⟩ ⟨7⟩ ∧ LastSaved (exchanges st [save, refused]) ⟨1⟩ ⟨7⟩ save d) ∧
    bodyAt? (look.serve (afterVisits st [save, refused])).response ["name"] = some (.str "Etna") ∧
    bodyAt? (new.serve st).response ["id"] = some (.str new.around.fresh.text) := by
  intro st save refused new look d
  have hlooks : look.LooksAt ⟨1⟩ ⟨7⟩ := by
    refine ⟨rfl, ⟨"00000000000000000000000000000007".toList, ?_, ?_⟩, ?_⟩ <;> decide +kernel
  have hsaves : (save.exchange st).Saves ⟨1⟩ ⟨7⟩ d :=
    ⟨by decide +kernel, rfl, rfl, by decide +kernel⟩
  have hrefused : (refused.exchange (save.serve st).state).Spares ⟨1⟩ ⟨7⟩ := by
    constructor
    · rintro ⟨segment, haction, -⟩
      have hpost : refused.action? = some .saveProject := by decide +kernel
      cases hpost.symm.trans haction
    · intro d' hsaves'
      exact absurd hsaves'.success (by decide +kernel)
  have hlast : LastSaved (exchanges st [save, refused]) ⟨1⟩ ⟨7⟩ save d :=
    ⟨[], _, [_], rfl, hsaves, by simpa using hrefused⟩
  have hshows := (shown_as_last_saved st rfl [save, refused] look).1 ⟨1⟩ ⟨7⟩ hlooks
  have hname := (hshows.2.1 save d hlast).name
  have htrim : Text.trim " Etna " = "Etna" := by decide +kernel
  have hcreates := (shown_as_last_saved st rfl [] new).2 .empty
    ⟨⟨2⟩, none, "Fogo", ⟨"", [], "", .midjourney, .empty⟩⟩ rfl (by decide +kernel) rfl rfl
  refine ⟨⟨hlooks, hlast⟩, ?_, hcreates.id (by decide +kernel)⟩
  exact hname.trans (congrArg (fun name => some (Json.str name)) htrim)

end PromptStudio.Proofs
