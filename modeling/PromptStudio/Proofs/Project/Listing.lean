import PromptStudio.Proofs.Json.RoundTrip
import PromptStudio.Proofs.Lookup.Ranking
import PromptStudio.Proofs.Project.Isolation

/-!
# What a session is listed

A session is listed rows of its own, the last saved ones first and at most fifty of them. A row that
is left out was saved no later than any that is listed.
-/

namespace PromptStudio.Proofs
open Service Project

/-- How many rows of a shelf belong to a session. -/
def rowCount (shelf : Shelf) (session : Uuid) : Nat :=
  shelf.entries.countP fun row => row.2.session == session

/-- The rows are the fifty of a session that were saved last, or all if there are fewer. Rows saved
at one time may stand in any order, and any of them may be left out. -/
structure Listing (shelf : Shelf) (session : Uuid) (listed : List (Uuid × Saved)) : Prop where
  distinct : (listed.map Prod.fst).Nodup
  rows : ∀ row ∈ listed, shelf.get? row.1 = some row.2 ∧ row.2.session = session
  falling : listed.Pairwise fun a b => b.2.updatedAt.millis ≤ a.2.updatedAt.millis
  length : listed.length = min 50 (rowCount shelf session)
  rest : ∀ id p, shelf.get? id = some p → p.session = session → (id, p) ∉ listed →
    ∀ row ∈ listed, p.updatedAt.millis ≤ row.2.updatedAt.millis

section list

variable (shelf : Shelf) (session : Uuid)

/-- All rows of a session, the last saved ones first. -/
def ranked : List (Uuid × Saved) :=
  (shelf.entries.filter fun e => e.2.session == session).mergeSort Shelf.listedBefore

lemma ranked_perm :
    (ranked shelf session).Perm (shelf.entries.filter fun e => e.2.session == session) :=
  List.mergeSort_perm _ _

lemma mem_ranked_iff {row : Uuid × Saved} :
    row ∈ ranked shelf session ↔ shelf.get? row.1 = some row.2 ∧ row.2.session = session := by
  rw [(ranked_perm shelf session).mem_iff, List.mem_filter, beq_iff_eq, Table.get?_eq_some_iff]

lemma falling_ranked :
    (ranked shelf session).Pairwise fun a b => b.2.updatedAt.millis ≤ a.2.updatedAt.millis := by
  have htrans (a b c : Uuid × Saved) (hab : Shelf.listedBefore a b = true)
      (hbc : Shelf.listedBefore b c = true) : Shelf.listedBefore a c = true := by
    simp only [Shelf.listedBefore, decide_eq_true_eq] at hab hbc ⊢
    omega
  have htotal (a b : Uuid × Saved) : (Shelf.listedBefore a b || Shelf.listedBefore b a) = true := by
    simp only [Shelf.listedBefore, Bool.or_eq_true, decide_eq_true_eq]
    omega
  have hsorted := List.pairwise_mergeSort htrans htotal
    (shelf.entries.filter fun e => e.2.session == session)
  exact hsorted.imp fun h => of_decide_eq_true h

lemma nodup_ranked : ((ranked shelf session).map Prod.fst).Nodup := by
  rw [((ranked_perm shelf session).map Prod.fst).nodup_iff]
  exact shelf.distinct.sublist (List.filter_sublist.map Prod.fst)

theorem listing_list : Listing shelf session (shelf.list session) where
  distinct := (nodup_ranked shelf session).sublist ((List.take_sublist _ _).map Prod.fst)
  rows row hrow := (mem_ranked_iff shelf session).1 (List.mem_of_mem_take hrow)
  falling := (falling_ranked shelf session).sublist (List.take_sublist _ _)
  length := by
    rw [rowCount, List.countP_eq_length_filter, ← (ranked_perm shelf session).length_eq]
    exact List.length_take
  rest id p hget hp hout row hrow := by
    have hmem : (id, p) ∈ ranked shelf session := (mem_ranked_iff shelf session).2 ⟨hget, hp⟩
    have hbefore := rel_of_not_mem_take (falling_ranked shelf session) hrow hmem hout
    exact hbefore

end list

/-- What a list shows of a row. -/
def shownInList (row : Uuid × Saved) : Json :=
  .obj [("id", .str row.1.text), ("name", .str row.2.name),
    ("updated_at", .str row.2.updatedAt.stamp)]

lemma summary_eq_shownInList (row : Uuid × Saved) : row.2.summary row.1 = shownInList row := by
  apply record_of_sorted
  have hname : "id" < "name" := by decide
  have htime : "name" < "updated_at" := by decide
  refine List.pairwise_cons.2 ⟨?_, List.pairwise_pair.2 htime⟩
  exact List.forall_mem_cons.2 ⟨hname, List.forall_mem_singleton.2 (String.lt_trans hname htime)⟩

/-- Whatever has been saved, saved again and removed, a session that asks for its list is answered
with rows of its own as they are on the shelf, no row twice and the last saved ones first: all of
them, or the fifty saved last. -/
theorem listed_rows_are_last_saved {st : State} (hup : st.shelf.isSome) (visits : List Visit)
    {v : Visit} {session : Uuid} (hmethod : v.request.method = .get)
    (haction : v.action? = some .listProjects)
    (hsession : Service.session? v.request = some session) :
    ∃ shelf listed, (afterVisits st visits).shelf = some shelf ∧ Listing shelf session listed ∧
      (v.serve (afterVisits st visits)).response =
        .json 200 (.obj [("items", .arr (listed.map shownInList))]) := by
  obtain ⟨shelf, hshelf⟩ := Option.isSome_iff_exists.1 (isSome_shelf_afterVisits visits hup)
  refine ⟨shelf, shelf.list session, hshelf, listing_list shelf session, ?_⟩
  have hnothead : v.request.method ≠ .head := by
    rw [hmethod]
    decide
  rw [serve_of_not_head hnothead, serveWhole_list haction hsession hshelf,
    record_of_sorted (List.pairwise_singleton _ _),
    List.map_congr_left fun row _ => summary_eq_shownInList row]
  rfl

/-- Of three projects two are of the session, and the older one is saved again. -/
theorem listed_rows_are_last_saved_after_another_save :
    let d : Prompt.Document := ⟨"", [], "", .midjourney, .empty⟩
    let shelf : Shelf := ((Table.empty.put ⟨1⟩ ⟨⟨1⟩, "Etna", d, ⟨1⟩⟩).put ⟨2⟩
      ⟨⟨1⟩, "Fogo", d, ⟨2⟩⟩).put ⟨3⟩ ⟨⟨2⟩, "Pico", d, ⟨2⟩⟩
    let st : State := ⟨.empty, .memory .empty, some shelf⟩
    let one := "00000000000000000000000000000001"
    let visit (now : Int) (method : Http.Method) (target body : String) : Visit :=
      ⟨⟨⟨now⟩, fun _ => none, ⟨9⟩, false⟩,
        ⟨method, target, [("content-type", "application/json")], body⟩⟩
    let visits := [visit 4 .post "/api/v1/projects"
      ("[\"" ++ one ++ "\",\"" ++ one ++ "\",\"Lava\",[]]")]
    let look := visit 5 .get ("/api/v1/projects?session_id=" ++ one) ""
    (st.shelf.isSome ∧ look.request.method = .get ∧ look.action? = some .listProjects ∧
      Service.session? look.request = some ⟨1⟩) ∧
    ∃ shelf' listed, (afterVisits st visits).shelf = some shelf' ∧ Listing shelf' ⟨1⟩ listed ∧
      (look.serve (afterVisits st visits)).response =
        .json 200 (.obj [("items", .arr (listed.map shownInList))]) ∧
      listed.length = 2 ∧ (shelf'.get? ⟨1⟩).map Saved.updatedAt = some ⟨4⟩ := by
  intro d shelf st one visit visits look
  have haction : look.action? = some .listProjects := by decide +kernel
  have hsession : Service.session? look.request = some ⟨1⟩ := by decide +kernel
  have hup : st.shelf.isSome := rfl
  obtain ⟨shelf', listed, hshelf, hlisting, hresponse⟩ :=
    listed_rows_are_last_saved hup visits rfl haction hsession
  have hafter : (afterVisits st visits).shelf.map (fun shelf =>
      (rowCount shelf ⟨1⟩, (shelf.get? ⟨1⟩).map Saved.updatedAt)) = some (2, some ⟨4⟩) := by
    decide +kernel
  rw [hshelf, Option.map_some, Option.some.injEq, Prod.mk.injEq] at hafter
  refine ⟨⟨rfl, rfl, haction, hsession⟩, shelf', listed, hshelf, hlisting, hresponse, ?_, hafter.2⟩
  rw [hlisting.length, hafter.1]
  rfl

end PromptStudio.Proofs
