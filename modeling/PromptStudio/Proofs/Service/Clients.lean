import Mathlib.Data.List.Forall2
import PromptStudio.Proofs.Http.Client
import PromptStudio.Proofs.Service.Run

/-!
# Requests of the same client

The service looks at two things in the headers of a request: who asks, and whether the body is
announced as JSON. Requests that are the same but for the way in which their headers name the client
are answered alike and counted in the same windows.
-/

namespace PromptStudio.Proofs
open Service Project

section headers

variable {r : Http.Request} {headers : Http.Headers}

lemma lookUp_headers (hclient : headers.client = r.headers.client) (around : Surroundings)
    (st : State) (s : Lookup.Source) :
    lookUp around st s { r with headers := headers } = lookUp around st s r := by
  unfold lookUp
  dsimp only
  rw [hclient]
  rfl

lemma readBody_headers {α : Type}
    (htype : headers.first? "content-type" = r.headers.first? "content-type")
    (read : Json.Reading → Except Json.Fault α) :
    { r with headers := headers }.readBody read = r.readBody read := by
  have hannounced : { r with headers := headers }.announcesJson = r.announcesJson := by
    unfold Http.Request.announcesJson Http.Headers.plain?
    dsimp only
    rw [htype]
  unfold Http.Request.readBody
  rw [hannounced]

lemma saveProject_headers (hclient : headers.client = r.headers.client)
    (htype : headers.first? "content-type" = r.headers.first? "content-type")
    (around : Surroundings) (st : State) :
    saveProject around st { r with headers := headers } = saveProject around st r := by
  unfold saveProject
  rw [readBody_headers htype]
  dsimp only
  rw [hclient]

lemma perform_headers (hclient : headers.client = r.headers.client)
    (htype : headers.first? "content-type" = r.headers.first? "content-type")
    (around : Surroundings) (st : State) (action : Http.Action) :
    perform around st { r with headers := headers } action = perform around st r action := by
  cases action with
  | health | library => rfl
  | lookup s => exact lookUp_headers hclient around st s
  | compile =>
    unfold perform compile
    rw [readBody_headers htype]
  -- Sessions are named in the query string, and nobody is counted.
  | listProjects | showProject _ | deleteProject _ => rfl
  | saveProject => exact saveProject_headers hclient htype around st

end headers

/-- The same visit, but for headers that name the same client. The body is announced as before. -/
inductive Readdressed (v : Visit) : Visit → Prop
  | headers {headers : Http.Headers} (client : SameClient v.request.headers headers)
      (type : headers.first? "content-type" = v.request.headers.first? "content-type") :
      Readdressed v ⟨v.around, { v.request with headers := headers }⟩

lemma Readdressed.serve_eq {v v' : Visit} (h : Readdressed v v') (st : State) :
    v'.serve st = v.serve st := by
  obtain ⟨hclient, htype⟩ := h
  unfold Visit.serve serve serveWhole
  simp only [perform_headers hclient.client_eq htype]
  rfl

/-- Visits that are readdressed one by one lead to the same state. -/
theorem afterVisits_readdressed {visits visits' : List Visit}
    (h : List.Forall₂ Readdressed visits visits') (st : State) :
    afterVisits st visits' = afterVisits st visits := by
  induction h generalizing st with
  | nil => rfl
  | cons hv _ ih =>
    unfold afterVisits at *
    rw [List.foldl_cons, List.foldl_cons, hv.serve_eq, ih]

/-- A client is known by what the headers name: whom the request was forwarded for, else the real
address, else nothing. The identity is not empty and has no white space at its ends. Hops added after
the first, further headers and a real address beside them change nothing, so requests that differ in
these are answered alike and leave the same windows behind. -/
theorem clients_known_by_first_hop (headers : Http.Headers) :
    (headers.client ≠ "" ∧
      (∀ c, headers.client.toList.head? = some c → Text.isBlank c = false) ∧
      ∀ c, headers.client.toList.getLast? = some c → Text.isBlank c = false) ∧
    (∀ who, headers.client = who ↔ Names headers who) ∧
    (∀ other, SameClient headers other → other.client = headers.client) ∧
    ∀ (st : State) (visits visits' : List Visit), List.Forall₂ Readdressed visits visits' →
      afterVisits st visits' = afterVisits st visits ∧
      ∀ v v', Readdressed v v' →
        v'.serve (afterVisits st visits') = v.serve (afterVisits st visits) := by
  obtain ⟨hne, htrim⟩ := (client_eq_iff_names.1 (Eq.refl headers.client)).trimmed
  have hchars : Text.trimChars headers.client.toList = headers.client.toList := by
    rw [← Text.toList_trim, htrim]
  refine ⟨⟨hne, fun c hc => ?_, fun c hc => ?_⟩, fun who => client_eq_iff_names,
    fun other => SameClient.client_eq, fun st visits visits' hvisits => ?_⟩
  · rw [← hchars] at hc
    exact Text.isBlank_of_head?_trimChars hc
  · rw [← hchars] at hc
    exact Text.isBlank_of_getLast?_trimChars hc
  · have hstate := afterVisits_readdressed hvisits st
    refine ⟨hstate, fun v v' hv => ?_⟩
    rw [hstate, hv.serve_eq]

/-- A first hop among others and beside a real address; a blank first hop, after which the real
address counts; and a search that is counted as before once a hop is added. -/
theorem clients_known_by_first_hop_among_others :
    let headers : Http.Headers :=
      [("X-Forwarded-For", "\t203.0.113.7 , 10.0.0.1"), ("x-real-ip", "10.0.0.9")]
    let other : Http.Headers := [("Accept", "*/*"), ("X-Real-IP", " "),
      ("x-forwarded-for", "\t203.0.113.7 , 10.0.0.1,10.0.0.2"), ("X-Forwarded-For", "10.0.0.3")]
    let blank : Http.Headers := [("x-forwarded-for", " , 10.0.0.1"), ("x-real-ip", " 198.51.100.2\t")]
    let st : State := ⟨.empty, .memory .empty, none⟩
    let search : Visit := ⟨⟨⟨0⟩, fun _ => none, ⟨9⟩, false⟩,
      ⟨.get, "/api/v1/lookup/discover?term=ash", headers, ""⟩⟩
    let again : Visit := ⟨search.around, { search.request with headers := other }⟩
    (ForwardedFor headers "\t203.0.113.7 , 10.0.0.1" "203.0.113.7" ∧ SameClient headers other ∧
      Readdressed search again) ∧
    headers.client = "203.0.113.7" ∧ other.client = headers.client ∧
    Names blank "198.51.100.2" ∧
    afterVisits st [again] = afterVisits st [search] := by
  intro headers other blank st search again
  have hforwarded : ForwardedFor headers "\t203.0.113.7 , 10.0.0.1" "203.0.113.7" := by
    refine ⟨⟨[], "X-Forwarded-For", [("x-real-ip", "10.0.0.9")], rfl, by decide +kernel, nofun⟩,
      by decide +kernel, ⟨"\t203.0.113.7 ", ⟨by decide +kernel, Or.inr ⟨" 10.0.0.1", ?_⟩⟩, ?_⟩,
      by decide⟩
    · decide +kernel
    · decide +kernel
  have hother : FirstValue other "x-forwarded-for"
      ("\t203.0.113.7 , 10.0.0.1" ++ "," ++ "10.0.0.2") :=
    ⟨[("Accept", "*/*"), ("X-Real-IP", " ")], "x-forwarded-for", [("X-Forwarded-For", "10.0.0.3")],
      by decide +kernel, by decide +kernel, by decide +kernel⟩
  have hsame : SameClient headers other := .lengthened hforwarded (by decide +kernel) hother
  have hagain : Readdressed search again := .headers hsame (by decide +kernel)
  obtain ⟨-, hnames, hclient, hvisits⟩ := clients_known_by_first_hop headers
  obtain ⟨-, hblank, -⟩ := clients_known_by_first_hop blank
  exact ⟨⟨hforwarded, hsame, hagain⟩, (hnames _).2 (.forwarded hforwarded), hclient other hsame,
    (hblank _).1 (by decide +kernel), (hvisits st [search] [again] (.cons hagain .nil)).1⟩

end PromptStudio.Proofs
