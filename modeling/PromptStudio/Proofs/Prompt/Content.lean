import PromptStudio.Proofs.Prompt.Composition

/-!
# What a prompt shows

Of a document its prompt shows the trimmed subject, the trimmed text and the emphasis of each
fragment that is shown, and what the trailer of the model takes. All else can be put away: the
plainest document with the same content has the same prompt.
-/

namespace PromptStudio.Proofs
open Prompt

/-! ## Content -/

/-- What is shown of a fragment. -/
def content (f : Fragment) : String × Option Binary64 :=
  (Text.trim f.text, f.emphasis)

/-- Parameters with the texts trimmed and blank ones left out. -/
def trimmedParams (p : Params) : Params :=
  { p with aspect := p.aspect.bind Text.nonBlank?, seed := p.seed.bind Text.nonBlank? }

/-- Documents that differ only in what their model does not show. -/
structure SameContent (d e : Document) : Prop where
  model : d.model = e.model
  subject : Text.trim d.subject = Text.trim e.subject
  fragments : (shownFragments d).map content = (shownFragments e).map content
  params : d.model = .midjourney → trimmedParams d.params = trimmedParams e.params
  negative : d.model = .sdxl ∨ d.model = .flux → Text.trim d.negative = Text.trim e.negative

/-- A fragment without a name and a category of its own, and with the weight one unless there is
emphasis in it: the weight is above zero and not nearer to one than 2^-52. -/
def plainFragment (f : Fragment) : Fragment where
  id := ""
  label := ""
  text := Text.trim f.text
  category := .scene
  weight :=
    if value f.weight ≤ 0 ∨ |value f.weight - 1| < 1 / 2 ^ 52 then neutralWeight else f.weight

/-- The plainest document with the content of another. -/
def essence (d : Document) : Document where
  subject := Text.trim d.subject
  fragments := (shownFragments d).map plainFragment
  negative := if d.model = .sdxl ∨ d.model = .flux then Text.trim d.negative else ""
  model := d.model
  params := if d.model = .midjourney then trimmedParams d.params else .empty

/-! ## Plain fragments -/

lemma emphasis_eq_some {f : Fragment} {weight : Binary64} (h : f.emphasis = some weight) :
    f.weight = weight := by
  unfold Fragment.emphasis at h
  dsimp only at h
  split at h
  · cases h
  · exact Option.some.inj h

lemma weight_plainFragment (f : Fragment) :
    (plainFragment f).weight = f.emphasis.getD neutralWeight := by
  unfold plainFragment
  dsimp only
  cases h : f.emphasis with
  | none => exact if_pos ((emphasis_eq_none_iff f).1 h)
  | some weight =>
    have hsome : ¬ f.emphasis = none := by
      rw [h]
      exact Option.some_ne_none weight
    rw [if_neg (mt (emphasis_eq_none_iff f).2 hsome), emphasis_eq_some h]
    rfl

lemma emphasis_congr {f g : Fragment} (h : f.weight = g.weight) : f.emphasis = g.emphasis := by
  unfold Fragment.emphasis
  rw [h]

lemma emphasis_plainFragment (f : Fragment) : (plainFragment f).emphasis = f.emphasis := by
  have hweight := weight_plainFragment f
  cases h : f.emphasis with
  | none =>
    have hneutral : (⟨"", "", "", .scene, neutralWeight⟩ : Fragment).emphasis = none := by
      decide +kernel
    rw [h] at hweight
    exact (emphasis_congr hweight).trans hneutral
  | some weight =>
    rw [h] at hweight
    exact (emphasis_congr (hweight.trans (emphasis_eq_some h).symm)).trans h

lemma content_plainFragment (f : Fragment) : content (plainFragment f) = content f := by
  rw [content, content, emphasis_plainFragment]
  exact congrArg (·, f.emphasis) (Text.trim_trim f.text)

lemma plainFragment_eq (f : Fragment) :
    plainFragment f =
      ⟨"", "", (content f).1, .scene, (content f).2.getD neutralWeight⟩ := by
  rw [content, ← weight_plainFragment]
  rfl

lemma map_plainFragment (fs : List Fragment) :
    fs.map plainFragment =
      (fs.map content).map fun c => ⟨"", "", c.1, .scene, c.2.getD neutralWeight⟩ := by
  rw [List.map_map]
  exact List.map_congr_left fun f _ => plainFragment_eq f

lemma shown_plainFragment {f : Fragment} (h : Shown f) : Shown (plainFragment f) := by
  have hcategory : (plainFragment f).category = .scene := rfl
  have htext : Text.trim (plainFragment f).text = Text.trim f.text := Text.trim_trim f.text
  rw [Shown, hcategory, htext]
  exact ⟨by decide, h.2⟩

lemma shownFragments_essence (d : Document) :
    shownFragments (essence d) = (shownFragments d).map plainFragment := by
  refine List.filter_eq_self.2 fun f hf => ?_
  obtain ⟨g, hg, rfl⟩ := List.mem_map.1 hf
  exact decide_eq_true (shown_plainFragment (of_decide_eq_true (List.mem_filter.1 hg).2))

lemma map_content_shownFragments_essence (d : Document) :
    (shownFragments (essence d)).map content = (shownFragments d).map content := by
  rw [shownFragments_essence, List.map_map]
  exact List.map_congr_left fun f _ => content_plainFragment f

/-! ## Prompts -/

lemma parts_of_content {d e : Document} (hmodel : d.model = e.model)
    (hsubject : Text.trim d.subject = Text.trim e.subject)
    (hfragments : (shownFragments d).map content = (shownFragments e).map content) :
    d.parts = e.parts := by
  have hparts (d : Document) :
      d.parts = (if Text.trim d.subject = "" then [] else [Text.trim d.subject]) ++
        ((shownFragments d).map content).flatMap fun c => writtenParts d.model c.1 c.2 := by
    rw [parts_eq, List.flatMap_map]
    rfl
  rw [hparts, hparts, hmodel, hsubject, hfragments]

lemma presentModifiers_trimmedParams (p : Params) :
    presentModifiers (trimmedParams p) = presentModifiers p := by
  unfold presentModifiers trimmedParams
  dsimp only
  rw [nonBlank?_bind_nonBlank?, nonBlank?_bind_nonBlank?]

lemma trailerFor_congr {m : Model} {p p' : Params} {negative negative' : String}
    (hparams : m = .midjourney → presentModifiers p = presentModifiers p')
    (hnegative : m = .sdxl ∨ m = .flux → Text.trim negative = Text.trim negative')
    (alone : Prop) [Decidable alone] :
    trailerFor m p negative alone = trailerFor m p' negative' alone := by
  unfold trailerFor
  cases m with
  | midjourney => rw [hparams rfl]
  | sdxl => rw [hnegative (Or.inl rfl)]
  | flux => rw [hnegative (Or.inr rfl)]
  | dalle => rfl

lemma prompt_essence (d : Document) : (essence d).prompt = d.prompt := by
  have hbase : (essence d).base = d.base :=
    congrArg (String.intercalate ", ") (parts_of_content rfl (Text.trim_trim d.subject)
      (map_content_shownFragments_essence d))
  have htrailer : (essence d).trailer = d.trailer := by
    rw [trailer_eq, trailer_eq, bare_eq, bare_eq, hbase]
    refine trailerFor_congr (fun h => ?_) (fun h => ?_) _
    · have hparams : (essence d).params = trimmedParams d.params := if_pos h
      rw [hparams, presentModifiers_trimmedParams]
    · have hnegative : (essence d).negative = Text.trim d.negative := if_pos h
      rw [hnegative, Text.trim_trim]
  rw [Document.prompt, Document.prompt, hbase, htrailer]

lemma SameContent.essence_eq {d e : Document} (h : SameContent d e) : essence d = essence e := by
  have hfragments : (shownFragments d).map plainFragment =
      (shownFragments e).map plainFragment := by
    rw [map_plainFragment, map_plainFragment, h.fragments]
  -- What the model does not take is put away on both sides.
  have hnegative : (if d.model = .sdxl ∨ d.model = .flux then Text.trim d.negative else "") =
      if e.model = .sdxl ∨ e.model = .flux then Text.trim e.negative else "" := by
    rw [← h.model]
    exact ite_congr rfl h.negative fun _ => rfl
  have hparams : (if d.model = .midjourney then trimmedParams d.params else .empty) =
      if e.model = .midjourney then trimmedParams e.params else .empty := by
    rw [← h.model]
    exact ite_congr rfl h.params fun _ => rfl
  rw [essence, essence, h.subject, hfragments, hnegative, hparams, h.model]

/-- Documents of the same content have the same prompt. It is that of the plainest one among them,
which has no names, one category, no negative and no blank fragments, no white space around its
texts, the weight one wherever there is no emphasis, and no parameters or negative prompt that its
model does not take. -/
theorem prompt_shows_content_only (d e : Document) (h : SameContent d e) :
    d.prompt = e.prompt ∧ essence d = essence e ∧ (essence d).prompt = d.prompt := by
  have hessence := h.essence_eq
  refine ⟨?_, hessence, prompt_essence d⟩
  rw [← prompt_essence d, hessence, prompt_essence e]

/-- Fragments that differ in name, category, white space and a weight that is no emphasis, a
negative and a blank one in different places, and parameters where they are not taken. -/
theorem prompt_shows_content_only_of_two :
    let half := Binary64.decimal 15 (-1)
    let d : Document := ⟨" ash ", [⟨"1", "Fog", " fog", .mood, Binary64.ofInt (-2)⟩,
      ⟨"2", "", "frost", .negative, neutralWeight⟩, ⟨"3", "", "glow", .scene, half⟩],
      "rain ", .flux, ⟨some "16:9", some half, none, none⟩⟩
    let e : Document := ⟨"ash", [⟨"", "", " ", .style, half⟩,
      ⟨"", "", "fog ", .camera, neutralWeight⟩, ⟨"", "Glow", "glow", .lighting, half⟩],
      " rain", .flux, .empty⟩
    SameContent d e ∧ d.prompt = e.prompt ∧
    e.prompt = "ash, fog, (glow:1.5)\n\nNegative prompt: rain" := by
  intro half d e
  have hsame : SameContent d e := by
    refine ⟨rfl, by decide +kernel, by decide +kernel, fun h => ?_, fun _ => by decide +kernel⟩
    cases h
  exact ⟨hsame, (prompt_shows_content_only d e hsame).1, by decide +kernel⟩

end PromptStudio.Proofs
