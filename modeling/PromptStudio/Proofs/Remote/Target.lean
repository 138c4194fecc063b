import PromptStudio.Http.Message
import PromptStudio.Proofs.Http.Form
import PromptStudio.Remote.Wire

/-!
# What is read off a target

Whoever is asked reads the query pairs of a request off its target as they were given, behind those
of a query that the path had already.
-/

namespace PromptStudio.Proofs
open Http Remote

/-- A request for a target, as it reaches whoever is asked. -/
def arrived (target : String) : Http.Request :=
  ⟨.get, target, [], ""⟩

/-! ## A path and a query put together -/

/-- The target with a path and a query, which is left out with its mark if it is empty. -/
def joined (path query : List Char) : String :=
  String.ofList (if query.isEmpty then path else path ++ '?' :: query)

lemma targetChars_arrived {cs : List Char} (hcs : '#' ∉ cs) :
    (arrived (String.ofList cs)).targetChars = cs := by
  unfold arrived Http.Request.targetChars
  rw [String.toList_ofList, takeWhile_of_not_mem hcs]

lemma arrived_joined {path query : List Char} (hmark : '?' ∉ path) (hpath : '#' ∉ path)
    (hquery : '#' ∉ query) :
    (arrived (joined path query)).path = path ∧ (arrived (joined path query)).query = query := by
  unfold joined Http.Request.query Http.Request.path
  cases query with
  | nil =>
    rw [List.isEmpty_nil, if_pos rfl, targetChars_arrived hpath, takeWhile_of_not_mem hmark]
    exact ⟨rfl, List.drop_eq_nil_of_le (Nat.le_succ _)⟩
  | cons q query =>
    have hall : '#' ∉ path ++ '?' :: q :: query := by
      rw [List.mem_append, List.mem_cons, not_or, not_or]
      exact ⟨hpath, by decide, hquery⟩
    rw [List.isEmpty_cons, if_neg Bool.false_ne_true, targetChars_arrived hall,
      takeWhile_append_cons_of_not_mem hmark, drop_append_cons]
    exact ⟨rfl, rfl⟩

/-! ## The target of a request -/

/-- The path of a target: a slash, if there is none. -/
def sentPath (path : String) : List Char :=
  if (arrived path).path.isEmpty then ['/'] else (arrived path).path

/-- The query of a target: the one that the path has, with the encoded pairs behind it. -/
def sentQuery (path : String) (pairs : List (String × String)) : List Char :=
  if (arrived path).query.isEmpty then Form.encode pairs
  else if (Form.encode pairs).isEmpty then (arrived path).query
  else (arrived path).query ++ '&' :: Form.encode pairs

lemma target_eq_joined (path : String) (pairs : List (String × String)) :
    Wire.target path pairs = joined (sentPath path) (sentQuery path pairs) :=
  rfl

lemma number_sign_not_mem_targetChars (r : Http.Request) : '#' ∉ r.targetChars :=
  not_mem_takeWhile_ne '#' _

lemma number_sign_not_mem_query (r : Http.Request) : '#' ∉ r.query := fun hmem =>
  number_sign_not_mem_targetChars r (List.mem_of_mem_drop hmem)

lemma marks_not_mem_sentPath (path : String) : '?' ∉ sentPath path ∧ '#' ∉ sentPath path := by
  unfold sentPath
  split
  · exact ⟨by decide, by decide⟩
  · exact ⟨not_mem_takeWhile_ne '?' _, fun hmem =>
      number_sign_not_mem_targetChars _ ((List.takeWhile_prefix _).mem hmem)⟩

lemma number_sign_not_mem_sentQuery (path : String) (pairs : List (String × String)) :
    '#' ∉ sentQuery path pairs := by
  have hquery := number_sign_not_mem_query (arrived path)
  unfold sentQuery
  split
  · exact number_sign_not_mem_encode pairs
  · split
    · exact hquery
    · rw [List.mem_append, List.mem_cons, not_or, not_or]
      exact ⟨hquery, by decide, number_sign_not_mem_encode pairs⟩

lemma arrived_target (path : String) (pairs : List (String × String)) :
    (arrived (Wire.target path pairs)).path = sentPath path ∧
    (arrived (Wire.target path pairs)).query = sentQuery path pairs := by
  rw [target_eq_joined]
  exact arrived_joined (marks_not_mem_sentPath path).1 (marks_not_mem_sentPath path).2
    (number_sign_not_mem_sentQuery path pairs)

/-- The pairs of a request are read off its target as they were given, whatever they are, if the
path has no query. If it has one, that stays as it is, and the same encoding of the pairs follows
it behind an ampersand. The path is the same with the pairs and without them. -/
theorem pairs_read_as_given (path : String) (pairs : List (String × String)) (hne : pairs ≠ []) :
    let sent := arrived (Wire.target path pairs)
    sent.path = (arrived (Wire.target path [])).path ∧
    ((arrived path).query = [] →
      sent.query = Form.encode pairs ∧ Form.decode sent.query = pairs) ∧
    ((arrived path).query ≠ [] →
      sent.query = (arrived path).query ++ '&' :: Form.encode pairs ∧
      Form.decode sent.query = Form.decode (arrived path).query ++ pairs) := by
  intro sent
  have hsent : sent.query = sentQuery path pairs := (arrived_target path pairs).2
  refine ⟨(arrived_target path pairs).1.trans (arrived_target path []).1.symm, fun hnone => ?_,
    fun hsome => ?_⟩
  · have hencoded : sent.query = Form.encode pairs := by
      rw [hsent, sentQuery, hnone]
      rfl
    exact ⟨hencoded, by rw [hencoded, form_decode_encode]⟩
  · have hbehind : sent.query = (arrived path).query ++ '&' :: Form.encode pairs := by
      rw [hsent, sentQuery, if_neg (mt List.isEmpty_iff.1 hsome),
        if_neg (mt List.isEmpty_iff.1 (form_encode_ne_nil hne))]
    exact ⟨hbehind, by rw [hbehind, form_decode_append, form_decode_encode]⟩

/-- A name given twice, an empty name and an empty value behind a query with marks of its own. -/
theorem pairs_read_as_given_behind_a_query :
    let pairs := [("q", "a+b & c"), ("q", "50%=é"), ("", "")]
    let sent := arrived (Wire.target "/words?ml=lava#top" pairs)
    pairs ≠ [] ∧ (arrived "/words?ml=lava#top").query ≠ [] ∧
    sent.query = "ml=lava&q=a%2Bb+%26+c&q=50%25%3D%C3%A9&=".toList ∧
    Form.decode sent.query = ("ml", "lava") :: pairs := by
  intro pairs sent
  have hne : pairs ≠ [] := List.cons_ne_nil _ _
  have hquery : (arrived "/words?ml=lava#top").query = "ml=lava".toList := by decide +kernel
  have hsome : (arrived "/words?ml=lava#top").query ≠ [] := by
    rw [hquery]
    decide
  obtain ⟨hsent, hread⟩ := (pairs_read_as_given "/words?ml=lava#top" pairs hne).2.2 hsome
  refine ⟨hne, hsome, ?_, ?_⟩
  · rw [hsent, hquery]
    decide +kernel
  · rw [hread, hquery]
    decide +kernel

end PromptStudio.Proofs
