import AckDesk.Search
import AckDesk.Proofs.Text.Lowercase

/-!
# What the search box suggests

The suggestions are the test names whose lowercase form contains the lowercase form of the query. A capital sigma has
two of these, one of them for the end of a word, and a query may be cut out of the middle of one. So a name that
contains the query as it is typed is suggested where the sigmas of the query end words as they do in the name. The
queries that find every name in which they stand are the settled ones, and for every other query there is a name that it
misses (`Search.finds_of_query`).
-/

namespace AckDesk

/-- The scan for a part finds it exactly where it is an infix. -/
theorem Text.occursIn_iff {part cs : List Char} : occursIn part cs = true ↔ part <:+: cs := by
  induction cs with
  | nil => simp [occursIn]
  | cons c cs ih => rw [occursIn, Bool.or_eq_true, List.isPrefixOf_iff_prefix, ih, List.infix_cons_iff]

namespace Search

variable {s : Search}

/-- A name is suggested when its lowercase contains the lowercase of the query, the two lowercased apart. -/
theorem suggests_iff {query name : String} :
    suggests query name = true ↔ Text.lowercaseAfter [] query.toList <:+: Text.lowercaseAfter [] name.toList := by
  simp only [suggests, Text.occursIn_iff, Text.lowercase, String.toList_ofList]

/-- The case of the query's letters does not matter: its lowercase finds what it finds. -/
theorem suggests_lowercase (query name : String) : suggests (Text.lowercase query) name = suggests query name := by
  unfold suggests
  rw [Text.lowercase_lowercase]

/-- A query that is not empty selects names and keeps their order. -/
theorem suggestions_eq_filter (h : s.query ≠ "") : s.suggestions = s.testNames.filter (suggests s.query) := if_neg h

/-- A name is missed exactly if it is listed and its lowercase form does not contain that of the query. -/
theorem count_suggestions_eq_iff (h : s.query ≠ "") {name : String} :
    s.suggestions.count name = s.testNames.count name ↔ (name ∈ s.testNames → suggests s.query name = true) := by
  rw [suggestions_eq_filter h]
  constructor
  · intro hcount hname
    rw [← List.count_pos_iff, ← hcount, List.count_pos_iff] at hname
    exact (List.mem_filter.1 hname).2
  · intro hname
    by_cases hmem : name ∈ s.testNames
    · exact List.count_filter (hname hmem)
    · rw [List.count_eq_zero_of_not_mem hmem]
      exact List.count_eq_zero_of_not_mem fun h => hmem (List.mem_of_mem_filter h)

/-- A settled query finds every name in which it stands. -/
theorem count_suggestions_of_settled (h : s.query ≠ "") (hsettled : Text.Settled s.query.toList) {name : String}
    (hname : s.query.toList <:+: name.toList) : s.suggestions.count name = s.testNames.count name := by
  rw [count_suggestions_eq_iff h, suggests_iff]
  exact fun _ => Text.settled_iff.1 hsettled _ hname

/-- The names that the search box finds, where a name counts as often as it is listed. -/
structure Finds (s : Search) : Prop where
  /-- The suggestions are test names in their order. -/
  order : s.suggestions.Sublist s.testNames
  /-- A name that has the query somewhere as it is typed is suggested if the query's capital sigmas end words there as
  they do in the query. -/
  literal : ∀ before after name, name.toList = before ++ s.query.toList ++ after →
    Text.SameWordEnds before after s.query.toList → s.suggestions.count name = s.testNames.count name
  /-- A query without a capital sigma misses no name that has it as it is typed. -/
  plain : 'Σ' ∉ s.query.toList → ∀ name, s.query.toList <:+: name.toList →
    s.suggestions.count name = s.testNames.count name
  /-- The queries that never miss such a name, whatever the test names are, are the settled ones. -/
  exact : Text.Settled s.query.toList ↔ ∀ names name, s.query.toList <:+: name.toList →
    ({ s with testNames := names } : Search).suggestions.count name = names.count name
  /-- The query in lowercase has the same suggestions. -/
  folded : (s.setQuery (Text.lowercase s.query)).suggestions = s.suggestions

theorem finds_of_query (s : Search) (h : s.query ≠ "") : s.Finds where
  order := by
    rw [suggestions_eq_filter h]
    exact List.filter_sublist
  literal before after name hname hends := by
    rw [count_suggestions_eq_iff h, suggests_iff, hname]
    exact fun _ => hends.isInfix
  plain hsigma _ := count_suggestions_of_settled h (.of_not_mem hsigma)
  exact := by
    constructor
    · intro hsettled names _
      exact count_suggestions_of_settled (s := { s with testNames := names }) h hsettled
    · intro hall
      refine Text.settled_iff.2 fun ds hds => ?_
      rw [← String.toList_ofList (l := ds)] at hds ⊢
      have hcount := hall [.ofList ds] _ hds
      rw [count_suggestions_eq_iff (s := { s with testNames := [.ofList ds] }) h, suggests_iff] at hcount
      exact hcount List.mem_cons_self
  folded := by
    rw [suggestions_eq_filter h, suggestions_eq_filter (Text.lowercase_ne_empty h)]
    exact List.filter_congr fun name _ => suggests_lowercase s.query name

/-- A query with a capital sigma at its end, and two names that contain it: in the first, the word goes on. -/
def cutWord : Search := ⟨["ΟΔΥΣΣΕΥΣ", "ΟΔΥΣ ΑΒ"], "ΟΔΥΣ", true⟩

theorem finds_cutWord : cutWord.query ≠ "" ∧ cutWord.Finds ∧ ¬ Text.Settled cutWord.query.toList ∧
    cutWord.suggestions = ["ΟΔΥΣ ΑΒ"] :=
  ⟨by decide, finds_of_query cutWord (by decide), by decide +kernel, by decide +kernel⟩

end Search

end AckDesk
