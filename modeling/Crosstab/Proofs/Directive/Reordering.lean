import Crosstab.Proofs.Directive.Language
import Mathlib.Data.List.Induction
import Mathlib.Data.List.Nodup

/-!
# The order of pairs

What a directive says does not depend on the order of its pairs, nor on pairs for no keyword that
stand among them. Two directives with the same pairs for keywords give the same spec, lack the same
keywords, or both give some keyword again; only which keyword is blamed for that is a matter of
order.

    given ──known──▶ pairs for keywords ──up to order──▶ spec, or what is missing, or a repetition
-/

namespace Crosstab.Directive

/-- The pairs that give a keyword. -/
def known (given : List (String × String)) : List (String × String) :=
  given.filter fun pair => Keyword.IsName pair.1

/-- The pairs that give no keyword. -/
def unknown (given : List (String × String)) : List (String × String) :=
  given.filter fun pair => ¬ Keyword.IsName pair.1

/-! ### Told by the pairs for keywords -/

theorem mem_keys_known {given : List (String × String)} {key : String} (h : Keyword.IsName key) :
    key ∈ (known given).map Prod.fst ↔ key ∈ given.map Prod.fst := by
  simp only [known, List.mem_map, List.mem_filter, decide_eq_true_eq]
  constructor
  · rintro ⟨pair, ⟨hpair, -⟩, rfl⟩
    exact ⟨pair, hpair, rfl⟩
  · rintro ⟨pair, hpair, rfl⟩
    exact ⟨pair, ⟨hpair, h⟩, rfl⟩

/-- No keyword is repeated exactly if the keys that are keywords differ. The induction takes the
last pair off, because what a key repeats stands in front of it. -/
theorem noRepeat_iff_nodup (given : List (String × String)) :
    NoRepeat given ↔ ((known given).map Prod.fst).Nodup := by
  induction given using List.reverseRecOn with
  | nil => simp [known, noRepeat_nil]
  | append_singleton front pair ih =>
    rw [noRepeat_concat_iff, ih]
    by_cases hname : Keyword.IsName pair.1
    · have hknown : known (front ++ [pair]) = known front ++ [pair] := by simp [known, hname]
      have hrepeats : Repeats front pair.1 ↔ pair.1 ∈ (known front).map Prod.fst := by
        rw [Repeats, mem_keys_known hname, and_iff_right hname]
      rw [hknown, List.map_append, List.map_singleton, ← List.concat_eq_append,
        List.nodup_concat, hrepeats, and_comm]
    · have hknown : known (front ++ [pair]) = known front := by simp [known, hname]
      rw [hknown]
      exact and_iff_left fun h => hname h.1

theorem givenTo_known (keyword : Keyword) (given : List (String × String)) :
    givenTo keyword (known given) = givenTo keyword given := by
  rw [givenTo, known, List.filter_filter, givenTo]
  refine List.filter_congr fun pair _ => ?_
  by_cases h : pair.1 = keyword.name
  · simp [h, keyword.isName_name]
  · simp [h]

theorem lacking_known (given : List (String × String)) : lacking (known given) = lacking given :=
  List.filter_congr fun keyword _ =>
    decide_eq_decide.2 (not_congr (mem_keys_known keyword.isName_name))

/-! ### Pairs in another order -/

section

variable {given others : List (String × String)}

theorem noRepeat_congr (h : (known given).Perm (known others)) (hnone : NoRepeat given) :
    NoRepeat others := by
  rw [noRepeat_iff_nodup] at hnone ⊢
  exact (h.map Prod.fst).nodup_iff.1 hnone

/-- Where a keyword has a single pair, it has the same one in any order. -/
theorem givenTo_congr (h : (known given).Perm (known others)) {keyword : Keyword}
    {pair : String × String} (hgiven : givenTo keyword given = [pair]) :
    givenTo keyword others = [pair] := by
  have hperm : (givenTo keyword (known given)).Perm (givenTo keyword (known others)) := h.filter _
  rw [givenTo_known, givenTo_known, hgiven] at hperm
  exact List.perm_singleton.1 hperm.symm

theorem lacking_congr (h : (known given).Perm (known others)) :
    lacking given = lacking others := by
  rw [← lacking_known given, ← lacking_known others]
  exact List.filter_congr fun keyword _ =>
    decide_eq_decide.2 (not_congr (h.map Prod.fst).mem_iff)

end

/-! ### Reading -/

theorem eq_spread_of_pairUp {tokens : List String} {given : List (String × String)}
    (h : pairUp tokens = .ok given) : tokens = spread given := by
  rcases pairUp_cases tokens with ⟨others, rfl⟩ | ⟨others, last, rfl, hpairs⟩
  · rw [pairUp_spread] at h
    cases h
    rfl
  · cases h.symm.trans hpairs

theorem spread_injective {given others : List (String × String)}
    (h : spread given = spread others) : given = others := by
  have hpairs := pairUp_spread given
  rw [h, pairUp_spread] at hpairs
  cases hpairs
  rfl

section

variable {text : String} {given : List (String × String)}

theorem parse_eq_ok_iff (h : pairUp (Text.words text) = .ok given) {directive : Directive} :
    parse text = .ok directive ↔
      (∀ keyword, givenTo keyword given = [(keyword.name, directive.spec.part keyword)]) ∧
        directive.ignored = unknown given := by
  have htokens := eq_spread_of_pairUp h
  constructor
  · intro hparse
    have hverdict := verdict_parse text
    rw [htokens, hparse] at hverdict
    generalize hsame : spread given = tokens at hverdict
    cases hverdict with
    | ok hgiven =>
      obtain rfl := spread_injective hsame
      exact ⟨hgiven, rfl⟩
  · rintro ⟨hgiven, hignored⟩
    have hverdict := Verdict.ok hgiven
    rw [← htokens] at hverdict
    rw [parse_eq_of_verdict hverdict]
    cases directive
    cases hignored
    rfl

theorem parse_eq_missing_iff (h : pairUp (Text.words text) = .ok given) {keywords : List Keyword} :
    parse text = .error (.missing keywords) ↔
      given ≠ [] ∧ NoRepeat given ∧ lacking given ≠ [] ∧ lacking given = keywords := by
  have htokens := eq_spread_of_pairUp h
  constructor
  · intro hparse
    have hverdict := verdict_parse text
    rw [htokens, hparse] at hverdict
    generalize hsame : spread given = tokens at hverdict
    cases hverdict with
    | missing hne hnone hlacking =>
      obtain rfl := spread_injective hsame
      exact ⟨hne, hnone, hlacking, rfl⟩
  · rintro ⟨hne, hnone, hlacking, rfl⟩
    refine parse_eq_of_verdict ?_
    rw [htokens]
    exact .missing hne hnone hlacking

/-- Some keyword is blamed for standing twice exactly if one stands twice. -/
theorem exists_parse_eq_repeated_iff (h : pairUp (Text.words text) = .ok given) :
    (∃ key, parse text = .error (.repeated key)) ↔ ¬ NoRepeat given := by
  have htokens := eq_spread_of_pairUp h
  constructor
  · rintro ⟨key, hparse⟩
    have hverdict := verdict_parse text
    rw [htokens, hparse] at hverdict
    generalize hsame : spread given = tokens at hverdict
    cases hverdict with
    | repeated hfirst =>
      obtain rfl := spread_injective hsame
      exact hfirst.not_noRepeat
  · intro hrepeat
    have hne : given ≠ [] := by
      rintro rfl
      exact hrepeat noRepeat_nil
    rcases parse_of_spread hne htokens with ⟨key, -, hparse⟩ | ⟨hnone, -⟩
    · exact ⟨key, hparse⟩
    · exact absurd hnone hrepeat

/-- Where no keyword stands twice, the pairs for no keyword are collected, also if keywords are
missing. -/
theorem assign_of_noRepeat (h : NoRepeat given) :
    ∃ slots, assign .empty given = .ok (slots, unknown given) := by
  rcases assign_cases tells_empty noRepeat_nil given with ⟨key, hfirst, -⟩ | ⟨-, slots, -, hassign⟩
  · exact absurd h hfirst.not_noRepeat
  · exact ⟨slots, by rw [hassign, filter_isUnknown, unknown]⟩

end

/-- Two texts with these pairs say the same to all keywords. -/
structure SaySame (text other : String) (given others : List (String × String)) : Prop where
  /-- One is a directive if the other is, with the same spec. -/
  spec_iff : ∀ spec, (parse text).map Directive.spec = .ok spec ↔
    (parse other).map Directive.spec = .ok spec
  /-- One lacks keywords if the other does, the same ones, unless one of the two is empty. -/
  missing_iff : given ≠ [] → others ≠ [] → ∀ keywords,
    parse text = .error (.missing keywords) ↔ parse other = .error (.missing keywords)
  /-- One gives some keyword again if the other does. -/
  repeated_iff : (∃ key, parse text = .error (.repeated key)) ↔
    ∃ key, parse other = .error (.repeated key)

/-- What is put aside of the pairs of a text, where no keyword is given again. -/
structure PutsAside (text : String) (given : List (String × String)) : Prop where
  collected : (∀ key, parse text ≠ .error (.repeated key)) →
    ∃ slots, assign .empty given = .ok (slots, unknown given)
  ignored : ∀ directive, parse text = .ok directive → directive.ignored = unknown given

theorem putsAside_of_pairUp {text : String} {given : List (String × String)}
    (h : pairUp (Text.words text) = .ok given) : PutsAside text given := by
  refine ⟨fun hnone => assign_of_noRepeat ?_, fun directive hparse => ?_⟩
  · by_contra hrepeat
    obtain ⟨key, hparse⟩ := (exists_parse_eq_repeated_iff h).2 hrepeat
    exact hnone key hparse
  · exact ((parse_eq_ok_iff h).1 hparse).2

theorem map_spec_eq_ok_iff {text : String} {given : List (String × String)}
    (h : pairUp (Text.words text) = .ok given) {spec : Spec} :
    (parse text).map Directive.spec = .ok spec ↔
      ∀ keyword, givenTo keyword given = [(keyword.name, spec.part keyword)] := by
  constructor
  · intro hspec
    rcases hparse : parse text with cause | directive
    · rw [hparse] at hspec
      cases hspec
    · rw [hparse] at hspec
      cases hspec
      exact ((parse_eq_ok_iff h).1 hparse).1
  · intro hgiven
    have hparse : parse text = .ok ⟨spec, unknown given⟩ := (parse_eq_ok_iff h).2 ⟨hgiven, rfl⟩
    rw [hparse]
    rfl

/-- **Reordering.** Directives whose pairs for keywords are the same up to order say the same, and
each puts aside its own pairs for no keyword in its own order. -/
theorem parse_reordered {text other : String} {given others : List (String × String)}
    (htext : pairUp (Text.words text) = .ok given)
    (hother : pairUp (Text.words other) = .ok others)
    (hknown : (known given).Perm (known others)) :
    SaySame text other given others ∧ PutsAside text given ∧ PutsAside other others := by
  refine ⟨⟨fun spec => ?_, fun hne hne' keywords => ?_, ?_⟩, putsAside_of_pairUp htext,
    putsAside_of_pairUp hother⟩
  · rw [map_spec_eq_ok_iff htext, map_spec_eq_ok_iff hother]
    exact ⟨fun h keyword => givenTo_congr hknown (h keyword),
      fun h keyword => givenTo_congr hknown.symm (h keyword)⟩
  · rw [parse_eq_missing_iff htext, parse_eq_missing_iff hother, lacking_congr hknown,
      and_iff_right hne, and_iff_right hne']
    exact and_congr_left fun _ => ⟨noRepeat_congr hknown, noRepeat_congr hknown.symm⟩
  · rw [exists_parse_eq_repeated_iff htext, exists_parse_eq_repeated_iff hother]
    exact not_congr ⟨noRepeat_congr hknown, noRepeat_congr hknown.symm⟩

/-- Pairs in the order of the grammar. -/
def plainPairs : List (String × String) :=
  [("table", "from"), ("from", "s"), ("row", "id"), ("col", "k"), ("val", "amt")]

/-- The same pairs turned around, with others among them. -/
def turnedPairs : List (String × String) :=
  [("val", "amt"), ("Table", "t"), ("col", "k"), ("row", "id"), ("from", "s"), ("note", "row"),
    ("table", "from")]

theorem parse_reordered_turnedPairs :
    pairUp (Text.words "table from from s row id col k val amt") = .ok plainPairs ∧
      pairUp (Text.words "\tval amt  Table t\ncol k row id from s note row table from ") =
        .ok turnedPairs ∧
      (known plainPairs).Perm (known turnedPairs) ∧
      SaySame "table from from s row id col k val amt"
        "\tval amt  Table t\ncol k row id from s note row table from " plainPairs turnedPairs ∧
      PutsAside "table from from s row id col k val amt" plainPairs ∧
      PutsAside "\tval amt  Table t\ncol k row id from s note row table from " turnedPairs := by
  have hplain : pairUp (Text.words "table from from s row id col k val amt") = .ok plainPairs := by
    decide +kernel
  have hturned :
      pairUp (Text.words "\tval amt  Table t\ncol k row id from s note row table from ") =
        .ok turnedPairs := by
    decide +kernel
  have hknown : (known plainPairs).Perm (known turnedPairs) := by decide
  exact ⟨hplain, hturned, hknown, parse_reordered hplain hturned hknown⟩

end Crosstab.Directive
