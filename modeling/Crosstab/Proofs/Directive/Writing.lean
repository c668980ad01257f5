import Crosstab.Proofs.Directive.Language

/-!
# Specs written as directives

A spec can be written as a directive exactly if each of its parts is a word. It is written by
giving each keyword its part, in whatever order and with whatever blanks around the words, and
every such text is read as the spec again.

    spec ──order──▶ pairs ──spread──▶ words ──gaps──▶ text ──parse──▶ spec, nothing ignored
-/

namespace Crosstab

/-! ### Words with gaps -/

namespace Text

/-- Words with a gap in front of each and one behind the last. -/
def withGaps (gap : Nat → List Char) : List (List Char) → List Char
  | [] => gap 0
  | word :: words => gap 0 ++ (word ++ withGaps (fun i => gap (i + 1)) words)

/-- Gaps that keep so many words apart: all are blank, and between two words there is one. -/
structure Separates (gap : Nat → List Char) (count : Nat) : Prop where
  blank : ∀ i, ∀ c ∈ gap i, isBlank c = true
  between : ∀ i, 0 < i → i < count → gap i ≠ []

theorem startsBlank_withGaps {gap : Nat → List Char} {words : List (List Char)}
    (hblank : ∀ c ∈ gap 0, isBlank c = true) (hgap : words ≠ [] → gap 0 ≠ []) :
    StartsBlank (withGaps gap words) := by
  intro c hc
  rcases words with _ | ⟨word, words⟩
  · exact hblank c (List.mem_of_mem_head? hc)
  · obtain ⟨d, ds, hcons⟩ := List.exists_cons_of_ne_nil (hgap (List.cons_ne_nil _ _))
    have hd : isBlank d = true := hblank d (hcons ▸ List.mem_cons_self)
    rw [withGaps, hcons] at hc
    cases hc
    exact hd

/-- Words that are kept apart are what the text is cut into. -/
theorem cutInto_withGaps {gap : Nat → List Char} {words : List (List Char)}
    (hwords : ∀ word ∈ words, IsWord word) (hgap : Separates gap words.length) :
    CutInto words (withGaps gap words) := by
  induction words generalizing gap with
  | nil => exact .nil (hgap.blank 0)
  | cons word words ih =>
    have hrest : Separates (fun i => gap (i + 1)) words.length :=
      ⟨fun i => hgap.blank (i + 1), fun i _ hi =>
        hgap.between (i + 1) (Nat.succ_pos i) (Nat.succ_lt_succ hi)⟩
    have hstart : StartsBlank (withGaps (fun i => gap (i + 1)) words) :=
      startsBlank_withGaps (hgap.blank 1) fun hne =>
        hgap.between 1 Nat.one_pos (Nat.succ_lt_succ (List.length_pos_iff.2 hne))
    exact .cons (hgap.blank 0) (hwords word List.mem_cons_self) hstart
      (ih (fun other hother => hwords other (List.mem_cons_of_mem _ hother)) hrest)

theorem isWord_of_all {word : List Char} (hne : word ≠ []) (hink : word.all isInk = true) :
    IsWord word :=
  ⟨hne, fun c hc => isInk_iff.1 (List.all_eq_true.1 hink c hc)⟩

/-- What a text is cut into are words. -/
theorem CutInto.isWord {words : List (List Char)} {cs : List Char} (h : CutInto words cs) :
    ∀ word ∈ words, IsWord word := by
  induction h with
  | nil => exact fun _ hword => absurd hword List.not_mem_nil
  | cons _ hword _ _ ih => exact List.forall_mem_cons.2 ⟨hword, ih⟩

end Text

/-! ### Writing -/

/-- Every part of the spec is a word. -/
def Spec.IsWritable (spec : Spec) : Prop :=
  ∀ keyword : Keyword, Text.IsWord (spec.part keyword).toList

/-- The name of a keyword is a word. -/
theorem Keyword.isWord_name (keyword : Keyword) : Text.IsWord keyword.name.toList := by
  cases keyword <;> exact Text.isWord_of_all (by decide) (by decide)

namespace Directive

/-- The pair that gives a keyword its part of a spec. -/
def pairOf (spec : Spec) (keyword : Keyword) : String × String := (keyword.name, spec.part keyword)

/-- The words of a spec, the keywords in some order. -/
def tokensOf (order : List Keyword) (spec : Spec) : List String := spread (order.map (pairOf spec))

/-- The spec as a directive: the keywords in some order, with gaps around the words. -/
def written (order : List Keyword) (gap : Nat → List Char) (spec : Spec) : String :=
  String.ofList (Text.withGaps gap ((tokensOf order spec).map String.toList))

theorem mem_spread {given : List (String × String)} {word : String} :
    word ∈ spread given ↔ ∃ pair ∈ given, word = pair.1 ∨ word = pair.2 := by
  simp [spread]

theorem isWord_tokensOf {spec : Spec} (h : spec.IsWritable) (order : List Keyword) :
    ∀ word ∈ (tokensOf order spec).map String.toList, Text.IsWord word := by
  intro word hword
  obtain ⟨token, htoken, rfl⟩ := List.mem_map.1 hword
  obtain ⟨pair, hpair, hside⟩ := mem_spread.1 htoken
  obtain ⟨keyword, -, rfl⟩ := List.mem_map.1 hpair
  rcases hside with rfl | rfl
  · exact keyword.isWord_name
  · exact h keyword

theorem length_tokensOf {order : List Keyword} (h : order.Perm Keyword.all) (spec : Spec) :
    ((tokensOf order spec).map String.toList).length = 10 := by
  rw [List.length_map, tokensOf, length_spread, List.length_map, h.length_eq]
  rfl

theorem givenTo_pairOf {order : List Keyword} (h : order.Perm Keyword.all) (spec : Spec)
    (keyword : Keyword) :
    givenTo keyword (order.map (pairOf spec)) = [(keyword.name, spec.part keyword)] := by
  have hall : givenTo keyword (Keyword.all.map (pairOf spec)) = [pairOf spec keyword] := by
    cases keyword <;> simp [givenTo, Keyword.all, pairOf, Keyword.name]
  have hperm : (givenTo keyword (order.map (pairOf spec))).Perm
      (givenTo keyword (Keyword.all.map (pairOf spec))) := (h.map _).filter _
  rw [hall] at hperm
  exact List.perm_singleton.1 hperm

/-- A written spec is read as the spec. -/
theorem parse_written {spec : Spec} (hspec : spec.IsWritable) {order : List Keyword}
    (horder : order.Perm Keyword.all) {gap : Nat → List Char} (hgap : Text.Separates gap 10) :
    parse (written order gap spec) = .ok ⟨spec, []⟩ := by
  have hignored : ((order.map (pairOf spec)).filter fun pair => ¬ Keyword.IsName pair.1) = [] := by
    refine List.filter_eq_nil_iff.2 fun pair hpair => ?_
    obtain ⟨keyword, -, rfl⟩ := List.mem_map.1 hpair
    simp [pairOf, keyword.isName_name]
  have hverdict := Verdict.ok (givenTo_pairOf horder spec)
  rw [hignored] at hverdict
  refine parse_eq_iff.2 ⟨tokensOf order spec, ?_, hverdict⟩
  rw [written, String.toList_ofList]
  exact Text.cutInto_withGaps (isWord_tokensOf hspec order) (by rwa [length_tokensOf horder])

/-- What is read as a spec has words for its parts. -/
theorem isWritable_of_parse {text : String} {directive : Directive}
    (h : parse text = .ok directive) : directive.spec.IsWritable := by
  obtain ⟨tokens, hcut, hverdict⟩ := parse_eq_iff.1 h
  cases hverdict with
  | @ok given spec hgiven =>
    intro keyword
    have hpair : (keyword.name, spec.part keyword) ∈ givenTo keyword given := by
      simp [hgiven keyword]
    have hword : spec.part keyword ∈ spread given :=
      mem_spread.2 ⟨_, (List.mem_filter.1 hpair).1, .inr rfl⟩
    exact hcut.isWord _ (List.mem_map_of_mem hword)

/-- **Writing.** The specs of directives are those whose parts are words, and however such a spec is
written, it is read as itself with nothing ignored. -/
theorem parse_inverts_written (spec : Spec) :
    (spec.IsWritable → ∀ order : List Keyword, order.Perm Keyword.all →
        ∀ gap, Text.Separates gap 10 → parse (written order gap spec) = .ok ⟨spec, []⟩) ∧
      ((∃ text, (parse text).map Directive.spec = .ok spec) ↔ spec.IsWritable) := by
  refine ⟨fun hspec order horder gap hgap => parse_written hspec horder hgap, ?_, fun hspec => ?_⟩
  · rintro ⟨text, htext⟩
    rcases hparse : parse text with cause | directive
    · rw [hparse] at htext
      cases htext
    · rw [hparse] at htext
      cases htext
      exact isWritable_of_parse hparse
  · have hgap : Text.Separates (fun _ => [' ']) 10 := by
      refine ⟨fun _ c hc => ?_, fun _ _ _ => List.cons_ne_nil _ _⟩
      rw [List.mem_singleton.1 hc]
      decide
    refine ⟨written Keyword.all (fun _ => [' ']) spec, ?_⟩
    rw [parse_written hspec (.refl _) hgap]
    rfl

/-- A spec whose parts are keywords, and names with quotes and dots. -/
def keywordSpec : Spec := ⟨"from", "main.\"s\"", "table", "it's", "val"⟩

theorem parse_inverts_written_keywordSpec :
    keywordSpec.IsWritable ∧ [Keyword.val, .col, .table, .row, .from].Perm Keyword.all ∧
      Text.Separates (fun _ => ['\t', '\u3000']) 10 ∧
      parse (written [.val, .col, .table, .row, .from] (fun _ => ['\t', '\u3000']) keywordSpec) =
        .ok ⟨keywordSpec, []⟩ := by
  have hspec : keywordSpec.IsWritable := by
    intro keyword
    cases keyword <;> exact Text.isWord_of_all (by decide) (by decide)
  have horder : [Keyword.val, .col, .table, .row, .from].Perm Keyword.all := by decide
  have hgap : Text.Separates (fun _ => ['\t', '\u3000']) 10 :=
    ⟨fun _ => List.all_eq_true.1 (by decide), fun _ _ _ => List.cons_ne_nil _ _⟩
  exact ⟨hspec, horder, hgap, (parse_inverts_written keywordSpec).1 hspec _ horder _ hgap⟩

end Directive

end Crosstab
