import Crosstab.Text.Quoted

/-!
# Quoted texts read back

A quoted text is read as its content, whatever the content is, as long as no further quote mark
follows it.

    content ──enclose──▶ written form ++ rest ──scan──▶ content, rest

Nothing else is read: what `scan` takes off a text is the written form of what it answers.
-/

namespace Crosstab.Text.Quoted

/-! ### Written forms -/

theorem mem_double {mark c : Char} (h : c ≠ mark) (content : List Char) :
    c ∈ double mark content ↔ c ∈ content := by
  induction content with
  | nil => rfl
  | cons d ds ih =>
    unfold double
    split
    · next heq => simp [ih, heq, h]
    · simp [ih]

theorem mem_enclose {mark c : Char} (h : c ≠ mark) {content : List Char} :
    c ∈ enclose mark content ↔ c ∈ content := by
  simp [enclose, h, mem_double h]

/-! ### Written forms are read -/

theorem scanBody_double {mark : Char} (content : List Char) {rest : List Char}
    (hrest : rest.head? ≠ some mark) :
    scanBody mark (double mark content ++ mark :: rest) = some (content, rest) := by
  induction content with
  | nil =>
    rcases rest with _ | ⟨c, cs⟩
    · simp [double, scanBody]
    · have hc : c ≠ mark := fun h => hrest (by rw [h]; rfl)
      simp [double, scanBody, hc]
  | cons c cs ih =>
    by_cases hc : c = mark
    · subst hc
      simp [double, scanBody, ih]
    · -- behind a character other than the mark at least one more is left
      rcases hnext : double mark cs ++ mark :: rest with _ | ⟨d, ds⟩
      · simp at hnext
      · rw [hnext] at ih
        simp [double, hc, hnext, scanBody, ih]

/-- Without its closing mark, a text is not read. -/
theorem scanBody_open (mark : Char) (content : List Char) :
    scanBody mark (double mark content) = none := by
  induction content with
  | nil => rfl
  | cons c cs ih =>
    by_cases hc : c = mark
    · subst hc
      simp [double, scanBody, ih]
    · rcases hnext : double mark cs with _ | ⟨d, ds⟩
      · simp [double, hc, hnext, scanBody]
      · rw [hnext] at ih
        simp [double, hc, hnext, scanBody, ih]

theorem scan_enclose {mark : Char} (content : List Char) {rest : List Char}
    (hrest : rest.head? ≠ some mark) :
    scan mark (enclose mark content ++ rest) = some (content, rest) := by
  rw [enclose, List.cons_append, List.cons_append, List.append_assoc, List.singleton_append, scan,
    if_pos rfl]
  exact scanBody_double content hrest

/-! ### What is read is a written form -/

variable {mark : Char} {cs content rest : List Char}

theorem eq_of_scanBody (h : scanBody mark cs = some (content, rest)) :
    cs = double mark content ++ mark :: rest ∧ rest.head? ≠ some mark := by
  fun_induction scanBody mark cs generalizing content with
  | case1 => cases h
  | case2 =>
    obtain ⟨rfl, rfl⟩ := Prod.mk.inj (Option.some.inj h)
    exact ⟨rfl, by simp⟩
  | case3 => cases h
  | case4 cs ih =>
    -- a pair of marks is one mark of the content
    obtain ⟨read, hread, hmark⟩ := Option.map_eq_some_iff.1 h
    obtain ⟨rfl, rfl⟩ := Prod.mk.inj hmark
    obtain ⟨rfl, hrest⟩ := ih hread
    exact ⟨by simp [double], hrest⟩
  | case5 d cs hd =>
    -- a lone mark ends the text, and what follows it is no mark
    obtain ⟨rfl, rfl⟩ := Prod.mk.inj (Option.some.inj h)
    exact ⟨rfl, fun hhead => hd (Option.some.inj hhead)⟩
  | case6 c d cs hc ih =>
    obtain ⟨read, hread, hchar⟩ := Option.map_eq_some_iff.1 h
    obtain ⟨rfl, rfl⟩ := Prod.mk.inj hchar
    obtain ⟨hbody, hrest⟩ := ih hread
    exact ⟨by simp [double, hc, hbody], hrest⟩

/-- A content is read off a text exactly if the text starts with the written form of the content,
and no further mark follows it. -/
theorem scan_eq_some_iff : scan mark cs = some (content, rest) ↔
    cs = enclose mark content ++ rest ∧ rest.head? ≠ some mark := by
  constructor
  · intro h
    rcases cs with _ | ⟨c, cs⟩
    · cases h
    by_cases hc : c = mark
    · rw [scan, if_pos hc] at h
      obtain ⟨rfl, hrest⟩ := eq_of_scanBody h
      exact ⟨by simp [enclose, hc], hrest⟩
    · rw [scan, if_neg hc] at h
      cases h
  · rintro ⟨rfl, hrest⟩
    exact scan_enclose content hrest

theorem length_scan_lt (h : scan mark cs = some (content, rest)) : rest.length < cs.length := by
  obtain ⟨rfl, -⟩ := scan_eq_some_iff.1 h
  simp only [enclose, List.length_append, List.length_cons]
  omega

end Crosstab.Text.Quoted
