import Crosstab.Text.Blank
import Mathlib.Data.List.TakeWhile

/-!
# The words of a text

`words` is a function, and what it computes is a relation that says nothing about how: a text is
cut into words if it consists of these words in order with blanks around them, where every word is
as long as it can be. A text is cut in exactly one way.

    wordsOf cs = words ↔ CutInto words cs

Without its outer blanks a text is its core, which has no blank at either end.

    trimmed cs = core ↔ Strips cs core
-/

namespace Crosstab.Text

/-- A run of characters none of which is a blank. -/
structure IsWord (word : List Char) : Prop where
  ne_nil : word ≠ []
  ink : ∀ c ∈ word, isBlank c = false

/-- A text that can stand behind a word: it starts with a blank, if it starts at all. -/
def StartsBlank (rest : List Char) : Prop := ∀ c ∈ rest.head?, isBlank c = true

/-- A text consists of words in order with blanks around them. A word ends only at a blank or at the
end of the text, and it starts only behind a blank or at the start of the text, so no word can be
made longer. -/
inductive CutInto : List (List Char) → List Char → Prop
  | nil {gap} (hgap : ∀ c ∈ gap, isBlank c = true) : CutInto [] gap
  | cons {gap word words rest} (hgap : ∀ c ∈ gap, isBlank c = true) (hword : IsWord word)
    (hend : StartsBlank rest) (hrest : CutInto words rest) :
    CutInto (word :: words) (gap ++ (word ++ rest))

/-! ### The leading word -/

theorem isInk_iff {c : Char} : isInk c = true ↔ isBlank c = false := by simp [isInk]

/-- Dropping stops in front of a character that is not dropped. -/
theorem not_of_dropWhile_eq_cons {p : Char → Bool} {cs rest : List Char} {c : Char}
    (h : cs.dropWhile p = c :: rest) : p c = false := by
  have hne : cs.dropWhile p ≠ [] := by simp [h]
  have hhead := List.head_dropWhile_not p hne
  simpa [h] using hhead

theorem wordsOf_of_blank {cs : List Char} (h : ∀ c ∈ cs, isBlank c = true) : wordsOf cs = [] := by
  have hskip : cs.dropWhile isBlank = [] := List.dropWhile_eq_nil_iff.2 h
  rw [wordsOf]
  split
  · rfl
  · next hcons => simp [hskip] at hcons

theorem wordsOf_of_dropWhile {cs rest : List Char} {c : Char}
    (h : cs.dropWhile isBlank = c :: rest) :
    wordsOf cs = (c :: rest.takeWhile isInk) :: wordsOf (rest.dropWhile isInk) := by
  rw [wordsOf]
  split
  · next hnil => simp [h] at hnil
  · next hcons =>
    rw [h] at hcons
    cases hcons
    rfl

/-- The rest of a text behind its leading word. -/
theorem startsBlank_dropWhile_isInk (cs : List Char) : StartsBlank (cs.dropWhile isInk) := by
  intro c hc
  rcases hdrop : cs.dropWhile isInk with _ | ⟨d, ds⟩
  · simp [hdrop] at hc
  · have hink := not_of_dropWhile_eq_cons hdrop
    rw [hdrop] at hc
    cases hc
    simpa [isInk] using hink

/-! ### Both directions -/

theorem cutInto_wordsOf (cs : List Char) : CutInto (wordsOf cs) cs := by
  rcases h : cs.dropWhile isBlank with _ | ⟨c, rest⟩
  · have hblank := List.dropWhile_eq_nil_iff.1 h
    rw [wordsOf_of_blank hblank]
    exact .nil hblank
  · have hc := not_of_dropWhile_eq_cons h
    have hword : IsWord (c :: rest.takeWhile isInk) := by
      refine ⟨List.cons_ne_nil _ _, ?_⟩
      intro d hd
      rcases List.mem_cons.1 hd with rfl | hd
      · exact hc
      · exact isInk_iff.1 (List.all_eq_true.1 List.all_takeWhile d hd)
    have hgap : ∀ d ∈ cs.takeWhile isBlank, isBlank d = true :=
      List.all_eq_true.1 List.all_takeWhile
    have htext : cs = cs.takeWhile isBlank ++
        ((c :: rest.takeWhile isInk) ++ rest.dropWhile isInk) := by
      rw [List.cons_append, List.takeWhile_append_dropWhile, ← h,
        List.takeWhile_append_dropWhile]
    rw [wordsOf_of_dropWhile h]
    have hrest := CutInto.cons hgap hword (startsBlank_dropWhile_isInk rest)
      (cutInto_wordsOf (rest.dropWhile isInk))
    rwa [← htext] at hrest
termination_by cs.length
decreasing_by exact length_behind_word_lt h

theorem wordsOf_eq_of_cutInto {words : List (List Char)} {cs : List Char} (h : CutInto words cs) :
    wordsOf cs = words := by
  induction h with
  | nil hgap => exact wordsOf_of_blank hgap
  | @cons gap word words rest hgap hword hend _ ih =>
    obtain ⟨hne, hink⟩ := hword
    rcases word with _ | ⟨c, cs⟩
    · exact absurd rfl hne
    have hc : isBlank c = false := hink c List.mem_cons_self
    have hcs : ∀ d ∈ cs, isInk d = true :=
      fun d hd => isInk_iff.2 (hink d (List.mem_cons_of_mem _ hd))
    have hskip : (gap ++ (c :: cs ++ rest)).dropWhile isBlank = c :: (cs ++ rest) := by
      rw [List.dropWhile_append_of_pos hgap, List.cons_append,
        List.dropWhile_cons_of_neg (by simp [hc])]
    -- the word goes on up to the blank that has to follow it
    have hstop : rest.takeWhile isInk = [] ∧ rest.dropWhile isInk = rest := by
      rcases rest with _ | ⟨d, ds⟩
      · exact ⟨rfl, rfl⟩
      · have hd : isBlank d = true := hend d rfl
        simp [isInk, hd]
    rw [wordsOf_of_dropWhile hskip, List.takeWhile_append_of_pos hcs,
      List.dropWhile_append_of_pos hcs, hstop.1, hstop.2, List.append_nil, ih]

/-- **Words.** The words of a text are what it is cut into, and it is cut into nothing else. -/
theorem wordsOf_eq_iff {words : List (List Char)} {cs : List Char} :
    wordsOf cs = words ↔ CutInto words cs :=
  ⟨fun h => h ▸ cutInto_wordsOf cs, wordsOf_eq_of_cutInto⟩

/-- Words of a text, each as a text. -/
theorem words_eq_iff {text : String} {tokens : List String} :
    words text = tokens ↔ CutInto (tokens.map String.toList) text.toList := by
  rw [← wordsOf_eq_iff, words]
  constructor
  · rintro rfl
    simp [Function.comp_def]
  · intro h
    simp [h, Function.comp_def]

/-! ### Outer blanks -/

/-- No blank is at either end. -/
structure InkAtEnds (cs : List Char) : Prop where
  head : ∀ c ∈ cs.head?, isBlank c = false
  last : ∀ c ∈ cs.getLast?, isBlank c = false

/-- A text is its core with blanks on both sides. -/
def Strips (cs core : List Char) : Prop :=
  ∃ before after, cs = before ++ (core ++ after) ∧
    (∀ c ∈ before, isBlank c = true) ∧ (∀ c ∈ after, isBlank c = true) ∧ InkAtEnds core

theorem strips_self {cs : List Char} (h : InkAtEnds cs) : Strips cs cs :=
  ⟨[], [], (List.append_nil cs).symm, fun _ hc => (nomatch hc), fun _ hc => (nomatch hc), h⟩

theorem dropWhile_blank_append {gap rest : List Char} (hgap : ∀ c ∈ gap, isBlank c = true)
    (hrest : ∀ c ∈ rest.head?, isBlank c = false) : (gap ++ rest).dropWhile isBlank = rest := by
  rw [List.dropWhile_append_of_pos hgap]
  rcases rest with _ | ⟨c, rest⟩
  · rfl
  · exact List.dropWhile_cons_of_neg (by simp [hrest c rfl])

theorem head?_dropWhile_blank (cs : List Char) :
    ∀ c ∈ (cs.dropWhile isBlank).head?, isBlank c = false := by
  intro c hc
  obtain ⟨rest, hdrop⟩ := List.head?_eq_some_iff.1 hc
  exact not_of_dropWhile_eq_cons hdrop

theorem strips_trimmed (cs : List Char) : Strips cs (trimmed cs) := by
  have hbefore : ∀ c ∈ cs.takeWhile isBlank, isBlank c = true :=
    List.all_eq_true.1 List.all_takeWhile
  have hafter : ∀ c ∈ (cs.dropWhile isBlank).reverse.takeWhile isBlank, isBlank c = true :=
    List.all_eq_true.1 List.all_takeWhile
  have hrest : cs.dropWhile isBlank =
      trimmed cs ++ ((cs.dropWhile isBlank).reverse.takeWhile isBlank).reverse := by
    rw [trimmed, ← List.reverse_append, List.takeWhile_append_dropWhile, List.reverse_reverse]
  refine ⟨_, _, ?_, hbefore, fun c hc => hafter c (List.mem_reverse.1 hc), ?_, ?_⟩
  · rw [← hrest, List.takeWhile_append_dropWhile]
  · -- what is in front of the blanks at the end starts like the whole
    intro c hc
    refine head?_dropWhile_blank cs c ?_
    rw [hrest, List.head?_append, Option.mem_def.1 hc]
    rfl
  · intro c hc
    rw [trimmed, List.getLast?_reverse] at hc
    exact head?_dropWhile_blank _ c hc

theorem trimmed_of_strips {cs core : List Char} (h : Strips cs core) : trimmed cs = core := by
  obtain ⟨before, after, rfl, hbefore, hafter, hcore⟩ := h
  have hback : ∀ c ∈ after.reverse, isBlank c = true :=
    fun c hc => hafter c (List.mem_reverse.1 hc)
  have hlast : ∀ c ∈ core.reverse.head?, isBlank c = false := by
    rw [List.head?_reverse]
    exact hcore.last
  rcases core with _ | ⟨c, core⟩
  · have hdrop : (before ++ ([] ++ after)).dropWhile isBlank = [] := by
      refine List.dropWhile_eq_nil_iff.2 fun c hc => ?_
      rcases List.mem_append.1 hc with hc | hc
      · exact hbefore c hc
      · exact hafter c hc
    rw [trimmed, hdrop]
    rfl
  · have hhead : ∀ d ∈ (c :: core ++ after).head?, isBlank d = false := hcore.head
    rw [trimmed, dropWhile_blank_append hbefore hhead, List.reverse_append,
      dropWhile_blank_append hback hlast, List.reverse_reverse]

/-- **Outer blanks.** A text without its outer blanks is its core, and it has no other core. -/
theorem trimmed_eq_iff {cs core : List Char} : trimmed cs = core ↔ Strips cs core :=
  ⟨fun h => h ▸ strips_trimmed cs, trimmed_of_strips⟩

end Crosstab.Text
