import Crosstab.Proofs.Text.Words
import Crosstab.Text.AsciiCase
import Crosstab.Text.LowerCase
import Mathlib

/-!
# What lower-casing makes of a text

Every character goes to a form of its own, one or two characters long. A form has no other form, so
lower-casing a text again changes nothing, whatever its sigmas have become. A form is no blank
unless the character is one, and it is in ASCII only for a character of ASCII, with one exception:
the Kelvin sign becomes a `k`.

    text ──characters──▶ forms ──flatten──▶ text in lower case

The facts about single characters are read off the table of runs. The bounds of a run decide nearly
all of them; that no form has another form is read off two sets of code points, each a number with
one bit for every code point.
-/

namespace Crosstab.Text

/-! ### The table -/

namespace CaseRun

/-- The code point of the form of the first character. -/
def least (run : CaseRun) : Nat := Int.toNat (run.first + run.shift)

/-- The code point of the form of the last character. -/
def greatest (run : CaseRun) : Nat := Int.toNat (run.last + run.shift)

/-- The forms reach into a range. -/
def reaches (run : CaseRun) (lower upper : Nat) : Bool :=
  Nat.ble run.least upper && Nat.ble lower run.greatest

/-- As many code points as the run has characters, from some place on and with its step. -/
def codesFrom (run : CaseRun) (start : Nat) : List Nat :=
  List.range' start ((run.last - run.first) / run.step + 1) run.step

/-- The forms are characters, neither blanks nor `İ`, and in ASCII only for characters of ASCII and
the Kelvin sign. The characters of ASCII are the letters A to Z. -/
structure Sound (run : CaseRun) : Prop where
  nonnegative : 0 ≤ run.first + run.shift
  valid : run.greatest < 0xD800 ∨ 0xDFFF < run.least ∧ run.greatest < 0x110000
  noBlank : ∀ range ∈ blankRanges, run.reaches range.1 range.2 = false
  noDotted : run.reaches 0x130 0x130 = false
  ascii : run.last < 128 ∨ 128 ≤ run.least ∨ run.least = 0x6B ∧ run.greatest = 0x6B
  letters : 128 ≤ run.first ∨ run = ⟨0x41, 0x5A, 1, 32⟩

instance (run : CaseRun) : Decidable run.Sound :=
  decidable_of_iff
    (0 ≤ run.first + run.shift ∧
      (run.greatest < 0xD800 ∨ 0xDFFF < run.least ∧ run.greatest < 0x110000) ∧
      (∀ range ∈ blankRanges, run.reaches range.1 range.2 = false) ∧
      run.reaches 0x130 0x130 = false ∧
      (run.last < 128 ∨ 128 ≤ run.least ∨ run.least = 0x6B ∧ run.greatest = 0x6B) ∧
      (128 ≤ run.first ∨ run = ⟨0x41, 0x5A, 1, 32⟩))
    ⟨fun ⟨h₁, h₂, h₃, h₄, h₅, h₆⟩ => ⟨h₁, h₂, h₃, h₄, h₅, h₆⟩,
      fun ⟨h₁, h₂, h₃, h₄, h₅, h₆⟩ => ⟨h₁, h₂, h₃, h₄, h₅, h₆⟩⟩

theorem reaches_of_mem {run : CaseRun} {code lower upper : Nat} (hleast : run.least ≤ code)
    (hgreatest : code ≤ run.greatest) (hlower : lower ≤ code) (hupper : code ≤ upper) :
    run.reaches lower upper = true := by
  rw [reaches, Bool.and_eq_true, Nat.ble_eq, Nat.ble_eq]
  omega

theorem covers_iff {run : CaseRun} {code : Nat} : run.covers code = true ↔
    run.first ≤ code ∧ code ≤ run.last ∧ (code - run.first) % run.step = 0 := by
  simp [covers, and_assoc]

/-- The forms of covered characters lie between the least and the greatest. -/
theorem bounds_of_covers {run : CaseRun} {code form : Nat} (h : run.covers code = true)
    (hform : (form : Int) = code + run.shift) : run.least ≤ form ∧ form ≤ run.greatest := by
  obtain ⟨hfirst, hlast, -⟩ := covers_iff.1 h
  unfold least greatest
  omega

/-- A covered character is as far from the first one as its place tells. -/
theorem mem_codesFrom {run : CaseRun} {code : Nat} (h : run.covers code = true) (start : Nat) :
    start + (code - run.first) ∈ run.codesFrom start := by
  obtain ⟨hfirst, hlast, hstep⟩ := covers_iff.1 h
  refine List.mem_range'.2 ⟨(code - run.first) / run.step, ?_, ?_⟩
  · exact Nat.lt_succ_of_le (Nat.div_le_div_right (Nat.sub_le_sub_right hlast _))
  · rw [Nat.mul_div_cancel' (Nat.dvd_of_mod_eq_zero hstep)]

theorem mem_codesFrom_first {run : CaseRun} {code : Nat} (h : run.covers code = true) :
    code ∈ run.codesFrom run.first := by
  have hmem := mem_codesFrom h run.first
  rwa [Nat.add_sub_cancel' (covers_iff.1 h).1] at hmem

theorem mem_codesFrom_least {run : CaseRun} (hsound : run.Sound) {code form : Nat}
    (h : run.covers code = true) (hform : (form : Int) = code + run.shift) :
    form ∈ run.codesFrom run.least := by
  have hmem := mem_codesFrom h run.least
  have hfirst := (covers_iff.1 h).1
  have hnonnegative := hsound.nonnegative
  have heq : run.least + (code - run.first) = form := by
    unfold least
    omega
  rwa [heq] at hmem

end CaseRun

theorem sound_of_mem : ∀ run ∈ lowerRuns, run.Sound := by decide +kernel

/-- A set of code points as a number. -/
def bits : List Nat → Nat
  | [] => 0
  | code :: codes => 1 <<< code ||| bits codes

theorem testBit_bits {code : Nat} {codes : List Nat} :
    (bits codes).testBit code = decide (code ∈ codes) := by
  induction codes with
  | nil => simp [bits]
  | cons other codes ih =>
    rw [bits, Nat.testBit_or, ih, Nat.one_shiftLeft, Nat.testBit_two_pow]
    simp [eq_comm]

theorem bits_disjoint :
    bits (lowerRuns.flatMap fun run => run.codesFrom run.first) &&&
      bits (lowerRuns.flatMap fun run => run.codesFrom run.least) = 0 := by
  decide +kernel

/-- No form of a covered character is covered. -/
theorem covers_form {run other : CaseRun} (hrun : run ∈ lowerRuns) (hother : other ∈ lowerRuns)
    {code form : Nat} (h : run.covers code = true) (hform : (form : Int) = code + run.shift) :
    other.covers form = false := by
  refine Bool.eq_false_iff.2 fun hcovers => ?_
  have hupper : form ∈ lowerRuns.flatMap fun run => run.codesFrom run.first :=
    List.mem_flatMap.2 ⟨other, hother, CaseRun.mem_codesFrom_first hcovers⟩
  have hlower : form ∈ lowerRuns.flatMap fun run => run.codesFrom run.least :=
    List.mem_flatMap.2 ⟨run, hrun, CaseRun.mem_codesFrom_least (sound_of_mem run hrun) h hform⟩
  have hbit := congrArg (Nat.testBit · form) bits_disjoint
  simp [Nat.testBit_and, testBit_bits, hupper, hlower] at hbit

/-! ### Characters -/

section

variable {c d : Char}

/-- How a character comes to its form: as the one with a form of two characters, by a run, or not at
all. -/
theorem lowerChar_cases (c : Char) :
    (c = 'İ' ∧ lowerChar c = ['i', '\u0307']) ∨
    (∃ run ∈ lowerRuns, run.covers c.toNat = true ∧
      ∃ d : Char, lowerChar c = [d] ∧ (d.toNat : Int) = c.toNat + run.shift) ∨
    (c ≠ 'İ' ∧ (∀ run ∈ lowerRuns, run.covers c.toNat = false) ∧ lowerChar c = [c]) := by
  by_cases hdotted : c = 'İ'
  · exact .inl ⟨hdotted, if_pos hdotted⟩
  refine .inr ?_
  rcases hfind : lowerRuns.find? (·.covers c.toNat) with _ | run
  · refine .inr ⟨hdotted, fun run hrun => ?_, by rw [lowerChar, if_neg hdotted, hfind]⟩
    exact Bool.eq_false_iff.2 (List.find?_eq_none.1 hfind run hrun)
  · have hrun := List.mem_of_find?_eq_some hfind
    have hcovers : run.covers c.toNat = true :=
      List.find?_some (p := fun other : CaseRun => other.covers c.toNat) hfind
    refine .inl ⟨run, hrun, hcovers, Char.ofNat (Int.toNat (c.toNat + run.shift)),
      by rw [lowerChar, if_neg hdotted, hfind], ?_⟩
    have hsound := sound_of_mem run hrun
    have hnonnegative := hsound.nonnegative
    obtain ⟨hfirst, -, -⟩ := CaseRun.covers_iff.1 hcovers
    have hcode : (Int.toNat (c.toNat + run.shift) : Int) = c.toNat + run.shift := by omega
    obtain ⟨hleast, hgreatest⟩ := CaseRun.bounds_of_covers hcovers hcode
    have hvalid : (Int.toNat (c.toNat + run.shift)).isValidChar := by
      unfold Nat.isValidChar
      have := hsound.valid
      omega
    rw [Char.toNat_ofNat, if_pos hvalid, hcode]

/-- A character that has no form but itself, also at the end of a word. -/
structure IsLower (c : Char) : Prop where
  ne_sigma : c ≠ 'Σ'
  form_eq : lowerChar c = [c]

theorem isLower_of_covers (hdotted : c ≠ 'İ')
    (h : ∀ run ∈ lowerRuns, run.covers c.toNat = false) : IsLower c := by
  constructor
  · rintro rfl
    exact absurd (h ⟨0x3A3, 0x3AB, 1, 32⟩ (by decide)) (by decide)
  · rcases lowerChar_cases c with ⟨heq, -⟩ | ⟨run, hrun, hcovers, -⟩ | ⟨-, -, hform⟩
    · exact absurd heq hdotted
    · rw [h run hrun] at hcovers
      cases hcovers
    · exact hform

theorem isLower_of_mem_lowerChar (h : d ∈ lowerChar c) : IsLower d := by
  rcases lowerChar_cases c with ⟨-, hform⟩ | ⟨run, hrun, hcovers, e, hform, hshift⟩ |
    ⟨hdotted, hnone, hform⟩
  · rw [hform] at h
    rcases List.mem_pair.1 h with rfl | rfl
    · exact ⟨by decide, by decide⟩
    · exact ⟨by decide, by decide⟩
  · rw [hform, List.mem_singleton] at h
    subst h
    have hsound := sound_of_mem run hrun
    refine isLower_of_covers ?_ fun other hother => covers_form hrun hother hcovers hshift
    rintro rfl
    obtain ⟨hleast, hgreatest⟩ := CaseRun.bounds_of_covers hcovers hshift
    have hreaches := CaseRun.reaches_of_mem hleast hgreatest (Nat.le_refl _) (Nat.le_refl _)
    exact absurd (hsound.noDotted.symm.trans hreaches) (by decide)
  · rw [hform, List.mem_singleton] at h
    subst h
    exact isLower_of_covers hdotted hnone

theorem isBlank_of_mem_lowerChar (hc : isBlank c = false) (h : d ∈ lowerChar c) :
    isBlank d = false := by
  rcases lowerChar_cases c with ⟨-, hform⟩ | ⟨run, hrun, hcovers, e, hform, hshift⟩ |
    ⟨-, -, hform⟩
  · rw [hform] at h
    rcases List.mem_pair.1 h with rfl | rfl <;> decide
  · rw [hform, List.mem_singleton] at h
    subst h
    obtain ⟨hleast, hgreatest⟩ := CaseRun.bounds_of_covers hcovers hshift
    refine Bool.eq_false_iff.2 fun hblank => ?_
    obtain ⟨range, hrange, hin⟩ := List.any_eq_true.1 hblank
    rw [Bool.and_eq_true, decide_eq_true_eq, decide_eq_true_eq] at hin
    have hreaches := CaseRun.reaches_of_mem hleast hgreatest hin.1 hin.2
    rw [(sound_of_mem run hrun).noBlank range hrange] at hreaches
    cases hreaches
  · rw [hform, List.mem_singleton] at h
    rwa [h]

/-- What has a form in ASCII is of ASCII itself, unless the form is a `k`. -/
theorem lt_of_mem_lowerChar (hform : ∀ d ∈ lowerChar c, d.toNat < 128 ∧ d ≠ 'k') :
    c.toNat < 128 := by
  rcases lowerChar_cases c with ⟨-, heq⟩ | ⟨run, hrun, hcovers, e, heq, hshift⟩ | ⟨-, -, heq⟩
  · have hdot := (hform '\u0307' (by rw [heq]; exact List.mem_cons_of_mem _ List.mem_cons_self)).1
    exact absurd hdot (by decide)
  · obtain ⟨hlt, hne⟩ := hform e (by rw [heq]; exact List.mem_cons_self)
    obtain ⟨hleast, hgreatest⟩ := CaseRun.bounds_of_covers hcovers hshift
    rcases (sound_of_mem run hrun).ascii with hlast | hbeyond | ⟨hk, hk'⟩
    · have := (CaseRun.covers_iff.1 hcovers).2.1
      omega
    · omega
    · have hcode : e.toNat = 'k'.toNat := by
        show e.toNat = 0x6B
        omega
      exact absurd (Char.toNat_inj.1 hcode) hne
  · exact (hform c (by rw [heq]; exact List.mem_cons_self)).1

end

/-! ### Characters of ASCII -/

section

variable {c : Char}

theorem forall_ascii {p : Char → Prop} (h : ∀ n < 128, p (Char.ofNat n)) (hc : c.toNat < 128) :
    p c := by
  have hp := h c.toNat hc
  rwa [Char.ofNat_toNat] at hp

theorem toNat_toLower (h : c.toNat < 128) :
    c.toLower.toNat = if 0x41 ≤ c.toNat ∧ c.toNat ≤ 0x5A then c.toNat + 32 else c.toNat :=
  forall_ascii (p := fun c => c.toLower.toNat =
    if 0x41 ≤ c.toNat ∧ c.toNat ≤ 0x5A then c.toNat + 32 else c.toNat) (by decide) h

theorem lowerChar_of_ascii (h : c.toNat < 128) : lowerChar c = [c.toLower] := by
  have hlower := toNat_toLower h
  rcases lowerChar_cases c with ⟨rfl, -⟩ | ⟨run, hrun, hcovers, d, hform, hshift⟩ |
    ⟨-, hnone, hform⟩
  · exact absurd h (by decide)
  · obtain ⟨hfirst, hlast, -⟩ := CaseRun.covers_iff.1 hcovers
    rcases (sound_of_mem run hrun).letters with hbeyond | rfl
    · omega
    · have hd : d.toNat = c.toNat + 32 := Int.ofNat_inj.1 hshift
      rw [if_pos ⟨hfirst, hlast⟩, ← hd] at hlower
      rw [hform, Char.toNat_inj.1 hlower]
  · have hletters : ¬(0x41 ≤ c.toNat ∧ c.toNat ≤ 0x5A) := by
      rintro ⟨hfirst, hlast⟩
      have hcovers : (⟨0x41, 0x5A, 1, 32⟩ : CaseRun).covers c.toNat = true :=
        CaseRun.covers_iff.2 ⟨hfirst, hlast, Nat.mod_one _⟩
      rw [hnone _ List.mem_cons_self] at hcovers
      cases hcovers
    rw [if_neg hletters] at hlower
    rw [hform, Char.toNat_inj.1 hlower]

theorem toUpper_lt (h : c.toNat < 128) : c.toUpper.toNat < 128 :=
  forall_ascii (p := fun c => c.toUpper.toNat < 128) (by decide) h

theorem lt_of_toUpper_lt (h : c.toUpper.toNat < 128) : c.toNat < 128 := by
  by_cases hlower : c.isLower = true
  · simp only [Char.isLower, Bool.and_eq_true, decide_eq_true_eq, UInt32.le_iff_toNat_le,
      Char.toNat_val] at hlower
    exact Nat.lt_of_le_of_lt hlower.2 (by decide)
  · rwa [Char.toUpper_eq_of_not_isLower hlower] at h

end

/-! ### Texts -/

/-- The forms of a character in a text: its own, or that of a sigma at the end of a word. -/
def IsForm (c : Char) (form : List Char) : Prop := form = lowerChar c ∨ c = 'Σ' ∧ form = ['ς']

section

variable {before cs form : List Char} {c d : Char}

theorem lowerChar_sigma : lowerChar 'Σ' = ['σ'] := by decide

theorem exists_lowerFrom_cons (before : List Char) (c : Char) (cs : List Char) :
    ∃ form, IsForm c form ∧ lowerFrom before (c :: cs) = form ++ lowerFrom (c :: before) cs := by
  refine ⟨_, ?_, rfl⟩
  split
  · next hsigma =>
    split
    · exact .inr ⟨hsigma, rfl⟩
    · exact .inl (hsigma ▸ lowerChar_sigma.symm)
  · exact .inl rfl

namespace IsForm

theorem ne_nil (h : IsForm c form) : form ≠ [] := by
  rcases h with rfl | ⟨-, rfl⟩
  · rcases lowerChar_cases c with ⟨-, hform⟩ | ⟨_, -, -, d, hform, -⟩ | ⟨-, -, hform⟩
    all_goals simp [hform]
  · exact List.cons_ne_nil _ _

theorem isLower (h : IsForm c form) : ∀ d ∈ form, IsLower d := by
  intro d hd
  rcases h with rfl | ⟨-, rfl⟩
  · exact isLower_of_mem_lowerChar hd
  · rw [List.mem_singleton] at hd
    exact hd ▸ ⟨by decide, by decide⟩

theorem ink (h : IsForm c form) (hc : isBlank c = false) : ∀ d ∈ form, isBlank d = false := by
  intro d hd
  rcases h with rfl | ⟨-, rfl⟩
  · exact isBlank_of_mem_lowerChar hc hd
  · rw [List.mem_singleton] at hd
    exact hd ▸ by decide

theorem lt (h : IsForm c form) (hform : ∀ d ∈ form, d.toNat < 128 ∧ d ≠ 'k') : c.toNat < 128 := by
  rcases h with rfl | ⟨-, rfl⟩
  · exact lt_of_mem_lowerChar hform
  · exact absurd (hform 'ς' List.mem_cons_self).1 (by decide)

end IsForm

theorem exists_lowerFrom_concat (before cs : List Char) (c : Char) :
    ∃ init form, IsForm c form ∧ lowerFrom before (cs ++ [c]) = init ++ form := by
  induction cs generalizing before with
  | nil =>
    obtain ⟨form, hform, heq⟩ := exists_lowerFrom_cons before c []
    rw [lowerFrom, List.append_nil] at heq
    exact ⟨[], form, hform, heq⟩
  | cons d cs ih =>
    obtain ⟨init, form, hform, heq⟩ := ih (d :: before)
    obtain ⟨other, -, hcons⟩ := exists_lowerFrom_cons before d (cs ++ [c])
    exact ⟨other ++ init, form, hform, by rw [List.cons_append, hcons, heq, List.append_assoc]⟩

theorem inkAtEnds_lowerFrom (before : List Char) (h : InkAtEnds cs) :
    InkAtEnds (lowerFrom before cs) := by
  constructor
  · rcases cs with _ | ⟨c, cs⟩
    · exact fun _ hd => nomatch hd
    · obtain ⟨form, hform, heq⟩ := exists_lowerFrom_cons before c cs
      intro d hd
      rw [heq, List.head?_append_of_ne_nil _ hform.ne_nil] at hd
      exact hform.ink (h.head c rfl) d (List.mem_of_mem_head? hd)
  · rcases List.eq_nil_or_concat' cs with rfl | ⟨cs, c, rfl⟩
    · exact fun _ hd => nomatch hd
    · obtain ⟨init, form, hform, heq⟩ := exists_lowerFrom_concat before cs c
      intro d hd
      rw [heq, List.getLast?_append_of_ne_nil _ hform.ne_nil] at hd
      exact hform.ink (h.last c (by simp)) d (List.mem_of_mem_getLast? hd)

theorem isLower_of_mem_lowerFrom (h : d ∈ lowerFrom before cs) : IsLower d := by
  induction cs generalizing before with
  | nil => cases h
  | cons c cs ih =>
    obtain ⟨form, hform, heq⟩ := exists_lowerFrom_cons before c cs
    rw [heq] at h
    rcases List.mem_append.1 h with hd | hd
    · exact hform.isLower d hd
    · exact ih hd

theorem lowerFrom_of_isLower (h : ∀ c ∈ cs, IsLower c) : lowerFrom before cs = cs := by
  induction cs generalizing before with
  | nil => rfl
  | cons c cs ih =>
    have hc := h c List.mem_cons_self
    rw [lowerFrom, if_neg hc.ne_sigma, hc.form_eq, List.singleton_append,
      ih fun d hd => h d (List.mem_cons_of_mem _ hd)]

/-- Lower-casing again changes nothing, also where the text has got new neighbours. -/
theorem lowerFrom_lowerFrom (before other cs : List Char) :
    lowerFrom before (lowerFrom other cs) = lowerFrom other cs :=
  lowerFrom_of_isLower fun _ => isLower_of_mem_lowerFrom

theorem lowerCase_lowerCase (text : String) : lowerCase (lowerCase text) = lowerCase text := by
  unfold lowerCase
  rw [String.toList_ofList, lowerFrom_lowerFrom]

theorem lowerFrom_of_ascii (h : ∀ c ∈ cs, c.toNat < 128) :
    lowerFrom before cs = cs.map Char.toLower := by
  induction cs generalizing before with
  | nil => rfl
  | cons c cs ih =>
    have hc := h c List.mem_cons_self
    have hsigma : c ≠ 'Σ' := by
      rintro rfl
      exact absurd hc (by decide)
    rw [lowerFrom, if_neg hsigma, lowerChar_of_ascii hc, List.map_cons, List.singleton_append,
      ih fun d hd => h d (List.mem_cons_of_mem _ hd)]

theorem lt_of_lowerFrom (h : ∀ d ∈ lowerFrom before cs, d.toNat < 128 ∧ d ≠ 'k') :
    ∀ c ∈ cs, c.toNat < 128 := by
  induction cs generalizing before with
  | nil => exact fun _ hc => nomatch hc
  | cons c cs ih =>
    obtain ⟨form, hform, heq⟩ := exists_lowerFrom_cons before c cs
    rw [heq] at h
    intro d hd
    rcases List.mem_cons.1 hd with rfl | hd
    · exact hform.lt fun e he => h e (List.mem_append_left _ he)
    · exact ih (fun e he => h e (List.mem_append_right _ he)) d hd

end

/-! ### Plain names -/

/-- A name in lower case that only texts of ASCII can have. -/
def Plain (name : String) : Prop :=
  ∀ c ∈ name.toList, c.toNat < 128 ∧ c ≠ 'k' ∧ c.toLower = c

instance (name : String) : Decidable (Plain name) := List.decidableBAll _ name.toList

section

variable {name text : String}

theorem lt_of_lowerCase_eq (hname : Plain name) (h : lowerCase text = name) :
    ∀ c ∈ text.toList, c.toNat < 128 := by
  have hlist : lowerFrom [] text.toList = name.toList := by
    rw [← h, lowerCase, String.toList_ofList]
  have hplain : ∀ d ∈ lowerFrom [] text.toList, d.toNat < 128 ∧ d ≠ 'k' := by
    rw [hlist]
    exact fun d hd => ⟨(hname d hd).1, (hname d hd).2.1⟩
  exact lt_of_lowerFrom hplain

/-- **Plain names.** A text has a plain name exactly if it differs from it in the case of the
letters A to Z alone. -/
theorem lowerCase_eq_iff (hname : Plain name) :
    lowerCase text = name ↔ sameButCase name text = true := by
  rw [sameButCase, beq_iff_eq]
  constructor
  · intro h
    have hascii := lt_of_lowerCase_eq hname h
    rw [← h, lowerCase, String.toList_ofList, lowerFrom_of_ascii hascii, List.map_map]
    exact List.map_congr_left fun c _ => Char.toUpper_toLower_eq_toUpper c
  · intro h
    have hascii : ∀ c ∈ text.toList, c.toNat < 128 := by
      intro c hc
      have hupper : c.toUpper ∈ name.toList.map Char.toUpper :=
        h ▸ List.mem_map_of_mem (f := Char.toUpper) hc
      obtain ⟨d, hd, heq⟩ := List.mem_map.1 hupper
      exact lt_of_toUpper_lt (heq ▸ toUpper_lt (hname d hd).1)
    have hlower : text.toList.map Char.toLower = name.toList :=
      calc text.toList.map Char.toLower
        _ = (text.toList.map Char.toUpper).map Char.toLower := by
          rw [List.map_map]
          exact List.map_congr_left fun c _ => (Char.toLower_toUpper_eq_toLower c).symm
        _ = (name.toList.map Char.toUpper).map Char.toLower := by rw [h]
        _ = name.toList.map id := by
          rw [List.map_map]
          exact List.map_congr_left fun c hc =>
            (Char.toLower_toUpper_eq_toLower c).trans (hname c hc).2.2
        _ = name.toList := List.map_id _
    rw [lowerCase, lowerFrom_of_ascii hascii, hlower, String.ofList_toList]

end

end Crosstab.Text
