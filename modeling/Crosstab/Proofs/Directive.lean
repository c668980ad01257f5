import Crosstab.Directive

/-!
# What a directive gives and lacks

A pair of a directive either gives a keyword its value or is put aside. So what is put aside are
the pairs without a keyword, in the order of the text, and what is missing are the keywords
without a pair, in the order of the grammar.
-/

namespace Crosstab.Directive

/-- The pair is for no keyword. -/
def isUnknown (pair : String × String) : Bool := (Keyword.ofToken? pair.1).isNone

theorem spec_eq_error {slots : Slots} {cause : DirectiveError} (h : slots.spec = .error cause) :
    cause = .missing (Keyword.all.filter fun keyword => (slots keyword).isNone) := by
  unfold Slots.spec at h
  split at h
  · cases h
  · exact (Except.error.inj h).symm

/-- The stages in which a text is read. -/
theorem parse_eq (text : String) : parse text =
    match pairs text with
    | .error cause => .error cause
    | .ok given =>
      match assign .empty given with
      | .error cause => .error cause
      | .ok (slots, ignored) => slots.spec.map fun spec => { spec, ignored } := by
  simp only [parse, bind, Except.bind]
  rcases pairs text with cause | given
  · rfl
  · dsimp only
    rcases assign .empty given with cause | ⟨slots, ignored⟩
    · rfl
    · dsimp only
      cases slots.spec <;> rfl

end Crosstab.Directive
