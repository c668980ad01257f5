import Crosstab.Text.Ranges

/-!
# Blanks and words

A blank is a character with the Unicode property White_Space. Text is cut into words at
blanks: a word is a maximal run of characters that are not blanks, so every word is non-empty,
words never touch, and the blanks around them carry no information.

    text ──words──▶ maximal blank-free runs          text ──trim──▶ text without outer blanks
-/

namespace Crosstab.Text

/-- The code points with the property White_Space, as closed ranges in ascending order. -/
def blankRanges : List (Nat × Nat) :=
  [(0x09, 0x0D), (0x20, 0x20), (0x85, 0x85), (0xA0, 0xA0), (0x1680, 0x1680), (0x2000, 0x200A),
    (0x2028, 0x2029), (0x202F, 0x202F), (0x205F, 0x205F), (0x3000, 0x3000)]

/-- A character with the property White_Space. -/
def isBlank (c : Char) : Bool := inRanges blankRanges c.toNat

/-- A blank of ASCII. -/
def isAsciiBlank (c : Char) : Bool := c == ' ' || (decide ('\t' ≤ c) && decide (c ≤ '\r'))

/-- A character that can stand in a word. -/
def isInk (c : Char) : Bool := !isBlank c

/-- What `dropWhile` leaves is no longer than what it was given. -/
theorem length_dropWhile_le (p : α → Bool) (xs : List α) : (xs.dropWhile p).length ≤ xs.length := by
  induction xs with
  | nil => simp
  | cons x xs ih =>
    rw [List.dropWhile_cons]
    split
    · simp only [List.length_cons]; omega
    · exact Nat.le_refl _

/-- Behind a word there is less text than in front of it. -/
theorem length_behind_word_lt {cs rest : List Char} {c : Char}
    (h : cs.dropWhile isBlank = c :: rest) : (rest.dropWhile isInk).length < cs.length := by
  have hskip := length_dropWhile_le isBlank cs
  have hword := length_dropWhile_le isInk rest
  rw [h] at hskip
  simp only [List.length_cons] at hskip
  omega

/-- The words of a text in order: skip blanks, cut the leading word off, go on behind it. -/
def wordsOf (cs : List Char) : List (List Char) :=
  match _h : cs.dropWhile isBlank with
  | [] => []
  | c :: rest => (c :: rest.takeWhile isInk) :: wordsOf (rest.dropWhile isInk)
termination_by cs.length
decreasing_by exact length_behind_word_lt _h

/-- The words of a text. -/
def words (text : String) : List String := (wordsOf text.toList).map String.ofList

/-- A list without its leading and trailing blanks. -/
def trimmed (cs : List Char) : List Char :=
  ((cs.dropWhile isBlank).reverse.dropWhile isBlank).reverse

/-- A text without its leading and trailing blanks. -/
def trim (text : String) : String := String.ofList (trimmed text.toList)

end Crosstab.Text
