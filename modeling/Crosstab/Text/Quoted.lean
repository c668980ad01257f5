/-!
# Quoted text

A quoted text stands between two quote marks, and a quote mark inside it is written twice. One
rule serves for names (the mark is `"`) and for literals (the mark is `'`): a pair of marks is
one mark of the content, and a lone mark ends the text.

    content ──enclose q──▶ written form ──scan q──▶ content, and what follows
-/

namespace Crosstab.Text.Quoted

/-- The content with every quote mark written twice. -/
def double (mark : Char) : List Char → List Char
  | [] => []
  | c :: cs => if c = mark then mark :: mark :: double mark cs else c :: double mark cs

/-- The written form of a content. -/
def enclose (mark : Char) (content : List Char) : List Char :=
  mark :: double mark content ++ [mark]

/-- Reads a quoted text whose opening mark has been read: its content, and what follows the
closing mark. There is none if the closing mark is missing. -/
def scanBody (mark : Char) : List Char → Option (List Char × List Char)
  | [] => none
  | [c] => if c = mark then some ([], []) else none
  | c :: d :: cs =>
    if c = mark then
      if d = mark then (scanBody mark cs).map fun r => (mark :: r.1, r.2)
      else some ([], d :: cs)
    else (scanBody mark (d :: cs)).map fun r => (c :: r.1, r.2)

/-- Reads a quoted text from its opening mark on. -/
def scan (mark : Char) : List Char → Option (List Char × List Char)
  | [] => none
  | c :: cs => if c = mark then scanBody mark cs else none

/-- What follows a quoted text is shorter than what it was read from. -/
theorem length_scanBody_lt {mark : Char} {cs : List Char} {r : List Char × List Char}
    (h : scanBody mark cs = some r) : r.2.length < cs.length := by
  fun_induction scanBody mark cs generalizing r with
  | case1 => cases h
  | case2 => cases h; simp
  | case3 => cases h
  | case4 cs ih =>
    obtain ⟨u, hu, rfl⟩ := Option.map_eq_some_iff.1 h
    have := ih hu
    simp only [List.length_cons]
    omega
  | case5 => cases h; simp
  | case6 c d cs hc ih =>
    obtain ⟨u, hu, rfl⟩ := Option.map_eq_some_iff.1 h
    have := ih hu
    simp only [List.length_cons] at *
    omega

end Crosstab.Text.Quoted
