/-!
# ASCII case

Names of tables and columns, SQL words and reserved words compare without regard to the case of
the letters A to Z, and of no others.
-/

namespace Crosstab.Text

/-- The texts differ at most in the case of the letters A to Z; `Char.toUpper` changes no other
character. -/
def sameButCase (s t : String) : Bool := s.toList.map Char.toUpper == t.toList.map Char.toUpper

end Crosstab.Text
