/-!
# Text/Ranges — sets of characters as ranges of code points

A character property is a table of inclusive ranges. Membership is a plain search, so that a statement
about one character is settled by evaluation.
-/

namespace DatasetHosting.Text

/-- A set of characters, as inclusive ranges of code points. -/
abbrev Ranges := List (Nat × Nat)

/-- Whether some range of the table contains the character. -/
def Ranges.has (ranges : Ranges) (c : Char) : Bool :=
  ranges.any fun range => range.1 ≤ c.toNat && c.toNat ≤ range.2

end DatasetHosting.Text
