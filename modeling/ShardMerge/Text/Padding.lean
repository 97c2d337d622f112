/-!
# Padding

Filling a column of a listing.  Widths count characters, and a text that is too long stays whole.
-/

namespace ShardMerge.Text

/-- A text with blanks behind it up to a number of characters. -/
def padRight (width : Nat) (text : String) : String :=
  text ++ String.ofList (List.replicate (width - text.length) ' ')

end ShardMerge.Text
