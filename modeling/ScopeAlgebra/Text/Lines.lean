/-!
# Ends of lines

A line ends with a line feed, a carriage return, or both. `withLineFeeds` makes one line feed of
each.
-/

namespace ScopeAlgebra.Text

/-- Characters in which every end of a line is one line feed, behind those that are done (last one
first). -/
def withLineFeedsAfter (done : List Char) : List Char → List Char
  | '\r' :: '\n' :: rest => withLineFeedsAfter ('\n' :: done) rest
  | c :: rest => withLineFeedsAfter ((if c = '\r' then '\n' else c) :: done) rest
  | [] => done.reverse

/-- Characters in which every end of a line is one line feed. -/
def withLineFeeds (cs : List Char) : List Char := withLineFeedsAfter [] cs

end ScopeAlgebra.Text
