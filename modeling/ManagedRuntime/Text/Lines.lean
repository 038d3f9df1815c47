/-
  Lines
  =====
  A text is cut into lines at every line feed.  A carriage return at the end of a
  line belongs to the cut.
-/

namespace ManagedRuntime.Text

def dropReturn (line : List Char) : List Char :=
  if line.getLast? = some '\r' then line.dropLast else line

/-- The lines of a text that ends with a line feed, less that line feed. -/
def lines (text : List Char) : List (List Char) :=
  (text.splitOn '\n').map dropReturn

end ManagedRuntime.Text
