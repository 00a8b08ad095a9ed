/-!
# Ends of lines

In a text file a line may end with a line feed, a carriage return, or both.
-/

namespace QueryBridge.Text

/-- The text with a line feed at the end of each line. -/
def unifyNewlines : List Char → List Char
  | '\r' :: '\n' :: rest => '\n' :: unifyNewlines rest
  | '\r' :: rest => '\n' :: unifyNewlines rest
  | c :: rest => c :: unifyNewlines rest
  | [] => []

end QueryBridge.Text
