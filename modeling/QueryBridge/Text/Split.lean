/-!
# Splitting texts

A text is cut at every occurrence of a separator, or at the first one only.  Its signs are
characters or code points.
-/

namespace QueryBridge.Text

variable {α : Type} [DecidableEq α]

/-- The parts of a text between the occurrences of a separator. -/
def splitOn (separator : α) : List α → List (List α)
  | [] => [[]]
  | c :: text =>
      if c = separator then [] :: splitOn separator text
      else
        match splitOn separator text with
        | [] => [[c]]
        | first :: others => (c :: first) :: others

/-- The parts of a text before and after the first occurrence of a separator. -/
def cutAt (separator : α) (text : List α) : List α × List α :=
  (text.takeWhile (· != separator), (text.dropWhile (· != separator)).drop 1)

end QueryBridge.Text
