import QueryBridge.Text.Range

/-!
# Blank characters and trimming

Blank are the white-space characters of Unicode together with the four
information separators U+001C to U+001F.  Zero-width characters are not blank.
-/

namespace QueryBridge.Text

def blankRanges : List (Nat × Nat) :=
  [(0x09, 0x0D), (0x1C, 0x20), (0x85, 0x85), (0xA0, 0xA0), (0x1680, 0x1680),
    (0x2000, 0x200A), (0x2028, 0x2029), (0x202F, 0x202F), (0x205F, 0x205F), (0x3000, 0x3000)]

def isBlankCode (code : Nat) : Bool :=
  inRanges blankRanges code

def isBlank (c : Char) : Bool :=
  isBlankCode c.toNat

/-! ## Trimming -/

/-- Drops the longest ending that consists of signs satisfying `p`. -/
def dropEndWhile {α : Type} (p : α → Bool) (text : List α) : List α :=
  (text.reverse.dropWhile p).reverse

/-- The code points without the blanks at their two ends. -/
def trimCodes (codes : List Nat) : List Nat :=
  dropEndWhile isBlankCode (codes.dropWhile isBlankCode)

def trimChars (text : List Char) : List Char :=
  dropEndWhile isBlank (text.dropWhile isBlank)

/-- The text without the blanks at its two ends. -/
def trim (text : String) : String :=
  String.ofList (trimChars text.toList)

/-- The text without the slashes at its end. -/
def dropEndSlashes (text : String) : String :=
  String.ofList (dropEndWhile (· == '/') text.toList)

end QueryBridge.Text
