/-!
# Blank characters

The Unicode property White_Space, and trimming by it. Text is handled as a list of characters, so
that every function on it recurses on the list.

## Main definitions

* `isBlank` — the property itself.
* `trim` — a text without the blanks at both ends.
-/
namespace FisheryRules.Text

/-- The characters with the Unicode property White_Space. -/
def isBlank (c : Char) : Bool :=
  let n := c.toNat
  (0x09 ≤ n && n ≤ 0x0D) || n == 0x20 || n == 0x85 || n == 0xA0 || n == 0x1680 ||
    (0x2000 ≤ n && n ≤ 0x200A) || n == 0x2028 || n == 0x2029 || n == 0x202F ||
    n == 0x205F || n == 0x3000

def trimStart (cs : List Char) : List Char := cs.dropWhile isBlank

def trimEnd (cs : List Char) : List Char := (cs.reverse.dropWhile isBlank).reverse

/-- The text without the blanks at its two ends. -/
def trim (cs : List Char) : List Char := trimEnd (trimStart cs)

/-- The text without the blanks at its two ends. -/
def trimmed (s : String) : String := String.ofList (trim s.toList)

/-- Whether the text consists of blanks alone. -/
def isBlankText (s : String) : Bool := s.toList.all isBlank

end FisheryRules.Text
