/-!
# White space

The characters with the Unicode property White_Space, and trimming by it.
-/

namespace TopicPress.Text

/-- The Unicode property White_Space. -/
def isWhiteSpace (c : Char) : Bool :=
  let code := c.toNat
  (9 ≤ code && code ≤ 13) || code == 0x20 || code == 0x85 || code == 0xA0 || code == 0x1680
    || (0x2000 ≤ code && code ≤ 0x200A) || code == 0x2028 || code == 0x2029 || code == 0x202F
    || code == 0x205F || code == 0x3000

/-- Drop characters from the end as long as they satisfy `p`. -/
def dropEndWhile (p : Char → Bool) (text : List Char) : List Char :=
  (text.reverse.dropWhile p).reverse

/-- Drop characters from both ends as long as they satisfy `p`. -/
def trimBy (p : Char → Bool) (text : List Char) : List Char :=
  dropEndWhile p (text.dropWhile p)

/-- Drop white space at the end. -/
def trimEnd (text : List Char) : List Char := dropEndWhile isWhiteSpace text

/-- Drop white space at both ends. -/
def trim (text : List Char) : List Char := trimBy isWhiteSpace text

end TopicPress.Text
