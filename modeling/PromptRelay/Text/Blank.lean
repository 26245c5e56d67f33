/-!
Contract: what counts as surrounding whitespace, and trimming it away.

Owns:
- the class of blank characters, the Unicode `White_Space` property;
- trimming of character lists and of strings at either end or both.

Does not own: the four blank bytes of JSON or the layout characters of the
document formats, which are narrower classes of their own.
-/

namespace PromptRelay.Text

/-- The 25 characters that carry the Unicode property `White_Space`. -/
def isBlank (c : Char) : Bool :=
  let n := c.toNat
  (0x09 ≤ n && n ≤ 0x0D) || n == 0x20 || n == 0x85 || n == 0xA0 || n == 0x1680 ||
    (0x2000 ≤ n && n ≤ 0x200A) || n == 0x2028 || n == 0x2029 || n == 0x202F ||
    n == 0x205F || n == 0x3000

def trimStart (cs : List Char) : List Char :=
  cs.dropWhile isBlank

def trimEnd (cs : List Char) : List Char :=
  (cs.reverse.dropWhile isBlank).reverse

def trim (cs : List Char) : List Char :=
  trimEnd (trimStart cs)

/-- The string without its surrounding blanks. -/
def trimmed (s : String) : String :=
  String.ofList (trim s.toList)

/-- A string of blanks only, the empty one included. -/
def isBlankText (s : String) : Bool :=
  s.toList.all isBlank

/-- The trimmed string, unless nothing is left of it. -/
def nonBlank? (s : String) : Option String :=
  let kept := trimmed s
  if kept.isEmpty then none else some kept

end PromptRelay.Text
