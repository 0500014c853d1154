import SourceCheck.Text.Alphabetic
import SourceCheck.Text.GraphemeExtend
import SourceCheck.Text.Numeric
import SourceCheck.Text.Unprintable

/-!
The character classes of source text: blanks, letters, the characters that may start or continue a
word, marks that need a character before them, and the characters that a reader cannot see.
-/

namespace SourceCheck.Text

def isAlphabetic (c : Char) : Bool := alphabeticRanges.covers c.toNat

def isAlphanumeric (c : Char) : Bool := isAlphabetic c || numericRanges.covers c.toNat

def isGraphemeExtend (c : Char) : Bool := graphemeExtendRanges.covers c.toNat

/-- The voiced and the semi-voiced sound mark of halfwidth katakana: letters with a place of their
own in the line, although they extend the grapheme before them. -/
def isHalfwidthSoundMark (c : Char) : Bool := c == '\uff9e' || c == '\uff9f'

/-- A mark drawn onto the character before it, which alone has nothing to stand on. -/
def isAttachedMark (c : Char) : Bool := isGraphemeExtend c && !isHalfwidthSoundMark c

def isPrintable (c : Char) : Bool := !unprintableRanges.covers c.toNat

/-- The line and paragraph separators, the tabs, the space and the two direction marks; a no-break
space is not blank. -/
def isBlank (c : Char) : Bool :=
  c ∈ ['\t', '\n', '\x0b', '\x0c', '\r', ' ', '\u0085', '\u200e', '\u200f', '\u2028', '\u2029']

def startsWord (c : Char) : Bool := isAlphabetic c || c == '_'

def continuesWord (c : Char) : Bool := isAlphanumeric c || c == '_'

end SourceCheck.Text
