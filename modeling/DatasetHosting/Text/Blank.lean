import DatasetHosting.Text.Ranges

/-!
# Text/Blank — white space

The Unicode property *White_Space*: spaces, line ends and separators of every script, but not the
zero-width characters.
-/

namespace DatasetHosting.Text

/-- The code points with the property *White_Space*. -/
def blankRanges : Ranges :=
  [(0x9, 0xD), (0x20, 0x20), (0x85, 0x85), (0xA0, 0xA0), (0x1680, 0x1680), (0x2000, 0x200A),
   (0x2028, 0x2029), (0x202F, 0x202F), (0x205F, 0x205F), (0x3000, 0x3000)]

/-- **White space**, the separator of condition texts. -/
def isBlank (c : Char) : Bool :=
  blankRanges.has c

/-- Whether a text holds nothing but white space, the empty text included. -/
def isBlankText (s : String) : Bool :=
  s.toList.all isBlank

end DatasetHosting.Text
