/-!
# Characters of a configuration text

Classes of characters that the reading of a configuration text tells apart.  A text is cut into
lines by the line feed and by the two Unicode separators of lines and paragraphs; every other line
break is taken as a line feed before anything is read.
-/

namespace Chip8
namespace Yaml

/-- Whether a character may stand in a configuration text at all. -/
def isAllowed (c : Char) : Bool :=
  let n := c.toNat
  n = 0x9 || n = 0xA || n = 0xD || (0x20 ≤ n && n ≤ 0x7E) || n = 0x85 ||
    (0xA0 ≤ n && n ≤ 0xFFFD) || 0x10000 ≤ n

/-- Carriage returns, with or without a line feed, and next-line characters as line feeds. -/
def unifyBreaks : List Char → List Char
  | '\r' :: '\n' :: rest => '\n' :: unifyBreaks rest
  | '\r' :: rest => '\n' :: unifyBreaks rest
  | '\u0085' :: rest => '\n' :: unifyBreaks rest
  | c :: rest => c :: unifyBreaks rest
  | [] => []

/-- Line break. -/
def isBreak (c : Char) : Bool := c = '\n' || c = '\u2028' || c = '\u2029'

/-- Blank within a line. -/
def isBlank (c : Char) : Bool := c = ' ' || c = '\t'

/-- Blank or line break. -/
def isSpace (c : Char) : Bool := isBlank c || isBreak c

/-- Whether a blank, a line break or the end comes next. -/
def endsWord (chars : List Char) : Bool := chars.head?.all isSpace

/-- Characters that belong to the structure of a flow collection. -/
def isFlowIndicator (c : Char) : Bool :=
  c = ',' || c = '[' || c = ']' || c = '{' || c = '}'

/-- Characters that cannot begin a plain scalar. -/
def isReserved (c : Char) : Bool :=
  isSpace c || isFlowIndicator c ||
    ['#', '&', '*', '!', '|', '>', '\'', '"', '%', '@', '\x60'].contains c

/-- Characters of the names of anchors, tag handles and directives. -/
def isNameCharacter (c : Char) : Bool := c.isAlphanum || c = '_' || c = '-'

end Yaml
end Chip8
