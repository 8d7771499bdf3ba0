/-!
Character classes of scripts: what counts as blank for layout, and what may stand in a name.
-/
namespace StorefrontSurvey.Script.Chars

/-- Spaces other than the ASCII space and the no-break space. -/
def isWideSpace (c : Char) : Bool :=
  let n := c.toNat
  n = 0x1680 || (0x2000 ≤ n && n ≤ 0x200A) || n = 0x202F || n = 0x205F || n = 0x3000

def isLineOrParagraphMark (c : Char) : Bool := c.toNat = 0x2028 || c.toNat = 0x2029

/-- Characters without width that separate lexemes. -/
def isZeroWidth (c : Char) : Bool := c.toNat = 0x200B || c.toNat = 0x2060 || c.toNat = 0xFEFF

/-- Tab, line feed, line tabulation, form feed and carriage return. -/
def isControlBlank (c : Char) : Bool := 9 ≤ c.toNat && c.toNat ≤ 13

/-- Blanks at which a line may break, so spaces that glue words together are left out. -/
def isBreakable (c : Char) : Bool :=
  let n := c.toNat
  c = ' ' || isControlBlank c || isLineOrParagraphMark c ||
    (isWideSpace c && n ≠ 0x2007 && n ≠ 0x202F)

/-- Letters as far as layout asks for them: any name character that is no digit, `$` or `_`. -/
def isLetter (c : Char) : Bool :=
  c.isAlpha || (127 < c.toNat && c.toNat ≠ 0xA0 && !isWideSpace c && !isLineOrParagraphMark c &&
    !isZeroWidth c)

end StorefrontSurvey.Script.Chars
