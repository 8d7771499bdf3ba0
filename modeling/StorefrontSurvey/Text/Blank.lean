/-!
Blank characters of running text: the spaces of Unicode, the control characters that separate lines,
fields and records, and the line and paragraph marks.
-/
namespace StorefrontSurvey.Text

def isBlank (c : Char) : Bool :=
  let n := c.toNat
  (9 ≤ n && n ≤ 13) || (0x1C ≤ n && n ≤ 0x20) || n = 0x85 || n = 0xA0 || n = 0x1680 ||
    (0x2000 ≤ n && n ≤ 0x200A) || n = 0x2028 || n = 0x2029 || n = 0x202F || n = 0x205F ||
    n = 0x3000

end StorefrontSurvey.Text
