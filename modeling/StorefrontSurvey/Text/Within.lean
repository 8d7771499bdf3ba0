/-!
Texts within texts.
-/
namespace StorefrontSurvey.Text

def occursIn (needle : List Char) : List Char → Bool
  | [] => needle.isEmpty
  | c :: rest => needle.isPrefixOf (c :: rest) || occursIn needle rest

end StorefrontSurvey.Text
