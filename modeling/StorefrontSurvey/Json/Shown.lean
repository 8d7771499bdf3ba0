import StorefrontSurvey.Json.Raw
import StorefrontSurvey.Text.Quoted
/-!
JSON values as they are shown in messages: in full, or two levels deep with long texts and long
lists cut in the middle.
-/
namespace StorefrontSurvey.Json

open Text (Wide)

def longestText : Nat := 240

def longestList : Nat := 10

/-- A text without its middle if it is too long. -/
def cutText (text : String) : String :=
  if longestText < text.length then
    let first := (longestText - 3) / 2
    let last := longestText - 3 - first
    String.ofList (text.toList.take first) ++ "..." ++
      String.ofList (text.toList.drop (text.length - last))
  else text

/-- Parts with a comma between each two, without the middle ones if there are too many. -/
def cutList (parts : List String) : String :=
  let kept :=
    if longestList < parts.length then
      let first := longestList / 2
      parts.take first ++ ["..."] ++ parts.drop (parts.length - (first - 1))
    else parts
  ", ".intercalate kept

namespace Raw

def shownScalar : Raw → String
  | .null => "None"
  | .bool true => "True"
  | .bool false => "False"
  | .int n => cutText (toString n)
  | .decimal literal => decimalText literal
  | .str s => cutText s.quoted
  | .arr [] => "[]"
  | .obj [] => "\x7b\x7d"
  | .arr _ => "[...]"
  | .obj _ => "\x7b...\x7d"

mutual

/-- A value, with the values in it as deep as the first argument says. -/
def shownTo : Nat → Raw → String
  | 0, j => shownScalar j
  | depth + 1, .arr (item :: rest) => "[" ++ cutList (shownItems depth (item :: rest)) ++ "]"
  | depth + 1, .obj (m :: rest) => "\x7b" ++ cutList (shownMembers depth (m :: rest)) ++ "\x7d"
  | _ + 1, j => shownScalar j

def shownItems : Nat → List Raw → List String
  | _, [] => []
  | depth, item :: rest => shownTo depth item :: shownItems depth rest

def shownMembers : Nat → List Raw.Member → List String
  | _, [] => []
  | depth, (name, value) :: rest =>
    (cutText name.quoted ++ ": " ++ shownTo depth value) :: shownMembers depth rest

end

def shown (j : Raw) : String := shownTo 2 j

mutual

def inFull : Raw → String
  | .null => "None"
  | .bool true => "True"
  | .bool false => "False"
  | .int n => toString n
  | .decimal literal => decimalText literal
  | .str s => s.quoted
  | .arr items => "[" ++ ", ".intercalate (itemsInFull items) ++ "]"
  | .obj members => "\x7b" ++ ", ".intercalate (membersInFull members) ++ "\x7d"

def itemsInFull : List Raw → List String
  | [] => []
  | item :: rest => item.inFull :: itemsInFull rest

def membersInFull : List Raw.Member → List String
  | [] => []
  | (name, value) :: rest => (name.quoted ++ ": " ++ value.inFull) :: membersInFull rest

end

def plainText : Raw → Wide
  | .str s => s
  | j => inFull j

end Raw

end StorefrontSurvey.Json
