import StorefrontSurvey.Json.Value
/-!
Writing JSON on lines of its own for each item and member, two spaces deeper than what holds them.
-/
namespace StorefrontSurvey.Json

def smallHex (n : Nat) : List Char := [(n / 16).digitChar, (n % 16).digitChar]

/-- A character within quotes. Quotes, backslashes and control characters are escaped; all others
are written as they are. -/
def escaped (c : Char) : List Char :=
  if c = '"' then ['\\', '"']
  else if c = '\\' then ['\\', '\\']
  else if c = '\n' then ['\\', 'n']
  else if c = '\r' then ['\\', 'r']
  else if c = '\t' then ['\\', 't']
  else if c = '\x0c' then ['\\', 'f']
  else if c = '\x08' then ['\\', 'b']
  else if c.toNat < 0x20 then '\\' :: 'u' :: '0' :: '0' :: smallHex c.toNat
  else [c]

def writtenText (s : String) : List Char := '"' :: (s.toList.flatMap escaped ++ ['"'])

def newLine (depth : Nat) : List Char := '\n' :: List.replicate (2 * depth) ' '

mutual

/-- A value that starts somewhere in a line of a certain depth. -/
def written (depth : Nat) : Json → List Char
  | .null => "null".toList
  | .bool true => "true".toList
  | .bool false => "false".toList
  | .int n => (toString n).toList
  | .decimal literal => literal.toList
  | .str s => writtenText s
  | .arr [] => ['[', ']']
  | .arr (item :: rest) =>
    '[' :: newLine (depth + 1) ++ written (depth + 1) item ++ writtenItems (depth + 1) rest ++
      newLine depth ++ [']']
  | .obj [] => ['\x7b', '\x7d']
  | .obj ((name, value) :: rest) =>
    '\x7b' :: newLine (depth + 1) ++ writtenText name ++ ':' :: ' ' ::
      written (depth + 1) value ++ writtenMembers (depth + 1) rest ++ newLine depth ++ ['\x7d']

def writtenItems (depth : Nat) : List Json → List Char
  | [] => []
  | item :: rest => ',' :: newLine depth ++ written depth item ++ writtenItems depth rest

def writtenMembers (depth : Nat) : List (String × Json) → List Char
  | [] => []
  | (name, value) :: rest =>
    ',' :: newLine depth ++ writtenText name ++ ':' :: ' ' :: written depth value ++
      writtenMembers depth rest

end

def print (j : Json) : String := String.ofList (written 0 j)

end StorefrontSurvey.Json
