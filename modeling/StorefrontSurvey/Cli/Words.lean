/-!
The words of a command line: switches with their values, and the operands. A switch has a long name
and perhaps a letter; letters may be joined, and a long name may be joined to its value.
-/
namespace StorefrontSurvey.Cli

structure Switch where
  /-- The long name with its hyphens. -/
  name : String
  letter? : Option Char
  takesValue : Bool
  deriving DecidableEq, Repr

/-- The switches that were given, in order and with their values, and the other words. -/
structure Words where
  given : List (Switch × String)
  operands : List String
  deriving Repr

namespace Words

def none : Words := ⟨[], []⟩

def give (words : Words) (switch : Switch) (value : String) : Words :=
  { words with given := (switch, value) :: words.given }

def operand (words : Words) (word : String) : Words :=
  { words with operands := word :: words.operands }

def values (words : Words) (name : String) : List String :=
  (words.given.filter fun g => g.1.name == name).map Prod.snd

def value? (words : Words) (name : String) : Option String := (words.values name).getLast?

def has (words : Words) (name : String) : Bool := !(words.values name).isEmpty

end Words

def isSwitchWord (word : List Char) : Bool :=
  match word with
  | '-' :: _ :: _ => true
  | _ => false

/-- What a word of switches gives: switches with their values, and at its end perhaps one whose
value is the next word. -/
structure Given where
  complete : List (Switch × String)
  pending? : Option Switch
  deriving Repr

/-- Joined letters. A letter that takes a value takes the rest of its word, if there is any. -/
def readLetters (switches : List Switch) : List Char → Option Given
  | [] => some ⟨[], none⟩
  | c :: rest =>
    match switches.find? fun s => s.letter? == some c with
    | none => none
    | some switch =>
      if switch.takesValue then
        if rest = [] then some ⟨[], some switch⟩
        else some ⟨[(switch, String.ofList rest)], none⟩
      else
        (readLetters switches rest).map fun g =>
          { g with complete := (switch, "") :: g.complete }

/-- A word that starts with a hyphen: a long name, perhaps with a value after an equals sign, or
else joined letters. -/
def readSwitches (switches : List Switch) (word : List Char) : Option Given :=
  let name := String.ofList (word.takeWhile (· ≠ '='))
  let value? := if '=' ∈ word then some (String.ofList ((word.dropWhile (· ≠ '=')).drop 1))
    else none
  match switches.find? fun s => s.name == name with
  | some switch =>
    match switch.takesValue, value? with
    | true, some value => some ⟨[(switch, value)], none⟩
    | true, none => some ⟨[], some switch⟩
    | false, none => some ⟨[(switch, "")], none⟩
    | false, some _ => none
  | none => if word.take 2 = ['-', '-'] then none else readLetters switches (word.drop 1)

/-- Reads a command line; none if it cannot be understood. Unless operands may stand between
switches, the first operand ends them, as two hyphens always do. -/
def readWords (switches : List Switch) (mixed : Bool) : List String → Option Words
  | [] => some .none
  | word :: rest =>
    if word = "--" then some ⟨[], rest⟩
    else if isSwitchWord word.toList then
      match readSwitches switches word.toList with
      | none => none
      | some ⟨complete, none⟩ =>
        (readWords switches mixed rest).map fun words =>
          { words with given := complete ++ words.given }
      | some ⟨complete, some switch⟩ =>
        match rest with
        | [] => none
        | value :: rest =>
          (readWords switches mixed rest).map fun words =>
            { words with given := complete ++ (switch, value) :: words.given }
    else if mixed then (readWords switches mixed rest).map fun words => words.operand word
    else some ⟨[], word :: rest⟩

end StorefrontSurvey.Cli
