/-!
Names that may have been meant by a name that is not known.
-/
namespace StorefrontSurvey.Schema

/-! ### Distance -/

/-- The row of distances after one more character `c`, which follows `before`. A row holds, for each
length of `word`, the distance of that much of `word` from the characters so far; `above` and
`above2` are the rows of one and two characters less. -/
def nextRow (word : Array Char) (c : Char) (before : Option Char) (above : Array Nat)
    (above2 : Option (Array Nat)) : Array Nat :=
  (List.range word.size).foldl
    (fun row j =>
      let same := if word[j]? = some c then 0 else 1
      let plain := min (above.getD (j + 1) 0 + 1) (min (row.getD j 0 + 1) (above.getD j 0 + same))
      let swapped :=
        match j, above2 with
        | j' + 1, some two =>
          if word[j']? = some c ∧ before = word[j]? ∧ before.isSome then some (two.getD j' 0 + 1)
          else none
        | _, _ => none
      row.push (match swapped with
        | some d => min plain d
        | none => plain))
    #[above.getD 0 0 + 1]

def lastRow (word : Array Char) : List Char → Option Char → Array Nat → Option (Array Nat) →
    Array Nat
  | [], _, above, _ => above
  | c :: rest, before, above, above2 =>
    lastRow word rest (some c) (nextRow word c before above above2) (some above)

/-- The fewest characters to insert, remove, replace or swap with their neighbour that make one text
of the other, where no part is changed twice. -/
def editDistance (a b : List Char) : Nat :=
  (lastRow b.toArray a none (Array.range (b.length + 1)) none).getD b.length 0

/-- How far a name is from another one: a difference in case alone counts as one change. -/
def nameDistance (a b : String) : Nat :=
  if a = b then 0
  else if a.toLower = b.toLower then 1
  else editDistance a.toLower.toList b.toLower.toList

/-! ### Natural order -/

/-- A run of characters that are digits, with its number, or that are not. -/
inductive Run where
  | text (chars : List Char)
  | number (value : Nat) (digits : List Char)
  deriving DecidableEq, Repr

def digitValue (digits : List Char) : Nat :=
  digits.foldl (fun n c => n * 10 + (c.toNat - '0'.toNat)) 0

/-- The runs of a text, by turns of other characters and of digits, starting with the former. -/
def runs (bound : Nat) (chars : List Char) : List Run :=
  match bound with
  | 0 => []
  | bound + 1 =>
    let text := chars.takeWhile fun c => !c.isDigit
    let rest := chars.dropWhile fun c => !c.isDigit
    match rest with
    | [] => [.text text]
    | _ =>
      let digits := rest.takeWhile Char.isDigit
      .text text :: .number (digitValue digits) digits :: runs bound (rest.dropWhile Char.isDigit)

def Run.before : Run → Run → Bool
  | .text a, .text b => String.ofList a < String.ofList b
  | .number m a, .number n b => m < n || (m = n && decide (String.ofList a < String.ofList b))
  | .text _, .number .. => true
  | .number .., .text _ => false

def runsBefore : List Run → List Run → Bool
  | [], [] => false
  | [], _ :: _ => true
  | _ :: _, [] => false
  | a :: as, b :: bs => if a = b then runsBefore as bs else a.before b

/-- Whether a name comes before another one when numbers in names count by their value. -/
def naturallyBefore (a b : String) : Bool :=
  runsBefore (runs (a.length + 1) a.toList) (runs (b.length + 1) b.toList)

/-! ### Suggestions -/

/-- The options near enough to a name, the nearest first. -/
def suggestions (input : String) (options : List String) : List String :=
  let limit := input.length * 2 / 5 + 1
  let near := options.eraseDups.filterMap fun option =>
    let d := nameDistance input option
    if d ≤ limit then some (d, option) else none
  (near.mergeSort fun a b =>
    if a.1 = b.1 then !naturallyBefore b.2 a.2 else a.1 < b.1).map Prod.snd

/-- At most this many names are suggested. -/
def mostSuggestions : Nat := 5

def didYouMean (names : List String) : String :=
  let shown := (names.take mostSuggestions).map fun n => "'" ++ n ++ "'"
  match shown.getLast? with
  | none => ""
  | some last =>
    let before := shown.dropLast
    let list := match before with
      | [] => last
      | [one] => one ++ " or " ++ last
      | _ => ", ".intercalate before ++ ", or " ++ last
    " Did you mean " ++ list ++ "?"

end StorefrontSurvey.Schema
