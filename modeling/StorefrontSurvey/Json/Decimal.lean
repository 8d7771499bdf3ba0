/-!
Decimal numbers as they are stored: rounded to 53 binary digits, and written again with the fewest
decimal digits that give the same stored number.
-/
namespace StorefrontSurvey.Json

/-- A number that is not negative, as it is stored: `whole * 2 ^ exponent`, or beyond all such. -/
inductive Stored where
  | finite (whole : Nat) (exponent : Int)
  | infinite
  | notANumber
  deriving DecidableEq, Repr

/-- A quotient of two numbers, the lower one not zero. -/
structure Ratio where
  above : Nat
  below : Nat
  deriving Repr

def Ratio.scale (r : Ratio) (base : Nat) (exponent : Int) : Ratio :=
  match exponent with
  | .ofNat n => ⟨r.above * base.pow n, r.below⟩
  | .negSucc n => ⟨r.above, r.below * base.pow (n + 1)⟩

/-- The nearest whole number; a half goes to the even one. -/
def Ratio.round (r : Ratio) : Nat :=
  let q := r.above / r.below
  let twice := 2 * (r.above % r.below)
  if twice < r.below then q
  else if r.below < twice then q + 1
  else if q % 2 = 0 then q else q + 1

def Ratio.le (a b : Ratio) : Bool := a.above * b.below ≤ b.above * a.below

def Ratio.lt (a b : Ratio) : Bool := a.above * b.below < b.above * a.below

def leastExponent : Int := -1074

def mostExponent : Int := 971

/-- The least whole number of 53 binary digits. -/
def leastFull : Nat := Nat.pow 2 52

def Ratio.store (r : Ratio) : Stored :=
  if r.above = 0 then .finite 0 0
  else
    let guess : Int := (r.above.log2 : Int) - r.below.log2 - 53
    let exponent := max guess leastExponent
    let scaled := r.scale 2 (-exponent)
    let exponent :=
      if 2 * leastFull ≤ scaled.above / scaled.below then
        if 4 * leastFull ≤ scaled.above / scaled.below then exponent + 2 else exponent + 1
      else exponent
    let whole := (r.scale 2 (-exponent)).round
    let (whole, exponent) :=
      if whole = 2 * leastFull then (leastFull, exponent + 1) else (whole, exponent)
    if mostExponent < exponent then .infinite else .finite whole exponent

/-! ### Reading -/

structure Written where
  negative : Bool
  digits : Nat
  exponent : Int
  deriving Repr

def digitsValue (digits : List Char) : Nat :=
  digits.foldl (fun n c => n * 10 + (c.toNat - '0'.toNat)) 0

/-- The parts of a number with a fraction, an exponent or both. -/
def Written.of (literal : List Char) : Written :=
  let (negative, text) := match literal with
    | '-' :: rest => (true, rest)
    | _ => (false, literal)
  let whole := text.takeWhile Char.isDigit
  let rest := text.drop whole.length
  let fraction := match rest with
    | '.' :: digits => digits.takeWhile Char.isDigit
    | _ => []
  let mark := rest.dropWhile fun c => c ≠ 'e' && c ≠ 'E'
  let exponent : Int := match mark.drop 1 with
    | '-' :: digits => -(digitsValue digits : Int)
    | '+' :: digits => digitsValue digits
    | digits => digitsValue digits
  ⟨negative, digitsValue (whole ++ fraction), exponent - fraction.length⟩

/-- Beyond this decimal exponent every number is infinite, or zero. -/
def farExponent : Int := 5000

def Written.store (w : Written) : Stored :=
  let size : Int := (toString w.digits).length
  if w.digits = 0 then .finite 0 0
  else if farExponent < w.exponent + size then .infinite
  else if w.exponent + size < -farExponent then .finite 0 0
  else (Ratio.mk w.digits 1).scale 10 w.exponent |>.store

def storeLiteral (literal : String) : Stored :=
  match literal with
  | "NaN" => .notANumber
  | "Infinity" => .infinite
  | "-Infinity" => .infinite
  | _ => (Written.of literal.toList).store

/-! ### Writing -/

/-- Digits of a number `0.d₁d₂… * 10 ^ point`. -/
structure Digits where
  digits : List Char
  point : Int
  deriving Repr

/-- The numbers that are stored as `whole * 2 ^ exponent`: their bounds. -/
def bounds (whole : Nat) (exponent : Int) : Ratio × Ratio :=
  let below := if whole = leastFull ∧ leastExponent < exponent then 4 * whole - 1 else 4 * whole - 2
  ((Ratio.mk below 4).scale 2 exponent, (Ratio.mk (4 * whole + 2) 4).scale 2 exponent)

def within (whole : Nat) (low high r : Ratio) : Bool :=
  if whole % 2 = 0 then low.le r && r.le high else low.lt r && r.lt high

/-- The nearest number of so many digits that is stored the same, if there is one. `point` is the
place of the decimal point. -/
def digitsOfCount? (whole : Nat) (exponent point : Int) (count : Nat) : Option Digits :=
  let (low, high) := bounds whole exponent
  let value := (Ratio.mk whole 1).scale 2 exponent
  let unit := point - count
  let scaled := value.scale 10 (-unit)
  let floor := scaled.above / scaled.below
  let first := scaled.round
  let second := if first = floor then floor + 1 else floor
  let hit (n : Nat) : Bool := within whole low high ((Ratio.mk n 1).scale 10 unit)
  let found := if hit first then some first else if hit second then some second else none
  found.map fun n =>
    let digits := (toString n).toList
    ⟨digits, unit + digits.length⟩

/-- The place of the decimal point of a value: the least power of ten above it. -/
def pointOf (value : Ratio) : Int :=
  let guess : Int := ((value.above.log2 : Int) - value.below.log2) * 30103 / 100000
  let candidates := [guess - 1, guess, guess + 1, guess + 2]
  (candidates.find? fun p => value.lt ((Ratio.mk 1 1).scale 10 p)).getD (guess + 3)

/-- The fewest digits that are stored the same. -/
def shortest (whole : Nat) (exponent : Int) : Digits :=
  let point := pointOf ((Ratio.mk whole 1).scale 2 exponent)
  ((List.range 17).findSome? fun n => digitsOfCount? whole exponent point (n + 1)).getD ⟨[], 0⟩

def zeros (n : Nat) : List Char := List.replicate n '0'

def trimZeros (digits : List Char) : List Char :=
  (digits.reverse.dropWhile (· = '0')).reverse

/-- Digits without an exponent where the point lies near them, else with one of two digits or
more. -/
def Digits.text (d : Digits) : List Char :=
  let digits := trimZeros d.digits
  if -4 < d.point ∧ d.point ≤ 16 then
    match d.point with
    | .ofNat n =>
      if n = 0 then '0' :: '.' :: digits
      else
        let whole := digits.take n
        let fraction := digits.drop n
        whole ++ zeros (n - whole.length) ++ '.' :: (if fraction = [] then ['0'] else fraction)
    | .negSucc n => '0' :: '.' :: zeros (n + 1) ++ digits
  else
    let e := d.point - 1
    let size := (toString e.natAbs).toList
    let mantissa := digits.take 1 ++ if digits.length ≤ 1 then [] else '.' :: digits.drop 1
    mantissa ++ 'e' :: (if e < 0 then '-' else '+') :: zeros (2 - size.length) ++ size

/-- A number as it is written after it was stored. -/
def decimalText (literal : String) : String :=
  let negative := literal.startsWith "-"
  let body := match storeLiteral literal with
    | .notANumber => "nan"
    | .infinite => "inf"
    | .finite 0 _ => "0.0"
    | .finite whole exponent => String.ofList (shortest whole exponent).text
  if negative then "-" ++ body else body

def isZeroLiteral (literal : String) : Bool :=
  match storeLiteral literal with
  | .finite 0 _ => true
  | _ => false

end StorefrontSurvey.Json
