/-!
Texts in which halves of surrogate pairs may stand alone. A half has a number of its own but is no
character, so a text that holds one cannot be written.
-/
namespace StorefrontSurvey.Text

def isHigh (n : Nat) : Bool := 0xD800 ≤ n && n ≤ 0xDBFF

def isLow (n : Nat) : Bool := 0xDC00 ≤ n && n ≤ 0xDFFF

def ofPair (high low : Nat) : Char :=
  Char.ofNat (0x10000 + (high - 0xD800) * 0x400 + (low - 0xDC00))

def firstHalf : Nat := 0xD800

/-- A character, or one of the halves, which are counted from the first. -/
inductive Point where
  | char (c : Char)
  | half (place : Fin 0x800)
  deriving DecidableEq, Repr

namespace Point

def number : Point → Nat
  | char c => c.toNat
  | half place => firstHalf + place

/-- The point of a number that is one. -/
def ofNumber (n : Nat) : Point :=
  if isHigh n || isLow n then half (Fin.ofNat 0x800 (n - firstHalf)) else char (Char.ofNat n)

def char? : Point → Option Char
  | char c => some c
  | half _ => none

/-- Whether a point is a character with a property. -/
def has (property : Char → Bool) (point : Point) : Bool := point.char?.any property

end Point

abbrev Wide := List Point

namespace Wide

def ofChars (text : List Char) : Wide := text.map .char

def of (text : String) : Wide := ofChars text.toList

instance : Coe String Wide := ⟨of⟩

/-- The characters of a text, without its halves. -/
def chars (text : Wide) : List Char := text.filterMap Point.char?

/-- Whether a text is one of characters alone. -/
def isWhole (text : Wide) : Bool := text.all fun point => point.char?.isSome

/-- The text as it is written, if it is one of characters alone. -/
def plain? (text : Wide) : Option String :=
  if text.isWhole then some (String.ofList text.chars) else none

theorem whole_iff {text : Wide} :
    text.isWhole = true ↔ ∀ point ∈ text, point.char?.isSome = true :=
  List.all_eq_true

theorem whole_of_chars (text : List Char) : (ofChars text).isWhole = true := by
  simp [isWhole, ofChars, Point.char?]

theorem whole_of (text : String) : (of text).isWhole = true := whole_of_chars text.toList

theorem whole_sub {text part : Wide} (sub : part ⊆ text) (whole : text.isWhole = true) :
    part.isWhole = true :=
  whole_iff.2 fun point member => whole_iff.1 whole point (sub member)

theorem whole_append {before after : Wide} (first : before.isWhole = true)
    (last : after.isWhole = true) : (before ++ after).isWhole = true := by
  simp only [isWhole, List.all_append, Bool.and_eq_true]
  exact ⟨first, last⟩

theorem chars_of (text : String) : (of text).chars = text.toList := by
  have same : Point.char? ∘ Point.char = some := rfl
  rw [chars, of, ofChars, List.filterMap_map, same, List.filterMap_some]

theorem plain_of (text : String) : (of text).plain? = some text := by
  rw [plain?, if_pos (whole_of text), chars_of, String.ofList_toList]

theorem plain_eq_none {text : Wide} : text.plain? = none ↔ text.isWhole = false := by
  simp [plain?]

/-- The characters at the front that have a property, and the text after them. -/
def span (has : Char → Bool) : Wide → List Char × Wide
  | .char c :: rest =>
    if has c then
      let (front, after) := span has rest
      (c :: front, after)
    else ([], .char c :: rest)
  | text => ([], text)

/-- Texts with another one between each two. -/
def joined (between : Wide) : List Wide → Wide
  | [] => []
  | [text] => text
  | text :: more => text ++ between ++ joined between more

theorem whole_joined {between : Wide} {texts : List Wide} (gap : between.isWhole = true)
    (each : ∀ text ∈ texts, text.isWhole = true) : (joined between texts).isWhole = true := by
  induction texts with
  | nil => rfl
  | cons text more ih =>
      have first := each text List.mem_cons_self
      cases more with
      | nil => exact first
      | cons next others =>
          have rest := ih fun text member => each text (List.mem_cons_of_mem _ member)
          exact whole_append (whole_append first gap) rest

end Wide

end StorefrontSurvey.Text
