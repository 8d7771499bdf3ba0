import StorefrontSurvey.Json.Decimal
import StorefrontSurvey.Report
import StorefrontSurvey.Wire.Reading
/-!
Envelopes: how an answer, or the reason why there is none, is handed to a caller.
-/
namespace StorefrontSurvey.Wire

instance : Wire Confidence where
  write
    | .high => .str "high"
    | .medium => .str "medium"
    | .low => .str "low"
  read := readWord [("high", .high), ("medium", .medium), ("low", .low)]

structure Message where
  text : String
  text_ne : text ≠ ""
  deriving Repr

instance : Wire Message where
  write m := .str m.text
  read
    | .str s => if h : s = "" then .fault .tooShort else .good ⟨s, h⟩
    | _ => .fault .notString

def Warning.of (code : String) (m : Message) : Warning := ⟨code, m.text, m.text_ne⟩

instance : Wire Warning where
  write w := .obj [("code", .str w.code), ("message", .str w.message)]
  read := readObject fun ms => Warning.of <$> required ms "code" <*> required ms "message"

structure Problem where
  code : String
  message : Message
  /-- Anything else to be known; null says nothing. -/
  details : Json
  deriving Repr

instance : Wire Problem where
  write p := .ofFields [("code", some (.str p.code)), ("message", some (write p.message)),
    ("details", p.details.unlessNull)]
  read := readObject fun ms =>
    Problem.mk <$> required ms "code" <*> required ms "message" <*> withDefault ms "details" .null

/-- A success with data of one form. -/
structure SuccessOf (α : Type) where
  data : α
  confidence : Confidence
  warnings : Option (List Warning)
  deriving Repr

/-- A success with data of any form. -/
abbrev Success := SuccessOf Json

structure Failure where
  problem : Problem
  confidence : Confidence
  warnings : Option (List Warning)
  deriving Repr

/-- The truth value that a value counts as: the numbers one and zero count too. -/
def truth? : Json → Option Bool
  | .bool b => some b
  | .int 1 => some true
  | .int 0 => some false
  | .decimal literal =>
    if Json.isZeroLiteral literal then some false
    else if Json.decimalText literal = "1.0" then some true
    else none
  | _ => none

/-- A member that can only have one truth value, and has it when it is not there. -/
def readFlag (value : Bool) (members : List Json.Member) (key : Key) : Reading Unit :=
  match key.find? members with
  | some (name, j) =>
    if truth? j = some value then .good () else (Reading.fault .notAllowed).within (.key name)
  | none => .good ()

instance {α : Type} [Wire α] : Wire (SuccessOf α) where
  write s := .ofFields [("ok", some (.bool true)), ("data", (write s.data).unlessNull),
    ("confidence", some (write s.confidence)), ("warnings", s.warnings.map write)]
  read := readObject fun ms =>
    (fun _ => SuccessOf.mk) <$> readFlag true ms "ok" <*> required ms "data" <*>
      required ms "confidence" <*> optional ms "warnings"

instance : Wire Failure where
  write f := .ofFields [("ok", some (.bool false)), ("error", some (write f.problem)),
    ("confidence", some (write f.confidence)), ("warnings", f.warnings.map write)]
  read := readObject fun ms =>
    (fun _ => Failure.mk) <$> readFlag false ms "ok" <*> required ms "error" <*>
      required ms "confidence" <*> optional ms "warnings"

inductive Envelope where
  | success (s : Success)
  | failure (f : Failure)
  deriving Repr

namespace Envelope

def ok : Envelope → Bool
  | success _ => true
  | failure _ => false

def confidence : Envelope → Confidence
  | success s => s.confidence
  | failure f => f.confidence

def warnings : Envelope → List Warning
  | success s => s.warnings.getD []
  | failure f => f.warnings.getD []

def write : Envelope → Json
  | success s => Wire.write s
  | failure f => Wire.write f

end Envelope

/-- Warnings as they stand in an envelope: no list rather than an empty one. -/
def someWarnings : List Warning → Option (List Warning)
  | [] => none
  | warnings => some warnings

def success (data : Json) (confidence : Confidence) (warnings : List Warning) : Envelope :=
  .success ⟨data, confidence, someWarnings warnings⟩

def failure (code : String) (message : Message) (confidence : Confidence)
    (warnings : List Warning) : Envelope :=
  .failure ⟨⟨code, message, .null⟩, confidence, someWarnings warnings⟩

/-! ### Envelopes from parts that are still unchecked -/

/-- Warnings, each checked by itself: the first one that is wrong ends the reading. -/
def checkWarnings : List Json → Reading (List Warning)
  | [] => .good []
  | w :: rest =>
    (read w : Reading Warning).andThen fun w => (checkWarnings rest).map (w :: ·)

def checkSuccess (data confidence : Json) (warnings : List Json) : Reading Envelope :=
  (checkWarnings warnings).andThen fun warnings =>
    (read confidence : Reading Confidence).within (.key "confidence") |>.map fun confidence =>
      success data confidence warnings

/-- A failure of low confidence when none is given. -/
def checkFailure (code message : Json) (confidence : Option Json) (warnings : List Json) :
    Reading Envelope :=
  (checkWarnings warnings).andThen fun warnings =>
    (read (.obj [("code", code), ("message", message)]) : Reading Problem).andThen fun p =>
      match confidence with
      | none => .good (failure p.code p.message .low warnings)
      | some c =>
        (read c : Reading Confidence).within (.key "confidence") |>.map fun c =>
          failure p.code p.message c warnings

end StorefrontSurvey.Wire
