import StorefrontSurvey.Json.Value
/-!
Reading values from JSON: everything that is wrong is reported, each fault with the way to it.
-/
namespace StorefrontSurvey

namespace Wire

inductive Cause where
  | missing
  | notString
  | notList
  | notObject
  | notAllowed
  | tooShort
  /-- A text in which a half of a surrogate pair stands alone. -/
  | notUnicode
  deriving DecidableEq, Repr

inductive Step where
  | key (name : String)
  | index (n : Nat)
  deriving DecidableEq, Repr

structure Fault where
  cause : Cause
  way : List Step
  deriving DecidableEq, Repr

/-- A value that was read, or all that is wrong. -/
inductive Reading (α : Type) where
  | good (value : α)
  | bad (faults : List Fault)
  deriving Repr

namespace Reading

def map {α β : Type} (f : α → β) : Reading α → Reading β
  | good value => good (f value)
  | bad faults => bad faults

/-- Applies a function that was read to a value that was read; faults of both are kept. -/
def apply {α β : Type} (f : Reading (α → β)) (x : Reading α) : Reading β :=
  match f, x with
  | good f, good value => good (f value)
  | good _, bad faults => bad faults
  | bad faults, good _ => bad faults
  | bad faults, bad more => bad (faults ++ more)

instance : Functor Reading where
  map := map

instance : Applicative Reading where
  pure := good
  seq f x := apply f (x ())

def fault {α : Type} (cause : Cause) : Reading α := bad [⟨cause, []⟩]

def within {α : Type} (step : Step) : Reading α → Reading α
  | good value => good value
  | bad faults => bad (faults.map fun f => { f with way := step :: f.way })

def andThen {α β : Type} (x : Reading α) (next : α → Reading β) : Reading β :=
  match x with
  | good value => next value
  | bad faults => bad faults

end Reading

end Wire

class Wire (α : Type) where
  write : α → Json
  read : Json → Wire.Reading α

namespace Wire

instance : Wire Json where
  write := id
  read := .good

instance : Wire String where
  write := .str
  read
    | .str s => .good s
    | _ => .fault .notString

/-- Reads the items of a list from a position on. -/
def readItems {α : Type} [Wire α] : Nat → List Json → Reading (List α)
  | _, [] => .good []
  | n, item :: rest =>
    List.cons <$> (read item : Reading α).within (.index n) <*> readItems (n + 1) rest

instance {α : Type} [Wire α] : Wire (List α) where
  write items := .arr (items.map write)
  read
    | .arr items => readItems 0 items
    | _ => .fault .notList

def readWord {α : Type} (words : List (String × α)) : Json → Reading α
  | .str s =>
    match words.lookup s with
    | some value => .good value
    | none => .fault .notAllowed
  | _ => .fault .notAllowed

/-! ### Members -/

/-- The names of a member: the one that is written, and a plain one that may stand for it. -/
structure Key where
  name : String
  plain : String := name
  deriving DecidableEq, Repr

instance : Coe String Key := ⟨fun name => { name }⟩

/-- The member of an object under either name, with the name that was found. -/
def Key.find? (key : Key) (members : List Json.Member) : Option (String × Json) :=
  match Json.lookup members key.name with
  | some value => some (key.name, value)
  | none => (Json.lookup members key.plain).map fun value => (key.plain, value)

def readObject {α : Type} (body : List Json.Member → Reading α) : Json → Reading α
  | .obj members => body members
  | _ => .fault .notObject

def required {α : Type} [Wire α] (members : List Json.Member) (key : Key) : Reading α :=
  match key.find? members with
  | some (name, value) => (read value).within (.key name)
  | none => (Reading.fault .missing).within (.key key.name)

/-- A member that has a value of its own when it is not there. -/
def withDefault {α : Type} [Wire α] (members : List Json.Member) (key : Key) (default : α) :
    Reading α :=
  match key.find? members with
  | some (name, value) => (read value).within (.key name)
  | none => .good default

/-- A member that may be missing or null. -/
def optional {α : Type} [Wire α] (members : List Json.Member) (key : Key) : Reading (Option α) :=
  match key.find? members with
  | some (_, .null) => .good none
  | some (name, value) => some <$> (read value : Reading α).within (.key name)
  | none => .good none

end Wire

end StorefrontSurvey
