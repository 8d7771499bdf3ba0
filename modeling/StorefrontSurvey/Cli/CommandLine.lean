import StorefrontSurvey.Cli.Words
import StorefrontSurvey.Json.Printer
import StorefrontSurvey.Tools.Tools
/-!
The command line: general switches, a command, and the command's own words. Each command prints the
envelope of one tool.
-/
namespace StorefrontSurvey.Cli

open Wire (Envelope)
open StorefrontSurvey.Path (Location)
open Tools (Config Environment Lookup)

def valueSwitch (name : String) : Switch := ⟨name, none, true⟩

def helpSwitch : Switch := ⟨"--help", some 'h', false⟩

def generalSwitches : List Switch :=
  [valueSwitch "--root", valueSwitch "--schema", ⟨"--verbose", some 'v', false⟩, helpSwitch]

inductive Command where
  | routes
  | outline
  | schema
  | placement
  | serve
  deriving DecidableEq, Repr

namespace Command

def named? : String → Option Command
  | "routes" => some routes
  | "outline" => some outline
  | "schema" => some schema
  | "placement" => some placement
  | "serve" => some serve
  | _ => none

def switches : Command → List Switch
  | routes => [helpSwitch]
  | outline => [helpSwitch]
  | schema => ["--type", "--field", "--search", "--file"].map valueSwitch ++ [helpSwitch]
  | placement => [valueSwitch "--allow", helpSwitch]
  | serve => ["--transport", "--host", "--port"].map valueSwitch ++ [helpSwitch]

end Command

inductive Request where
  | routes (file? : Option String)
  | outline (file : String)
  | schema (lookup : Lookup)
  | placement (consumer query : String) (allowlist? : Option (List String))
  /-- Offers the tools to other programs. -/
  | serve
  deriving DecidableEq, Repr

def isWhole (text : String) : Bool :=
  match text.toList with
  | '-' :: digits => !digits.isEmpty && digits.all Char.isDigit
  | '+' :: digits => !digits.isEmpty && digits.all Char.isDigit
  | digits => !digits.isEmpty && digits.all Char.isDigit

/-- The request of a command's words; none if operands are missing or left over. -/
def Command.request? (words : Words) : Command → Option Request
  | routes =>
    match words.operands with
    | [] => some (.routes none)
    | [file] => some (.routes (some file))
    | _ => none
  | outline =>
    match words.operands with
    | [file] => some (.outline file)
    | _ => none
  | schema =>
    match words.operands with
    | [] =>
      some (.schema ⟨words.value? "--file", words.value? "--type", words.value? "--field",
        words.value? "--search"⟩)
    | _ => none
  | placement =>
    match words.operands with
    | [consumer, query] =>
      let allowed := words.values "--allow"
      some (.placement consumer query (if allowed.isEmpty then none else some allowed))
    | _ => none
  | serve =>
    if words.operands.isEmpty && ((words.value? "--port").map isWhole).getD true then some .serve
    else none

inductive Outcome where
  /-- The words were not understood. -/
  | misused
  | helped
  | served
  | answered (envelope : Envelope)
  | unconfigured (unresolved : Files.Unresolved)
  | refused (fault : Sandbox.Fault)
  /-- What is wrong with an answer that cannot be given. -/
  | invalid (faults : List Wire.Fault)
  deriving Repr

namespace Outcome

def exitCode : Outcome → UInt8
  | misused => 2
  | helped => 0
  | served => 0
  | answered envelope => if envelope.ok then 0 else 1
  | unconfigured _ => 1
  | refused _ => 1
  | invalid _ => 1

def output? : Outcome → Option String
  | answered envelope => some (Json.print envelope.write ++ "\n")
  | _ => none

def complaint? : Outcome → Option String
  | unconfigured unresolved => some unresolved.message
  | refused fault => some fault.message
  | _ => none

end Outcome

def Request.run (files : Files) (directory : Location) (config : Config) (request : Request) :
    Outcome :=
  let outcome : Except Sandbox.Fault Envelope → Outcome
    | .ok envelope => .answered envelope
    | .error fault => .refused fault
  match request with
  | .routes file? => outcome (Tools.listRoutes files config file?)
  | .outline file => outcome (Tools.outlineFile files config file)
  | .schema lookup =>
    match (Tools.lookupSchema files directory config .empty lookup).1 with
    | .ok envelope => .answered envelope
    | .error (.path fault) => .refused fault
    | .error (.warning faults) => .invalid faults
  | .placement consumer query allowlist? =>
    .answered (Tools.checkPlacement config consumer query allowlist?)
  | .serve => .served

def Command.run (files : Files) (directory : Location) (config : Config) (command : Command)
    (words : List String) : Outcome :=
  match readWords command.switches true words with
  | none => .misused
  | some words =>
    if words.has helpSwitch.name then .helped
    else match command.request? words with
      | none => .misused
      | some request => request.run files directory config

/-- What comes of a word that is no command: it may still ask for help. -/
def strayWord (words : List String) : Outcome :=
  match readWords generalSwitches false words with
  | some words => if words.has helpSwitch.name then .helped else .misused
  | none => .misused

/-- Runs a command line. The configuration is loaded before the command's own words are looked at.
-/
def run (files : Files) (directory : Location) (surroundings : Environment)
    (line : List String) : Outcome :=
  match readWords generalSwitches false line with
  | none => .misused
  | some words =>
    if words.has helpSwitch.name then .helped
    else match words.operands with
      | [] => .misused
      | name :: rest =>
        match Command.named? name with
        | none => strayWord (name :: rest)
        | some command =>
          match Config.load files directory surroundings (words.value? "--root")
              (words.value? "--schema") with
          | .error unresolved => .unconfigured unresolved
          | .ok config => command.run files directory config rest

end StorefrontSurvey.Cli
