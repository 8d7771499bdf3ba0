import Mathlib.Data.List.TakeWhile
import Mathlib.Tactic.SplitIfs
import StorefrontSurvey.Cli.CommandLine
/-!
What a command line asks for. A line that is understood comes to a root, a schema and a request, and
whatever these are, there is a line that comes to them: each value joined to the long name of its
switch, and the operands after two hyphens.
-/
namespace StorefrontSurvey.Cli

/-- Where the tools are set up, as far as a line says it, and what is asked of them. -/
structure Invocation where
  root? : Option String
  schema? : Option String
  request : Request

/-- A line comes to an invocation if its words are understood, those of the command too, and neither
call for help. -/
inductive Reads (line : List String) : Invocation → Prop
  | intro {general own : Words} {name : String} {rest : List String} {command : Command}
      {request : Request} (generalRead : readWords generalSwitches false line = some general)
      (helpless : general.has helpSwitch.name = false) (commanded : general.operands = name :: rest)
      (named : Command.named? name = some command)
      (ownRead : readWords command.switches true rest = some own)
      (ownHelpless : own.has helpSwitch.name = false)
      (requested : command.request? own = some request) :
      Reads line ⟨general.value? "--root", general.value? "--schema", request⟩

/-! ### Spelling -/

/-- A switch joined to its value. -/
def joined (name value : String) : String := name ++ "=" ++ value

def Command.name : Command → String
  | routes => "routes"
  | outline => "outline"
  | schema => "schema"
  | placement => "placement"
  | serve => "serve"

def Request.command : Request → Command
  | .routes _ => .routes
  | .outline _ => .outline
  | .schema _ => .schema
  | .placement _ _ _ => .placement
  | .serve => .serve

/-- The words that come after the command. -/
def Request.words : Request → List String
  | .routes file? => "--" :: file?.toList
  | .outline file => ["--", file]
  | .schema lookup =>
    lookup.typeName?.toList.map (joined "--type") ++
      (lookup.fieldRef?.toList.map (joined "--field") ++
        (lookup.search?.toList.map (joined "--search") ++
          (lookup.schemaPath?.toList.map (joined "--file") ++ [])))
  | .placement consumer query allowlist? =>
    (allowlist?.getD []).map (joined "--allow") ++ ["--", consumer, query]
  | .serve => []

def Invocation.spelled (call : Invocation) : List String :=
  call.root?.toList.map (joined "--root") ++
    (call.schema?.toList.map (joined "--schema") ++
      call.request.command.name :: call.request.words)

/-- A switch of this long name takes a value that can be joined to it. -/
structure Joins (switches : List Switch) (name : String) : Prop where
  found : switches.find? (fun s => s.name == name) = some (valueSwitch name)
  long : isSwitchWord name.toList = true
  plain : '=' ∉ name.toList

def Words.giveAll (words : Words) (name : String) (values : List String) : Words :=
  { words with given := values.map (valueSwitch name, ·) ++ words.given }

theorem values_give_all (words : Words) (name other : String) (values : List String) :
    (words.giveAll name values).values other =
      if name = other then values ++ words.values other else words.values other := by
  split_ifs with same
  · have kept : (values.map (valueSwitch name, ·)).filter (fun g => g.1.name == other) =
        values.map (valueSwitch name, ·) := List.filter_eq_self.2 (by simp [valueSwitch, same])
    have back : (values.map (valueSwitch name, ·)).map Prod.snd = values := by
      rw [List.map_map]
      exact List.map_id values
    rw [Words.values, Words.giveAll, List.filter_append, kept, List.map_append, back,
      Words.values]
  · simp [Words.values, Words.giveAll, valueSwitch, same]

section Joined

variable {switches : List Switch} {name : String} {mixed : Bool}

theorem joined_chars (name value : String) :
    (joined name value).toList = name.toList ++ '=' :: value.toList := by
  simp [joined]

theorem equals_mem_joined (name value : String) : '=' ∈ (joined name value).toList := by
  rw [joined_chars]
  simp

theorem switch_word_append {word : List Char} (long : isSwitchWord word = true)
    (rest : List Char) : isSwitchWord (word ++ rest) = true := by
  unfold isSwitchWord at long
  split at long
  · rfl
  · cases long

theorem read_switches_joined (joins : Joins switches name) (value : String) :
    readSwitches switches (joined name value).toList =
      some ⟨[(valueSwitch name, value)], none⟩ := by
  have named : ∀ c ∈ name.toList, decide (c ≠ '=') = true := by
    intro c member
    exact decide_eq_true fun same => joins.plain (same ▸ member)
  have front : (joined name value).toList.takeWhile (· ≠ '=') = name.toList := by
    rw [joined_chars, List.takeWhile_append_of_pos named]
    simp
  have rest : (joined name value).toList.dropWhile (· ≠ '=') = '=' :: value.toList := by
    rw [joined_chars, List.dropWhile_append_of_pos named]
    simp
  simp only [readSwitches, front, rest, if_pos (equals_mem_joined name value),
    String.ofList_toList, joins.found, valueSwitch, List.drop_succ_cons, List.drop_zero]

theorem read_joined (joins : Joins switches name) (values rest : List String) :
    readWords switches mixed (values.map (joined name) ++ rest) =
      (readWords switches mixed rest).map fun words => words.giveAll name values := by
  induction values with
  | nil =>
      cases read : readWords switches mixed rest with
      | none => simp [read]
      | some words => simp [read, Words.giveAll]
  | cons value values ih =>
      have ends : joined name value ≠ "--" := by
        intro same
        have equals := equals_mem_joined name value
        rw [same] at equals
        revert equals
        decide
      have word : isSwitchWord (joined name value).toList = true := by
        rw [joined_chars]
        exact switch_word_append joins.long _
      rw [List.map_cons, List.cons_append, readWords, if_neg ends, if_pos word,
        read_switches_joined joins]
      simp only [ih, Option.map_map]
      rfl

end Joined

theorem read_ended (switches : List Switch) (mixed : Bool) (operands : List String) :
    readWords switches mixed ("--" :: operands) = some ⟨[], operands⟩ := by
  rw [readWords, if_pos rfl]

/-! ### Commands -/

theorem joins_general {name : String} (known : name ∈ ["--root", "--schema"]) :
    Joins generalSwitches name := by
  simp only [List.mem_cons, List.not_mem_nil, or_false] at known
  rcases known with rfl | rfl
  all_goals exact ⟨by decide, by decide, by decide⟩

theorem joins_schema {name : String} (known : name ∈ ["--type", "--field", "--search", "--file"]) :
    Joins Command.schema.switches name := by
  simp only [List.mem_cons, List.not_mem_nil, or_false] at known
  rcases known with rfl | rfl | rfl | rfl
  all_goals exact ⟨by decide, by decide, by decide⟩

theorem joins_allow : Joins Command.placement.switches "--allow" :=
  ⟨by decide, by decide, by decide⟩

theorem last_given (value? : Option String) : value?.toList.getLast? = value? := by
  cases value?
  all_goals rfl

theorem named_name (command : Command) : Command.named? command.name = some command := by
  cases command
  all_goals rfl

theorem read_command (command : Command) (own : List String) :
    readWords generalSwitches false (command.name :: own) = some ⟨[], command.name :: own⟩ := by
  cases command
  all_goals rfl

/-- No list of allowed directories is given rather than an empty one. -/
def Request.Proper (request : Request) : Prop :=
  ∀ consumer query, request ≠ .placement consumer query (some [])

theorem request_read_back {request : Request} (proper : request.Proper) :
    ∃ own, readWords request.command.switches true request.words = some own ∧
      own.has helpSwitch.name = false ∧ request.command.request? own = some request := by
  cases request with
  | routes file? =>
      refine ⟨_, read_ended _ _ _, rfl, ?_⟩
      cases file? with
      | none => rfl
      | some file => rfl
  | outline file => exact ⟨_, read_ended _ _ _, rfl, rfl⟩
  | schema lookup =>
      have read : readWords Command.schema.switches true (Request.schema lookup).words =
          some ((((Words.none.giveAll "--file" lookup.schemaPath?.toList).giveAll
            "--search" lookup.search?.toList).giveAll "--field" lookup.fieldRef?.toList).giveAll
              "--type" lookup.typeName?.toList) := by
        rw [Request.words, read_joined (joins_schema (by simp)),
          read_joined (joins_schema (by simp)), read_joined (joins_schema (by simp)),
          read_joined (joins_schema (by simp))]
        rfl
      have none (name : String) : Words.none.values name = [] := rfl
      refine ⟨_, read, ?_, ?_⟩
      · simp [Words.has, values_give_all, helpSwitch, none]
      · simp only [Request.command, Command.request?, Words.value?, values_give_all, none]
        simp [last_given, Words.giveAll, Words.none]
  | placement consumer query allowlist? =>
      have read : readWords Command.placement.switches true
          (Request.placement consumer query allowlist?).words =
          some ((⟨[], [consumer, query]⟩ : Words).giveAll "--allow" (allowlist?.getD [])) := by
        rw [Request.words, read_joined joins_allow, read_ended]
        rfl
      have none (name : String) : (⟨[], [consumer, query]⟩ : Words).values name = [] := rfl
      refine ⟨_, read, ?_, ?_⟩
      · simp [Words.has, values_give_all, helpSwitch, none]
      · have kept : (if (allowlist?.getD []).isEmpty then Option.none
            else some (allowlist?.getD [])) = allowlist? := by
          cases allowlist? with
          | none => rfl
          | some allowed =>
              cases allowed with
              | nil => exact absurd rfl (proper consumer query)
              | cons => rfl
        simp only [Request.command, Command.request?, values_give_all, none, List.append_nil,
          if_true, kept]
        rfl
  | serve => exact ⟨_, rfl, rfl, rfl⟩

/-- The plain spelling of an invocation comes to it. -/
theorem spelled_reads {call : Invocation} (proper : call.request.Proper) :
    Reads call.spelled call := by
  let words : Words := ⟨[], call.request.command.name :: call.request.words⟩
  have generalRead : readWords generalSwitches false call.spelled =
      some ((words.giveAll "--schema" call.schema?.toList).giveAll "--root" call.root?.toList) := by
    rw [Invocation.spelled, read_joined (joins_general (by simp)),
      read_joined (joins_general (by simp)), read_command]
    rfl
  have none (name : String) : words.values name = [] := rfl
  have helpless : ((words.giveAll "--schema" call.schema?.toList).giveAll
      "--root" call.root?.toList).has helpSwitch.name = false := by
    simp [Words.has, values_give_all, helpSwitch, none]
  obtain ⟨own, ownRead, ownHelpless, requested⟩ := request_read_back proper
  have reads := Reads.intro generalRead helpless rfl (named_name _) ownRead ownHelpless requested
  simpa [Words.value?, values_give_all, none, last_given] using reads

example : (⟨some "/r", none, .schema ⟨none, some "Shop", none, none⟩⟩ : Invocation).spelled =
    ["--root=/r", "schema", "--type=Shop"] := by decide

theorem request_proper {command : Command} {words : Words} {request : Request}
    (requested : command.request? words = some request) : request.Proper := by
  intro consumer query same
  subst same
  cases command with
  | placement =>
      simp only [Command.request?] at requested
      split at requested
      · simp only [Option.some.injEq, Request.placement.injEq] at requested
        obtain ⟨_, _, allowed⟩ := requested
        split_ifs at allowed with empty
        simp_all
      · cases requested
  | routes | outline | schema | serve =>
      simp only [Command.request?] at requested
      split at requested
      all_goals cases requested

theorem reads_proper {line : List String} {call : Invocation} (reads : Reads line call) :
    call.request.Proper := by
  obtain ⟨_, _, _, _, _, _, requested⟩ := reads
  exact request_proper requested

/-! ### Runs -/

section Runs

open StorefrontSurvey.Path (Location)
open Tools (Config Environment)

variable {files : Files} {directory : Location} {surroundings : Environment} {line : List String}

/-- What comes of a line: it is misused, or calls for help, or its configuration fails; or else it
comes to an invocation, whose request is run. -/
inductive RunStep (files : Files) (directory : Location) (surroundings : Environment)
    (line : List String) : Outcome → Prop
  | misused : RunStep files directory surroundings line .misused
  | helped : RunStep files directory surroundings line .helped
  | unconfigured (unresolved : Files.Unresolved) :
      RunStep files directory surroundings line (.unconfigured unresolved)
  | ran {call : Invocation} {config : Config} (reads : Reads line call)
      (configured : Config.load files directory surroundings call.root? call.schema? = .ok config) :
      RunStep files directory surroundings line (call.request.run files directory config)

theorem stray_word_step (words : List String) :
    RunStep files directory surroundings line (strayWord words) := by
  unfold strayWord
  split
  · split_ifs
    · exact .helped
    · exact .misused
  · exact .misused

theorem run_step (files : Files) (directory : Location) (surroundings : Environment)
    (line : List String) :
    RunStep files directory surroundings line (run files directory surroundings line) := by
  unfold run
  split
  case h_1 => exact .misused
  case h_2 general generalRead =>
    split_ifs with helps
    · exact .helped
    · split
      case h_1 => exact .misused
      case h_2 name rest commanded =>
        split
        case h_1 => exact stray_word_step (name :: rest)
        case h_2 command named =>
          split
          case h_1 => exact .unconfigured _
          case h_2 config configured =>
            have helpless : general.has helpSwitch.name = false := eq_false_of_ne_true helps
            unfold Command.run
            split
            case h_1 => exact .misused
            case h_2 own ownRead =>
              split_ifs with asks
              · exact .helped
              · split
                case h_1 => exact .misused
                case h_2 request requested =>
                  have ownHelpless := eq_false_of_ne_true asks
                  have reads := Reads.intro generalRead helpless commanded named ownRead
                    ownHelpless requested
                  exact .ran reads configured

theorem run_of_reads {call : Invocation} {config : Config} (reads : Reads line call)
    (configured : Config.load files directory surroundings call.root? call.schema? = .ok config) :
    run files directory surroundings line = call.request.run files directory config := by
  obtain ⟨generalRead, helpless, commanded, named, ownRead, ownHelpless, requested⟩ := reads
  dsimp only at configured
  simp [run, generalRead, helpless, commanded, named, configured, Command.run, ownRead,
    ownHelpless, requested]

end Runs

end StorefrontSurvey.Cli
