/-!
# Command line arguments

A command with options. The path of the settings may stand before the command or among its
options, where it counts more. A long option takes its value after an equals sign or as the next
argument, a short one right after its letter or as the next argument; a next argument that
begins with a dash is no value. No option is given twice.

## Main definitions

* `Command`, `Invocation`: what is to be done
* `Arguments.parse`: the invocation that arguments spell, or what else they ask for
-/

namespace CallMeter.Cli

/-- **Command**. -/
inductive Command
  | start
  | usage (tenant : String) (days : Option String) (json : Bool)
  | test
  | version
  deriving DecidableEq

/-- A command with the path of the settings. -/
structure Invocation where
  settingsPath : String
  command : Command
  deriving DecidableEq

/-- **What arguments ask for**. -/
inductive Request
  | run (i : Invocation)
  | showVersion
  | showHelp
  | misuse
  deriving DecidableEq

/-- Where an argument stands: before the command or among the options of a command. -/
inductive Level
  | top
  | start
  | usage
  | test
  | version
  deriving DecidableEq

/-- The options. -/
inductive Switch
  | config
  | tenant
  | days
  | json
  | help
  | version
  deriving DecidableEq

/-- The option of a long name. -/
def Level.long? : Level → String → Option Switch
  | _, "config" => some .config
  | _, "help" => some .help
  | .top, "version" => some .version
  | .usage, "tenant" => some .tenant
  | .usage, "days" => some .days
  | .usage, "json" => some .json
  | _, _ => none

/-- The option of a letter. -/
def Level.short? : Level → Char → Option Switch
  | _, 'c' => some .config
  | _, 'h' => some .help
  | .top, 'V' => some .version
  | .usage, 't' => some .tenant
  | .usage, 'd' => some .days
  | _, _ => none

/-- **Options** read so far. -/
structure Options where
  config : Option String := none
  tenant : Option String := none
  days : Option String := none
  json : Bool := false

namespace Options

variable (o : Options)

/-- The options with a value added, unless it is there already or may not be empty. -/
def put? (value : String) : Switch → Option Options
  | .config => if o.config.isNone && !value.isEmpty then some { o with config := value } else none
  | .tenant => if o.tenant.isNone then some { o with tenant := value } else none
  | .days => if o.days.isNone then some { o with days := value } else none
  | _ => none

end Options

/-- What the next argument begins: an option that takes a value, with the value if it is
attached, a switch without value, or something else. -/
inductive Lead
  | valued (s : Switch) (attached : Option String)
  | plain (s : Switch)
  | word
  | rest
  | unknown

/-- An option takes a value. -/
def Switch.takesValue : Switch → Bool
  | .config => true
  | .tenant => true
  | .days => true
  | _ => false

/-- What a long option begins. -/
def Level.longLead (l : Level) (body : List Char) : Lead :=
  let name := body.takeWhile (· != '=')
  let attached := match body.dropWhile (· != '=') with
    | [] => none
    | _ :: r => some (String.ofList r)
  match l.long? (String.ofList name) with
  | none => .unknown
  | some s =>
    if s.takesValue then .valued s attached
    else if attached.isNone then .plain s
    else .unknown

/-- What a group of letters begins. -/
def Level.shortLead (l : Level) (letter : Char) (body : List Char) : Lead :=
  match l.short? letter with
  | none => .unknown
  | some s =>
    if s.takesValue then
      match body with
      | [] => .valued s none
      | '=' :: r => .valued s (some (String.ofList r))
      | r => .valued s (some (String.ofList r))
    else .plain s

/-- What an argument begins. -/
def Level.lead (l : Level) (arg : String) : Lead :=
  match arg.toList with
  | ['-', '-'] => .rest
  | '-' :: '-' :: body => l.longLead body
  | ['-'] => .word
  | '-' :: letter :: body => l.shortLead letter body
  | _ => .word

/-- An argument that cannot be the value of an option. -/
def isDashed (arg : String) : Bool :=
  match arg.toList with
  | '-' :: _ :: _ => true
  | _ => false

/-- What a level of arguments comes to. -/
inductive Reading
  | ended (o : Options)
  | command (o : Options) (name : String) (rest : List String)
  | stopped (r : Request)

/-- The level of a command. -/
def commandLevel? : String → Option Level
  | "start" => some .start
  | "usage" => some .usage
  | "test" => some .test
  | "version" => some .version
  | _ => none

/-- What an option without value asks for. -/
def plainStop? : Switch → Option Request
  | .help => some .showHelp
  | .version => some .showVersion
  | _ => none

/-- **The arguments of a level** after the options read so far. -/
def Level.read (l : Level) (o : Options) : List String → Reading
  | [] => .ended o
  | arg :: rest =>
    match l.lead arg with
    | .unknown => .stopped .misuse
    | .rest => if rest.isEmpty then .ended o else .stopped .misuse
    | .word => if l = .top then .command o arg rest else .stopped .misuse
    | .plain s =>
      match plainStop? s with
      | some request => .stopped request
      | none => if o.json then .stopped .misuse else l.read { o with json := true } rest
    | .valued s (some value) =>
      match o.put? value s with
      | some o => l.read o rest
      | none => .stopped .misuse
    | .valued s none =>
      match rest with
      | [] => .stopped .misuse
      | value :: rest =>
        if isDashed value then .stopped .misuse
        else
          match o.put? value s with
          | some o => l.read o rest
          | none => .stopped .misuse

/-- The path of the settings where none is given. -/
def defaultSettingsPath : String := "config.toml"

/-- The command of a level with its options. -/
def commandOf? (o : Options) : Level → Option Command
  | .top => some .start
  | .start => some .start
  | .test => some .test
  | .version => some .version
  | .usage => o.tenant.map fun tenant => .usage tenant o.days o.json

/-- An invocation, where the command has what it needs. -/
def invoke (outer o : Options) (l : Level) : Request :=
  match commandOf? o l with
  | some command => .run ⟨(o.config.or outer.config).getD defaultSettingsPath, command⟩
  | none => .misuse

/-- The request for help on commands. -/
def helpRequest : List String → Request
  | [] => .showHelp
  | [name] => if (commandLevel? name).isSome || name == "help" then .showHelp else .misuse
  | _ => .misuse

/-- **What arguments ask for.** -/
def Arguments.parse (args : List String) : Request :=
  match Level.top.read {} args with
  | .stopped request => request
  | .ended o => invoke o o .top
  | .command outer name rest =>
    match commandLevel? name with
    | none => if name == "help" then helpRequest rest else .misuse
    | some l =>
      match l.read {} rest with
      | .stopped request => request
      | .ended o => invoke outer o l
      | .command .. => .misuse

end CallMeter.Cli
