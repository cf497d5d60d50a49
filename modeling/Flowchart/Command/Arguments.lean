/-
# Command line arguments

A command is asked for by its name, with options before and behind it.  An option
has a long name behind two hyphens and perhaps a short one behind a single hyphen;
short options can stand together.  A value follows its option, or stands in the same
argument.  No option but `--verbose` may be repeated.
-/
import Flowchart.Dispatch.Strategy
import Flowchart.Orientation

namespace Flowchart

/-- The options of all commands. -/
inductive OptionName
  | verbose
  | quiet
  | help
  | version
  | orientation
  | json
  | document
  | output
  | bareLabels
  | strategy
  | policy
  | modelResponse
  | endpoint
  | apiKey
  | model
  | strict
  | pretty
deriving DecidableEq, Repr

namespace OptionName

/-- The long name of an option. -/
def long : OptionName → Text
  | verbose => "verbose".toList
  | quiet => "quiet".toList
  | help => "help".toList
  | version => "version".toList
  | orientation => "orientation".toList
  | json => "json".toList
  | document => "document".toList
  | output => "output".toList
  | bareLabels => "bare-labels".toList
  | strategy => "strategy".toList
  | policy => "policy".toList
  | modelResponse => "model-response".toList
  | endpoint => "endpoint".toList
  | apiKey => "api-key".toList
  | model => "model".toList
  | strict => "strict".toList
  | pretty => "pretty".toList

/-- The short name of an option, if it has one. -/
def short? : OptionName → Option Char
  | verbose => some 'v'
  | quiet => some 'q'
  | help => some 'h'
  | version => some 'V'
  | output => some 'o'
  | strategy => some 's'
  | _ => none

/-- Whether a value belongs to the option. -/
def takesValue : OptionName → Bool
  | orientation | output | strategy | policy | modelResponse | endpoint | apiKey | model => true
  | _ => false

end OptionName

/-! ## Commands -/

/-- The strategies by the names that the command line knows. -/
def commandStrategies : List (Text × Strategy) :=
  [("rule".toList, .ruleBased), ("hosted".toList, .hosted), ("local".toList, .onSite)]

/-- The policies by the names that the command line knows. -/
def commandPolicies : List (Text × DispatchPolicy) :=
  [("exclusive".toList, .exclusive), ("rule-first".toList, .ruleFirst)]

/-- The names of the commands. -/
inductive CommandName
  | parse
  | tag
  | render
  | convert
  | validate
  | schema
deriving DecidableEq, Repr

namespace CommandName

/-- All commands. -/
def all : List CommandName := [parse, tag, render, convert, validate, schema]

/-- The name of a command. -/
def name : CommandName → Text
  | parse => "parse".toList
  | tag => "tag".toList
  | render => "render".toList
  | convert => "convert".toList
  | validate => "validate".toList
  | schema => "schema".toList

/-- The options of a command, apart from those of all commands. -/
def ownOptions : CommandName → List OptionName
  | parse => [.orientation, .json, .document]
  | tag => [.json]
  | render => [.output, .bareLabels]
  | convert => [.strategy, .policy, .modelResponse, .endpoint, .apiKey, .model, .json]
  | validate => [.json, .strict]
  | schema => [.pretty]

/-- The options of a command. -/
def options (c : CommandName) : List OptionName :=
  [.verbose, .quiet, .help] ++ c.ownOptions

/-- Whether the command works on an input. -/
def takesInput : CommandName → Bool
  | schema => false
  | _ => true

end CommandName

/-! ## Reading arguments -/

/-- Why no command is run. -/
inductive ArgumentStop
  | usage
  | help
  | version
deriving DecidableEq, Repr

/-- The arguments read so far. -/
structure Arguments where
  /-- The options with their values. -/
  given : List (OptionName × Text) := []
  input : Option Text := none
deriving DecidableEq, Repr

namespace Arguments

/-- Whether an option was given. -/
def has (a : Arguments) (o : OptionName) : Bool :=
  a.given.any (·.1 = o)

/-- The value of an option, if it was given. -/
def value? (a : Arguments) (o : OptionName) : Option Text :=
  a.given.lookup o

/-- Whether an option may have this value. -/
def accepts : OptionName → Text → Bool
  | .orientation, v => (Orientation.parse? v).isSome
  | .strategy, v => (commandStrategies.lookup v).isSome
  | .policy, v => (commandPolicies.lookup v).isSome
  | _, _ => true

/-- Takes note of an option.  Help and version stop everything else. -/
def give (a : Arguments) (o : OptionName) (v : Text) : Except ArgumentStop Arguments :=
  match o with
  | .help => .error .help
  | .version => .error .version
  | .verbose => .ok a
  | _ =>
    if a.has o || !accepts o v then .error .usage
    else .ok { a with given := a.given ++ [(o, v)] }

/-- Takes note of the input. -/
def giveInput (a : Arguments) (takesInput : Bool) (v : Text) : Except ArgumentStop Arguments :=
  if takesInput && a.input.isNone then .ok { a with input := some v } else .error .usage

/-- What has been read, and the option that still waits for its value. -/
abbrev Progress := Arguments × Option OptionName

/-- Reads short options that stand together, behind the hyphen. -/
def giveShort (options : List OptionName) (a : Arguments) : Text → Except ArgumentStop Progress
  | [] => .ok (a, none)
  | c :: r =>
    match options.find? fun o => o.short? = some c with
    | none => .error .usage
    | some o =>
      if o.takesValue then
        match r with
        | [] => .ok (a, some o)
        | d :: v => (a.give o (if d = '=' then v else d :: v)).map fun a => (a, none)
      else do giveShort options (← a.give o []) r

/-- Reads a long option, behind the hyphens. -/
def giveLong (options : List OptionName) (a : Arguments) (t : Text) :
    Except ArgumentStop Progress :=
  let (long, v) :=
    match Text.cutAt? t ['='] with
    | some (long, v) => (long, some v)
    | none => (t, none)
  match options.find? fun o => o.long = long, v with
  | none, _ => .error .usage
  | some o, none => if o.takesValue then .ok (a, some o) else (a.give o []).map fun a => (a, none)
  | some o, some v => if o.takesValue then (a.give o v).map fun a => (a, none) else .error .usage

/-- What an argument looks like. -/
inductive Shape
  | separator
  | long (t : Text)
  | short (t : Text)
  | value (t : Text)

/-- The shape of an argument; a hyphen on its own is a value. -/
def Shape.ofText : Text → Shape
  | ['-', '-'] => separator
  | '-' :: '-' :: t => long t
  | ['-'] => value ['-']
  | '-' :: t => short t
  | t => value t

/-- Reads the arguments of a command.  Behind a separator everything is input. -/
def readAll (options : List OptionName) (takesInput : Bool) (p : Progress) :
    List Text → Except ArgumentStop Arguments
  | [] => if p.2.isSome then .error .usage else .ok p.1
  | arg :: args =>
    match p.2, Shape.ofText arg with
    | some o, .value v => do readAll options takesInput (← p.1.give o v, none) args
    | some _, _ => .error .usage
    | none, .value v => do readAll options takesInput (← p.1.giveInput takesInput v, none) args
    | none, .long t => do readAll options takesInput (← giveLong options p.1 t) args
    | none, .short t => do readAll options takesInput (← giveShort options p.1 t) args
    | none, .separator => args.foldlM (fun a v => a.giveInput takesInput v) p.1

/-- The options that stand before the command. -/
def leadingOptions : List OptionName :=
  [.verbose, .quiet, .help, .version]

/-- What the request for help says, behind its name: nothing, or what it is about. -/
def stopForHelp : List Text → ArgumentStop
  | [] => .help
  | [topic] =>
    if topic = OptionName.help.long || CommandName.all.any fun c => c.name = topic then .help
    else .usage
  | _ => .usage

/-- Reads the name of a command with the arguments behind it. -/
def readCommand (a : Arguments) : List Text → Except ArgumentStop (CommandName × Arguments)
  | [] => .error .usage
  | arg :: args =>
    match Shape.ofText arg with
    | .separator => .error .usage
    | .long t => do readCommand (← giveLong leadingOptions a t).1 args
    | .short t => do readCommand (← giveShort leadingOptions a t).1 args
    | .value v =>
      match CommandName.all.find? fun c => c.name = v with
      | some c => do
        let own ← readAll c.options c.takesInput ({}, none) args
        if own.has .json && own.has .document then .error .usage else .ok (c, own)
      | none => .error (if v = OptionName.help.long then stopForHelp args else .usage)

end Arguments

end Flowchart
