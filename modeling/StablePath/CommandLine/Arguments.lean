/-!
The arguments of the command line.

Options may stand before, between and after paths. The name of a command counts as one only if
nothing was given before it; after a command only the options about configuration and logging are
left.
-/

namespace StablePath.CommandLine

inductive Command
  | reduce (paths : List String)
  | rules
  | showConfig
  | validateConfig
  deriving DecidableEq, Repr

structure Options where
  pid : Option UInt32 := none
  filesystem : Option String := none
  configFile : Option String := none
  noConfig : Bool := false
  verbose : Nat := 0
  deriving DecidableEq, Repr

/-- What the arguments ask for. -/
inductive Invocation
  | run (command : Command) (options : Options)
  | version
  | help
  | misuse
  deriving DecidableEq, Repr

/-- Options that are followed by a value. -/
inductive Valued
  | pid
  | filesystem
  | configFile
  deriving DecidableEq, Repr

/-- The place in the arguments that decides which of them are allowed. -/
inductive Level
  | top
  | config
  | leaf (command : Command)
  deriving DecidableEq, Repr

/-! ### Values -/

/-- A whole number in decimal digits, with a sign or without. -/
def readWhole? (text : List Char) : Option Int :=
  let (negative, digits) := match text with
    | '-' :: rest => (true, rest)
    | '+' :: rest => (false, rest)
    | rest => (false, rest)
  if digits.isEmpty || !digits.all Char.isDigit then none
  else
    let n : Nat := digits.foldl (fun n c => n * 10 + (c.toNat - '0'.toNat)) 0
    some (if negative then -(n : Int) else n)

def readPid? (text : String) : Option UInt32 := do
  let n ← readWhole? text.toList
  if 0 ≤ n ∧ n < UInt32.size then some n.toNat.toUInt32 else none

namespace Options

/-- Gives an option its value, once. -/
def setValue? (option : Valued) (value : String) (options : Options) : Option Options :=
  match option with
  | .pid => if options.pid.isSome then none
    else (readPid? value).map fun pid => { options with pid := some pid }
  | .filesystem => if options.filesystem.isSome then none
    else some { options with filesystem := some value }
  | .configFile => if options.configFile.isSome || value.isEmpty then none
    else some { options with configFile := some value }

def setNoConfig? (options : Options) : Option Options :=
  if options.noConfig then none else some { options with noConfig := true }

def addVerbose (options : Options) : Options := { options with verbose := options.verbose + 1 }

/-- No file is named where none is to be read. -/
def areConsistent (options : Options) : Bool := !(options.noConfig && options.configFile.isSome)

end Options

/-- The least severe messages to be logged when the verbose flag was given so many times. -/
def logFilter : (flags : Nat) → String
  | 0 => "warn"
  | 1 => "info"
  | 2 => "debug"
  | _ => "trace"

/-- Whether an argument is no path and no value because it begins with a hyphen. -/
def isDashed (arg : String) : Bool := arg.toList.head? = some '-' && arg != "-"

/-- The option with a name that takes a value at a level. -/
def valued? (level : Level) (name : List Char) : Option Valued :=
  match String.ofList name, level with
  | "pid", .top => some .pid
  | "fs", .top => some .filesystem
  | "config", _ => some .configFile
  | _, _ => none

/-! ### Options -/

/-- What has been read at a level. -/
structure Parse where
  level : Level
  options : Options := {}
  /-- The option that waits for its value. -/
  pending : Option Valued := none
  /-- The paths, latest first. -/
  paths : List String := []
  /-- Something was given at this level. -/
  started : Bool := false

/-- How reading one argument ends: with more to read, or with an answer. -/
inductive Step
  | more (state : Parse)
  | done (answer : Invocation)

namespace Parse

def withOptions (state : Parse) : Option Options → Step
  | some options => .more { state with options, pending := none, started := true }
  | none => .done .misuse

/-- Reads an option of a word, after its two hyphens. -/
def long (state : Parse) (text : List Char) : Step :=
  let name := text.takeWhile (· != '=')
  match (text.drop name.length).tail?, valued? state.level name with
  | none, some option => .more { state with pending := some option, started := true }
  | some value, some option =>
    state.withOptions (state.options.setValue? option (String.ofList value))
  | some _, none => .done .misuse
  | none, none =>
    match String.ofList name with
    | "no-config" => state.withOptions state.options.setNoConfig?
    | "verbose" => state.withOptions state.options.addVerbose
    | "version" => .done (if state.level = .top then .version else .misuse)
    | "help" => .done .help
    | _ => .done .misuse

/-- Reads options of one letter, after their hyphen. -/
def short (state : Parse) : List Char → Step
  | [] => .more { state with started := true }
  | 'v' :: rest => short { state with options := state.options.addVerbose } rest
  | 'h' :: _ => .done .help
  | 'V' :: _ => .done (if state.level = .top then .version else .misuse)
  | _ => .done .misuse

/-- Reads an argument that begins with no hyphen. -/
def plain (state : Parse) (arg : String) : Step :=
  match state.level with
  | .top =>
    let path : Step := .more { state with paths := arg :: state.paths, started := true }
    if state.started then path
    else match arg with
      | "rules" => .more { level := .leaf .rules }
      | "config" => .more { level := .config }
      | "help" => .done .help
      | _ => path
  | .config =>
    match arg with
    | "show" => .more { level := .leaf .showConfig }
    | "validate" => .more { level := .leaf .validateConfig }
    | "help" => .done .help
    | _ => .done .misuse
  | .leaf _ => .done .misuse

/-- Ends a level whose options must be consistent. -/
def checked (state : Parse) (next : Step) : Step :=
  if state.options.areConsistent then next else .done .misuse

def finish (state : Parse) : Invocation :=
  if state.pending.isSome || !state.options.areConsistent then .misuse
  else match state.level with
    | .top => .run (.reduce state.paths.reverse) state.options
    | .config => .misuse
    | .leaf command => .run command state.options

/-- Reads one argument other than two hyphens. -/
def step (state : Parse) (arg : String) : Step :=
  match state.pending with
  | some option =>
    if isDashed arg then .done .misuse
    else state.withOptions (state.options.setValue? option arg)
  | none =>
    match arg.toList with
    | '-' :: '-' :: text => state.long text
    | '-' :: c :: text => state.short (c :: text)
    | _ =>
      match state.plain arg with
      | .more next => if next.level = state.level then .more next else state.checked (.more next)
      | answer => answer

/-- Reads arguments. After two hyphens all are paths. -/
def run (state : Parse) : List String → Invocation
  | [] => state.finish
  | arg :: rest =>
    if arg = "--" then
      if state.pending.isSome then .misuse
      else match state.level with
        | .top => finish { state with paths := rest.reverse ++ state.paths }
        | _ => if rest.isEmpty then state.finish else .misuse
    else match state.step arg with
      | .more state => run state rest
      | .done answer => answer

end Parse

/-- What the arguments of the program ask for. -/
def readArguments (args : List String) : Invocation := Parse.run { level := .top } args

end StablePath.CommandLine
