import StablePath.CommandLine.Report

/-!
Runs of the program.
-/

namespace StablePath.CommandLine

open Files (Path)

def versionText : String := "pathreduce 0.1.0\n"

def helpText : String :=
  unlines ["Normalize volatile path segments (pids, container ids, cgroups) into stable patterns",
    "",
    "Usage: pathreduce [OPTIONS] [PATHS]...",
    "       pathreduce [OPTIONS] <COMMAND>"]

/-- The rules that the options select: the built-in ones, those of one file, or those of the
cascade. -/
def loadRuleset (around : Surroundings) (workingDir : Path) (options : Options) :
    Except Report Ruleset :=
  let because {α : Type} (message : String) : Except Fault α → Except Report α :=
    Except.mapError (Report.failureBecause message)
  if options.noConfig then because "Failed to compile built-in rules" Builtin.ruleset
  else do
    let stack ← match options.configFile with
      | some file => because ("Failed to load " ++ file) (Stack.load around file.toList)
      | none => because "Failed to load configuration" (Stack.discover around workingDir)
    because "Failed to compile rules" stack.toRuleset

/-- Carries out a command. -/
def perform (around : Surroundings) (workingDir : Path) (input : List UInt8) (options : Options) :
    Command → Report
  | .reduce paths =>
    match loadRuleset around workingDir options with
    | .error report => report
    | .ok ruleset => reduce ruleset ⟨options.filesystem, options.pid.getD 0⟩ paths input
  | .rules =>
    match loadRuleset around workingDir options with
    | .error report => report
    | .ok ruleset => { output := showRules ruleset }
  | .showConfig =>
    match Layer.discover around workingDir with
    | .error fault => .failureBecause "Failed to discover config files" fault
    | .ok layers => { output := showConfig around layers }
  | .validateConfig =>
    match Layer.discover around workingDir with
    | .error fault => { code := 1, errors := "Configuration error: " ++ fault.message ++ "\n" }
    | .ok layers => { output := validateConfig layers }

/-- Runs the program with arguments and an input. -/
def run (around : Surroundings) (workingDir : Path) (args : List String) (input : List UInt8) :
    Report :=
  match readArguments args with
  | .run command options => perform around workingDir input options command
  | .version => { output := versionText }
  | .help => { output := helpText }
  | .misuse => { code := 2, errors := "error: invalid arguments\n" }

end StablePath.CommandLine
