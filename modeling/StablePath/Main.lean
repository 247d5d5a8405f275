import StablePath.CommandLine.Run

/-!
The program. What it may need of its surroundings is looked up first; the rest is a function of
that.
-/

namespace StablePath.Program

open Files (Path Finding)

/-- Looks for a file. -/
def look (path : Path) : IO Finding := do
  try
    let bytes ← IO.FS.readBinFile (String.ofList path)
    return match String.fromUTF8? bytes with
      | some text => .text text
      | none => .unreadable
  catch error =>
    return match error with
      | .noFileOrDirectory .. => .missing
      | .inappropriateType _ 20 _ => .missing
      | _ => .unreadable

/-- The files that a run may ask for. -/
def candidates (workingDir home : Path) (options : CommandLine.Options) : List Path :=
  (workingDir.ancestors ++ [home]).map (Path.join · Config.fileName) ++
    options.configFile.toList.map String.toList

/-- The environment variables that files name. -/
def switches (findings : List (Path × Finding)) : List String :=
  findings.filterMap fun (_, finding) =>
    match finding with
    | .text text => Config.ofText? text >>= Config.homeSwitch
    | _ => none

def observe (workingDir : Path) (options : CommandLine.Options) : IO Surroundings := do
  let home := ((← IO.getEnv "HOME").getD "").toList
  let findings ← (candidates workingDir home options).mapM fun path => do
    return (path, ← look path)
  let vars ← (switches findings).mapM fun name => do return (name, ← IO.getEnv name)
  return {
    find := fun path => (findings.lookup path).getD .missing
    valueOf := fun name => (vars.lookup name).join
    home }

/-- Reads a stream to its end. -/
partial def readAll (stream : IO.FS.Stream) (read : ByteArray) : IO ByteArray := do
  let chunk ← stream.read 65536
  if chunk.isEmpty then return read else readAll stream (read ++ chunk)

def run (args : List String) : IO UInt32 := do
  let workingDir := (toString (← IO.currentDir)).toList
  let (options, readsInput) := match CommandLine.readArguments args with
    | .run (.reduce []) options => (options, true)
    | .run _ options => (options, false)
    | _ => ({}, false)
  let around ← observe workingDir options
  let input ← if readsInput then readAll (← IO.getStdin) .empty else pure .empty
  let report := CommandLine.run around workingDir args input.toList
  IO.print report.output
  IO.eprint report.errors
  return report.code

end StablePath.Program

def main (args : List String) : IO UInt32 := StablePath.Program.run args
