/-
# The program

Reads the standard input and the files that a command names, runs the command, and
prints what it gives.
-/
import Flowchart.Command.Run

namespace Flowchart

namespace Program

/-- The number of an error that concerns a path.  It may come with a minus sign. -/
def errorCode? : IO.Error → Option Nat
  | .noFileOrDirectory _ code _ | .inappropriateType _ code _ | .invalidArgument _ code _ =>
    some code.toInt32.toInt.natAbs
  | _ => none

/-- The fault of a file as the command reports it. -/
def fileError (e : IO.Error) : FileError :=
  ((errorCode? e).bind FileError.ofCode?).getD (.other e.toString.toList)

/-- All of the standard input. -/
partial def readInput (stream : IO.FS.Stream) (before : String) : IO String := do
  let line ← stream.getLine
  if line.isEmpty then return before else readInput stream (before ++ line)

/-- The text of a file. -/
def readPath (path : Text) : IO (Except FileError Text) := do
  try
    return .ok (← IO.FS.readFile (String.ofList path)).toList
  catch e => return .error (fileError e)

/-- What a command with these arguments can see.  The standard input is read only by a
command that works on it. -/
def surroundings (c : CommandName) (a : Arguments) : IO Surroundings := do
  let reads := c.takesInput && Command.input a = ['-']
  let input ← if reads then readInput (← IO.getStdin) "" else pure ""
  let files ← (Command.paths a).mapM fun path => return (path, ← readPath path)
  let names := [Connection.Variable.endpoint, .model, .credential, .olderCredential]
  let values ← names.mapM fun v => return (v.name, ← IO.getEnv (String.ofList v.name))
  return {
    stdin := input.toList
    lookup := fun name => ((values.lookup name).join).map String.toList
    read := fun path => (files.lookup path).getD (.error .notFound) }

/-- Prints an outcome. -/
def print (o : Outcome) : IO UInt32 := do
  IO.print (String.ofList o.stdout)
  match o.failure with
  | some f => IO.eprintln (String.ofList f.text)
  | none => if o.exit = 2 then IO.eprintln (String.ofList Command.usageLine)
  return o.exit.toUInt32

/-- Writes the file of an outcome, if there is one, and prints the outcome. -/
def finish (o : Outcome) : IO UInt32 := do
  match o.write with
  | none => print o
  | some (path, t) =>
    try
      IO.FS.writeFile (String.ofList path) (String.ofList t)
      print o
    catch e => print (.writeFailed path (fileError e))

end Program

end Flowchart

open Flowchart in
/-- Runs the program with its arguments. -/
def main (args : List String) : IO UInt32 := do
  match Arguments.readCommand {} (args.map String.toList) with
  | .error stop => Program.finish (Command.stopped stop)
  | .ok (c, a) => Program.finish (Command.run (← Program.surroundings c a) c a)
