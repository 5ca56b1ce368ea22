import GpuTelemetry.Command.Execution
import GpuTelemetry.Console
import GpuTelemetry.Nvml.Backend

/-!
# The program

One program for all four commands: its first argument is the name of the command, the others are the
command's own. No driver library is linked in, so every session ends where the library is looked
for. Notes carry the milliseconds since the program started.
-/

namespace GpuTelemetry.Program

/-- The variables of the environment that settings are read from. -/
def readEnvironment : IO Environment := do
  return {
    count? := ← IO.getEnv Settings.Variable.count.name
    delay? := ← IO.getEnv Settings.Variable.delay.name
    advance? := ← IO.getEnv Settings.Variable.advance.name
    level? := ← IO.getEnv Settings.Variable.level.name }

/-- Runs a command and writes what it has to say. -/
def runCommand (command : Command) (args : List String) : IO UInt32 := do
  let machine : Command.Machine := ⟨(← IO.getEnv "HOSTNAME").getD "localhost", 0⟩
  let driver : Nvml.Driver := { installed := false }
  let outcome := command.run machine args (← readEnvironment) (Nvml.create driver 0)
    { backends := driver }
  IO.print (Console.output outcome.events)
  IO.eprint (Console.errors (toString (← IO.monoMsNow)) outcome.events)
  match outcome.result with
  | .ok status => return UInt32.ofNat status.code
  | .error fault =>
    IO.eprintln fault.message
    return 1

end GpuTelemetry.Program

open GpuTelemetry in
/-- Runs the command that the first argument names. -/
def main (args : List String) : IO UInt32 := do
  match args with
  | name :: rest =>
    match Command.ofName? name with
    | some command => Program.runCommand command rest
    | none =>
      IO.eprintln s!"no command is called {name}"
      return 2
  | [] =>
    IO.eprintln ("commands: " ++ ", ".intercalate (Command.all.map (·.name)))
    return 2
