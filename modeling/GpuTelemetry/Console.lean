import GpuTelemetry.Run

/-!
# The console

What a run writes to the standard output and to the standard error. Until a level is set, notes of
at least the level of a warning are shown, as their bare text; afterwards every note that reaches
the level, with a time stamp, its level and its source.
-/

namespace GpuTelemetry.Console

def outputOf : Event → String
  | .print text => text ++ "\n"
  | _ => ""

def output (events : List Event) : String :=
  String.join (events.map outputOf)

/-- The line of a note, given the time at which it was left. -/
def noteLine (stamp : String) (note : Note) : String :=
  stamp ++ " " ++ note.level.name ++ " " ++ note.source ++ ": " ++ note.text ++ "\n"

/-- What a note writes to the standard error while a level is in force, or before one is set. -/
def noteText (stamp : String) (level? : Option LogLevel) (note : Note) : String :=
  match level? with
  | some level => if note.shownAt level then noteLine stamp note else ""
  | none => if note.shownAt .warning then note.text ++ "\n" else ""

/-- What events write to the standard error, from a level in force on. -/
def errorsFrom (stamp : String) : Option LogLevel → List Event → String
  | _, [] => ""
  | _, .showNotes level :: rest => errorsFrom stamp (some level) rest
  | level?, .note note :: rest => noteText stamp level? note ++ errorsFrom stamp level? rest
  | level?, .complain text :: rest => text ++ errorsFrom stamp level? rest
  | level?, _ :: rest => errorsFrom stamp level? rest

def errors (stamp : String) (events : List Event) : String :=
  errorsFrom stamp none events

end GpuTelemetry.Console
