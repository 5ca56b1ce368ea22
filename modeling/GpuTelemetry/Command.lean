import GpuTelemetry.Metric

/-!
# Commands

The four commands: three print a metric of every device or of one, the fourth lists the devices.
Only the command for an averaged metric has options for the sample window, and listing has no output
formats.
-/

namespace GpuTelemetry

inductive Command where
  | power
  | utilization
  | frequency
  | listing
  deriving Repr, DecidableEq

inductive Command.Flag where
  | help
  | verbose
  | samples
  | delay
  | format
  deriving Repr, DecidableEq

namespace Command

def all : List Command := [.power, .utilization, .frequency, .listing]

def name : Command → String
  | .power => "gpu-power"
  | .utilization => "gpu-util"
  | .frequency => "gpu-freq"
  | .listing => "list-gpus"

def ofName? (name : String) : Option Command :=
  all.find? (·.name == name)

def purpose : Command → String
  | .power => "Print the instantaneous power draw (mW) of NVIDIA GPUs."
  | .utilization => "Print the averaged GPU utilization (%) of NVIDIA GPUs."
  | .frequency => "Print the current SM clock (MHz) of NVIDIA GPUs."
  | .listing => "Print <index>-<name> for each NVIDIA GPU."

def metric? : Command → Option Metric
  | .power => some .power
  | .utilization => some .utilization
  | .frequency => some .frequency
  | .listing => none

/-- A command whose metric is averaged over a window. -/
def windowed (c : Command) : Bool :=
  match c.metric? with
  | some metric => metric.averaged
  | none => false

/-- The spellings of an option, the short one first. -/
def Flag.spellings : Flag → List String
  | .help => ["-h", "--help"]
  | .verbose => ["-v", "--verbose"]
  | .samples => ["-n", "--samples"]
  | .delay => ["-d", "--delay"]
  | .format => ["--format"]

def Flag.takesText : Flag → Bool
  | .help | .verbose => false
  | .samples | .delay | .format => true

/-- An option in messages: its spellings with slashes between them. -/
def Flag.title (flag : Flag) : String :=
  "/".intercalate flag.spellings

/-- The options of a command, in the order in which they are listed. -/
def flags (c : Command) : List Flag :=
  [.help, .verbose] ++ (if c.windowed then [.samples, .delay] else []) ++
    (if c.metric?.isSome then [.format] else [])

/-- The summary of a command's options and arguments. -/
def usage (c : Command) : String :=
  "usage: " ++ c.name ++ match c with
    | .utilization =>
      " [-h] [-v] [-n SAMPLES] [-d DELAY] [--format \x7bline,otlp-json\x7d]\n" ++
        "                [index ...]\n"
    | .power | .frequency => " [-h] [-v] [--format \x7bline,otlp-json\x7d] [index ...]\n"
    | .listing => " [-h] [-v] [index ...]\n"

/-- The explanation of the arguments of a command. -/
def arguments : Command → String
  | .listing =>
    "positional arguments:\n" ++
    "  index          device index; all devices are reported when omitted\n" ++
    "\n" ++
    "options:\n" ++
    "  -h, --help     show this help message and exit\n" ++
    "  -v, --verbose  enable debug logging"
  | .utilization => shared ++ window ++ format
  | .power | .frequency => shared ++ format
where
  /-- What all commands with a metric have. -/
  shared : String :=
    "positional arguments:\n" ++
    "  index                 device index; all devices are reported when omitted\n" ++
    "\n" ++
    "options:\n" ++
    "  -h, --help            show this help message and exit\n" ++
    "  -v, --verbose         enable debug logging\n"
  window : String :=
    "  -n SAMPLES, --samples SAMPLES\n" ++
    "                        number of samples to average (default:\n" ++
    "                        GPUTELEM_SAMPLE_COUNT or 1)\n" ++
    "  -d DELAY, --delay DELAY\n" ++
    "                        seconds between samples (default:\n" ++
    "                        GPUTELEM_SAMPLE_DELAY or 1); 0 with more than one\n" ++
    "                        sample usually fails, as NVML has no new sample yet\n"
  format : String :=
    "  --format \x7bline,otlp-json\x7d\n" ++
    "                        output format (default: line)"

/-- The help of a command, without the last line feed. -/
def help (c : Command) : String :=
  c.usage ++ "\n" ++ c.purpose ++ "\n\n" ++ c.arguments

end Command

end GpuTelemetry
