import GpuTelemetry.Command
import GpuTelemetry.Settings
import GpuTelemetry.Window

/-!
# Reading the arguments of a command

Options and device indices may stand in any order. The arguments are read twice: the first reading
takes the options and keeps everything else, the second takes the indices from what was kept. In
either reading an argument is first sorted into one of four kinds (`Word`), each by its own text
alone, except that nothing behind a lone `--` is an option.

* The first reading drops the `--` if only options stand before it. What stood behind it is sorted
  again by the second reading, which thus takes options from there too.
* The second reading takes the first row of plain arguments as the indices, without its `--`.
  Whatever is left is not recognized.

A long option may be shortened as long as it stays unique. Short options without a text may be
joined in one argument, and a text may follow its option in the same argument.

Releases of the standard argument parser differ in two points. Here the earlier ones are followed:

* A `--` in the place of a text is dropped even if it is joined to its option (`-n--`,
  `--samples=--`). The option is given and yet left blank. Later releases take such a `--` for the
  text itself.
* An equals sign among joined short options has no meaning of its own. What follows it in `-v=n5`
  is the next option, and in `-vn=5` it is part of the text. Later releases refuse the one and leave
  out the equals sign of the other.
-/

namespace GpuTelemetry.Command

inductive Format where
  | line
  | document
  deriving Repr, DecidableEq

def Format.word : Format → String
  | .line => "line"
  | .document => "otlp-json"

def Format.ofWord? (word : String) : Option Format :=
  [Format.line, Format.document].find? (·.word == word)

/-- What is given for an option that takes a number. -/
inductive Entry (α : Type) where
  | absent
  /-- The text of the option was a lone `--`, which is no text and leaves an empty list. -/
  | blank
  | value (a : α)

/-- What is in force for a part of the window: the default unless something else is given. -/
def Entry.orDefault {α : Type} (part : Window.Part) (default : α) :
    Entry α → Except Window.Error α
  | .absent => .ok default
  | .blank => .error (.notAnInteger part (.list []))
  | .value a => .ok a

structure Options where
  verbose : Bool := false
  samples : Entry { n : Nat // 0 < n } := .absent
  delay : Entry Nat := .absent
  format : Format := .line
  indices : List String := []

/-- The window of settings, changed by the options that are given. -/
def Options.window (options : Options) (w : Window) : Except Window.Error Window := do
  let count ← options.samples.orDefault .count ⟨w.count, w.count_pos⟩
  let delay ← options.delay.orDefault .delay w.delay
  return ⟨count.val, delay, count.property⟩

/-- Why the arguments or the environment of a command are refused. -/
inductive UsageError where
  | unrecognized (texts : List String)
  | ambiguous (text : String) (candidates : List String)
  | textMissing (flag : Flag)
  | textUnwanted (flag : Flag) (given : String)
  | notANumeral (flag : Flag) (given : String)
  | tooSmall (flag : Flag) (given : String)
  | unknownFormat (given : String)
  | settings (error : Settings.Error)

namespace UsageError

def about (flag : Flag) (complaint : String) : String :=
  "argument " ++ flag.title ++ ": " ++ complaint

/-- The kind of number that an option takes, by the name of its reader. -/
def numberKind : Flag → String
  | .samples => "_positive_int"
  | _ => "_non_negative_int"

def numberRange : Flag → String
  | .samples => "a positive integer"
  | _ => "a non-negative integer"

def message : UsageError → String
  | .unrecognized texts => "unrecognized arguments: " ++ " ".intercalate texts
  | .ambiguous text candidates =>
    "ambiguous option: " ++ text ++ " could match " ++ ", ".intercalate candidates
  | .textMissing flag => about flag "expected one argument"
  | .textUnwanted flag given => about flag ("ignored explicit argument " ++ Text.quote given)
  | .notANumeral flag given =>
    about flag ("invalid " ++ numberKind flag ++ " value: " ++ Text.quote given)
  | .tooSmall flag given => about flag ("must be " ++ numberRange flag ++ ", got " ++ given)
  | .unknownFormat given =>
    about .format ("invalid choice: " ++ Text.quote given ++ " (choose from " ++
      ", ".intercalate ([Format.line, Format.document].map fun f => Text.quote f.word) ++ ")")
  | .settings error => error.message

end UsageError

/-- Why reading stops before its end. -/
inductive Stop where
  | help
  | refused (error : UsageError)

/-! ## Sorting -/

inductive Word where
  /-- An index, or the text of an option. -/
  | plain
  | separator
  | unknown
  /-- An option in one of its spellings, and the text that follows it in the same argument. -/
  | option (flag : Flag) (short : Bool) (attached? : Option (List Char))
  deriving Repr, DecidableEq

def flagOf? (flags : List Flag) (spelling : String) : Option Flag :=
  flags.find? fun flag => flag.spellings.contains spelling

def isShort (spelling : String) : Bool :=
  !spelling.startsWith "--"

/-- The options with the spellings that start with a text, in the order in which they are listed. -/
def completions (flags : List Flag) (start : List Char) : List (Flag × String) :=
  flags.flatMap fun flag =>
    (flag.spellings.filter fun spelling => start.isPrefixOf spelling.toList).map (flag, ·)

def isDigits (cs : List Char) : Bool :=
  !cs.isEmpty && cs.all fun c => (Numeral.digit? c).isSome

/-- A text that looks like a negative number: a minus sign, digits and perhaps a decimal point with
digits behind it. A line feed at its end does not count. -/
def looksNegative : List Char → Bool
  | '-' :: rest =>
    let body := if rest.getLast? = some '\n' then rest.dropLast else rest
    let (whole, fraction) := body.span (· ≠ '.')
    match fraction with
    | [] => isDigits whole
    | _ :: places => (whole.isEmpty || isDigits whole) && isDigits places
  | _ => false

/-- The part of an argument before the first equals sign, and the part behind it if there is one. -/
def splitAttached (cs : List Char) : List Char × Option (List Char) :=
  let (before, behind) := cs.span (· ≠ '=')
  match behind with
  | [] => (before, none)
  | _ :: attached => (before, some attached)

/-- The kind of an argument that starts with a dash, has at least two characters and is no spelling
as it stands. -/
def sortDashed (flags : List Flag) (cs : List Char) : Except UsageError Word := do
  let (before, attached?) := splitAttached cs
  match attached?, flagOf? flags (String.ofList before) with
  | some _, some flag => return .option flag (isShort (String.ofList before)) attached?
  | _, _ =>
    if "--".toList.isPrefixOf cs then
      match completions flags before with
      | [(flag, spelling)] => return .option flag (isShort spelling) attached?
      | [] => return leftOver
      | candidates => throw (.ambiguous (String.ofList cs) (candidates.map (·.2)))
    else
      match flagOf? flags (String.ofList (cs.take 2)) with
      | some flag => return .option flag true (some (cs.drop 2))
      | none => return leftOver
where
  /-- The kind of an argument that no option matches. -/
  leftOver : Word := if looksNegative cs || cs.contains ' ' then .plain else .unknown

/-- The kind of an argument that has no `--` before it. -/
def sortWord (flags : List Flag) (text : String) : Except UsageError Word :=
  match text.toList with
  | '-' :: c :: rest =>
    match flagOf? flags text with
    | some flag => .ok (.option flag (isShort text) none)
    | none => sortDashed flags ('-' :: c :: rest)
  | _ => .ok .plain

def sortWords (flags : List Flag) : List String → Except UsageError (List (String × Word))
  | [] => .ok []
  | text :: rest =>
    if text = "--" then .ok ((text, .separator) :: rest.map (·, .plain))
    else do
      let word ← sortWord flags text
      let words ← sortWords flags rest
      return (text, word) :: words

/-! ## Taking options -/

/-- The options joined in one argument: those without a text, and the last one with the text that
follows it in the argument. -/
def joined (flags : List Flag) (flag : Flag) (short : Bool) :
    List Char → Except UsageError (List Flag × Flag × Option String)
  | [] =>
    if flag.takesText then .ok ([], flag, some "") else .error (.textUnwanted flag "")
  | c :: rest =>
    if flag.takesText then .ok ([], flag, some (String.ofList (c :: rest)))
    else
      match if short then flagOf? flags (String.ofList ['-', c]) else none with
      | none => .error (.textUnwanted flag (String.ofList (c :: rest)))
      | some next =>
        if rest.isEmpty then .ok ([flag], next, none)
        else do
          let (before, last, attached?) ← joined flags next true rest
          return (flag :: before, last, attached?)

def takeSwitch (flag : Flag) (options : Options) : Except Stop Options :=
  match flag with
  | .help => .error .help
  | _ => .ok { options with verbose := true }

/-- The number that an option is given, which has to be at least `least`. -/
def number (flag : Flag) (least : Nat) (given : String) : Except Stop { n : Nat // least ≤ n } :=
  match Numeral.read given with
  | none => .error (.refused (.notANumeral flag given))
  | some n =>
    if h : least ≤ n.toNat ∧ 0 ≤ n then .ok ⟨n.toNat, h.1⟩
    else .error (.refused (.tooSmall flag given))

/-- The options after one whose text is a lone `--`. A format left blank is the line format. -/
def takeBlank (flag : Flag) (options : Options) : Options :=
  match flag with
  | .samples => { options with samples := .blank }
  | .delay => { options with delay := .blank }
  | .format => { options with format := .line }
  | .help | .verbose => options

def takeText (flag : Flag) (given : String) (options : Options) : Except Stop Options :=
  if given = "--" then .ok (takeBlank flag options)
  else
    match flag with
    | .samples => do
      let n ← number .samples 1 given
      return { options with samples := .value n }
    | .delay => do
      let n ← number .delay 0 given
      return { options with delay := .value n.val }
    | .format =>
      match Format.ofWord? given with
      | some format => .ok { options with format := format }
      | none => .error (.refused (.unknownFormat given))
    | .help | .verbose => .ok options

def takeSwitches : List Flag → Options → Except Stop Options
  | [], options => .ok options
  | flag :: rest, options => do
    let options ← takeSwitch flag options
    takeSwitches rest options

/-- The options after an argument with an option, where `following?` is the text of the next
argument if that is plain; and whether that text was taken. -/
def takeOption (flags : List Flag) (flag : Flag) (short : Bool) (attached? : Option (List Char))
    (following? : Option String) (options : Options) : Except Stop (Options × Bool) := do
  let (switches, last, text?) ←
    match attached? with
    | none => .ok ([], flag, none)
    | some attached => (joined flags flag short attached).mapError .refused
  if last.takesText then
    match text?, following? with
    | some text, _ => return (← takeText last text (← takeSwitches switches options), false)
    | none, some text => return (← takeText last text (← takeSwitches switches options), true)
    | none, none => throw (.refused (.textMissing last))
  else
    return (← takeSwitches (switches ++ [last]) options, false)

/-! ## The two readings -/

/-- Which of the two readings is under way. -/
inductive Pass where
  | first
  /-- Takes the indices, and options once more. -/
  | second
  deriving Repr, DecidableEq

/-- Where a reading stands relative to the first row of plain arguments. -/
inductive Place where
  | before
  | inside
  | behind
  deriving Repr, DecidableEq

/-- What a reading has found so far: the options, and the arguments that it leaves. -/
structure Found where
  options : Options := {}
  kept : List String := []
  place : Place := .before

namespace Found

def keep (text : String) (found : Found) : Found :=
  { found with kept := found.kept ++ [text] }

/-- A plain argument. The first reading leaves it, the second takes those of the first row. -/
def plain (pass : Pass) (text : String) (found : Found) : Found :=
  match pass, found.place with
  | .first, _ => { found.keep text with place := .behind }
  | .second, .behind => found.keep text
  | .second, _ =>
    { found with
      options := { found.options with indices := found.options.indices ++ [text] }
      place := .inside }

/-- The first `--`. It is dropped where it belongs to the first row of plain arguments; the first
reading sees that only if nothing stands before it in the row. -/
def separator (pass : Pass) (text : String) (found : Found) : Found :=
  match pass, found.place with
  | .first, .before => { found with place := .behind }
  | .second, .before | .second, .inside => { found with place := .inside }
  | _, _ => found.keep text

/-- An option ends a row of plain arguments. -/
def endRow (found : Found) : Found :=
  { found with place := if found.place = .inside then .behind else found.place }

end Found

/-- Reads sorted arguments from left to right. -/
def readWords (flags : List Flag) (pass : Pass) :
    List (String × Word) → Found → Except Stop Found
  | [], found => .ok found
  | (text, .plain) :: rest, found => readWords flags pass rest (found.plain pass text)
  | (text, .separator) :: rest, found => readWords flags pass rest (found.separator pass text)
  | (text, .unknown) :: rest, found => readWords flags pass rest (found.endRow.keep text)
  | (_, .option flag short attached?) :: (text, .plain) :: rest, found => do
    let (options, taken) ← takeOption flags flag short attached? (some text) found.options
    let found := { found.endRow with options }
    readWords flags pass rest (if taken then found else found.plain pass text)
  | (_, .option flag short attached?) :: rest, found => do
    let (options, _) ← takeOption flags flag short attached? none found.options
    readWords flags pass rest { found.endRow with options }

/-- One reading of arguments, on top of the options found before. -/
def readOnce (flags : List Flag) (pass : Pass) (options : Options) (args : List String) :
    Except Stop Found := do
  let words ← (sortWords flags args).mapError .refused
  readWords flags pass words { options }

def options (c : Command) (args : List String) : Except Stop Options := do
  let first ← readOnce c.flags .first {} args
  let second ← readOnce c.flags .second first.options first.kept
  if second.kept.isEmpty then return second.options
  else throw (.refused (.unrecognized second.kept))

end GpuTelemetry.Command
