import Occupancy.CommandLine.Number
import Occupancy.Settings

/-! The command line: the results directory, one option with a value and five switches, in any order. A switch may
be repeated, the option may not. An argument that starts with a dash is an option unless it comes after `--`; asking
for help is only heeded when no option follows and nothing before is wrong. -/

namespace Occupancy.CommandLine

inductive Switch
  | overlay
  | logarithmic
  | noPoisson
  | noNormalize
  | quiet
deriving Repr, DecidableEq

/-- An argument that is not the results directory: the option for the largest level, or a switch. -/
inductive Flag
  | maxK
  | switch (s : Switch)
deriving Repr, DecidableEq

namespace Flag

def all : List Flag :=
  [maxK, switch .overlay, switch .logarithmic, switch .noPoisson, switch .noNormalize, switch .quiet]

/-- The long name, and the short one if there is one. -/
def names : Flag → String × Option String
  | maxK => ("--max-k", none)
  | switch .overlay => ("--overlay", none)
  | switch .logarithmic => ("--logy", none)
  | switch .noPoisson => ("--no-poisson", none)
  | switch .noNormalize => ("--no-normalize", none)
  | switch .quiet => ("--quiet", some "-q")

def isNamed (flag : Flag) (argument : String) : Bool :=
  flag.names.1 == argument || flag.names.2 == some argument

def ofArgument? (argument : String) : Option Flag := all.find? (·.isNamed argument)

theorem ofArgument?_name (flag : Flag) : ofArgument? flag.names.1 = some flag := by
  rcases flag with _ | s
  · decide
  · cases s <;> decide

end Flag

inductive ValueError
  | repeated
  | number (cause : NumberError)
deriving Repr, DecidableEq

def ValueError.message : ValueError → String
  | repeated => "duplicate values provided"
  | number cause => cause.message

inductive UsageError
  | unrecognized (argument : String)
  | missingValue (option : String)
  | badValue (option value : String) (cause : ValueError)
  | optionAfterHelp
  | missingDirectory
deriving Repr, DecidableEq

def UsageError.message : UsageError → String
  | unrecognized argument => s!"Unrecognized argument: {argument}\n"
  | missingValue option => s!"No value provided for option '{option}'.\n"
  | badValue option value cause => s!"Error parsing option '{option}' with value '{value}': {cause.message}\n"
  | optionAfterHelp => "Trailing arguments are not allowed after `help`."
  | missingDirectory => "Required positional arguments not provided:\n    results_dir\n"

/-- What a command line asks for. -/
inductive Request
  | run (settings : Settings)
  | help
deriving Repr, DecidableEq

/-- The arguments read so far. -/
structure Draft where
  resultsDir : Option String := none
  maxK : Option UInt32 := none
  overlay : Bool := false
  logarithmic : Bool := false
  noPoisson : Bool := false
  noNormalize : Bool := false
  quiet : Bool := false
deriving Repr, DecidableEq

namespace Draft

def set (draft : Draft) : Switch → Draft
  | .overlay => { draft with overlay := true }
  | .logarithmic => { draft with logarithmic := true }
  | .noPoisson => { draft with noPoisson := true }
  | .noNormalize => { draft with noNormalize := true }
  | .quiet => { draft with quiet := true }

def setMaxK (draft : Draft) (value : String) : Except ValueError Draft :=
  match draft.maxK with
  | some _ => .error .repeated
  | none =>
    match readNumber value with
    | .error e => .error (.number e)
    | .ok maxK => .ok { draft with maxK := some maxK }

/-- The settings, if there is a results directory. -/
def finish (draft : Draft) : Except UsageError Settings :=
  match draft.resultsDir with
  | none => .error .missingDirectory
  | some dir =>
    .ok
      { resultsDir := ⟨dir⟩
        maxK := draft.maxK
        overlay := draft.overlay
        quiet := draft.quiet
        chart :=
          { scale := if draft.logarithmic then .logarithmic else .linear
            showPoisson := !draft.noPoisson
            normalizeOverlay := !draft.noNormalize } }

end Draft

/-- How an argument is taken. -/
inductive Kind
  | help
  | endOfOptions
  | option
  | positional
deriving Repr, DecidableEq

/-- After the end of the options every argument is positional. -/
def kindOf (ended : Bool) (argument : String) : Kind :=
  if ended then .positional
  else if argument == "--help" || argument == "help" then .help
  else if argument == "--" then .endOfOptions
  else if argument.toList.head? == some '-' then .option
  else .positional

/-- Reads the arguments that are left. -/
def parseFrom (help ended : Bool) (draft : Draft) : List String → Except UsageError Request
  | [] => if help then .ok .help else draft.finish.map .run
  | argument :: rest =>
    match kindOf ended argument with
    | .help => parseFrom true ended draft rest
    | .endOfOptions => parseFrom help true draft rest
    | .option =>
      if help then .error .optionAfterHelp
      else
        match Flag.ofArgument? argument with
        | none => .error (.unrecognized argument)
        | some (.switch s) => parseFrom help ended (draft.set s) rest
        | some .maxK =>
          match rest with
          | [] => .error (.missingValue argument)
          | value :: rest =>
            match draft.setMaxK value with
            | .error e => .error (.badValue argument value e)
            | .ok draft => parseFrom help ended draft rest
    | .positional =>
      match draft.resultsDir with
      | some _ => .error (.unrecognized argument)
      | none => parseFrom help ended { draft with resultsDir := some argument } rest

def parse (arguments : List String) : Except UsageError Request := parseFrom false false {} arguments

end Occupancy.CommandLine
