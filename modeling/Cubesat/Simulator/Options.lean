/-!
The command line of the simulator.

Options take a value, from the next argument or joined to the option; flags
take none. An option without a value falls back on its standard value, where it
has one.
-/

namespace Cubesat.Simulation

inductive ValueOption where
  | config
  | cycles
  | timeStep
  | interval
  | port
  deriving DecidableEq

namespace ValueOption

def all : List ValueOption :=
  [config, cycles, timeStep, interval, port]

def long : ValueOption → String
  | config => "config"
  | cycles => "cycles"
  | timeStep => "time-step"
  | interval => "interval"
  | port => "port"

def short : ValueOption → Char
  | config => 'c'
  | cycles => 'n'
  | timeStep => 't'
  | interval => 'i'
  | port => 'p'

def valueName : ValueOption → String
  | config => "FILE"
  | cycles => "COUNT"
  | timeStep => "SECONDS"
  | interval => "MILLISECONDS"
  | port => "PORT"

def usage (option : ValueOption) : String :=
  "--" ++ option.long ++ " <" ++ option.valueName ++ ">"

/-- The value of an option that is given none. -/
def standard? : ValueOption → Option String
  | config => none
  | cycles => some "0"
  | timeStep => some "10"
  | interval => some "1000"
  | port => some "8080"

end ValueOption

inductive Flag where
  | verbose
  | help
  | version
  deriving DecidableEq

namespace Flag

def ofLong? (name : List Char) : Option Flag :=
  if name = "verbose".toList then some verbose
  else if name = "help".toList then some help
  else if name = "version".toList then some version
  else none

def ofShort? : Char → Option Flag
  | 'v' => some verbose
  | 'h' => some help
  | 'V' => some version
  | _ => none

end Flag

inductive UsageError where
  | unknownArgument (argument : String)
  | missingValue (option : ValueOption)
  | invalidValue (option : ValueOption) (complaint : String)
  /-- An option or flag, as messages show it, that is given twice. -/
  | repeated (usage : String)
  deriving DecidableEq

def UsageError.message : UsageError → String
  | unknownArgument argument =>
      "error: Found argument '" ++ argument ++
        "' which wasn't expected, or isn't valid in this context"
  | missingValue option =>
      "error: The argument '" ++ option.usage ++ "' requires a value but none was supplied"
  | invalidValue option complaint =>
      "error: Invalid value for '" ++ option.usage ++ "': " ++ complaint
  | repeated usage =>
      "error: The argument '" ++ usage ++
        "' was provided more than once, but cannot be used multiple times"

inductive Detour where
  | misuse (error : UsageError)
  | showHelp
  | showVersion
  deriving DecidableEq

/-- The number below a bound that a text spells: digits, with or without a plus sign. -/
def number? (bound : Nat) (text : String) : Option Nat :=
  let digits :=
    match text.toList with
    | '+' :: rest => rest
    | chars => chars
  if digits.isEmpty || !digits.all Char.isDigit then
    none
  else
    let value := digits.foldl (fun number c => 10 * number + (c.toNat - '0'.toNat)) 0
    if value < bound then some value else none

def wordBound : Nat := 18446744073709551616

def ValueOption.complaint? (option : ValueOption) (value : String) : Option String :=
  match option with
  | .config => none
  | .port => none
  | .cycles =>
      if (number? wordBound value).isSome then none else some "Cycle count must be a number"
  | .timeStep =>
      if (number? wordBound value).isSome then none else some "Time step must be a number"
  | .interval =>
      match number? wordBound value with
      | none | some 0 => some "Interval must be a positive number"
      | some _ => none

structure Arguments where
  options : List (ValueOption × Option String)
  verbose : Nat

namespace Arguments

def add (option : ValueOption) (value : Option String) (arguments : Arguments) : Arguments :=
  { arguments with options := arguments.options ++ [(option, value)] }

def settle (waiting : Option ValueOption) (arguments : Arguments) : Arguments :=
  match waiting with
  | none => arguments
  | some option => arguments.add option none

def addFlag (flag : Flag) (arguments : Arguments) : Except Detour Arguments :=
  match flag with
  | .verbose => .ok { arguments with verbose := arguments.verbose + 1 }
  | .help => .error .showHelp
  | .version => .error .showVersion

def values (option : ValueOption) (arguments : Arguments) : List String :=
  arguments.options.filterMap fun entry => if entry.1 = option then entry.2 else none

def occurrences (option : ValueOption) (arguments : Arguments) : Nat :=
  arguments.options.countP fun entry => entry.1 = option

end Arguments

/-- A value that is joined to its option, without the equals signs in front. -/
def joinedValue (chars : List Char) : String :=
  String.ofList (chars.dropWhile (· = '='))

/--
Reads an argument that begins with two dashes. Returns the option that waits
for its value in the next argument, if there is one.
-/
def readLong (argument : List Char) (arguments : Arguments) :
    Except Detour (Option ValueOption × Arguments) :=
  let body := argument.dropWhile (· = '-')
  let name := body.takeWhile (· ≠ '=')
  match ValueOption.all.find? fun option => option.long.toList = name with
  | some option =>
      match body.dropWhile (· ≠ '=') with
      | [] => .ok (some option, arguments)
      | joined => .ok (none, arguments.add option (some (joinedValue joined)))
  | none =>
      match Flag.ofLong? name with
      | some flag => (arguments.addFlag flag).map fun arguments => (none, arguments)
      | none => .error (.misuse (.unknownArgument ("--" ++ String.ofList name)))

def readShort : List Char → Arguments → Except Detour (Option ValueOption × Arguments)
  | [], arguments => .ok (none, arguments)
  | c :: rest, arguments =>
      match ValueOption.all.find? fun option => option.short = c with
      | some option =>
          match rest with
          | [] => .ok (some option, arguments)
          | joined => .ok (none, arguments.add option (some (joinedValue joined)))
      | none =>
          match Flag.ofShort? c with
          | some flag => (arguments.addFlag flag).bind (readShort rest)
          | none => .error (.misuse (.unknownArgument (String.ofList ['-', c])))

/-- The arguments at the end of the line, given the option that waits for its value. -/
def finishArguments (waiting : Option ValueOption) (arguments : Arguments) :
    Except Detour Arguments :=
  if waiting = some .config ∧ arguments.values .config = [] then
    .error (.misuse (.missingValue .config))
  else
    .ok (arguments.settle waiting)

def readArguments : List String → Option ValueOption → Arguments → Except Detour Arguments
  | [], waiting, arguments => finishArguments waiting arguments
  | argument :: rest, waiting, arguments =>
      match argument.toList with
      | ['-', '-'] =>
          match rest with
          | [] => finishArguments waiting arguments
          | next :: _ => .error (.misuse (.unknownArgument next))
      | '-' :: '-' :: body =>
          match readLong ('-' :: '-' :: body) (arguments.settle waiting) with
          | .error detour => .error detour
          | .ok (waiting, arguments) => readArguments rest waiting arguments
      | '-' :: c :: body =>
          match readShort (c :: body) (arguments.settle waiting) with
          | .error detour => .error detour
          | .ok (waiting, arguments) => readArguments rest waiting arguments
      | _ =>
          match waiting with
          | some option => readArguments rest none (arguments.add option (some argument))
          | none => .error (.misuse (.unknownArgument argument))

def optionError? (arguments : Arguments) (option : ValueOption) : Option UsageError :=
  let values := arguments.values option
  let occurrences := arguments.occurrences option
  if occurrences ≠ 0 && values.isEmpty && option.standard?.isNone then
    some (.missingValue option)
  else
    match values.findSome? option.complaint? with
    | some complaint => some (.invalidValue option complaint)
    | none => if 1 < occurrences then some (.repeated option.usage) else none

structure Options where
  configFile : Option String
  /-- The number of cycles; zero stands for no end. -/
  cycles : UInt64
  timeStep : UInt64
  intervalMillis : UInt64
  port : String
  verbose : Bool

def Options.ofArguments (line : List String) : Except Detour Options :=
  match readArguments line none { options := [], verbose := 0 } with
  | .error detour => .error detour
  | .ok arguments =>
      match ValueOption.all.findSome? (optionError? arguments) with
      | some error => .error (.misuse error)
      | none =>
          if 1 < arguments.verbose then
            .error (.misuse (.repeated "--verbose"))
          else
            let text (option : ValueOption) : Option String :=
              match arguments.values option with
              | value :: _ => some value
              | [] => option.standard?
            let word (option : ValueOption) : UInt64 :=
              UInt64.ofNat (((text option).bind (number? wordBound)).getD 0)
            .ok
              { configFile := text .config
                cycles := word .cycles
                timeStep := word .timeStep
                intervalMillis := word .interval
                port := (text .port).getD ""
                verbose := arguments.verbose ≠ 0 }

def Options.portNumber? (options : Options) : Option Nat :=
  number? 65536 options.port

def versionLine : String :=
  "obc-simulator 0.1.0"

end Cubesat.Simulation
