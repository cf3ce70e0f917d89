import ChannelLedger.Hash.Suite
import ChannelLedger.Text.Decimal
import ChannelLedger.CommandLine.Browse

/-!
# Command line arguments

A command line is a sequence of options, the name of a command, and the options of that command.
An option is written out behind two dashes or as one letter behind one; letters may stand together,
and a value may follow an equals sign, directly behind a letter, or as the next argument unless
that one starts with a dash. No option stands twice, and nothing else stands between options.
-/
namespace ChannelLedger.CommandLine

/-- Why arguments name nothing to do. -/
inductive UsageFailure where
  /-- They ask for help. -/
  | help
  /-- They ask for the version. -/
  | version
  /-- They are wrong. -/
  | wrong (what : String)
  deriving DecidableEq, Repr

/-- An option that a command knows. -/
structure OptionSpec where
  long : String
  short : Option Char := none
  takesValue : Bool := true
  /-- What the option asks for instead of a command. -/
  asks : Option UsageFailure := none

/-- The options that were given, with their values; one without a value has the empty one. -/
abbrev Given := List (String × String)

namespace Given

def flag (given : Given) (name : String) : Bool :=
  (given.lookup name).isSome

/-- The value of an option, if it was given. -/
def value? {α : Type} (given : Given) (name : String) (read : String → Option α) :
    Except UsageFailure (Option α) :=
  match given.lookup name with
  | none => .ok none
  | some text =>
    match read text with
    | some a => .ok (some a)
    | none => .error (.wrong ("invalid value '" ++ text ++ "' for '--" ++ name ++ "'"))

/-- Notes an option. -/
def add (given : Given) (spec : OptionSpec) (value : String) : Except UsageFailure Given :=
  if let some failure := spec.asks then .error failure
  else if given.flag spec.long then
    .error (.wrong ("'--" ++ spec.long ++ "' cannot be used multiple times"))
  else .ok (given ++ [(spec.long, value)])

end Given

/-- What one argument says. -/
inductive Reading where
  /-- Options that are complete. -/
  | done (given : Given)
  /-- Options of which the last one has its value in the next argument. -/
  | awaits (given : Given) (spec : OptionSpec)

def unexpected (arg : String) : UsageFailure :=
  .wrong ("unexpected argument '" ++ arg ++ "'")

/-- Reads letters that stand together. -/
def readLetters (specs : List OptionSpec) (given : Given) : List Char → Except UsageFailure Reading
  | [] => .ok (.done given)
  | c :: rest =>
    match specs.find? (·.short = some c) with
    | none => .error (unexpected ("-" ++ c.toString))
    | some spec =>
      if spec.takesValue then
        match rest with
        | [] => .ok (.awaits given spec)
        | '=' :: value => (given.add spec (String.ofList value)).map .done
        | value => (given.add spec (String.ofList value)).map .done
      else do readLetters specs (← given.add spec "") rest

/-- Reads an option that is written out. -/
def readLong (specs : List OptionSpec) (given : Given) (text : List Char) :
    Except UsageFailure Reading :=
  let (name, value) := text.span (· ≠ '=')
  match specs.find? (·.long.toList = name), value with
  | none, _ => .error (unexpected ("--" ++ String.ofList name))
  | some spec, [] =>
    if spec.takesValue then .ok (.awaits given spec) else (given.add spec "").map .done
  | some spec, _ :: value =>
    if spec.takesValue then (given.add spec (String.ofList value)).map .done
    else .error (.wrong ("unexpected value for '--" ++ spec.long ++ "'"))

/-- Whether an argument cannot be the value of the option in front of it. -/
def looksLikeOption (arg : String) : Bool :=
  arg.startsWith "-" && arg ≠ "-"

/-- Reads one argument; `none` if it is no option. -/
def readArgument (specs : List OptionSpec) (given : Given) (arg : String) :
    Option (Except UsageFailure Reading) :=
  match arg.toList with
  | ['-', '-'] => some (.error (unexpected arg))
  | '-' :: '-' :: text => some (readLong specs given text)
  | '-' :: c :: letters => some (readLetters specs given (c :: letters))
  | _ => none

/-- Reads options up to the first argument that is none; gives it and what follows it. The option
`awaited` has its value in the next argument. -/
def readOptions (specs : List OptionSpec) (given : Given) (awaited : Option OptionSpec) :
    List String → Except UsageFailure (Given × List String)
  | [] =>
    match awaited with
    | none => .ok (given, [])
    | some spec => .error (.wrong ("'--" ++ spec.long ++ "' needs a value"))
  | arg :: rest =>
    match awaited with
    | some spec =>
      if looksLikeOption arg then .error (.wrong ("'--" ++ spec.long ++ "' needs a value"))
      else
        match given.add spec arg with
        | .error failure => .error failure
        | .ok given => readOptions specs given none rest
    | none =>
      match readArgument specs given arg with
      | none => .ok (given, arg :: rest)
      | some (.error failure) => .error failure
      | some (.ok (.done given)) => readOptions specs given none rest
      | some (.ok (.awaits given spec)) => readOptions specs given (some spec) rest

/-- Reads the options of a command, which nothing follows. -/
def readAll (specs : List OptionSpec) (args : List String) : Except UsageFailure Given := do
  match ← readOptions specs [] none args with
  | (given, []) => return given
  | (_, arg :: _) => throw (unexpected arg)

/-! ## Commands -/

/-- What to do with a ledger (`InterfaceMode`). -/
inductive Command where
  | browse (options : BrowseOptions)
  /-- Look into a block: that of a number, all of them, or the last one. -/
  | inspect (block : Option UInt64) (all : Bool)
  /-- A dashboard on a terminal. -/
  | terminal (refresh : UInt64)
  /-- A dashboard for browsers. -/
  | serve (port : UInt16) (bind : String) (cors : Bool)
  deriving DecidableEq, Repr

/-- What a command line asks for (`Cli`). -/
structure Invocation where
  /-- The directory of the ledger. -/
  ledger : String
  suite : HashSuite
  command : Command

/-- An option with a value. -/
def valued (long : String) (short : Option Char) : OptionSpec := ⟨long, short, true, none⟩

/-- An option without a value. -/
def plain (long : String) (short : Option Char) : OptionSpec := ⟨long, short, false, none⟩

/-- The option that every command has. -/
def helpOption : OptionSpec := ⟨"help", some 'h', false, some .help⟩

def generalOptions : List OptionSpec := [
  helpOption, ⟨"version", some 'V', false, some .version⟩, valued "ledger" (some 'l'),
  valued "hash" none]

def browseOptions : List OptionSpec := [
  helpOption, valued "count" (some 'c'), valued "until-hash" none, valued "until-number" none,
  plain "by-number" none, valued "detail" (some 'd'), valued "tx" (some 't'), plain "json" none]

def inspectOptions : List OptionSpec :=
  [helpOption, valued "block" (some 'b'), plain "all" (some 'a')]

def terminalOptions : List OptionSpec :=
  [helpOption, valued "refresh" (some 'r')]

def serveOptions : List OptionSpec :=
  [helpOption, valued "port" (some 'p'), valued "bind" (some 'b'), plain "cors" (some 'c')]

/-- The command of a name with its options. -/
def Command.ofArguments (name : String) (args : List String) : Except UsageFailure Command := do
  match name with
  | "cli" =>
    let given ← readAll browseOptions args
    return .browse {
      count := (← given.value? "count" Decimal.uint64?).getD 3
      untilHash := ← given.value? "until-hash" some
      untilNumber := ← given.value? "until-number" Decimal.uint64?
      byNumber := given.flag "by-number"
      detail := ← given.value? "detail" Decimal.uint64?
      tx := ← given.value? "tx" some
      json := given.flag "json" }
  | "inspect" =>
    let given ← readAll inspectOptions args
    return .inspect (← given.value? "block" Decimal.uint64?) (given.flag "all")
  | "tui" =>
    let given ← readAll terminalOptions args
    return .terminal ((← given.value? "refresh" Decimal.uint64?).getD 5)
  | "web" =>
    let given ← readAll serveOptions args
    return .serve ((← given.value? "port" Decimal.uint16?).getD 8080)
      ((← given.value? "bind" some).getD "127.0.0.1") (given.flag "cors")
  | "help" => throw .help
  | name => throw (.wrong ("unrecognized subcommand '" ++ name ++ "'"))

/-- A path is not empty. -/
def path? (text : String) : Option String :=
  if text = "" then none else some text

/-- What the arguments ask for. -/
def Invocation.ofArguments (args : List String) : Except UsageFailure Invocation := do
  let (given, rest) ← readOptions generalOptions [] none args
  let ledger ← given.value? "ledger" path?
  let suite ← given.value? "hash" HashSuite.ofName?
  match rest with
  | [] => throw (.wrong "a subcommand is needed")
  | name :: args =>
    let command ← Command.ofArguments name args
    let some ledger := ledger | throw (.wrong "'--ledger' is needed")
    return ⟨ledger, suite.getD .sha256, command⟩

end ChannelLedger.CommandLine
