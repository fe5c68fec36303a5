import Intel8080.Address
import Intel8080.Session.Run

/-! The arguments that a command line may hold, the scopes in which they are known, and the
settings that they make. -/
namespace Intel8080.CommandLine

inductive Scope
  | top | run | disasm
  deriving DecidableEq

inductive Argument
  | path
  | base | features | limit | minimal | help | version
  deriving DecidableEq

structure Settings where
  path? : Option String := none
  base? : Option Word := none
  features? : Option FeatureSet := none
  limit? : Option Nat := none
  minimal : Bool := false

inductive UsageError
  | unexpected (argument : String)
  | unknownCommand (name : String)
  | invalidValue (value argument reason : String)
  | missingValue (argument : String)
  | repeated (argument : String)
  | needlessValue (value argument : String)
  | missingArgument
  deriving DecidableEq

/-- A text in quotes with a style of its own. The reset behind it also ends an escape sequence that
the text leaves open. -/
def quoted (codes : List Nat) (s : String) : String :=
  "'" ++ Terminal.escape codes ++ s ++ Terminal.escape [0] ++ "'"

def faulty (s : String) : String := quoted [33] s

def literal (s : String) : String := quoted [1] s

/-- The message as it is sent to a terminal. -/
def UsageError.message : UsageError → String
  | .unexpected argument => "unexpected argument " ++ faulty argument ++ " found"
  | .unknownCommand name => "unrecognized subcommand " ++ faulty name
  | .invalidValue value argument reason =>
    "invalid value " ++ faulty value ++ " for " ++ literal argument ++ ": " ++ reason
  | .missingValue argument =>
    "a value is required for " ++ literal argument ++ " but none was supplied"
  | .repeated argument => "the argument " ++ literal argument ++ " cannot be used multiple times"
  | .needlessValue value argument =>
    "unexpected value " ++ faulty value ++ " for " ++ literal argument ++
      " found; no more were expected"
  | .missingArgument => "the following required arguments were not provided:"

def Scope.options : Scope → List Argument
  | .top => [.help, .version]
  | .run => [.base, .features, .limit, .minimal, .help]
  | .disasm => [.base, .help]

namespace Argument

def long : Argument → String
  | .path => "name"
  | .base => "base"
  | .features => "features"
  | .limit => "limit"
  | .minimal => "minimal"
  | .help => "help"
  | .version => "version"

def letter : Argument → Char
  | .version => 'V'
  | argument => argument.long.toList.headD '-'

def takesValue : Argument → Bool
  | .minimal | .help | .version => false
  | _ => true

def display (scope : Scope) : Argument → String
  | .path => if scope = .top then "[PATH]" else "<NAME>"
  | .base => "--base <BASE>"
  | .features => "--features <FEATURES>"
  | .limit => "--limit <LIMIT>"
  | argument => "--" ++ argument.long

def withName? (scope : Scope) (name : List Char) : Option Argument :=
  scope.options.find? (·.long.toList == name)

def withLetter? (scope : Scope) (letter : Char) : Option Argument :=
  scope.options.find? (·.letter == letter)

end Argument

namespace Settings

def has (s : Settings) : Argument → Bool
  | .path => s.path?.isSome
  | .base => s.base?.isSome
  | .features => s.features?.isSome
  | .limit => s.limit?.isSome
  | .minimal => s.minimal
  | .help | .version => false

def put (scope : Scope) (s : Settings) (argument : Argument) (value : String) :
    Except UsageError Settings :=
  if s.has argument then .error (.repeated (argument.display scope))
  else
    let invalid (reason : String) : UsageError :=
      .invalidValue value (argument.display scope) reason
    match argument with
    | .path =>
      if value = "" then .error (.missingValue (argument.display scope))
      else .ok { s with path? := some value }
    | .base =>
      match Address.parse value with
      | .ok base => .ok { s with base? := some base }
      | .error e => .error (invalid e.message)
    | .features =>
      match FeatureSet.parse value with
      | .ok features => .ok { s with features? := some features }
      | .error e => .error (invalid e.message)
    | .limit =>
      match Text.readNumeral 10 Machine.maxLimit value.toList with
      | .ok limit => .ok { s with limit? := some limit }
      | .error e => .error (invalid e.message)
    | .minimal => .ok { s with minimal := true }
    | .help | .version => .ok s

end Settings
end Intel8080.CommandLine
