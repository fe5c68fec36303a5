import Intel8080.CommandLine.Argument
import Intel8080.Text.Similarity

/-! Reading a command line. Arguments are taken from the left. A value is looked at only when the
next option or file comes, or at the end, so that an unknown argument is reported before an
invalid value in front of it; help and the version are given as soon as they are asked for. -/
namespace Intel8080.CommandLine

inductive Command
  | banner
  | run (options : RunOptions)
  | disasm (path : String) (base : Word)
  | help (scope : Scope)
  | version
  deriving DecidableEq

inductive Stop
  | refused (error : UsageError)
  | command (c : Command)

structure Pending where
  argument : Argument
  value? : Option String

structure State where
  scope : Scope
  settings : Settings := {}
  pending? : Option Pending := none
  named : Bool := false
  /-- Two hyphens were read, after which nothing is an option. -/
  trailing : Bool := false

namespace State

def refuse (e : UsageError) : Except Stop State := .error (.refused e)

def settle (s : State) : Except Stop State :=
  match s.pending? with
  | none => .ok s
  | some ⟨argument, none⟩ => refuse (.missingValue (argument.display s.scope))
  | some ⟨argument, some value⟩ =>
    match s.settings.put s.scope argument value with
    | .ok settings => .ok { s with settings, pending? := none }
    | .error e => refuse e

def readSwitch (s : State) (argument : Argument) : Except Stop State := do
  let s ← s.settle
  match argument with
  | .help => throw (.command (.help s.scope))
  | .version => throw (.command .version)
  | _ => ({ s with pending? := some ⟨argument, some ""⟩ } : State).settle

def readValued (s : State) (argument : Argument) (value? : Option String) : Except Stop State := do
  let s ← s.settle
  let s : State := { s with pending? := some ⟨argument, value?⟩ }
  if value?.isSome then s.settle else return s

/-- Read an option by its long name. The value may follow an equals sign. -/
def readLong (s : State) (text : List Char) : Except Stop State :=
  let name := text.takeWhile (· != '=')
  let value? : Option String := (text.dropWhile (· != '=')).tail?.map String.ofList
  match Argument.withName? s.scope name with
  | none => refuse (.unexpected ("--" ++ String.ofList name))
  | some argument =>
    if argument.takesValue then s.readValued argument value?
    else match value? with
      | some value => refuse (.needlessValue value (argument.display s.scope))
      | none => s.readSwitch argument

/-- Read options by their letters. The value of the last one may follow it, also after an equals
sign. -/
def readLetters (s : State) : List Char → Except Stop State
  | [] => .ok s
  | letter :: rest =>
    match Argument.withLetter? s.scope letter with
    | none => refuse (.unexpected ("-" ++ String.singleton letter))
    | some argument =>
      if argument.takesValue then
        match rest with
        | [] => s.readValued argument none
        | '=' :: value => s.readValued argument (some (String.ofList value))
        | value => s.readValued argument (some (String.ofList value))
      else match s.readSwitch argument with
        | .ok s => s.readLetters rest
        | .error stop => .error stop

def commandNames : List String := ["run", "disasm", "help"]

/-- Read a text that is neither an option nor a command: the value that an option waits for, or
the file. A second file is refused; one that looks like the name of a command is taken for it. -/
def readText (s : State) (text : String) : Except Stop State :=
  match s.pending?, s.trailing with
  | some ⟨argument, none⟩, false => .ok { s with pending? := some ⟨argument, some text⟩ }
  | _, _ =>
    if !s.named then do
      let s ← s.settle
      return { s with pending? := some ⟨.path, some text⟩, named := true }
    else if s.scope = .top ∧ ¬(s.trailing ∧ text ∈ commandNames) ∧
        commandNames.any (fun name => Text.isSimilar text.toList name.toList) then
      refuse (.unknownCommand text)
    else refuse (.unexpected text)

def read (s : State) (text : String) : Except Stop State :=
  if s.trailing then s.readText text
  else match text.toList with
    | ['-', '-'] => .ok { s with trailing := true }
    | '-' :: '-' :: long => s.readLong long
    | '-' :: letter :: letters => s.readLetters (letter :: letters)
    | _ => s.readText text

def readAll (s : State) : List String → Except Stop State
  | [] => s.settle
  | text :: rest =>
    match s.read text with
    | .ok s => s.readAll rest
    | .error stop => .error stop

end State

def Settings.command (s : Settings) : Scope → Except Stop Command
  | .top =>
    match s.path? with
    | none => .ok .banner
    | some path => .ok (.run { path })
  | .run =>
    match s.path? with
    | none => .error (.refused .missingArgument)
    | some path =>
      .ok (.run {
        path
        base := s.base?.getD 0
        features := s.features?.getD .all
        limit? := s.limit?
        minimal := s.minimal })
  | .disasm =>
    match s.path? with
    | none => .error (.refused .missingArgument)
    | some path => .ok (.disasm path (s.base?.getD 0))

def readScope (scope : Scope) (arguments : List String) : Except Stop Command := do
  let s ← State.readAll { scope } arguments
  s.settings.command scope

def readHelp : List String → Except Stop Command
  | [] | ["help"] => .ok (.help .top)
  | ["run"] => .ok (.help .run)
  | ["disasm"] => .ok (.help .disasm)
  | "run" :: name :: _ | "disasm" :: name :: _ | "help" :: name :: _ | name :: _ =>
    .error (.refused (.unknownCommand name))

/-- Read arguments before a command. A command may also follow a file, and is then what counts. -/
def readTop (s : State) : List String → Except Stop Command
  | [] => do
    let s ← s.settle
    s.settings.command .top
  | text :: rest => do
    if !s.trailing && text == "help" then readHelp rest
    else if !s.trailing && (text == "run" || text == "disasm") then
      let command ← readScope (if text == "run" then .run else .disasm) rest
      let _ ← s.settle
      return command
    else
      match s.read text with
      | .ok s => readTop s rest
      | .error stop => .error stop

def parse (arguments : List String) : Except UsageError Command :=
  match readTop { scope := .top } arguments with
  | .ok command => .ok command
  | .error (.command command) => .ok command
  | .error (.refused e) => .error e

end Intel8080.CommandLine
