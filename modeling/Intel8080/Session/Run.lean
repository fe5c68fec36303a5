import Intel8080.Machine.Observe
import Intel8080.RegisterDump
import Intel8080.Terminal.Paint

/-! Running an image file: what is printed, what is logged, and how it ends. Halting, leaving the
program and reaching the limit are good ends; a file that cannot be read, an image that does not
fit and a fault are errors. Once the image is loaded, a dump of the registers ends the output. -/
namespace Intel8080

structure RunOptions where
  path : String
  base : Word := 0
  features : FeatureSet := .all
  limit? : Option Nat := none
  /-- Print nothing but the dump, and that without the box. -/
  minimal : Bool := false
  deriving DecidableEq

inductive RunError
  | unreadable (e : Unreadable)
  | tooLarge (e : TooLarge)
  | fault (f : Fault)
  deriving DecidableEq

def RunError.diagnostic : RunError → Diagnostic
  | .unreadable e => e.diagnostic
  | .tooLarge e => e.diagnostic
  | .fault f => f.diagnostic

structure RunReport where
  output : String
  log : List Log.Event
  result : Except RunError Unit

namespace RunOptions

def machine (o : RunOptions) (image : List Byte) : Except TooLarge (Machine Unconnected) :=
  (Machine.ofImage ⟨⟩ image o.base).map fun m => { m with features := o.features }

def limit (o : RunOptions) : Nat := o.limit?.getD Machine.maxLimit

/-- A status line, which a minimal run leaves out. -/
def status (o : RunOptions) (colors : Bool) (p : Terminal.Paint) (verb detail : String) : String :=
  if o.minimal then "" else Terminal.statusLine colors p verb detail ++ "\n"

def loadingLine (o : RunOptions) (colors : Bool) : String :=
  o.status colors .green "Loading" ("target " ++ o.path)

def runningLine (o : RunOptions) (colors : Bool) (image : List Byte) : String :=
  o.status colors .green "Running" <|
    toString image.length ++ " bytes at 0x" ++ String.ofList (Text.hexWord o.base) ++
      " with features [" ++ o.features.text ++ "]"

def stepCount (n : Nat) : String :=
  if n = 1 then "after 1 instruction" else "after " ++ toString n ++ " instructions"

/-- How the run ended, with the number of instructions unless the limit tells it. -/
def endingLine (o : RunOptions) (colors : Bool) (r : Except Fault StopReason) (steps : Nat) :
    String :=
  match r with
  | .ok .halted => o.status colors .green "Halted" (stepCount steps)
  | .ok .endOfProgram => o.status colors .green "Completed" (stepCount steps)
  | .ok .stepLimit => o.status colors .cyan "Stopped" "step limit reached"
  | .error _ => o.status colors .red "Faulted" (stepCount steps)

def runMachine (o : RunOptions) (colors : Bool) (kept : Log.Level) (m : Machine Unconnected) :
    RunReport :=
  let ((r, m), log) := m.watch kept o.limit #[]
  { output := o.endingLine colors r m.steps ++ RegisterDump.text o.minimal m.processor
    log := log.toList
    result := match r with
      | .ok _ => .ok ()
      | .error f => .error (.fault f) }

def run (o : RunOptions) (colors : Bool) (kept : Log.Level)
    (file : Except ReadFailure (List Byte)) : RunReport :=
  match file with
  | .error failure =>
    { output := o.loadingLine colors
      log := []
      result := .error (.unreadable ⟨o.path, failure⟩) }
  | .ok image =>
    match o.machine image with
    | .error e => { output := o.loadingLine colors, log := [], result := .error (.tooLarge e) }
    | .ok m =>
      let report := o.runMachine colors kept m
      { report with
        output := o.loadingLine colors ++ o.runningLine colors image ++ report.output }

end RunOptions
end Intel8080
