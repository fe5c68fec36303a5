import Intel8080.Log.Level

/-! The level of the log as a setting that is made once. It is read from a variable of the
environment; a second attempt to make it fails and changes nothing, and so does an attempt to use
it before. -/
namespace Intel8080.Log

inductive SettingError
  | alreadyMade
  | notMade
  deriving DecidableEq

def SettingError.message : SettingError → String
  | .alreadyMade => "I8080 environment initialised twice"
  | .notMade => "I8080 environment read before initialisation"

/-- The level that a variable asks for. It is `warn` if the variable is missing or makes no sense.
-/
def Level.ofVariable (value? : Option String) : Level :=
  (value?.bind Level.parse?).getD .warn

/-- What is asked of the setting. The value of the variable is the one at that moment, and there is
none if the variable is missing or holds no text. -/
inductive Request
  | make (value? : Option String)
  | use
  deriving DecidableEq

inductive Response
  | made
  | used (level : Level)
  | refused (error : SettingError)
  deriving DecidableEq

abbrev Setting := Option Level

def Setting.respond (s : Setting) : Request → Response × Setting
  | .make value? =>
    match s with
    | none => (.made, some (.ofVariable value?))
    | some level => (.refused .alreadyMade, some level)
  | .use =>
    match s with
    | none => (.refused .notMade, none)
    | some level => (.used level, some level)

/-- The responses to a sequence of requests, each answered with the setting that the earlier ones
left. -/
def Setting.respondAll (s : Setting) : List Request → List Response
  | [] => []
  | r :: rs => (s.respond r).1 :: (s.respond r).2.respondAll rs

end Intel8080.Log
