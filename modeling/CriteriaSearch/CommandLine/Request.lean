import CriteriaSearch.CommandLine.Setting

namespace CriteriaSearch.CommandLine

structure Options where
  criteria : String
  database : String
  sampleSize : Nat
  listFilters : Bool
  logLevel : String
  deriving DecidableEq, Repr

inductive Request where
  | help
  | version
  | search (options : Options)
  deriving DecidableEq, Repr

structure Given where
  criteria : Option String
  settings : List (Setting × String)
  listFilters : Bool

inductive Stop where
  | help
  | version
  | refused (error : UsageError)

namespace Given

def nothing : Given := ⟨none, [], false⟩

def value? (g : Given) (s : Setting) : Option String :=
  (g.settings.find? fun entry => entry.1 == s).map Prod.snd

/-- Takes an argument that is no option; there is place for one. -/
def addArgument (g : Given) (argument : String) : Except Stop Given :=
  match g.criteria with
  | none => .ok { g with criteria := some argument }
  | some _ => .error (.refused (.unexpectedArgument argument))

/-- Takes the value of a setting; each can be given once. -/
def addSetting (g : Given) (s : Setting) (value : String) : Except Stop Given :=
  if !s.admits value then .error (.refused (.invalidValue s.usage value))
  else if (g.value? s).isSome then .error (.refused (.repeatedOption s.usage))
  else .ok { g with settings := (s, value) :: g.settings }

def addFlag (g : Given) (name : String) : Except Stop Given :=
  if name = "filters" then
    if g.listFilters then .error (.refused (.repeatedOption "--filters"))
    else .ok { g with listFilters := true }
  else if name = "help" then .error .help
  else if name = "version" then .error .version
  else .error (.refused (.unexpectedArgument ("--" ++ name)))

def addAssignment (g : Given) (name value : String) : Except Stop Given :=
  match Setting.ofName? name with
  | some s => g.addSetting s value
  | none =>
    if ["filters", "help", "version"].contains name then
      .error (.refused (.unexpectedValue ("--" ++ name) value))
    else .error (.refused (.unexpectedArgument ("--" ++ name)))

end Given

inductive Shape where
  | separator
  | option (name : String)
  | assignment (name value : String)
  | letter (c : Char)
  | plain

/-- The shape of an argument. A dash alone is plain. -/
def Shape.ofChars : List Char → Shape
  | ['-', '-'] => .separator
  | '-' :: '-' :: cs =>
    let name := cs.takeWhile fun c => c != '='
    match cs.drop name.length with
    | [] => .option (String.ofList cs)
    | _ :: value => .assignment (String.ofList name) (String.ofList value)
  | '-' :: c :: _ => .letter c
  | _ => .plain

def Shape.of (argument : String) : Shape := .ofChars argument.toList

def stopOfLetter (c : Char) : Stop :=
  if c = 'h' then .help
  else if c = 'V' then .version
  else .refused (.unexpectedArgument (String.ofList ['-', c]))

/-- Reads arguments. The value of a setting is the argument after it, which must not look like an
option. -/
def readArguments (g : Given) : List String → Except Stop Given
  | [] => .ok g
  | [argument] =>
    match Shape.of argument with
    | .separator => .ok g
    | .option name =>
      match Setting.ofName? name with
      | some s => .error (.refused (.missingValue s.usage))
      | none => g.addFlag name
    | .assignment name value => g.addAssignment name value
    | .letter c => .error (stopOfLetter c)
    | .plain => g.addArgument argument
  | argument :: next :: rest =>
    match Shape.of argument with
    | .separator => (next :: rest).foldlM addArgument g
    | .option name =>
      match Setting.ofName? name with
      | some s =>
        match Shape.of next with
        | .plain => do readArguments (← g.addSetting s next) rest
        | _ => .error (.refused (.missingValue s.usage))
      | none => do readArguments (← g.addFlag name) (next :: rest)
    | .assignment name value => do readArguments (← g.addAssignment name value) (next :: rest)
    | .letter c => .error (stopOfLetter c)
    | .plain => do readArguments (← g.addArgument argument) (next :: rest)
where
  addArgument (g : Given) (argument : String) : Except Stop Given := g.addArgument argument

/-- The value of a setting: that of the arguments, else that of the environment, else its standard
value. -/
def Given.settle (g : Given) (env : Environment) (s : Setting) : Except UsageError String :=
  let value := ((g.value? s).or (env.get? s.variableName)).getD s.standard
  if s.admits value then .ok value else .error (.invalidValue s.usage value)

def Given.options (g : Given) (env : Environment) : Except UsageError Options := do
  let count ← g.settle env .sampleSize
  return {
    criteria := g.criteria.getD "\x7b\x7d"
    database := ← g.settle env .database
    sampleSize := (readCount? count).getD 0
    listFilters := g.listFilters
    logLevel := ← g.settle env .logLevel }

def Request.ofArguments (arguments : List String) (env : Environment) :
    Except UsageError Request :=
  match readArguments .nothing arguments with
  | .ok g => (g.options env).map .search
  | .error .help => .ok .help
  | .error .version => .ok .version
  | .error (.refused e) => .error e

end CriteriaSearch.CommandLine
