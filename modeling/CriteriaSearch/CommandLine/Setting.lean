import CriteriaSearch.Number.Reader

namespace CriteriaSearch.CommandLine

inductive Setting where
  | database
  | sampleSize
  | logLevel
  deriving DecidableEq, Repr

abbrev Environment := List (String × String)

inductive UsageError where
  /-- No option has this name, or no place is left for the argument. -/
  | unexpectedArgument (argument : String)
  | repeatedOption (option : String)
  | missingValue (option : String)
  | unexpectedValue (option value : String)
  | invalidValue (option value : String)
  deriving DecidableEq, Repr

def UsageError.message : UsageError → String
  | .unexpectedArgument argument => "error: unexpected argument '" ++ argument ++ "' found"
  | .repeatedOption option =>
    "error: the argument '" ++ option ++ "' cannot be used multiple times"
  | .missingValue option =>
    "error: a value is required for '" ++ option ++ "' but none was supplied"
  | .unexpectedValue option value =>
    "error: unexpected value '" ++ value ++ "' for '" ++ option ++ "' found; no more were expected"
  | .invalidValue option value => "error: invalid value '" ++ value ++ "' for '" ++ option ++ "'"

namespace Setting

def all : List Setting := [.database, .sampleSize, .logLevel]

def name : Setting → String
  | .database => "database"
  | .sampleSize => "sample-size"
  | .logLevel => "log-level"

def placeholder : Setting → String
  | .database => "DATABASE"
  | .sampleSize => "SAMPLE_SIZE"
  | .logLevel => "LOG_LEVEL"

def variableName : Setting → String
  | .database => "DYNSEARCH_DATABASE"
  | .sampleSize => "DYNSEARCH_SAMPLE_SIZE"
  | .logLevel => "DYNSEARCH_LOG_LEVEL"

def standard : Setting → String
  | .database => ":memory:"
  | .sampleSize => "1000"
  | .logLevel => "info"

def usage (s : Setting) : String := "--" ++ s.name ++ " <" ++ s.placeholder ++ ">"

def ofName? (name : String) : Option Setting := all.find? fun s => s.name == name

end Setting

/-- A number of rows: digits, after a plus or alone, of at most 64 bits. -/
def readCount? (s : String) : Option Nat :=
  let digits :=
    match s.toList with
    | '+' :: rest => rest
    | cs => cs
  (readNat? digits).filter fun n => n ≤ 18446744073709551615

def Setting.admits (s : Setting) (value : String) : Bool :=
  match s with
  | .sampleSize => (readCount? value).isSome
  | _ => true

def Environment.get? (env : Environment) (name : String) : Option String :=
  (env.find? fun entry => entry.1 == name).map Prod.snd

end CriteriaSearch.CommandLine
