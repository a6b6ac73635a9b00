import CriteriaSearch.About
import CriteriaSearch.CommandLine.Setting

namespace CriteriaSearch.CommandLine

def padded (width : Nat) (s : String) : String :=
  s ++ String.ofList (List.replicate (width - s.length) ' ')

def Setting.purpose : Setting → String
  | .database => "SQLite database path"
  | .sampleSize => "Number of sample rows to seed"
  | .logLevel => "Log level (error, warn, info, debug, trace)"

def withStandard (text standard : String) : String := text ++ " [default: " ++ standard ++ "]"

/-- What the help says of a setting; it shows the value that the variable has. -/
def Setting.description (s : Setting) (env : Environment) : String :=
  let value := (env.get? s.variableName).getD ""
  withStandard (s.purpose ++ " [env: " ++ s.variableName ++ "=" ++ value ++ "]") s.standard

structure Entry where
  usage : String
  description : String

/-- A setting has no letter. -/
def Setting.entry (s : Setting) (env : Environment) : Entry :=
  ⟨"      " ++ s.usage, s.description env⟩

def entries (env : Environment) : List Entry := [
  Setting.database.entry env,
  Setting.sampleSize.entry env,
  ⟨"      --filters", "Print the available filters instead of searching"⟩,
  Setting.logLevel.entry env,
  ⟨"  -h, --help", "Print help"⟩,
  ⟨"  -V, --version", "Print version"⟩]

/-- The column where descriptions begin: two spaces after the longest option. -/
def descriptionColumn (es : List Entry) : Nat :=
  es.foldl (fun widest e => max widest e.usage.length) 0 + 2

def aligned (column : Nat) (s : String) : String :=
  String.ofList <| s.toList.flatMap fun c =>
    if c = '\n' then c :: List.replicate column ' ' else [c]

def Entry.render (column : Nat) (e : Entry) : String :=
  padded column e.usage ++ aligned column e.description ++ "\n"

def help (env : Environment) : String :=
  let es := entries env
  "Run a search criteria document against sample data\n\n" ++
    "Usage: " ++ programName ++ " [OPTIONS] [CRITERIA]\n\n" ++
    "Arguments:\n  [CRITERIA]  " ++
      withStandard "Criteria document as JSON" "\x7b\x7d" ++ "\n\n" ++
    "Options:\n" ++ String.join (es.map (Entry.render (descriptionColumn es)))

def version : String := programName ++ " " ++ engineVersion ++ "\n"

end CriteriaSearch.CommandLine
