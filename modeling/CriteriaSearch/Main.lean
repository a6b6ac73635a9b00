import CriteriaSearch.CommandLine.Program

open CriteriaSearch CriteriaSearch.CommandLine

def readEnvironment : IO Environment :=
  Setting.all.filterMapM fun s => do
    return (← IO.getEnv s.variableName).map fun value => (s.variableName, value)

def main (arguments : List String) : IO UInt32 := do
  let outcome := run arguments (← readEnvironment)
  (← IO.getStdout).putStr outcome.output
  (← IO.getStderr).putStr outcome.complaint
  return outcome.status
