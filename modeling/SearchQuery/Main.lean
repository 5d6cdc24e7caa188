import SearchQuery.Command
import SearchQuery.Command.Arguments
import SearchQuery.Pattern

/-!
# The program

Reads the command line and the files that it names, runs the command and prints what it yields.
The program ends with 0 when all is well, with 1 when the command fails or the query that it checks
is invalid, and with 2 when the command line cannot be understood.
-/

namespace SearchQuery.Command

def usage : String :=
  "lq - rewrite, check and invert Lucene-style queries\n\n" ++
  "Usage: lq <COMMAND>\n\n" ++
  "Commands:\n" ++
  "  format [QUERY]  Print a query in canonical form\n" ++
  "  check [QUERY]   Resolve fields and includes, then validate a query\n" ++
  "      --field-map FILE   JSON object mapping fields to replacements\n" ++
  "      --aliases FILE     JSON alias map\n" ++
  "      --includes FILE    JSON object mapping include names to query fragments\n" ++
  "      --policy FILE      JSON validation policy\n" ++
  "  -p, --pretty           Pretty-print the output\n" ++
  "  invert [QUERY]  Print the complement of a query\n" ++
  "      --non-inverted A,B  Fields that must not be negated\n" ++
  "      --alternate QUERY   Criteria OR-ed into every inverted clause\n\n" ++
  "A query that is not given is read from the standard input."

/-- The query that was given, or the text of the standard input without the blanks around it;
`none` when the standard input is a terminal. -/
def readQuery : Option String → IO (Option String)
  | some query => return some query
  | none => do
      let input ← IO.getStdin
      if ← input.isTty then return none
      return some (String.ofList (Text.trimBlanks (← input.readToEnd).toList))

def readFile (path : String) : IO SourceFile := do
  try
    return ⟨path, some (← IO.FS.readFile path)⟩
  catch _ =>
    return ⟨path, none⟩

/-- Prints what a command yields, and says with which code the program ends. What it yields comes
with whether all is well. -/
def finish : Except CommandError (String × Bool) → IO UInt32
  | .ok (text, isFine) => do
      IO.println text
      return if isFine then 0 else 1
  | .error error => do
      IO.eprintln error.message
      return 1

def withQuery (given : Option String) (run : String → IO UInt32) : IO UInt32 := do
  match ← readQuery given with
  | some query => run query
  | none =>
      IO.eprintln "No query provided. Pass it as an argument or pipe it to stdin."
      return 1

def runInvocation : Invocation → IO UInt32
  | .help => finish (.ok (usage, true))
  | .version => finish (.ok ("lq 0.2.0", true))
  | .format given => withQuery given fun query =>
      finish ((format query).map (·, true))
  | .invert given kept alternate => withQuery given fun query =>
      finish ((invert query kept alternate).map (·, true))
  | .check given fieldMap aliases fragments policy pretty => withQuery given fun query => do
      let request : CheckRequest :=
        { query := query
          fieldMap := ← fieldMap.mapM readFile
          aliases := ← aliases.mapM readFile
          fragments := ← fragments.mapM readFile
          policy := ← policy.mapM readFile }
      finish ((check Pattern.isValid request).map fun report =>
        (report.text pretty, report.validation.isValid))

end SearchQuery.Command

open SearchQuery.Command in
def main (words : List String) : IO UInt32 := do
  match Invocation.ofWords words with
  | .ok invocation => runInvocation invocation
  | .error fault =>
      IO.eprintln ("error: " ++ fault.message)
      return 2
