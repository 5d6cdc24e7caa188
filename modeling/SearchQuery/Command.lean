import SearchQuery.Json.Reader
import SearchQuery.Pipeline
import SearchQuery.Fields.FieldMap

/-!
# The commands

Three commands work on the text of one query: `format` tidies it up, `invert` writes its
complement, and `check` resolves its fragments and fields and reports what it uses.

`check` takes its tables and its policy from JSON texts, each of which may be absent. The files
are looked at in the order policy, fragments, aliases, field map, and the first fault counts.
-/

namespace SearchQuery.Command

structure SourceFile where
  path : String
  /-- The text of the file, or `none` when the file cannot be read. -/
  text? : Option String
  deriving Repr, DecidableEq

inductive CommandError
  | query (error : QueryError)
  /-- A file does not hold the JSON that it should. -/
  | badJson (path : String)
  /-- A file cannot be read. -/
  | unreadable (path : String)

def CommandError.message : CommandError → String
  | query error => error.message
  | badJson path => "Invalid JSON in " ++ path
  | unreadable path => "IO error: cannot read " ++ path

def sessionOf (text : String) : Except CommandError Session :=
  match Store.parse text with
  | .ok store => .ok ⟨store, .empty⟩
  | .error error => .error (.query (.parse error))

def runPipeline (p : Pipeline PassKind Stage) (s : Session) : Except CommandError Session :=
  match p.run s with
  | (.ok _, s) => .ok s
  | (.error error, _) => .error (.query error)

def format (text : String) : Except CommandError String := do
  let session ← sessionOf text
  let session ← runPipeline (PipelineBuilder.empty.add .cleanup (.pass .cleanup) 0).build session
  return session.store.render

/-- The complement of a query, where the fields that are kept are not inverted; beside every
inverted part stand the alternate criteria, if there are any. -/
def invert (text : String) (kept : List String) (alternate : Option String) :
    Except CommandError String := do
  let session ← sessionOf text
  let criteria ← alternate.mapM fun text => (sessionOf text).map (·.store.tree)
  let session := { session with context.alternate := criteria }
  let pipeline := (PipelineBuilder.empty.add .inversion (.pass (.inversion kept)) 0
    |>.add .cleanup (.pass .cleanup) 10).build
  let session ← runPipeline pipeline session
  return session.store.render

def readJson (file : SourceFile) : Except CommandError Json :=
  match file.text? with
  | none => .error (.unreadable file.path)
  | some text =>
      match Json.parse text with
      | some value => .ok value
      | none => .error (.badJson file.path)

/-- The greatest depth of lists and objects in a file that is read as a whole. -/
def maxJsonDepth : Nat := 127

/-- A table of texts in a file. The last of equal keys counts. -/
def readTable (file : SourceFile) : Except CommandError (List (String × String)) := do
  match ← readJson file with
  | .object members =>
      match members.mapM fun (key, value) => value.text?.map (key, ·) with
      | some rows => .ok rows.reverse
      | none => .error (.badJson file.path)
  | _ => .error (.badJson file.path)

/-- The policy in a file. An invalid query is no error of the command, whatever the policy says. -/
def readPolicy (file : SourceFile) : Except CommandError ValidationOptions := do
  match ValidationOptions.ofJson? (← readJson file) with
  | some options => .ok { options with failsOnInvalid := false }
  | none => .error (.badJson file.path)

def readAliases (file : SourceFile) : Except CommandError AliasMap := do
  let value ← readJson file
  if !value.isDefined || maxJsonDepth < value.depth then .error (.badJson file.path)
  else match AliasMap.ofJson value with
    | .ok map => .ok map
    | .error fault => .error (.query (.config fault))

structure CheckRequest where
  query : String
  fieldMap : Option SourceFile
  aliases : Option SourceFile
  fragments : Option SourceFile
  policy : Option SourceFile

structure CheckReport where
  query : String
  validation : ValidationResult

namespace CheckReport

def toJson (r : CheckReport) : Json :=
  .object [("query", .text r.query), ("validation", r.validation.toJson)]

def text (r : CheckReport) (pretty : Bool) : String :=
  if pretty then r.toJson.pretty else r.toJson.compact

end CheckReport

/-- Resolves fragments, aliases and fields as far as files for them are given, and validates. -/
def check (isPattern : String → Bool) (request : CheckRequest) :
    Except CommandError CheckReport := do
  let session ← sessionOf request.query
  let policy ← request.policy.mapM readPolicy
  let fragments ← request.fragments.mapM readTable
  let aliases ← request.aliases.mapM readAliases
  let fieldMap ← request.fieldMap.mapM readTable
  let session := { session with
    context.options := policy.getD .standard
    context.isPattern := isPattern
    context.fragments := fragments.map (·.map fun (name, text) => (name, .resolved text)) }
  let stages : List (PipelineEntry PassKind Stage) :=
    [⟨100, .validation, .pass (.validation none)⟩] ++
    (fragments.map fun _ =>
      ⟨0, .fragments, .pass (.fragments none (fun _ => false) Tree.parse)⟩).toList ++
    (aliases.map fun map => ⟨10, .aliases, .pass (.aliases (some (.ofMap map)))⟩).toList ++
    (fieldMap.map fun map =>
      let resolver : FieldResolver := fun field _ => .ofOption (FieldMap.resolve? map field)
      ⟨20, .fields, .pass (.fields (some resolver))⟩).toList
  let session ← runPipeline (PipelineBuilder.build ⟨stages⟩) session
  return ⟨session.store.render, session.context.validation⟩

end SearchQuery.Command
