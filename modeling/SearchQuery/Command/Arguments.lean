import SearchQuery.Text.Blank

/-!
# The words of a command line

A command line is a command, its options and at most one query. `Arguments.ofWords` tells the
options from the other words: an option that takes a value has it behind an equals sign or as the
next word, and behind a lone `--` no word is an option. `Invocation.ofWords` finds out which
command is asked for.
-/

namespace SearchQuery.Command

inductive UsageFault where
  | noCommand
  | unknownCommand (word : String)
  | unknownOption (word : String)
  | valueMissing (name : String)
  | valueUnwanted (name : String)
  | repeated (name : String)
  | tooManyWords (word : String)
  deriving Repr, DecidableEq

def UsageFault.message : UsageFault → String
  | noCommand => "a command is required: format, check or invert"
  | unknownCommand word => "unrecognized command " ++ word
  | unknownOption word => "unexpected argument " ++ word
  | valueMissing name => "a value is required for " ++ name
  | valueUnwanted name => "no value is expected for " ++ name
  | repeated name => name ++ " cannot be used multiple times"
  | tooManyWords word => "unexpected argument " ++ word

structure Arguments where
  /-- The options with a value, in their order. -/
  values : List (String × String)
  /-- The options without one. -/
  flags : List String
  /-- The other words. -/
  words : List String
  deriving Repr, DecidableEq

structure OptionNames where
  valued : List String
  flags : List String
  deriving Repr, DecidableEq

namespace Arguments

def isOption (word : String) : Bool :=
  match word.toList with
  | '-' :: _ :: _ => true
  | _ => false

def splitValue (word : String) : String × Option String :=
  let cs := word.toList
  match cs.dropWhile (· ≠ '=') with
  | [] => (word, none)
  | _ :: value => (String.ofList (cs.takeWhile (· ≠ '=')), some (String.ofList value))

def ofWords (known : OptionNames) : List String → Except UsageFault Arguments
  | [] => .ok ⟨[], [], []⟩
  | word :: rest =>
      if word = "--" then .ok ⟨[], [], rest⟩
      else if !isOption word then do
        let others ← ofWords known rest
        return { others with words := word :: others.words }
      else match splitValue word, rest with
        | (name, some value), rest => do takeValue name value (← ofWords known rest)
        | (name, none), next :: rest =>
            if name ∈ known.valued && isOption next then .error (.valueMissing name)
            else if name ∈ known.valued then do takeValue name next (← ofWords known rest)
            else do takeFlag name (← ofWords known (next :: rest))
        | (name, none), [] =>
            if name ∈ known.valued then .error (.valueMissing name)
            else takeFlag name ⟨[], [], []⟩
where
  takeValue (name value : String) (others : Arguments) : Except UsageFault Arguments :=
    if name ∈ known.valued then .ok { others with values := (name, value) :: others.values }
    else if name ∈ known.flags then .error (.valueUnwanted name)
    else .error (.unknownOption name)
  takeFlag (name : String) (others : Arguments) : Except UsageFault Arguments :=
    if name ∈ known.flags then .ok { others with flags := name :: others.flags }
    else .error (.unknownOption name)

def valuesOf (a : Arguments) (name : String) : List String :=
  a.values.filterMap fun (key, value) => if key = name then some value else none

def value? (a : Arguments) (name : String) : Except UsageFault (Option String) :=
  match a.valuesOf name with
  | [] => .ok none
  | [value] => .ok (some value)
  | _ => .error (.repeated name)

def flag? (a : Arguments) (name : String) : Except UsageFault Bool :=
  match a.flags with
  | [] => .ok false
  | [_] => .ok true
  | _ => .error (.repeated name)

def query? (a : Arguments) : Except UsageFault (Option String) :=
  match a.words with
  | [] => .ok none
  | [query] => .ok (some query)
  | _ :: word :: _ => .error (.tooManyWords word)

end Arguments

inductive Invocation where
  | format (query : Option String)
  | check (query fieldMap aliases fragments policy : Option String) (pretty : Bool)
  | invert (query : Option String) (kept : List String) (alternate : Option String)
  | help
  | version
  deriving Repr, DecidableEq

namespace Invocation

def splitNames (words : List String) : List String :=
  words.flatMap (·.splitOn ",")

def ofWords : List String → Except UsageFault Invocation
  | [] => .error .noCommand
  | command :: rest =>
      if command ∈ ["help", "-h", "--help"] || rest = ["-h"] || rest = ["--help"] then .ok help
      else if command ∈ ["-V", "--version"] then .ok version
      else if command = "format" then do
        let a ← Arguments.ofWords ⟨[], []⟩ rest
        return format (← a.query?)
      else if command = "check" then do
        let valued := ["--field-map", "--aliases", "--includes", "--policy"]
        let a ← Arguments.ofWords ⟨valued, ["-p", "--pretty"]⟩ rest
        let pretty ← a.flag? "--pretty"
        return check (← a.query?) (← a.value? "--field-map") (← a.value? "--aliases")
          (← a.value? "--includes") (← a.value? "--policy") pretty
      else if command = "invert" then do
        let a ← Arguments.ofWords ⟨["--non-inverted", "--alternate"], []⟩ rest
        return invert (← a.query?) (splitNames (a.valuesOf "--non-inverted"))
          (← a.value? "--alternate")
      else if Arguments.isOption command then .error (.unknownOption command)
      else .error (.unknownCommand command)

end Invocation

end SearchQuery.Command
