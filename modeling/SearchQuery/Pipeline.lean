import SearchQuery.Pass

/-!
# Pipelines

A `PipelineBuilder` collects stages with priorities. Building sorts them, those of lower priority
first and those of equal priority in the order they were added, into a `Pipeline`. A builder can add
a stage beside the first one of some kind, or in its place, one priority lower or higher. It looks at
the kinds of its stages only, so both are parameters.

The pipelines that work on a query have `Stage`s, which are passes or pipelines themselves. They run
from the root.
-/

namespace SearchQuery

/-- A stage with its priority and the kind it is found by. -/
structure PipelineEntry (κ σ : Type) where
  priority : Int32
  kind : κ
  stage : σ

/-- Why a builder cannot be edited. -/
inductive EditFault (κ : Type)
  | passNotFound (kind : κ)
  /-- There is no priority one lower or one higher. Such an edit is not refused: it never returns. -/
  | overflow

/-- Stages in the order they run in. -/
structure Pipeline (κ σ : Type) where
  entries : List (PipelineEntry κ σ)

/-- Stages in the order they were added in. -/
structure PipelineBuilder (κ σ : Type) where
  entries : List (PipelineEntry κ σ)

section

variable {κ σ : Type}

namespace PipelineEntry

def place (e : PipelineEntry κ σ) : List (PipelineEntry κ σ) → List (PipelineEntry κ σ)
  | [] => [e]
  | first :: rest =>
      if e.priority < first.priority then e :: first :: rest else first :: e.place rest

def sort (entries : List (PipelineEntry κ σ)) : List (PipelineEntry κ σ) :=
  entries.foldl (fun sorted e => e.place sorted) []

end PipelineEntry

namespace PipelineBuilder

def empty : PipelineBuilder κ σ :=
  ⟨[]⟩

def add (b : PipelineBuilder κ σ) (kind : κ) (stage : σ) (priority : Int32) : PipelineBuilder κ σ :=
  ⟨b.entries ++ [⟨priority, kind, stage⟩]⟩

def build (b : PipelineBuilder κ σ) : Pipeline κ σ :=
  ⟨PipelineEntry.sort b.entries⟩

variable [DecidableEq κ]

def remove (b : PipelineBuilder κ σ) (kind : κ) : PipelineBuilder κ σ :=
  ⟨b.entries.filter (·.kind ≠ kind)⟩

def priorityOf? (b : PipelineBuilder κ σ) (kind : κ) : Option Int32 :=
  (b.entries.find? (·.kind = kind)).map (·.priority)

def contains (b : PipelineBuilder κ σ) (kind : κ) : Bool :=
  (b.priorityOf? kind).isSome

def priorityBefore (b : PipelineBuilder κ σ) (kind : κ) : Except (EditFault κ) Int32 :=
  match b.priorityOf? kind with
  | some priority =>
      if priority = Int32.minValue then .error .overflow else .ok (priority - 1)
  | none => .error (.passNotFound kind)

def priorityAfter (b : PipelineBuilder κ σ) (kind : κ) : Except (EditFault κ) Int32 :=
  match b.priorityOf? kind with
  | some priority =>
      if priority = Int32.maxValue then .error .overflow else .ok (priority + 1)
  | none => .error (.passNotFound kind)

/-- Drops the first stage of a kind and adds another one, by default just before where that one
ran. The default is worked out also where it is not used. -/
def replace (b : PipelineBuilder κ σ) (old kind : κ) (stage : σ) (priority : Option Int32) :
    Except (EditFault κ) (PipelineBuilder κ σ) :=
  (b.priorityBefore old).map fun lower =>
    add ⟨b.entries.eraseP (·.kind = old)⟩ kind stage (priority.getD lower)

def addBefore (b : PipelineBuilder κ σ) (anchor kind : κ) (stage : σ) :
    Except (EditFault κ) (PipelineBuilder κ σ) :=
  (b.priorityBefore anchor).map (b.add kind stage)

def addAfter (b : PipelineBuilder κ σ) (anchor kind : κ) (stage : σ) :
    Except (EditFault κ) (PipelineBuilder κ σ) :=
  (b.priorityAfter anchor).map (b.add kind stage)

end PipelineBuilder

namespace Pipeline

def toBuilder (p : Pipeline κ σ) : PipelineBuilder κ σ :=
  ⟨p.entries⟩

def size (p : Pipeline κ σ) : Nat :=
  p.entries.length

end Pipeline

end

def EditFault.error? : EditFault PassKind → Option QueryError
  | passNotFound kind => some (.passNotFound kind)
  | overflow => none

inductive Stage
  | pass (pass : Pass)
  /-- The passes of another pipeline. -/
  | pipeline (passes : List Pass)

namespace Stage

def kind : Stage → PassKind
  | pass p => p.kind
  | pipeline _ => .pipeline

def passes : Stage → List Pass
  | pass p => [p]
  | pipeline ps => ps

end Stage

namespace Pipeline

def names (p : Pipeline PassKind Stage) : List String :=
  p.entries.map (·.stage.kind.name)

def passes (p : Pipeline PassKind Stage) : List Pass :=
  p.entries.flatMap (·.stage.passes)

def toStage (p : Pipeline PassKind Stage) : Stage :=
  .pipeline p.passes

def run (p : Pipeline PassKind Stage) (s : Session) : Except QueryError NodeId × Session :=
  s.runAll s.store.root p.passes

end Pipeline

end SearchQuery
