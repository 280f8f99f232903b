import ComponentSchema.Event
import ComponentSchema.Graph.Source
import ComponentSchema.Support

/-!
The candidates of a pass: loaded classes, and what the queued paths stand for where no loaded class
has them.  They are put in path order, so that neither listing order nor the order of notifications
shows in what a pass does; a path that is listed twice stays there twice, for validation to see.
-/

namespace ComponentSchema

/-- The classes a pass goes on with. -/
structure Discovery where
  classes : List Node
  /-- How many candidates get no schema. -/
  skipped : Nat
  events : List Event

namespace Candidates

/-- The queued paths that no loaded class has. -/
def unloaded (loaded : List Node) (paths : List String) : List String :=
  let known : SortedSet String := .ofList (loaded.map Node.path)
  paths.filter fun path => !known.contains path

def unresolved (path : String) : Event :=
  ⟨.warn, "could not resolve discovered candidate", [("path", path)]⟩

def skipping (node : Node) (reason : SkipReason) : Event :=
  ⟨.debug, "skipping unsupported class", [("path", node.path), ("reason", reason.message)]⟩

/-- Nodes in path order; nodes of one path keep the order they were given in. -/
def sorted (nodes : List Node) : List Node :=
  nodes.mergeSort fun first second => (compare first.path second.path).isLE

def gather (resolve? : String → Option Node) (loaded : List Node) (paths : List String) :
    List Node :=
  sorted (loaded ++ (unloaded loaded paths).filterMap resolve?)

/-- The events of queued paths that stand for nothing. -/
def missing (resolve? : String → Option Node) (loaded : List Node) (paths : List String) :
    List Event :=
  ((unloaded loaded paths).filter fun path => (resolve? path).isNone).map unresolved

def skipping? (neverCookDirs : List String) (node : Node) : Option Event :=
  (Support.skipReason? neverCookDirs node).map (skipping node)

/-- Discovers the classes of a pass, given the queued paths. -/
def discover (neverCookDirs : List String) (resolve? : String → Option Node) (loaded : List Node)
    (paths : List String) : Discovery :=
  let candidates := gather resolve? loaded paths
  let classes := candidates.filter fun node => (Support.skipReason? neverCookDirs node).isNone
  let skipped := candidates.length - classes.length
  { classes, skipped,
    events := missing resolve? loaded paths ++
      candidates.filterMap (skipping? neverCookDirs) ++
      [⟨.info, "discovered candidate classes",
        [("classes", toString classes.length), ("skipped", toString skipped)]⟩] }

/-- Drops every item that is equal to the one before it. -/
def dropRepeats {α : Type} [DecidableEq α] : List α → List α
  | [] => []
  | [item] => [item]
  | first :: second :: rest =>
    if first = second then dropRepeats (second :: rest) else first :: dropRepeats (second :: rest)

/-- Levels ordered by name and then by path. -/
def levelOrder (first second : Level) : Bool :=
  ((compare first.name second.name).then (compare first.path second.path)).isLE

def levels (listed : List Level) : List Level := dropRepeats (listed.mergeSort levelOrder)

end Candidates

end ComponentSchema
