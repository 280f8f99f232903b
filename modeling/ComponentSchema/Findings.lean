/-!
Findings collected under routes.  A check goes on after the first fault and files every message
under the route it concerns: the path of a class, or a longer route below it.
-/

namespace ComponentSchema

mutual

/-- The messages of one place, and the findings below it. -/
inductive Findings (α : Type) : Type
  | node (messages : List α) (branches : Branches α none)

/-- Findings by route, routes in strictly ascending order and all of them behind a lower bound. -/
inductive Branches (α : Type) : Option String → Type
  | nil {lower : Option String} : Branches α lower
  | cons {lower : Option String} (route : String) (above : ∀ bound ∈ lower, compare bound route = .lt)
      (below : Findings α) (rest : Branches α (some route)) : Branches α lower

end

variable {α : Type}

namespace Findings

def empty : Findings α := .node [] .nil

instance : EmptyCollection (Findings α) := ⟨empty⟩
instance : Inhabited (Findings α) := ⟨empty⟩

def messages : Findings α → List α
  | .node messages _ => messages

def branches : Findings α → Branches α none
  | .node _ branches => branches

/-- Files a message at the root. -/
def add : Findings α → α → Findings α
  | .node messages branches, message => .node (messages ++ [message]) branches

end Findings

/-- Changes the findings of one route; a route that has none yet gets its place in the order. -/
def Branches.update (route : String) (change : Findings α → Findings α) :
    {lower : Option String} → (∀ bound ∈ lower, compare bound route = .lt) →
      Branches α lower → Branches α lower
  | _, above, .nil => .cons route above (change ∅) .nil
  | _, above, .cons other aboveOther below rest =>
    match order : compare route other with
    | .lt =>
      .cons route above (change ∅)
        (.cons other (fun _ same => Option.some.inj same ▸ order) below rest)
    | .eq => .cons other aboveOther (change below) rest
    | .gt =>
      .cons other aboveOther below
        (rest.update route change
          fun _ same => Option.some.inj same ▸ Std.OrientedCmp.lt_of_gt order)

namespace Findings

/-- Changes what is found one step below the root. -/
def within (findings : Findings α) (route : String) (change : Findings α → Findings α) : Findings α :=
  match findings with
  | .node messages branches => .node messages (branches.update route change fun _ => nofun)

/-- Files a message one step below the root. -/
def addFor (findings : Findings α) (route : String) (message : α) : Findings α :=
  findings.within route fun below => below.add message

mutual

/-- Joins two collections: at every place the messages of the second come behind those of the first. -/
def merge (findings : Findings α) : Findings α → Findings α
  | .node messages branches =>
    mergeBranches (.node (findings.messages ++ messages) findings.branches) branches

/-- Merges branch after branch into the findings of its route. -/
def mergeBranches (findings : Findings α) : {lower : Option String} → Branches α lower → Findings α
  | _, .nil => findings
  | _, .cons route _ below rest =>
    mergeBranches (findings.within route fun found => found.merge below) rest

end

mutual

/-- Whether no message was filed. -/
def isEmpty : Findings α → Bool
  | .node messages branches => messages.isEmpty && branchesEmpty branches

def branchesEmpty : {lower : Option String} → Branches α lower → Bool
  | _, .nil => true
  | _, .cons _ _ below rest => below.isEmpty && branchesEmpty rest

end

mutual

/-- How many messages were filed. -/
def size : Findings α → Nat
  | .node messages branches => messages.length + branchesSize branches

def branchesSize : {lower : Option String} → Branches α lower → Nat
  | _, .nil => 0
  | _, .cons _ _ below rest => below.size + branchesSize rest

end

/-- Files another collection below a route; one without messages leaves no trace. -/
def mergeFor (findings : Findings α) (route : String) (others : Findings α) : Findings α :=
  if others.isEmpty then findings else findings.within route fun below => below.merge others

/-- The text of a route that goes one step further. -/
def nested (place : Option String) (route : String) : String :=
  match place with
  | some place => place ++ " > " ++ route
  | none => route

mutual

/-- Every message with the text of its route, the messages of a place before those below it. -/
def flattenFrom (place : Option String) : Findings α → List (String × α)
  | .node messages branches =>
    messages.map (fun message => (place.getD "", message)) ++ flattenBranches place branches

def flattenBranches (place : Option String) :
    {lower : Option String} → Branches α lower → List (String × α)
  | _, .nil => []
  | _, .cons route _ below rest =>
    flattenFrom (some (nested place route)) below ++ flattenBranches place rest

end

/-- Every message with the text of its route, routes in ascending order. -/
def flatten (findings : Findings α) : List (String × α) := flattenFrom none findings

/-- One line per message, led by its route unless that is empty text. -/
def render (findings : Findings α) (wording : α → String) : String :=
  "\n".intercalate (findings.flatten.map fun finding =>
    if finding.1.isEmpty then wording finding.2 else finding.1 ++ ": " ++ wording finding.2)

/-- The report on a check that found something. -/
def failure? (findings : Findings α) (wording : α → String) : Option String :=
  if findings.isEmpty then none else some ("validation failed: " ++ findings.render wording)

/-- What a check concludes: it passes exactly if nothing was filed. -/
def conclude (findings : Findings α) : Except (Findings α) Unit :=
  if findings.isEmpty then .ok () else .error findings

end Findings

end ComponentSchema
