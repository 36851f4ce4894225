import ThreatHunt.Error.Hunt
import ThreatHunt.Storage.Trouble
import ThreatHunt.Table.Schema

/-!
Variables: names for tables. Each binding makes a new node, which remembers the nodes that it was
derived from, and a name stands for the latest node that was bound to it. The lineage of a variable
is the nodes that it was derived from, directly or through others. What no name leads to is garbage.
-/

namespace ThreatHunt

/-- How a variable came to be. -/
structure Birth where
  /-- The word of the command. -/
  command : String
  /-- The statement as written. -/
  statement : String
  /-- The connectors, modules or files that its rows came from. -/
  sources : List String
  deriving DecidableEq, Repr, Inhabited

structure Variable where
  id : Nat
  name : String
  handle : TableHandle
  schema : Schema
  rowCount : Nat
  /-- The nodes that it was derived from, in the order of the operands. -/
  lineage : List Nat
  birth : Birth
  createdAt : Instant
  deriving DecidableEq, Repr, Inhabited

def Variable.entityType (v : Variable) : String := v.schema.entityType

/-- What a statement asks to be bound. -/
structure Binding where
  name : String
  handle : TableHandle
  schema : Schema
  rowCount : Nat
  lineage : List Nat
  birth : Birth
  deriving DecidableEq, Repr, Inhabited

structure Variables where
  /-- The nodes in the order of their binding. -/
  nodes : List Variable
  names : Dict Nat
  nextId : Nat
  deriving Inhabited

namespace Variables

def empty : Variables := ⟨[], Dict.empty, 0⟩

def node? (vs : Variables) (id : Nat) : Option Variable := vs.nodes.find? (fun v => v.id = id)

def contains (vs : Variables) (name : String) : Bool := vs.names.contains name

/-- The current node of a name. -/
def find? (vs : Variables) (name : String) : Option Variable :=
  (vs.names.find? name).bind vs.node?

/-- The current node of a name, or the error that there is none. -/
def resolve (vs : Variables) (name : String) : Except HuntError Variable :=
  match vs.find? name with
  | some v => .ok v
  | none => .error (.undefinedVariable name)

/-- The node that a binding makes. -/
def nodeOf (id : Nat) (createdAt : Instant) (b : Binding) : Variable :=
  ⟨id, b.name, b.handle, b.schema, b.rowCount, b.lineage, b.birth, createdAt⟩

/-- Binds a name to a new node. All of its lineage must be there. -/
def bind (vs : Variables) (now : Instant) (b : Binding) : Except HuntError (Variable × Variables) :=
  match b.lineage.find? (fun id => (vs.node? id).isNone) with
  | some id => .error (.internal (.unknownNode id))
  | none =>
    let v := nodeOf vs.nextId now b
    .ok (v, ⟨vs.nodes ++ [v], vs.names.insert b.name vs.nextId, vs.nextId + 1⟩)

/-- Whether a node is the current one of some name. -/
def isCurrent (vs : Variables) (v : Variable) : Bool :=
  vs.names.entries.any (fun e => e.2 == v.id)

/-- The current nodes of all names in the order of their binding. -/
def list (vs : Variables) : List Variable := vs.nodes.filter vs.isCurrent

def nodeCount (vs : Variables) : Nat := vs.nodes.length

/-- Whether a node still stands for a table. -/
def handleInUse (vs : Variables) (handle : TableHandle) : Bool :=
  vs.nodes.any (fun v => v.handle == handle)

/-- Forgets all names and nodes; gives the nodes. -/
def clear (vs : Variables) : List Variable × Variables :=
  (vs.nodes, { vs with nodes := [], names := Dict.empty })

end Variables

/-- What a host lists about a variable. -/
structure VariableSummary where
  name : String
  entityType : String
  rowCount : Nat
  attributes : List String
  command : String
  deriving DecidableEq, Repr, Inhabited

def Variable.summary (v : Variable) : VariableSummary :=
  ⟨v.name, v.entityType, v.rowCount, v.schema.names, v.birth.command⟩

end ThreatHunt

namespace ThreatHunt.Variables

/-- The nodes that a walk has not seen. -/
def unseen (nodes : List Variable) (seen : List Nat) : List Variable :=
  nodes.filter (fun v => !seen.contains v.id)

theorem unseen_cons (nodes : List Variable) (id : Nat) (seen : List Nat) :
    unseen nodes (id :: seen) = (unseen nodes seen).filter (fun v => v.id != id) := by
  simp only [unseen, List.filter_filter, List.contains_cons, Bool.not_or, bne]

theorem unseen_length_le (nodes : List Variable) (seen : List Nat) (id : Nat) :
    (unseen nodes (id :: seen)).length ≤ (unseen nodes seen).length := by
  rw [unseen_cons]
  exact List.length_filter_le _ _

theorem unseen_length_lt {nodes : List Variable} {seen : List Nat} {v : Variable}
    (member : v ∈ nodes) (fresh : v.id ∉ seen) :
    (unseen nodes (v.id :: seen)).length < (unseen nodes seen).length := by
  rw [unseen_cons]
  refine List.length_filter_lt_length_iff_exists.2 ⟨v, ?_, by simp⟩
  simp [unseen, member, fresh]

theorem unseen_length_lt_of_find? {nodes : List Variable} {seen : List Nat} {id : Nat} {v : Variable}
    (met : nodes.find? (fun v => v.id = id) = some v) (fresh : id ∉ seen) :
    (unseen nodes (id :: seen)).length < (unseen nodes seen).length := by
  have same : v.id = id := by simpa using List.find?_some met
  subst same
  exact unseen_length_lt (List.mem_of_find?_eq_some met) fresh

/-- Walks through the lineage breadth first; gives each node that it meets once. -/
def walk (nodes : List Variable) (seen : List Nat) : List Nat → List Variable
  | [] => []
  | id :: queue =>
    if id ∈ seen then walk nodes seen queue
    else
      match _met : nodes.find? (fun v => v.id = id) with
      | some v => v :: walk nodes (id :: seen) (queue ++ v.lineage)
      | none => walk nodes (id :: seen) queue
termination_by queue => ((unseen nodes seen).length, queue.length)
decreasing_by
  · exact Prod.Lex.right _ (Nat.lt_succ_self _)
  · rename_i fresh
    exact Prod.Lex.left _ _ (unseen_length_lt_of_find? _met fresh)
  · rcases Nat.lt_or_eq_of_le (unseen_length_le nodes seen id) with less | same
    · exact Prod.Lex.left _ _ less
    · rw [same]
      exact Prod.Lex.right _ (Nat.lt_succ_self _)

/-- The nodes that one was derived from, the nearest first. -/
def ancestors (vs : Variables) (v : Variable) : List Variable := walk vs.nodes [] v.lineage

/-- The nodes that the current node of a name was derived from, the nearest first. -/
def lineage (vs : Variables) (name : String) : Except HuntError (List Variable) :=
  vs.ancestors <$> vs.resolve name

/-- Whether a walk through the lineage, depth first, comes to a node. The last of the nodes that are
found together is followed first. -/
def meets (nodes : List Variable) (target : Nat) (seen : List Nat) : List Nat → Bool
  | [] => false
  | id :: stack =>
    if id = target then true
    else if id ∈ seen then meets nodes target seen stack
    else
      match _met : nodes.find? (fun v => v.id = id) with
      | some v => meets nodes target (id :: seen) (v.lineage.reverse ++ stack)
      | none => meets nodes target (id :: seen) stack
termination_by stack => ((unseen nodes seen).length, stack.length)
decreasing_by
  · exact Prod.Lex.right _ (Nat.lt_succ_self _)
  · rename_i fresh
    exact Prod.Lex.left _ _ (unseen_length_lt_of_find? _met fresh)
  · rcases Nat.lt_or_eq_of_le (unseen_length_le nodes seen id) with less | same
    · exact Prod.Lex.left _ _ less
    · rw [same]
      exact Prod.Lex.right _ (Nat.lt_succ_self _)

/-- Whether a node was derived from another, directly or through others. -/
def descendsFrom (vs : Variables) (start target : Nat) : Bool :=
  meets vs.nodes target [] (((vs.node? start).map Variable.lineage).getD []).reverse

/-- The names whose current nodes were derived from that of a name, in order. -/
def dependents (vs : Variables) (name : String) : Except HuntError (List String) := do
  let target ← vs.resolve name
  let derived := fun (e : String × Nat) => e.2 != target.id && vs.descendsFrom e.2 target.id
  return (vs.names.entries.filter derived).map Prod.fst

/-- Whether each node was derived from older ones only, so that no node leads to itself. -/
def isAcyclic (vs : Variables) : Bool :=
  vs.nodes.all (fun v => v.lineage.all (fun id => id < v.id))

/-- The nodes that names lead to. -/
def reachable (vs : Variables) : List Variable :=
  walk vs.nodes [] (vs.names.entries.map Prod.snd)

/-- Forgets the nodes that no name leads to; gives them in the order of their binding. -/
def collectGarbage (vs : Variables) : List Variable × Variables :=
  let live := vs.reachable.map Variable.id
  (vs.nodes.filter (fun v => !live.contains v.id),
    { vs with nodes := vs.nodes.filter (fun v => live.contains v.id) })

end ThreatHunt.Variables
