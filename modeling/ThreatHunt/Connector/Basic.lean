import ThreatHunt.Dict
import ThreatHunt.Pattern.Basic
import ThreatHunt.Table.Basic

/-!
Connectors: named sources of entities and of relationships. A connector says what it can answer and
comes with a client that answers. What a client answers may depend on everything that was asked
before, so its behaviour is a function of the number of earlier requests. A registry holds the
connectors of a hunt by their names and gives them in the order of these.
-/

namespace ThreatHunt

/-- A request for the entities of a type. -/
structure EntityQuery where
  entityType : String
  /-- No variable is referred to any more. -/
  pattern : Option Pattern
  window : Option Window
  limit : Option Nat
  deriving Repr, Inhabited

/-- A request for the edges of a relation that touch one of some entities. -/
structure RelationQuery where
  relation : String
  ids : List String
  window : Option Window
  deriving Repr, Inhabited

/-- Entities, and relationships that were seen alongside. -/
structure Response where
  entities : List Entity
  edges : List Edge
  deriving Inhabited

/-- Why a request gave nothing. -/
inductive Issue where
  | timedOut (millis : Nat)
  | failed (text : String)
  deriving DecidableEq, Repr, Inhabited

def Issue.message : Issue → String
  | .timedOut millis => "timed out after " ++ Nat.repr millis ++ " ms"
  | .failed text => text

/-- What comes back from a request. -/
inductive Answer (α : Type) where
  | given (result : α)
  | failed (text : String)
  /-- Nothing comes back in any time. -/
  | silent
  deriving Inhabited

/-- The result of a request that is given up after a time. -/
def Answer.within {α : Type} (millis : Nat) : Answer α → Except Issue α
  | .given result => .ok result
  | .failed text => .error (.failed text)
  | .silent => .error (.timedOut millis)

/-- What a connector declares that it can answer. -/
structure Capabilities where
  entityTypes : List String
  /-- Names of relations in lower case. -/
  relations : List String
  /-- How long to wait for an answer, in milliseconds, if not as long as for all connectors. -/
  timeout : Option Nat
  deriving DecidableEq, Repr, Inhabited

namespace Capabilities

def ofTypes (entityTypes : List String) : Capabilities := ⟨entityTypes, [], none⟩

def withRelations (c : Capabilities) (relations : List String) : Capabilities :=
  { c with relations := relations.map Text.lower }

def supports (c : Capabilities) (entityType : String) : Bool := c.entityTypes.contains entityType

/-- Whether a relation is declared by its name. -/
def declares (c : Capabilities) (relation : String) : Bool := c.relations.contains relation

/-- Whether a relation can be asked for; `linked` stands for each declared relation. -/
def supportsRelation (c : Capabilities) (relation : String) : Bool :=
  c.relations.any (fun r => r == relation || relation == "linked")

end Capabilities

/-- The behaviour of a connector. -/
structure Client where
  answer : Nat → EntityQuery → Answer Response
  relate : Nat → RelationQuery → Answer (List Edge)
  deriving Inhabited

structure Connector where
  name : String
  capabilities : Capabilities
  client : Client
  deriving Inhabited

/-- How long to wait for an answer, in milliseconds. -/
def Connector.patience (standard : Nat) (c : Connector) : Nat :=
  c.capabilities.timeout.getD standard

structure Registry where
  entries : Dict Connector
  deriving Inhabited

namespace Registry

def empty : Registry := ⟨Dict.empty⟩

/-- Adds a connector; an earlier one of its name is replaced. -/
def register (r : Registry) (c : Connector) : Registry := ⟨r.entries.insert c.name c⟩

def find? (r : Registry) (name : String) : Option Connector := r.entries.find? name

def contains (r : Registry) (name : String) : Bool := r.entries.contains name

def toList (r : Registry) : List Connector := r.entries.entries.map Prod.snd

def names (r : Registry) : List String := r.entries.names

def size (r : Registry) : Nat := r.entries.entries.length

/-- The connectors that answer for an entity type. -/
def forType (r : Registry) (entityType : String) : List Connector :=
  r.toList.filter (fun c => c.capabilities.supports entityType)

/-- The connectors that can be asked for a relation. -/
def forRelation (r : Registry) (relation : String) : List Connector :=
  r.toList.filter (fun c => c.capabilities.supportsRelation relation)

/-- Whether some connector declares a relation by its name. -/
def declares (r : Registry) (relation : String) : Bool :=
  r.toList.any (fun c => c.capabilities.declares relation)

theorem find?_register (r : Registry) (c : Connector) (name : String) :
    (r.register c).find? name = if c.name = name then some c else r.find? name :=
  Dict.find?_insert r.entries c.name name c

end Registry
end ThreatHunt
