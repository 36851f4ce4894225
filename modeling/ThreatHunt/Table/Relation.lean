import ThreatHunt.Table.Basic

/-!
Relations that attributes show: some attributes hold the identifiers of related entities, and rules
say which relation an attribute stands for.
-/

namespace ThreatHunt.Relation

/-- The relation that stands for all relations in either direction. -/
def linked : String := "linked"

/-- Which end of a relation holds the identifiers of the other. -/
inductive Holder where
  | source (attr : String)
  | target (attr : String)
  deriving DecidableEq, Repr

structure Rule where
  sourceType : String
  relation : String
  targetType : String
  holder : Holder
  deriving DecidableEq, Repr

def rules : List Rule :=
  [⟨"process", "created", "network-traffic", .source "opened_connection_refs"⟩,
   ⟨"process", "created", "process", .target "parent_ref"⟩,
   ⟨"process", "loaded", "file", .source "binary_ref"⟩,
   ⟨"process", "accessed", "file", .source "accessed_refs"⟩,
   ⟨"network-traffic", "created", "ipv4-addr", .source "src_ref"⟩,
   ⟨"network-traffic", "accepted", "ipv4-addr", .source "dst_ref"⟩,
   ⟨"user-account", "owned", "process", .target "creator_user_ref"⟩,
   ⟨"directory", "contained", "file", .target "parent_directory_ref"⟩]

/-- Whether a relation has rules. -/
def isBuiltin (relation : String) : Bool :=
  relation == linked || rules.any (fun r => r.relation == relation)

/-- Whether a rule fits the types of two ends. -/
def Rule.fits (r : Rule) (source target : String) : Bool :=
  compatibleTypes r.sourceType source && compatibleTypes r.targetType target

/-- Whether some rule of a relation connects two types. -/
def connects (relation source target : String) : Bool :=
  rules.any (fun r =>
    (relation == linked || r.relation == relation) &&
      (r.fits source target || (relation == linked && r.fits target source)))

/-- The identifiers that an attribute holds. -/
def refsIn : Value → List String
  | .str s => [s]
  | .list items => items.filterMap Value.str?
  | _ => []

/-- The edges that a rule finds from some entities to others. -/
def Rule.edges (r : Rule) (sources targets : List Entity) : List Edge :=
  match r.holder with
  | .source attr =>
    sources.flatMap (fun s =>
      ((refsIn (s.get attr)).filter (fun id => targets.any (fun t => t.id == id))).map
        (fun id => ⟨r.relation, s.id, id, none⟩))
  | .target attr =>
    targets.flatMap (fun t =>
      ((refsIn (t.get attr)).filter (fun id => sources.any (fun s => s.id == id))).map
        (fun id => ⟨r.relation, id, t.id, none⟩))

/-- The edges that the rules of a relation find between two tables. -/
def edges (relation : String) (source target : Table) : List Edge :=
  rules.flatMap (fun r =>
    if relation != linked && r.relation != relation then []
    else
      (if r.fits source.entityType target.entityType then r.edges source.rows target.rows
       else []) ++
      (if relation == linked && r.fits target.entityType source.entityType then
        r.edges target.rows source.rows
       else []))

end ThreatHunt.Relation
