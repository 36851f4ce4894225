import ThreatHunt.Storage.Disk
import ThreatHunt.Json.Fault

/-!
What goes wrong with stored tables, files and documents. A trouble may stand within contexts, each
of which says what was being done.
-/

namespace ThreatHunt

/-- What was being done when a trouble came up. -/
inductive Context where
  | reading (path : String)
  | creating (path : String)
  | creatingDirectory (path : String)
  | writing (path : String)
  | readingBundle (path : String)
  | parsingBundle (path : String)
  | openingBundle (path : String)
  | readingTableDocument
  | readingEdges
  | stated (text : String)
  deriving DecidableEq, Repr

def Context.message : Context → String
  | .reading path => "reading '" ++ path ++ "'"
  | .creating path => "creating '" ++ path ++ "'"
  | .creatingDirectory path => "creating directory '" ++ path ++ "'"
  | .writing path => "writing '" ++ path ++ "'"
  | .readingBundle path => "reading bundle '" ++ path ++ "'"
  | .parsingBundle path => "parsing bundle '" ++ path ++ "'"
  | .openingBundle path => "opening bundle '" ++ path ++ "'"
  | .readingTableDocument => "expected a table document with 'entity_type' and 'rows'"
  | .readingEdges => "invalid 'edges' list"
  | .stated text => text

/-- A stored table. -/
structure TableHandle where
  number : Nat
  deriving DecidableEq, Repr, Inhabited

def TableHandle.name (h : TableHandle) : String := "t" ++ Nat.repr h.number

inductive Trouble where
  | unknownTable (handle : TableHandle)
  | missingId (handle : TableHandle)
  | repeatedId (id : String) (handle : TableHandle)
  | foreignAttribute (name : String) (handle : TableHandle)
  | disk (fault : DiskFault)
  | json (fault : Json.Fault)
  | missingFile (path : String)
  | repeatedColumn (name : String)
  | noTable
  | mixedTypes (first second : String)
  | notRecord (index : Nat)
  | entitiesNotObject
  | recordsNotList (entityType : String)
  | missingObjects
  | unknownBundle
  | notObject (index : Nat)
  | untypedObject (index : Nat)
  | partialRelationship (index : Nat)
  | badOption (entry : String)
  | usage
  | within (context : Context) (cause : Trouble)
  | stated (text : String)
  deriving DecidableEq, Repr

namespace Trouble

/-- The texts of a trouble, the outermost context first. -/
def layers : Trouble → List String
  | .unknownTable handle => ["unknown table " ++ handle.name]
  | .missingId handle => ["row without identifier in append to " ++ handle.name]
  | .repeatedId id handle =>
    ["duplicate row identifier '" ++ id ++ "' in append to " ++ handle.name]
  | .foreignAttribute name handle =>
    ["attribute '" ++ name ++ "' is not part of the schema of " ++ handle.name]
  | .disk fault => [fault.message]
  | .json fault => [fault.message]
  | .missingFile path => ["'" ++ path ++ "' does not exist"]
  | .repeatedColumn name =>
    ["duplicate: column with name '" ++ name ++ "' has more than one occurrence"]
  | .noTable => ["expected a JSON array of records or a table document"]
  | .mixedTypes first second =>
    ["records name different entity types '" ++ first ++ "' and '" ++ second ++
      "'; give the type explicitly"]
  | .notRecord index => ["record " ++ Nat.repr index ++ " is not a JSON object"]
  | .entitiesNotObject => ["'entities' must map entity types to record arrays"]
  | .recordsNotList entityType => ["records of '" ++ entityType ++ "' must be an array"]
  | .missingObjects => ["bundle without 'objects'"]
  | .unknownBundle => ["unrecognised bundle layout"]
  | .notObject index => ["object " ++ Nat.repr index ++ " is not a JSON object"]
  | .untypedObject index => ["object " ++ Nat.repr index ++ " has no 'type'"]
  | .partialRelationship index =>
    ["relationship object " ++ Nat.repr index ++
      " needs relationship_type, source_ref and target_ref"]
  | .badOption entry => ["HUNTFLOW_BUNDLES entry '" ++ entry ++ "' is not name=path"]
  | .usage => ["usage: huntflow <script.hf>"]
  | .within context cause => context.message :: cause.layers
  | .stated text => [text]

/-- All texts on one line. -/
def message (t : Trouble) : String := ": ".intercalate t.layers

/-- The outermost text. -/
def top (t : Trouble) : String := t.layers.head?.getD ""

end Trouble

/-- The outcome of a disk operation within a context. -/
def DiskFault.during {α : Type} (context : Context) (outcome : Except DiskFault α) :
    Except Trouble α :=
  outcome.mapError (fun fault => .within context (.disk fault))

end ThreatHunt
