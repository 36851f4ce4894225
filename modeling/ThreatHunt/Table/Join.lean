import ThreatHunt.Table.Basic

/-!
The join of two tables on attributes with equal keys.
-/

namespace ThreatHunt.Table

/-- The rows of a left row and its matches. The first keeps the identifier of the left row, and each
other takes the identifiers of both. -/
def joinRow (left : Entity) : List Entity → List Entity
  | [] => []
  | first :: others =>
    left.absorb first ::
      others.map (fun r => { left.absorb r with id := left.id ++ "+" ++ r.id })

/-- The rows whose attribute has a key. -/
def rowsWithKey (attr key : String) (rows : List Entity) : List Entity :=
  rows.filter (fun r => (r.valueOf attr).matchKey? == some key)

/-- The rows under the keys of an attribute. A row without a key stands under none. -/
def indexRows (attr : String) (rows : List Entity) : Dict (List Entity) :=
  rows.foldl (fun index r =>
    match (r.valueOf attr).matchKey? with
    | some key => index.insert key ((index.find? key).getD [] ++ [r])
    | none => index) Dict.empty

/-- The rows of pairs with equal keys; null matches nothing. -/
def joinRows (left right : Table) (leftAttr rightAttr : String) : List Entity :=
  let index := indexRows rightAttr right.rows
  left.rows.flatMap (fun l =>
    match (l.valueOf leftAttr).matchKey? with
    | some key => joinRow l ((index.find? key).getD [])
    | none => [])

end ThreatHunt.Table
