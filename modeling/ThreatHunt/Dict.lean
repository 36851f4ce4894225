/-!
Values under names, kept in the order of the names, each name once. The order is part of the type,
so two dictionaries with the same look-ups are equal.
-/

namespace ThreatHunt

/-- A list of named values in the order of their names. -/
structure Dict (α : Type) where
  entries : List (String × α)
  sorted : entries.Pairwise (fun a b => a.1 < b.1)

namespace Dict

variable {α : Type}

def empty : Dict α := ⟨[], List.Pairwise.nil⟩

instance : Inhabited (Dict α) := ⟨empty⟩

def names (d : Dict α) : List String := d.entries.map Prod.fst

def findEntry (name : String) : List (String × α) → Option α
  | [] => none
  | (other, value) :: rest => if other = name then some value else findEntry name rest

def find? (d : Dict α) (name : String) : Option α := findEntry name d.entries

def contains (d : Dict α) (name : String) : Bool := (d.find? name).isSome

def insertEntry (name : String) (value : α) : List (String × α) → List (String × α)
  | [] => [(name, value)]
  | (other, old) :: rest =>
    if name < other then (name, value) :: (other, old) :: rest
    else if name = other then (name, value) :: rest
    else (other, old) :: insertEntry name value rest

theorem mem_insertEntry {name : String} {value : α} {es : List (String × α)} {e : String × α}
    (found : e ∈ insertEntry name value es) : e = (name, value) ∨ e ∈ es := by
  induction es with
  | nil => exact .inl (by simpa [insertEntry] using found)
  | cons head rest ih =>
    unfold insertEntry at found
    split at found
    · simpa using found
    · split at found
      · rcases List.mem_cons.1 found with same | later
        · exact .inl same
        · exact .inr (List.mem_cons_of_mem _ later)
      · rcases List.mem_cons.1 found with same | later
        · exact .inr (List.mem_cons.2 (.inl same))
        · rcases ih later with same | old
          · exact .inl same
          · exact .inr (List.mem_cons_of_mem _ old)

theorem sorted_insertEntry (name : String) (value : α) {es : List (String × α)}
    (sorted : es.Pairwise (fun a b => a.1 < b.1)) :
    (insertEntry name value es).Pairwise (fun a b => a.1 < b.1) := by
  induction es with
  | nil => exact List.pairwise_singleton _ _
  | cons head rest ih =>
    obtain ⟨above, tail⟩ := List.pairwise_cons.1 sorted
    unfold insertEntry
    split
    · rename_i least
      refine List.pairwise_cons.2 ⟨fun e found => ?_, sorted⟩
      rcases List.mem_cons.1 found with rfl | later
      · exact least
      · exact String.lt_trans least (above e later)
    · rename_i notLess
      split
      · rename_i same
        exact List.pairwise_cons.2 ⟨fun e found => same ▸ above e found, tail⟩
      · rename_i different
        refine List.pairwise_cons.2 ⟨fun e found => ?_, ih tail⟩
        rcases mem_insertEntry found with rfl | old
        · rcases Std.lt_trichotomy name head.1 with less | same | more
          · exact absurd less notLess
          · exact absurd same different
          · exact more
        · exact above e old

/-- Puts a value under a name; an earlier value of the name is replaced. -/
def insert (d : Dict α) (name : String) (value : α) : Dict α :=
  ⟨insertEntry name value d.entries, sorted_insertEntry name value d.sorted⟩

/-- Keeps the entries that pass a test. -/
def filter (d : Dict α) (keep : String → α → Bool) : Dict α :=
  ⟨d.entries.filter (fun e => keep e.1 e.2), d.sorted.sublist List.filter_sublist⟩

def erase (d : Dict α) (name : String) : Dict α := d.filter (fun other _ => other != name)

/-- The dictionary of a list of named values; the last value of a name counts. -/
def ofList (es : List (String × α)) : Dict α :=
  es.foldl (fun d e => d.insert e.1 e.2) empty

theorem find?_empty (name : String) : (empty : Dict α).find? name = none := rfl

theorem findEntry_insertEntry (name other : String) (value : α) (es : List (String × α)) :
    findEntry other (insertEntry name value es) =
      if name = other then some value else findEntry other es := by
  induction es with
  | nil => rfl
  | cons head rest ih =>
    unfold insertEntry
    split
    · rfl
    · split
      · rename_i same
        simp only [findEntry, same]
        split <;> rfl
      · rename_i different
        simp only [findEntry, ih]
        split
        · rename_i here
          rw [if_neg (fun same => different (same.trans here.symm))]
        · rfl

theorem mem_of_findEntry {name : String} {value : α} {es : List (String × α)}
    (found : findEntry name es = some value) : (name, value) ∈ es := by
  induction es with
  | nil => nomatch found
  | cons head rest ih =>
    unfold findEntry at found
    split at found
    · rename_i same
      rw [← same, ← Option.some.inj found]
      exact List.mem_cons_self ..
    · exact List.mem_cons_of_mem _ (ih found)

theorem mem_of_find? {d : Dict α} {name : String} {value : α} (found : d.find? name = some value) :
    (name, value) ∈ d.entries :=
  mem_of_findEntry found

theorem find?_insert (d : Dict α) (name other : String) (value : α) :
    (d.insert name value).find? other = if name = other then some value else d.find? other :=
  findEntry_insertEntry name other value d.entries

end Dict
end ThreatHunt
