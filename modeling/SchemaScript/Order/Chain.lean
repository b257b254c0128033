import SchemaScript.Model.Schema

/-! Chains of parents.

The chain of a table leads from parent to parent as long as the parent is part of the schema.
`climb` follows it and stops at the first table that it has met before, which tells a chain that
ends from one that runs into a circle. -/
namespace SchemaScript.Schema

/-- The key and table that a table is interleaved in, if the schema has it. -/
def parentOf? (s : Schema) (t : Table) : Option (String × Table) :=
  match t.parentId? with
  | none => none
  | some id => (s.get? id).map (id, ·)

/-- The keys met on the way up, nearest first, and whether the way came back to one of them. -/
structure Ascent where
  passed : List String
  circular : Bool
  deriving DecidableEq

/-- The number of parent links followed, the one that closes a circle included. -/
def Ascent.links (a : Ascent) : Nat := a.passed.length + if a.circular then 1 else 0

/-- The way up from a table, where `fresh` holds the keys that have not been met so far. -/
def climb (s : Schema) (fresh : List String) (t : Table) : Ascent :=
  match s.parentOf? t with
  | none => ⟨[], false⟩
  | some (id, up) =>
    if id ∈ fresh then
      let rest := climb s (fresh.erase id) up
      ⟨id :: rest.passed, rest.circular⟩
    else ⟨[], true⟩
termination_by fresh.length
decreasing_by
  rename_i h
  have := List.length_erase_of_mem h
  have := List.length_pos_of_mem h
  omega

/-- The way up from the table under a key; the table itself counts as met. -/
def ascent (s : Schema) (e : String × Table) : Ascent := s.climb (s.ids.erase e.1) e.2

theorem climb_of_root (s : Schema) (fresh : List String) {t : Table} (h : s.parentOf? t = none) :
    s.climb fresh t = ⟨[], false⟩ := by
  rw [climb, h]

theorem climb_of_fresh (s : Schema) {fresh : List String} {t up : Table} {id : String}
    (h : s.parentOf? t = some (id, up)) (hf : id ∈ fresh) :
    s.climb fresh t =
      ⟨id :: (s.climb (fresh.erase id) up).passed, (s.climb (fresh.erase id) up).circular⟩ := by
  rw [climb, h]
  simp [hf]

theorem climb_of_met (s : Schema) {fresh : List String} {t up : Table} {id : String}
    (h : s.parentOf? t = some (id, up)) (hf : id ∉ fresh) :
    s.climb fresh t = ⟨[], true⟩ := by
  rw [climb, h]
  simp [hf]

end SchemaScript.Schema
