import SchemaScript.Model.Table

/-! Schemas: the tables of a database by id.

A table added to a schema is kept under its own id, but a schema read from elsewhere may keep a
table under any key; the key is what the links between tables name. -/
namespace SchemaScript

structure Schema where
  tables : Keyed Table := ∅
  deriving BEq, Inhabited

namespace Schema

def empty : Schema := {}

/-- The keys and tables, in no order that matters. -/
def entries (s : Schema) : List (String × Table) := s.tables.entries

def ids (s : Schema) : List String := s.tables.keys

def get? (s : Schema) (id : String) : Option Table := s.tables.get? id

def contains (s : Schema) (id : String) : Bool := s.tables.contains id

def size (s : Schema) : Nat := s.tables.size

def isEmpty (s : Schema) : Bool := s.tables.isEmpty

/-- The schema with a table under its own id, in place of the one that was there. -/
def insert (s : Schema) (t : Table) : Schema := { tables := s.tables.insert t.id t }

/-- What was there under the id of a table, and the schema with the table in its place. -/
def exchange (s : Schema) (t : Table) : Option Table × Schema :=
  let r := s.tables.exchange t.id t
  (r.1, { tables := r.2 })

/-- The tables added one after another. -/
def extend (s : Schema) (ts : List Table) : Schema := ts.foldl insert s

def ofTables (ts : List Table) : Schema := empty.extend ts

/-- Whether some table names a parent, known or not. -/
def hasInterleaving (s : Schema) : Bool := s.tables.values.any fun t => t.parentId?.isSome

theorem exchange_eq (s : Schema) (t : Table) : s.exchange t = (s.get? t.id, s.insert t) := by
  rw [exchange, Keyed.exchange_eq]
  rfl

theorem get?_eq_some_iff (s : Schema) {id : String} {t : Table} :
    s.get? id = some t ↔ (id, t) ∈ s.entries := s.tables.get?_eq_some_iff

theorem contains_iff (s : Schema) (id : String) : s.contains id = true ↔ id ∈ s.ids :=
  s.tables.contains_iff id

/-- An entry is told by its key. -/
theorem entry_ext (s : Schema) {a b : String × Table} (ha : a ∈ s.entries) (hb : b ∈ s.entries)
    (h : a.1 = b.1) : a = b := by
  have hget := s.get?_eq_some_iff.mpr ha
  rw [h, s.get?_eq_some_iff.mpr hb, Option.some.injEq] at hget
  exact Prod.ext h hget.symm

/-- Tables with ids of their own are listed in the order in which they were added. -/
theorem entries_extend (s : Schema) {ts : List Table} (hnew : ∀ t ∈ ts, t.id ∉ s.ids)
    (hdistinct : (ts.map Table.id).Nodup) :
    (s.extend ts).entries = s.entries ++ ts.map fun t => (t.id, t) := by
  have htables : (s.extend ts).tables =
      (ts.map fun t => (t.id, t)).foldl (fun m e => m.insert e.1 e.2) s.tables := by
    rw [List.foldl_map]
    exact (List.foldl_hom tables fun _ _ => rfl).symm
  rw [entries, htables, Keyed.entries_foldl_insert s.tables]
  · rfl
  · intro e he
    obtain ⟨t, ht, rfl⟩ := List.mem_map.mp he
    exact hnew t ht
  · rwa [List.map_map]

theorem entries_ofTables {ts : List Table} (h : (ts.map Table.id).Nodup) :
    (ofTables ts).entries = ts.map fun t => (t.id, t) :=
  entries_extend empty (fun _ _ => List.not_mem_nil) h

theorem extend_append (s : Schema) (xs ys : List Table) :
    s.extend (xs ++ ys) = (s.extend xs).extend ys := List.foldl_append

end Schema

end SchemaScript
