import SchemaScript.Order.Chain
import SchemaScript.Script.Fault

/-! The order in which tables are written.

Tables wait in a queue, by name. The one in front is placed unless its parent is part of the
schema and not yet placed; then it goes to the back and is tried again. With `n` tables and no
circle among their parents, `n * (n + 1) / 2` turns empty the queue. -/
namespace SchemaScript.Schema

/-- By name, and by key among tables of one name. -/
def before (a b : String × Table) : Bool :=
  decide (a.2.name < b.2.name) || (a.2.name == b.2.name && decide (a.1 ≤ b.1))

def byName (s : Schema) : List (String × Table) := s.entries.mergeSort before

structure Queue where
  waiting : List (String × Table)
  placed : List (String × Table)

namespace Queue

/-- Whether a table has to wait for its parent. -/
def holdsBack (s : Schema) (q : Queue) (t : Table) : Bool :=
  match s.parentOf? t with
  | none => false
  | some (id, _) => !(q.placed.map Prod.fst).contains id

/-- One turn of the table in front. -/
def turn (s : Schema) (q : Queue) : Queue :=
  match q.waiting with
  | [] => q
  | e :: rest =>
    if q.holdsBack s e.2 then { q with waiting := rest ++ [e] }
    else { waiting := rest, placed := q.placed ++ [e] }

def turns (s : Schema) : Nat → Queue → Queue
  | 0, q => q
  | n + 1, q => turns s n (q.turn s)

theorem turn_of_held {s : Schema} {q : Queue} {e : String × Table} {rest : List (String × Table)}
    (hw : q.waiting = e :: rest) (h : q.holdsBack s e.2 = true) :
    q.turn s = { q with waiting := rest ++ [e] } := by
  unfold turn
  rw [hw]
  simp only [h, if_true]

theorem turn_of_free {s : Schema} {q : Queue} {e : String × Table} {rest : List (String × Table)}
    (hw : q.waiting = e :: rest) (h : q.holdsBack s e.2 = false) :
    q.turn s = { waiting := rest, placed := q.placed ++ [e] } := by
  unfold turn
  rw [hw]
  simp only [h, Bool.false_eq_true, if_false]

theorem turns_add (s : Schema) (m n : Nat) (q : Queue) :
    turns s (m + n) q = turns s n (turns s m q) := by
  induction m generalizing q with
  | zero => rw [Nat.zero_add, turns]
  | succ m ih => rw [Nat.succ_add, turns, ih, turns]

end Queue

/-- Enough turns for `n` tables. -/
def turnsFor (n : Nat) : Nat := n * (n + 1) / 2

/-- The tables with every parent before its children. -/
def placedOrder (s : Schema) : List (String × Table) :=
  (Queue.turns s (turnsFor s.size) ⟨s.byName, []⟩).placed

/-- The first table by name whose parents lead into a circle. -/
def firstCircular? (s : Schema) : Option (String × Table) :=
  s.byName.find? fun e => (s.ascent e).circular

/-- The tables in the order of writing, unless some table's parents lead into a circle. -/
def inOrder (s : Schema) : Except Fault (List (String × Table)) :=
  match s.firstCircular? with
  | some e => .error (.interleaveCycle e.2.name)
  | none => .ok s.placedOrder

/-- The keys of the tables in the order of writing. -/
def idsInOrder (s : Schema) : Except Fault (List String) :=
  s.inOrder.map (List.map Prod.fst)

end SchemaScript.Schema
