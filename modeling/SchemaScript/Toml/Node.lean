import SchemaScript.Keyed

/-! TOML documents as trees.

A table remembers how it came about, since that decides what may still be added to it. A table in
braces is complete. A table with a header of its own takes new keys only under that header; one
that only appears on the way to another table may still get its own header; one made by dotted
keys may not. -/
namespace SchemaScript.Toml

/-- How a table came about. -/
inductive Standing where
  | header
  | implied
  | dotted
  | inline
  deriving DecidableEq

inductive Node where
  | text (s : String)
  | flag (b : Bool)
  | number
  | moment
  | array (items : List Node)
  | table (standing : Standing) (entries : List (String × Node))
  /-- The tables under one repeated header; only the last can still be added to. -/
  | tables (earlier : List (List (String × Node))) (last : List (String × Node))
  deriving Inhabited

abbrev Entries := List (String × Node)

/-- A table made on the way to another. -/
def Standing.onTheWay (byDots : Bool) : Standing := if byDots then .dotted else .implied

/-- Whether a path, of dotted keys or of a header, may lead through such a table. -/
def Standing.isOpen (byDots : Bool) : Standing → Bool
  | .header => !byDots
  | .implied | .dotted => true
  | .inline => false

/-- A change of the table at the end of a path. Tables that are missing on the way are made. -/
def Entries.change (byDots : Bool) (f : Standing → Entries → Option Entries) :
    List String → Standing → Entries → Option Entries
  | [], standing, es => f standing es
  | key :: path, _, es =>
    match es.lookup key with
    | none => do
      let made := Standing.onTheWay byDots
      let inner ← change byDots f path made []
      pure (Keyed.put key (.table made inner) es)
    | some (.table standing inner) =>
      if standing.isOpen byDots then do
        let inner ← change byDots f path standing inner
        pure (Keyed.put key (.table standing inner) es)
      else none
    | some (.tables earlier last) => do
      let last ← change byDots f path .header last
      pure (Keyed.put key (.tables earlier last) es)
    | some _ => none

/-- A new key in a table. A key that is part of dotted keys belongs into a table made by them, and
any other into a table that was not. -/
def Entries.add (byDots : Bool) (key : String) (n : Node) (standing : Standing) (es : Entries) :
    Option Entries :=
  if (standing == .dotted) == byDots && (es.lookup key).isNone then some (es ++ [(key, n)])
  else none

/-- A value under a key, or under dotted keys: `path` holds all of them but the last. -/
def Entries.assign (path : List String) (key : String) (n : Node) (standing : Standing)
    (es : Entries) : Option Entries :=
  let byDots := !path.isEmpty
  change byDots (add byDots key n) path standing es

/-- A table with a header of its own. -/
def Entries.openTable (key : String) (es : Entries) : Option Entries :=
  match es.lookup key with
  | none => some (es ++ [(key, .table .header [])])
  | some (.table .implied inner) => some (Keyed.put key (.table .header inner) es)
  | some _ => none

/-- One more table under a repeated header. -/
def Entries.openNext (key : String) (es : Entries) : Option Entries :=
  match es.lookup key with
  | none => some (es ++ [(key, .tables [] [])])
  | some (.tables earlier last) => some (Keyed.put key (.tables (earlier ++ [last]) []) es)
  | some _ => none

/-- One line of a document. A path holds all keys but the last. -/
inductive Line where
  | blank
  | pair (path : List String) (key : String) (n : Node)
  | table (path : List String) (key : String)
  | next (path : List String) (key : String)

/-- A document as far as it has been read, and the path of the table its next keys belong to. -/
structure Document where
  root : Entries := []
  current : List String := []

def Document.append (d : Document) : Line → Option Document
  | .blank => some d
  | .pair path key n => do
    let add := fun standing (es : Entries) => es.assign path key n standing
    let root ← d.root.change false add d.current .header
    pure { d with root }
  | .table path key => do
    let root ← d.root.change false (fun _ es => es.openTable key) path .header
    pure { root, current := path ++ [key] }
  | .next path key => do
    let root ← d.root.change false (fun _ es => es.openNext key) path .header
    pure { root, current := path ++ [key] }

end SchemaScript.Toml
