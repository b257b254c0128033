import SchemaScript.Json.Value

/-! The JSON forms of values.

A record is an object of its fields. Reading one finds its fields by name, in any order, and
passes over members that are no fields; a field that comes twice is refused. A record may also be
an array of its fields in their order, as many as are given. A field is required, or has a
default for when it is missing, or is optional, and then null and absence mean the same. -/
namespace SchemaScript.Json

/-- A type whose values are written and read as JSON. -/
class Form (α : Type) where
  write : α → Value
  read? : Value → Option α

export Form (write read?)

/-! ### Plain values -/

instance : Form String where
  write := .string
  read?
    | .string s => some s
    | _ => none

instance : Form Bool where
  write := .bool
  read?
    | .bool b => some b
    | _ => none

instance : Form Int32 where
  write n := .integer n.toInt
  read?
    | .integer n =>
      if Int32.minValue.toInt ≤ n ∧ n ≤ Int32.maxValue.toInt then some (Int32.ofInt n) else none
    | _ => none

instance : Form Int64 where
  write n := .integer n.toInt
  read?
    | .integer n =>
      if Int64.minValue.toInt ≤ n ∧ n ≤ Int64.maxValue.toInt then some (Int64.ofInt n) else none
    | _ => none

instance {α : Type} [Form α] : Form (List α) where
  write xs := .array (xs.map write)
  read?
    | .array items => items.mapM read?
    | _ => none

/-- Of members with one name the last counts, but all of them have to be readable. -/
instance {α : Type} [Form α] : Form (Keyed α) where
  write m := .object (m.entries.map fun e => (e.1, write e.2))
  read?
    | .object members =>
      (members.mapM fun m => (read? m.2).map fun a => (m.1, a)).map Keyed.ofList
    | _ => none

/-- One of a few named values, as a name or as an object with that name alone and null in it. -/
def readNamed {α : Type} (ofName? : String → Option α) : Value → Option α
  | .string name => ofName? name
  | .object [(name, .null)] => ofName? name
  | _ => none

/-! ### Records -/

/-- What a record's fields have been given, by name. -/
abbrev Fields := List (String × Value)

/-- The fields that a value gives to a record with these field names. -/
def fields? (names : List String) : Value → Option Fields
  | .object members =>
    let known := members.filter fun m => names.contains m.1
    if (known.map Prod.fst).Nodup then some known else none
  | .array items => if items.length ≤ names.length then some (names.zip items) else none
  | _ => none

section Reading
variable {α : Type} [Form α]

def Fields.required (fs : Fields) (name : String) : Option α :=
  match fs.lookup name with
  | some v => read? v
  | none => none

def Fields.orElse (fs : Fields) (name : String) (fallback : α) : Option α :=
  match fs.lookup name with
  | some v => read? v
  | none => some fallback

def Fields.optional (fs : Fields) (name : String) : Option (Option α) :=
  match fs.lookup name with
  | none | some .null => some none
  | some v => (read? v).map some

end Reading

section Writing
variable {α : Type} [Form α]

def field (name : String) (a : α) : Fields := [(name, write a)]

/-- Nothing at all if the value is absent. -/
def optionalField (name : String) : Option α → Fields
  | some a => field name a
  | none => []

end Writing

/-- How a type is written as a record: the names of its fields in order, and both directions. -/
structure Record (α : Type) where
  names : List String
  toFields : α → Fields
  ofFields? : Fields → Option α

/-- The form of a type that is written as a record. -/
@[reducible] def Record.form {α : Type} (r : Record α) : Form α where
  write a := .object (r.toFields a)
  read? v := (fields? r.names v).bind r.ofFields?

end SchemaScript.Json
