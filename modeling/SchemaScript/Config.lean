import SchemaScript.Naming.Dialect

/-! What a script contains and how it is written.

The defaults are those of a configuration that says nothing: GoogleSQL, protected names, tables
and foreign keys, no comments. -/
namespace SchemaScript

structure Config where
  /-- Write table and column comments. -/
  comments : Bool := false
  /-- Quote names where the dialect calls for it. -/
  protectNames : Bool := true
  /-- Create tables and their indexes. -/
  tables : Bool := true
  /-- Add foreign keys. -/
  foreignKeys : Bool := true
  dialect : Dialect := .googleSql
  /-- Where the schema comes from, if known. -/
  source : Option Source := none
  deriving DecidableEq

/-- The configuration that says nothing but the dialect. -/
def Config.ofDialect (dialect : Dialect) : Config := { dialect }

/-- Whether names come from a database that tells their cases apart. -/
def Config.keepsCase (c : Config) : Bool := c.source.any Source.keepsCase

end SchemaScript
