/-! What can be wrong with a schema that is to be written out. -/
namespace SchemaScript

inductive Fault where
  /-- A column id of a table that the table does not define. -/
  | missingColumn (table column : String)
  /-- A foreign key to a table that is not there. -/
  | missingTable (id : String)
  /-- A foreign key whose two column lists differ in length. -/
  | unevenForeignKey (table name : String) (columns targets : Nat)
  /-- A table whose parents lead into a circle. -/
  | interleaveCycle (table : String)
  deriving DecidableEq

namespace Fault

def message : Fault → String
  | missingColumn table column =>
    "Missing column: table `" ++ table ++ "` has no definition for column id `" ++ column ++ "`"
  | missingTable id => "Missing table: no table with id `" ++ id ++ "` in the schema"
  | unevenForeignKey table name columns targets =>
    "Foreign key error: `" ++ name ++ "` on table `" ++ table ++ "` pairs " ++ toString columns ++
      " columns with " ++ toString targets ++ " referenced columns"
  | interleaveCycle table =>
    "Interleave cycle: table `" ++ table ++ "` is (transitively) interleaved in itself"

end Fault

end SchemaScript
