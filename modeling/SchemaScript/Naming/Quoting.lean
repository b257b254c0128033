import SchemaScript.Config
import SchemaScript.Naming.Reserved

/-! How the name of a table, column, index, constraint or sequence is written.

GoogleSQL puts every protected name between backticks. The PostgreSQL dialect folds bare names to
small letters, so a name is quoted there only if it is reserved or comes from a database that
keeps case. -/
namespace SchemaScript

namespace Quoting

/-- Between backticks, with a backslash before each backtick of the name. -/
def backticked (name : String) : String :=
  "`" ++ String.ofList (name.toList.flatMap fun c => if c = '\x60' then ['\\', c] else [c]) ++ "`"

/-- Between double quotes, with each double quote of the name written twice. -/
def doubleQuoted (name : String) : String :=
  "\"" ++ String.ofList (name.toList.flatMap fun c => if c = '\x22' then [c, c] else [c]) ++ "\""

end Quoting

namespace Config

/-- A name as the script writes it. -/
def quote (c : Config) (name : String) : String :=
  if !c.protectNames then name
  else match c.dialect with
    | .googleSql => Quoting.backticked name
    | .postgreSql =>
      if c.keepsCase || Reserved.contains name then Quoting.doubleQuoted name else name

theorem quote_bare {c : Config} (h : c.protectNames = false) (name : String) :
    c.quote name = name := by simp [quote, h]

theorem quote_googleSql {c : Config} (h : c.protectNames = true) (hd : c.dialect = .googleSql)
    (name : String) : c.quote name = Quoting.backticked name := by simp [quote, h, hd]

theorem quote_postgreSql {c : Config} (h : c.protectNames = true) (hd : c.dialect = .postgreSql)
    (name : String) :
    c.quote name =
      if c.keepsCase || Reserved.contains name then Quoting.doubleQuoted name else name := by
  simp [quote, h, hd]

end Config

end SchemaScript
