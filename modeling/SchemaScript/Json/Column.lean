import SchemaScript.Config
import SchemaScript.Json.Form
import SchemaScript.Model.Column

/-! The JSON forms of configurations, types and columns. -/
namespace SchemaScript.Json

/-! ### Configurations -/

instance : Form Dialect where
  write d := .string d.label
  read? := readNamed Dialect.ofLabel?

/-- Written by label and read whatever its case; there is no other form. -/
instance : Form Source where
  write k := .string k.label
  read?
    | .string s => Source.ofLabel? s
    | _ => none

def configRecord : Record Config where
  names := ["comments", "protect_ids", "tables", "foreign_keys", "dialect", "source"]
  toFields c :=
    field "comments" c.comments ++ field "protect_ids" c.protectNames ++ field "tables" c.tables ++
    field "foreign_keys" c.foreignKeys ++ field "dialect" c.dialect ++
    optionalField "source" c.source
  ofFields? fs := do
    let base : Config := {}
    let comments ← fs.orElse "comments" base.comments
    let protectNames ← fs.orElse "protect_ids" base.protectNames
    let tables ← fs.orElse "tables" base.tables
    let foreignKeys ← fs.orElse "foreign_keys" base.foreignKeys
    let dialect ← fs.orElse "dialect" base.dialect
    let source ← fs.optional "source"
    pure { comments, protectNames, tables, foreignKeys, dialect, source }

instance : Form Config := configRecord.form

/-! ### Types -/

instance : Form BaseType where
  write t := .string t.googleSqlName
  read? := readNamed BaseType.ofName?

/-- A limit, or the number that stands for the greatest length. -/
instance : Form Length where
  write l := write l.code
  read? v := (read? v).map Length.ofCode

def columnTypeRecord : Record ColumnType where
  names := ["name", "len", "isArray"]
  toFields t := field "name" t.base ++ field "len" t.length ++ field "isArray" t.isArray
  ofFields? fs := do
    let base ← fs.required "name"
    let length ← fs.orElse "len" .max
    let isArray ← fs.orElse "isArray" false
    pure { base, length, isArray }

instance : Form ColumnType := columnTypeRecord.form

/-! ### Columns -/

def expressionRecord : Record Expression where
  names := ["expressionId", "statement"]
  toFields e := field "expressionId" e.id ++ field "statement" e.text
  ofFields? fs := do
    let id ← fs.orElse "expressionId" ""
    let text ← fs.orElse "statement" ""
    pure { id, text }

instance : Form Expression := expressionRecord.form

def defaultValueRecord : Record DefaultValue where
  names := ["isPresent", "value"]
  toFields d := field "isPresent" d.present ++ field "value" d.value
  ofFields? fs := do
    let present ← fs.orElse "isPresent" false
    let value ← fs.orElse "value" {}
    pure { present, value }

instance : Form DefaultValue := defaultValueRecord.form

instance : Form Generation where
  write g := .string g.label
  read? := readNamed Generation.ofLabel?

def generatorRecord : Record Generator where
  names := ["name", "generationType"]
  toFields g := field "name" g.name ++ field "generationType" g.generation
  ofFields? fs := do
    let name ← fs.orElse "name" ""
    let generation ← fs.orElse "generationType" .off
    pure { name, generation }

instance : Form Generator := generatorRecord.form

/-- Options are written only if there are any. -/
def columnRecord : Record Column where
  names := ["id", "name", "type", "notNull", "comment", "autoGen", "defaultValue", "opts"]
  toFields c :=
    field "id" c.id ++ field "name" c.name ++ field "type" c.type ++ field "notNull" c.notNull ++
    optionalField "comment" c.comment ++ field "autoGen" c.generator ++
    field "defaultValue" c.default ++ (if c.options.isEmpty then [] else field "opts" c.options)
  ofFields? fs := do
    let id ← fs.required "id"
    let name ← fs.required "name"
    let type ← fs.required "type"
    let notNull ← fs.orElse "notNull" false
    let comment ← fs.optional "comment"
    let generator ← fs.orElse "autoGen" {}
    let default ← fs.orElse "defaultValue" {}
    let options ← fs.orElse "opts" ∅
    pure { id, name, type, notNull, comment, generator, default, options }

instance : Form Column := columnRecord.form

end SchemaScript.Json
