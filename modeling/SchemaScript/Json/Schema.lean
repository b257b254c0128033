import SchemaScript.Json.Column
import SchemaScript.Model.Schema
import SchemaScript.Model.Sequence

/-! The JSON forms of keys, tables, sequences and schemas. -/
namespace SchemaScript.Json

/-! ### Keys -/

def keyPartRecord : Record KeyPart where
  names := ["colId", "desc", "order"]
  toFields k := field "colId" k.column ++ field "desc" k.descending ++ field "order" k.order
  ofFields? fs := do
    let column ← fs.required "colId"
    let descending ← fs.orElse "desc" false
    let order ← fs.required "order"
    pure { column, descending, order }

instance : Form KeyPart := keyPartRecord.form

def indexRecord : Record Index where
  names := ["id", "name", "tableId", "unique", "keys", "storedColumnIds"]
  toFields i :=
    field "id" i.id ++ field "name" i.name ++ field "tableId" i.tableId ++
    field "unique" i.unique ++ field "keys" i.keys ++ field "storedColumnIds" i.stored
  ofFields? fs := do
    let id ← fs.required "id"
    let name ← fs.required "name"
    let tableId ← fs.required "tableId"
    let unique ← fs.orElse "unique" false
    let keys ← fs.required "keys"
    let stored ← fs.orElse "storedColumnIds" []
    pure { id, name, tableId, unique, keys, stored }

instance : Form Index := indexRecord.form

def foreignKeyRecord : Record ForeignKey where
  names := ["id", "name", "colIds", "referTableId", "referColumnIds", "onDelete", "onUpdate"]
  toFields k :=
    field "id" k.id ++ optionalField "name" k.name ++ field "colIds" k.columns ++
    field "referTableId" k.targetTable ++ field "referColumnIds" k.targetColumns ++
    optionalField "onDelete" k.onDelete ++ optionalField "onUpdate" k.onUpdate
  ofFields? fs := do
    let id ← fs.required "id"
    let name ← fs.optional "name"
    let columns ← fs.required "colIds"
    let targetTable ← fs.required "referTableId"
    let targetColumns ← fs.required "referColumnIds"
    let onDelete ← fs.optional "onDelete"
    let onUpdate ← fs.optional "onUpdate"
    pure { id, name, columns, targetTable, targetColumns, onDelete, onUpdate }

instance : Form ForeignKey := foreignKeyRecord.form

def checkRecord : Record Check where
  names := ["id", "name", "expr"]
  toFields k := field "id" k.id ++ optionalField "name" k.name ++ field "expr" k.condition
  ofFields? fs := do
    let id ← fs.required "id"
    let name ← fs.optional "name"
    let condition ← fs.required "expr"
    pure { id, name, condition }

instance : Form Check := checkRecord.form

/-! ### Tables -/

instance : Form Interleaving where
  write k := .string k.words
  read? := readNamed Interleaving.ofWords?

def parentRecord : Record Parent where
  names := ["id", "onDelete", "interleaveType"]
  toFields p :=
    field "id" p.id ++ optionalField "onDelete" p.onDelete ++ field "interleaveType" p.kind
  ofFields? fs := do
    let id ← fs.required "id"
    let onDelete ← fs.optional "onDelete"
    let kind ← fs.orElse "interleaveType" .parent
    pure { id, onDelete, kind }

instance : Form Parent := parentRecord.form

def tableRecord : Record Table where
  names :=
    ["id", "name", "colIds", "colDefs", "primaryKeys", "foreignKeys", "indexes", "parentTable",
     "checkConstraints", "comment"]
  toFields t :=
    field "id" t.id ++ field "name" t.name ++ field "colIds" t.columnIds ++
    field "colDefs" t.columns ++ field "primaryKeys" t.primaryKey ++
    field "foreignKeys" t.foreignKeys ++ field "indexes" t.indexes ++
    optionalField "parentTable" t.parent ++ field "checkConstraints" t.checks ++
    optionalField "comment" t.comment
  ofFields? fs := do
    let id ← fs.orElse "id" ""
    let name ← fs.orElse "name" ""
    let columnIds ← fs.orElse "colIds" []
    let columns ← fs.orElse "colDefs" ∅
    let primaryKey ← fs.orElse "primaryKeys" []
    let foreignKeys ← fs.orElse "foreignKeys" []
    let indexes ← fs.orElse "indexes" []
    let parent ← fs.optional "parentTable"
    let checks ← fs.orElse "checkConstraints" []
    let comment ← fs.optional "comment"
    pure { id, name, columnIds, columns, primaryKey, foreignKeys, indexes, parent, checks, comment }

instance : Form Table := tableRecord.form

/-- An object of the tables by key. -/
instance : Form Schema where
  write s := write s.tables
  read? v := (read? v).map fun tables => { tables }

/-! ### Sequences -/

instance : Form Distribution where
  write d := .string d.label
  read? := readNamed Distribution.ofLabel?

def sequenceRecord : Record Sequence where
  names :=
    ["id", "name", "sequenceKind", "skipRangeMin", "skipRangeMax", "startWithCounter",
     "columnsUsingSeq"]
  toFields q :=
    field "id" q.id ++ field "name" q.name ++ optionalField "sequenceKind" q.distribution ++
    optionalField "skipRangeMin" q.skipMin ++ optionalField "skipRangeMax" q.skipMax ++
    optionalField "startWithCounter" q.startCounter ++ field "columnsUsingSeq" q.users
  ofFields? fs := do
    let id ← fs.orElse "id" ""
    let name ← fs.orElse "name" ""
    let distribution ← fs.optional "sequenceKind"
    let skipMin ← fs.optional "skipRangeMin"
    let skipMax ← fs.optional "skipRangeMax"
    let startCounter ← fs.optional "startWithCounter"
    let users ← fs.orElse "columnsUsingSeq" ∅
    pure { id, name, distribution, skipMin, skipMax, startCounter, users }

instance : Form Sequence := sequenceRecord.form

end SchemaScript.Json
