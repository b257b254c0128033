import SchemaScript.Proofs.Remarks

/-! Commas in the body of a table.

The body is written in pieces, each with commas of its own: the lines of the columns, those of the
checks, and, in the PostgreSQL dialect, that of the primary key. Put together they are the items of the
body with one comma between any two neighbours (`Body.separated`); only a GoogleSQL body without checks
has a comma after its last item, too (`Body.terminated`). So it is for any number of columns and checks
(`table_body_is_separated`). -/
namespace SchemaScript

namespace Body

/-- Items on lines of their own, with a comma between any two of them. -/
def separated (items : List String) : String := Text.joined ",\n" (items.map ("\t" ++ ·)) ++ "\n"

/-- Items on lines of their own, with a comma after each of them. -/
def terminated (items : List String) : String :=
  Text.concat (items.map fun item => "\t" ++ item ++ ",\n")

theorem terminated_append (items more : List String) :
    terminated (items ++ more) = terminated items ++ terminated more := by
  rw [terminated, List.map_append, Text.concat_append]
  rfl

theorem terminated_eq {items : List String} (h : items ≠ []) :
    terminated items = Text.joined ",\n" (items.map ("\t" ++ ·)) ++ ",\n" := by
  rw [← Text.concat_map_append _ (mt List.map_eq_nil_iff.mp h), List.map_map]
  rfl

/-- Items with a comma after each go on to items with commas between them. -/
theorem terminated_append_joined (items : List String) {more : List String} (h : more ≠ []) :
    terminated items ++ Text.joined ",\n" (more.map ("\t" ++ ·)) =
      Text.joined ",\n" ((items ++ more).map ("\t" ++ ·)) := by
  have hmore : more.map ("\t" ++ ·) ≠ [] := mt List.map_eq_nil_iff.mp h
  rw [List.map_append, ← Text.concat_append_joined _ _ hmore, List.map_map]
  rfl

theorem terminated_append_separated (items : List String) {more : List String} (h : more ≠ []) :
    terminated items ++ separated more = separated (items ++ more) := by
  rw [separated, separated, ← String.append_assoc, terminated_append_joined items h]

theorem columnLines_without_comments {cfg : Config} (h : cfg.comments = false)
    (columns : List Column) :
    columnLines cfg columns = terminated (columns.map (Column.text cfg)) := by
  unfold columnLines terminated
  rw [List.map_map]
  refine congrArg Text.concat (List.map_congr_left fun c _ => ?_)
  rw [chunk_without_comments h, line, String.append_assoc]
  rfl

end Body

/-- The lines of checks that end a GoogleSQL body. -/
theorem checkLines_googleSql {checks : List Check} (h : checks ≠ []) :
    checkLines .googleSql checks = Body.separated (checks.map Check.text) := by
  cases checks with
  | nil => exact absurd rfl h
  | cons k rest =>
    rw [Body.separated, List.map_map]
    rfl

/-- In the PostgreSQL dialect another line follows each check. -/
theorem checkLines_postgreSql (checks : List Check) :
    checkLines .postgreSql checks = Body.terminated (checks.map Check.text) := by
  cases checks with
  | nil => rfl
  | cons k rest =>
    have hne : (k :: rest).map Check.text ≠ [] := List.cons_ne_nil _ _
    rw [Body.terminated_eq hne, List.map_map]
    rfl

/-! ### The statement from its items -/

namespace Table

/-- The columns of a table, then its checks, as they are written. -/
def bodyItems (cfg : Config) (t : Table) (columns : List Column) : List String :=
  columns.map (Column.text cfg) ++ t.checks.map Check.text

/-- The clause of a primary key. -/
def keyClause (keys : String) : String := "PRIMARY KEY (" ++ keys ++ ")"

/-- The body of a table with a primary key, from its first line to its end. The PostgreSQL dialect has
the key as the last item of the body. In GoogleSQL it comes after the body, whose last line ends in a
comma only if it is not that of a check. -/
def closedBody (d : Dialect) (checks : List Check) (items : List String) (keys : String) : String :=
  match d with
  | .postgreSql => Body.separated (items ++ [keyClause keys]) ++ ")"
  | .googleSql =>
    (if checks = [] then Body.terminated items else Body.separated items) ++ ") " ++ keyClause keys

theorem closing_eq (d : Dialect) {keys : String} (h : keys ≠ "") :
    closing d keys = match d with
      | .googleSql => ") " ++ keyClause keys
      | .postgreSql => Body.separated [keyClause keys] ++ ")" := by
  unfold closing
  rw [if_neg h, ← String.toList_inj]
  cases d <;> simp [keyClause, Body.separated]

/-- **The pieces of a body are its items with commas between them.** -/
theorem body_eq_closedBody (d : Dialect) (checks : List Check) (columns : List String) {keys : String}
    (h : keys ≠ "") :
    Body.terminated columns ++ checkLines d checks ++ closing d keys =
      closedBody d checks (columns ++ checks.map Check.text) keys := by
  rw [closing_eq d h]
  cases d with
  | postgreSql =>
    rw [checkLines_postgreSql, ← Body.terminated_append]
    show _ ++ (_ ++ _) = _ ++ _
    rw [← String.append_assoc, Body.terminated_append_separated _ (List.cons_ne_nil _ _)]
  | googleSql =>
    unfold closedBody
    by_cases hchecks : checks = []
    · subst hchecks
      rw [if_pos rfl, List.map_nil, List.append_nil, String.append_assoc, String.append_assoc]
      rfl
    · have hne : checks.map Check.text ≠ [] := mt List.map_eq_nil_iff.mp hchecks
      rw [if_neg hchecks, checkLines_googleSql hchecks, Body.terminated_append_separated _ hne,
        String.append_assoc]

theorem keyText_singleton (cfg : Config) (t : Table) (part : KeyPart) :
    t.keyText cfg [part] = t.keyPartText cfg part := by
  rw [keyText, KeyPart.sorted, List.mergeSort_singleton, mapM_cons_eq]
  cases t.keyPartText cfg part <;> rfl

end Table

/-- **Commas of a body stand between its items.** A table that is written without comments and has a
primary key reads as its items do with commas between any two of them, however many columns and checks
there are. -/
theorem table_body_is_separated (cfg : Config) (s : Schema) (t : Table)
    (hcomments : cfg.comments = false) {text keys : String}
    (h : (t.create cfg s).outcome = .ok text) (hkeys : t.keyText cfg t.primaryKey = .ok keys)
    (hne : keys ≠ "") :
    ∃ columns, List.Forall₂ (fun id c => t.columns.get? id = some c) t.columnIds columns ∧
      text = "CREATE TABLE " ++ cfg.quote t.name ++ " (\n" ++
        Table.closedBody cfg.dialect t.checks (t.bodyItems cfg columns) keys ++
          t.interleavingText cfg s := by
  obtain ⟨columns, keys', hcolumns, hkeys', rfl⟩ := Table.create_eq_ok_iff.mp h
  cases hkeys'.symm.trans hkeys
  have hfound := (mapM_eq_ok_iff.mp hcolumns).imp fun _ _ hc => Table.column_eq_ok_iff.mp hc
  have hbody := Table.body_eq_closedBody cfg.dialect t.checks (columns.map (Column.text cfg)) hne
  refine ⟨columns, hfound, ?_⟩
  rw [Table.createText, Table.banner_without_comments hcomments, String.empty_append,
    Body.columnLines_without_comments hcomments, Table.bodyItems, ← hbody]
  simp only [String.append_assoc]

/-- A table with two columns and two checks. -/
def Table.checked : Table :=
  ((((((named "t1" "Singers").withColumn
    { id := "c1", name := "Id", type := .ofBase .int64, notNull := true }).withColumn
    { id := "c2", name := "Born", type := .ofBase .date }).withKeyPart
    { column := "c1", order := 1 }).withCheck
    { id := "k1", name := "positive", condition := "(Id > 0)" }).withCheck
    { id := "k2", condition := "(Born > '1900-01-01')" })

/-- The statement that creates it in the PostgreSQL dialect. -/
def Table.checkedText : String :=
  "CREATE TABLE Singers (\n\tId INT8 NOT NULL,\n\tBorn DATE,\n\tCONSTRAINT positive CHECK (Id > 0),\n" ++
    "\tCHECK (Born > '1900-01-01'),\n\tPRIMARY KEY (Id)\n)"

/-- The PostgreSQL dialect with names as they are. -/
def Config.unquoted : Config := { dialect := .postgreSql, protectNames := false }

open Table in
theorem table_body_is_separated_checked :
    Config.unquoted.comments = false ∧
      (checked.create .unquoted .empty).outcome = .ok checkedText ∧
        checked.keyText .unquoted checked.primaryKey = .ok "Id" ∧ "Id" ≠ "" ∧
          ∃ columns, List.Forall₂ (fun id c => checked.columns.get? id = some c) ["c1", "c2"] columns ∧
            checkedText = "CREATE TABLE " ++ Config.unquoted.quote "Singers" ++ " (\n" ++
              closedBody .postgreSql checked.checks (checked.bodyItems .unquoted columns) "Id" ++ "" := by
  have hkeys : checked.keyText .unquoted checked.primaryKey = .ok "Id" :=
    (keyText_singleton ..).trans (by decide)
  have hcreate : (checked.create .unquoted .empty).outcome = .ok checkedText :=
    create_eq_ok_iff.mpr ⟨_, _, rfl, hkeys, by decide +kernel⟩
  exact ⟨rfl, hcreate, hkeys, by decide,
    table_body_is_separated .unquoted .empty checked rfl hcreate hkeys (by decide)⟩

end SchemaScript
