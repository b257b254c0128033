import SchemaScript.Proofs.Mentions
import SchemaScript.Proofs.TableBody

/-! Key columns among the stored columns of an index.

An index carries the columns of its table's primary key anyway. So their ids may stand anywhere in its
list of stored columns, any number of times and defined or not: adding one or taking one away
(`Table.StoredEdit`) changes neither the statement nor its fault. The other ids are named in a clause of
their own, in the order of the list and as often as it has them, and the clause is there exactly if
there is such an id (`key_columns_go_unstored`). -/
namespace SchemaScript

/-- One id of a key column more or less, anywhere in a list of stored columns. -/
inductive Table.StoredEdit (t : Table) : List String → List String → Prop
  | insert (before after : List String) {part : KeyPart} (h : part ∈ t.primaryKey) :
    StoredEdit t (before ++ after) (before ++ part.column :: after)
  | delete (before after : List String) {part : KeyPart} (h : part ∈ t.primaryKey) :
    StoredEdit t (before ++ part.column :: after) (before ++ after)

namespace Index

/-- The statement up to the columns that the index stores. -/
def heading (cfg : Config) (t : Table) (i : Index) (keys : String) : String :=
  "CREATE " ++ (if i.unique then "UNIQUE " else "") ++ "INDEX " ++ cfg.quote i.name ++ " ON " ++
    cfg.quote t.name ++ " (" ++ keys ++ ")"

variable {cfg : Config} {t : Table} {i j : Index} {xs ys : List String} {text : String}

theorem createText_eq (keys storing : String) :
    i.createText cfg t keys storing = i.heading cfg t keys ++ storing := rfl

/-! ### What is left of a list -/

theorem extraColumns_eq (t : Table) (i : Index) :
    i.extraColumns t = i.stored.filter fun id => ∀ part ∈ t.primaryKey, part.column ≠ id := by
  refine List.filter_congr fun id _ => ?_
  rw [Bool.eq_iff_iff]
  simp [Table.isKeyColumn]

theorem extraColumns_insert (before after : List String) {part : KeyPart}
    (h : part ∈ t.primaryKey) :
    extraColumns { i with stored := before ++ part.column :: after } t =
      extraColumns { i with stored := before ++ after } t := by
  have hkey : t.isKeyColumn part.column = true := List.any_eq_true.mpr ⟨part, h, beq_self_eq_true _⟩
  simp [extraColumns, List.filter_append, hkey]

theorem extraColumns_of_edit (h : t.StoredEdit xs ys) :
    extraColumns { i with stored := ys } t = extraColumns { i with stored := xs } t := by
  cases h with
  | insert before after h => exact extraColumns_insert before after h
  | delete before after h => exact (extraColumns_insert before after h).symm

/-- Any number of edits leaves what is not a key column. -/
theorem extraColumns_of_edits (h : Relation.ReflTransGen t.StoredEdit xs ys) :
    extraColumns { i with stored := ys } t = extraColumns { i with stored := xs } t := by
  induction h with
  | refl => rfl
  | tail _ hstep ih => exact (extraColumns_of_edit hstep).trans ih

theorem storingClause_congr (h : i.extraColumns t = j.extraColumns t) :
    i.storingClause cfg t = j.storingClause cfg t := by
  unfold storingClause
  rw [h]

/-- Of the stored columns an index reads nothing but those that are left. -/
theorem create_of_edits (h : Relation.ReflTransGen t.StoredEdit i.stored ys) :
    create cfg t { i with stored := ys } = i.create cfg t := by
  have hclause : storingClause cfg t { i with stored := ys } = i.storingClause cfg t :=
    storingClause_congr (extraColumns_of_edits h)
  unfold create
  rw [hclause]
  rfl

/-! ### The clause -/

theorem storingClause_of_none (h : i.extraColumns t = []) : i.storingClause cfg t = .ok "" := by
  unfold storingClause
  rw [h]

theorem storingClause_of_some (h : i.extraColumns t ≠ []) :
    i.storingClause cfg t =
      (t.columnNames cfg (i.extraColumns t)).map (storingText cfg.dialect) := by
  unfold storingClause
  split
  · contradiction
  · rfl

theorem storingClause_eq_ok_iff :
    i.storingClause cfg t = .ok text ↔
      ∃ names, List.Forall₂ (fun id name => t.columnName cfg id = .ok name) (i.extraColumns t) names ∧
        text = if i.extraColumns t ≠ [] then storingText cfg.dialect (Text.joined ", " names)
          else "" := by
  by_cases hextra : i.extraColumns t = []
  · rw [storingClause_of_none hextra, hextra]
    simp [eq_comm]
  · simp only [storingClause_of_some hextra, if_pos hextra, Table.columnNames, map_eq_ok_iff,
      mapM_eq_ok_iff]
    constructor
    · intro h
      obtain ⟨_, ⟨names, hnames, rfl⟩, rfl⟩ := h
      exact ⟨names, hnames, rfl⟩
    · intro h
      obtain ⟨names, hnames, rfl⟩ := h
      exact ⟨_, ⟨names, hnames, rfl⟩, rfl⟩

theorem extraColumns_ne_nil_iff :
    i.extraColumns t ≠ [] ↔ ∃ id ∈ i.stored, ∀ part ∈ t.primaryKey, part.column ≠ id := by
  simp only [ne_eq, List.eq_nil_iff_forall_not_mem, mem_extraColumns, not_forall, not_not]

end Index

/-- **Key columns do not show among the stored columns of an index.** The run of the index is the same
with more of them or fewer, and its statement ends in the names of the others. -/
theorem key_columns_go_unstored (cfg : Config) (t : Table) (i : Index) :
    (∀ stored, Relation.ReflTransGen t.StoredEdit i.stored stored →
      Index.create cfg t { i with stored } = i.create cfg t) ∧
      ∀ text, (i.create cfg t).outcome = .ok text →
        ∃ keys names, t.keyText cfg i.keys = .ok keys ∧
          List.Forall₂ (fun id name => ∃ c, t.columns.get? id = some c ∧ cfg.quote c.name = name)
            (i.stored.filter fun id => ∀ part ∈ t.primaryKey, part.column ≠ id) names ∧
          text = i.heading cfg t keys ++
            if ∃ id ∈ i.stored, ∀ part ∈ t.primaryKey, part.column ≠ id then
              " " ++ cfg.dialect.storingWord ++ " (" ++ Text.joined ", " names ++ ")"
            else "" := by
  refine ⟨fun stored h => Index.create_of_edits h, fun text h => ?_⟩
  obtain ⟨keys, storing, hkeys, hstoring, rfl⟩ := Index.create_eq_ok_iff.mp h
  obtain ⟨names, hnames, rfl⟩ := Index.storingClause_eq_ok_iff.mp hstoring
  refine ⟨keys, names, hkeys, ?_, ?_⟩
  · rw [← Index.extraColumns_eq]
    exact hnames.imp fun _ _ hname => Table.columnName_eq_ok_iff.mp hname
  · simp only [← Index.extraColumns_ne_nil_iff]
    exact Index.createText_eq ..

/-- A table whose key has a part that the table does not define. -/
def Table.halfKeyed : Table :=
  { ((named "t1" "Singers").withColumn { id := "c1", name := "Id", type := .ofBase .int64 }).withColumn
      { id := "c2", name := "Born", type := .ofBase .date } with
    primaryKey := [⟨"c1", false, 1⟩, ⟨"c9", false, 2⟩] }

/-- An index that stores both parts of that key, and another column twice. -/
def Index.crammed : Index :=
  { id := "i1", name := "ByBirth", tableId := "t1", keys := [⟨"c2", false, 1⟩],
    stored := ["c2", "c9", "c1", "c2"] }

open Table Index in
theorem key_columns_go_unstored_crammed :
    Relation.ReflTransGen halfKeyed.StoredEdit crammed.stored ["c2", "c2"] ∧
      create {} halfKeyed { crammed with stored := ["c2", "c2"] } = crammed.create {} halfKeyed ∧
        (crammed.create {} halfKeyed).outcome =
            .ok "CREATE INDEX `ByBirth` ON `Singers` (`Born`) STORING (`Born`, `Born`)" ∧
          ∃ keys names, halfKeyed.keyText {} crammed.keys = .ok keys ∧
            List.Forall₂ (fun id name => ∃ c, halfKeyed.columns.get? id = some c ∧
              Config.quote {} c.name = name) ["c2", "c2"] names ∧
            "CREATE INDEX `ByBirth` ON `Singers` (`Born`) STORING (`Born`, `Born`)" =
              crammed.heading {} halfKeyed keys ++ (" STORING (" ++ Text.joined ", " names ++ ")") := by
  have hone : ⟨"c1", false, 1⟩ ∈ halfKeyed.primaryKey := by decide
  have htwo : ⟨"c9", false, 2⟩ ∈ halfKeyed.primaryKey := by decide
  have hedits : Relation.ReflTransGen halfKeyed.StoredEdit crammed.stored ["c2", "c2"] :=
    .tail (.single (.delete ["c2"] ["c1", "c2"] htwo)) (.delete ["c2"] ["c2"] hone)
  have hkeys : halfKeyed.keyText {} crammed.keys = .ok "`Born`" :=
    (keyText_singleton ..).trans (by decide)
  have hcreate : (crammed.create {} halfKeyed).outcome =
      .ok "CREATE INDEX `ByBirth` ON `Singers` (`Born`) STORING (`Born`, `Born`)" :=
    create_eq_ok_iff.mpr ⟨_, " STORING (`Born`, `Born`)", hkeys, by decide, by decide⟩
  obtain ⟨hsame, hclause⟩ := key_columns_go_unstored {} halfKeyed crammed
  exact ⟨hedits, hsame _ hedits, hcreate, hclause _ hcreate⟩

end SchemaScript
