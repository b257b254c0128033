import SchemaScript.Proofs.Mentions
import SchemaScript.Proofs.TableBody

/-! Tables that are written with a primary key, and tables that are not.

A statement has a clause for the key, behind the body or as its last line (`Table.Keyed`), or it has
none (`Table.Keyless`). Which of the two it is goes by the text of the key and not by its parts. The
text is empty if there are no parts; but it also is if there is one part, ascending, whose column has an
empty name, and names are written as they are (`Table.KeyReadsEmpty`). Such a key is left out. Every
other key is written (`key_clause_iff`). -/
namespace SchemaScript

/-- The end of a body with the clause of a key. -/
def keyedEnd (d : Dialect) (keys : String) : String :=
  match d with
  | .googleSql => ") " ++ Table.keyClause keys
  | .postgreSql => "\t" ++ Table.keyClause keys ++ "\n)"

theorem keyedEnd_ne (d : Dialect) (keys : String) : keyedEnd d keys ≠ ")" := by
  intro h
  have hlength := congrArg String.length h
  have hlonger : ")".length < "PRIMARY KEY (".length := by decide
  cases d with
  | googleSql =>
    simp only [keyedEnd, Table.keyClause, String.length_append] at hlength
    omega
  | postgreSql =>
    simp only [keyedEnd, Table.keyClause, String.length_append] at hlength
    omega

theorem closing_of_empty (d : Dialect) : closing d "" = ")" := by
  unfold closing
  rw [if_pos rfl]

theorem closing_of_keys (d : Dialect) {keys : String} (h : keys ≠ "") :
    closing d keys = keyedEnd d keys := by
  rw [Table.closing_eq d h]
  cases d with
  | googleSql => rfl
  | postgreSql =>
    show "\t" ++ Table.keyClause keys ++ "\n" ++ ")" = _
    exact String.append_assoc ..

theorem closing_eq_keyedEnd_iff (d : Dialect) (keys : String) :
    closing d keys = keyedEnd d keys ↔ keys ≠ "" := by
  refine ⟨fun h hempty => ?_, closing_of_keys d⟩
  rw [hempty, closing_of_empty] at h
  exact keyedEnd_ne d _ h.symm

theorem closing_eq_parenthesis_iff (d : Dialect) (keys : String) :
    closing d keys = ")" ↔ keys = "" := by
  refine ⟨fun h => ?_, fun h => h ▸ closing_of_empty d⟩
  by_contra hne
  rw [closing_of_keys d hne] at h
  exact keyedEnd_ne d _ h

/-! ### Names and keys that cannot be seen -/

/-- Whether a name that is not reserved is written without quotes. -/
def Config.WritesBare (c : Config) : Prop :=
  c.protectNames = false ∨ c.dialect = .postgreSql ∧ c.keepsCase = false

theorem Config.quote_eq_empty_iff (c : Config) (name : String) :
    c.quote name = "" ↔ name = "" ∧ c.WritesBare := by
  have hbackticks : Quoting.backticked name ≠ "" := by simp [Quoting.backticked]
  have hquotes : Quoting.doubleQuoted name ≠ "" := by simp [Quoting.doubleQuoted]
  have hreserved : Reserved.contains "" = false := by decide +kernel
  unfold WritesBare
  cases hprotect : c.protectNames with
  | false => simp [quote_bare hprotect]
  | true =>
    cases hdialect : c.dialect with
    | googleSql => simp [quote_googleSql hprotect hdialect, hbackticks]
    | postgreSql =>
      rw [quote_postgreSql hprotect hdialect]
      cases hcase : c.keepsCase with
      | true => simp [hquotes]
      | false =>
        by_cases hname : name = ""
        · simp [hname, hreserved]
        · cases hcontains : Reserved.contains name <;> simp [hname, hquotes]

namespace Table

variable {cfg : Config} {s : Schema} {t : Table} {part : KeyPart} {parts : List KeyPart}
  {columns : List Column} {text keys : String}

/-- Whether the key is there but nothing of it could be seen: it has one part, which is ascending, and
the column's name is empty and written as it is. -/
def KeyReadsEmpty (cfg : Config) (t : Table) : Prop :=
  ∃ part c, t.primaryKey = [part] ∧ part.descending = false ∧
    t.columns.get? part.column = some c ∧ c.name = "" ∧ cfg.WritesBare

theorem keyPartText_eq_empty_iff :
    t.keyPartText cfg part = .ok "" ↔
      ∃ c, part.descending = false ∧ t.columns.get? part.column = some c ∧ c.name = "" ∧
        cfg.WritesBare := by
  simp only [keyPartText, map_eq_ok_iff, columnName_eq_ok_iff]
  constructor
  · intro h
    obtain ⟨_, ⟨c, hc, rfl⟩, hempty⟩ := h
    cases hdesc : part.descending with
    | true => simp [hdesc] at hempty
    | false =>
      rw [hdesc, if_neg Bool.false_ne_true, cfg.quote_eq_empty_iff] at hempty
      exact ⟨c, rfl, hc, hempty⟩
  · intro h
    obtain ⟨c, hdesc, hc, hempty⟩ := h
    refine ⟨_, ⟨c, hc, rfl⟩, ?_⟩
    rw [hdesc, if_neg Bool.false_ne_true, (cfg.quote_eq_empty_iff _).mpr hempty]

/-- The text of a key is that of its parts in their order. -/
theorem keyText_eq_ok_iff :
    t.keyText cfg parts = .ok keys ↔
      ∃ pieces, List.Forall₂ (fun part piece => t.keyPartText cfg part = .ok piece)
        (KeyPart.sorted parts) pieces ∧ Text.joined ", " pieces = keys := by
  simp only [keyText, map_eq_ok_iff, mapM_eq_ok_iff]

theorem keyText_eq_empty_iff :
    t.keyText cfg t.primaryKey = .ok "" ↔ t.primaryKey = [] ∨ t.KeyReadsEmpty cfg := by
  have hperm := KeyPart.perm_sorted t.primaryKey
  constructor
  · intro h
    obtain ⟨pieces, hpieces, hempty⟩ := keyText_eq_ok_iff.mp h
    rcases (Text.joined_eq_empty_iff (by decide) pieces).mp hempty with rfl | rfl
    · rw [List.forall₂_nil_right_iff.mp hpieces] at hperm
      exact .inl hperm.nil_eq.symm
    · obtain ⟨part, _, hpart, hrest, hsorted⟩ := List.forall₂_cons_right_iff.mp hpieces
      cases List.forall₂_nil_right_iff.mp hrest
      rw [hsorted] at hperm
      obtain ⟨c, hc⟩ := keyPartText_eq_empty_iff.mp hpart
      exact .inr ⟨part, c, hperm.singleton_eq.symm, hc⟩
  · intro h
    rcases h with h | h
    · rw [h, keyText_nil]
    · obtain ⟨part, c, hkey, hc⟩ := h
      rw [hkey, keyText_singleton]
      exact keyPartText_eq_empty_iff.mpr ⟨c, hc⟩

/-! ### Layouts -/

/-- The statement up to the end of the body. -/
def opening (cfg : Config) (t : Table) (columns : List Column) : String :=
  t.banner cfg ++ "CREATE TABLE " ++ cfg.quote t.name ++ " (\n" ++ Body.columnLines cfg columns ++
    checkLines cfg.dialect t.checks

/-- What the statement reads if the body ends so, given the text of the key. -/
def ReadsWith (cfg : Config) (s : Schema) (t : Table) (bodyEnd : String → String) (text : String) :
    Prop :=
  ∃ columns pieces, List.Forall₂ (fun id c => t.columns.get? id = some c) t.columnIds columns ∧
    List.Forall₂ (fun part piece => t.keyPartText cfg part = .ok piece)
      (KeyPart.sorted t.primaryKey) pieces ∧
    text = t.opening cfg columns ++ bodyEnd (Text.joined ", " pieces) ++ t.interleavingText cfg s

/-- The statement has a clause for the parts of the key, where the dialect has it. -/
def Keyed (cfg : Config) (s : Schema) (t : Table) : String → Prop :=
  t.ReadsWith cfg s (keyedEnd cfg.dialect)

/-- The statement has no clause for a key. -/
def Keyless (cfg : Config) (s : Schema) (t : Table) : String → Prop := t.ReadsWith cfg s fun _ => ")"

theorem readsWith_iff (hcolumns : t.columnIds.mapM t.column = .ok columns)
    (hkeys : t.keyText cfg t.primaryKey = .ok keys) (bodyEnd : String → String) :
    t.ReadsWith cfg s bodyEnd (t.createText cfg s columns keys) ↔
      closing cfg.dialect keys = bodyEnd keys := by
  have htext : t.createText cfg s columns keys =
      t.opening cfg columns ++ closing cfg.dialect keys ++ t.interleavingText cfg s := rfl
  constructor
  · intro h
    obtain ⟨columns', pieces, hcolumns', hpieces, heq⟩ := h
    have hfound : t.columnIds.mapM t.column = .ok columns' :=
      mapM_eq_ok_iff.mpr (hcolumns'.imp fun _ _ hc => column_of_get? hc)
    cases hcolumns.symm.trans hfound
    cases hkeys.symm.trans (keyText_eq_ok_iff.mpr ⟨pieces, hpieces, rfl⟩)
    rwa [htext, String.append_left_inj, String.append_right_inj] at heq
  · intro h
    obtain ⟨pieces, hpieces, rfl⟩ := keyText_eq_ok_iff.mp hkeys
    refine ⟨columns, pieces, ?_, hpieces, ?_⟩
    · exact (mapM_eq_ok_iff.mp hcolumns).imp fun _ _ hc => column_eq_ok_iff.mp hc
    · rw [htext, h]

theorem keyed_iff (h : (t.create cfg s).outcome = .ok text)
    (hkeys : t.keyText cfg t.primaryKey = .ok keys) : t.Keyed cfg s text ↔ keys ≠ "" := by
  obtain ⟨columns, keys', hcolumns, hkeys', rfl⟩ := create_eq_ok_iff.mp h
  cases hkeys.symm.trans hkeys'
  rw [Keyed, readsWith_iff hcolumns hkeys, closing_eq_keyedEnd_iff]

theorem keyless_iff (h : (t.create cfg s).outcome = .ok text)
    (hkeys : t.keyText cfg t.primaryKey = .ok keys) : t.Keyless cfg s text ↔ keys = "" := by
  obtain ⟨columns, keys', hcolumns, hkeys', rfl⟩ := create_eq_ok_iff.mp h
  cases hkeys.symm.trans hkeys'
  rw [Keyless, readsWith_iff hcolumns hkeys, closing_eq_parenthesis_iff]

end Table

/-- **A key is written unless it has no parts or nothing of it could be seen.** -/
theorem key_clause_iff (cfg : Config) (s : Schema) (t : Table) {text : String}
    (h : (t.create cfg s).outcome = .ok text) :
    (t.Keyed cfg s text ↔ t.primaryKey ≠ [] ∧ ¬t.KeyReadsEmpty cfg) ∧
      (t.Keyless cfg s text ↔ t.primaryKey = [] ∨ t.KeyReadsEmpty cfg) := by
  obtain ⟨_, keys, _, hkeys, _⟩ := Table.create_eq_ok_iff.mp h
  have hempty : keys = "" ↔ t.primaryKey = [] ∨ t.KeyReadsEmpty cfg := by
    rw [← Table.keyText_eq_empty_iff, hkeys, Except.ok.injEq]
  rw [Table.keyed_iff h hkeys, Table.keyless_iff h hkeys, ← not_or, ← hempty]
  exact ⟨Iff.rfl, Iff.rfl⟩

/-- A table whose key is a column with an empty name. -/
def Table.nameless : Table :=
  ((named "t1" "T").withColumn { id := "c1", name := "", type := .ofBase .int64 }).withKeyPart
    { column := "c1", order := 1 }

/-- The PostgreSQL dialect with names in quotes only where they have to be. -/
def Config.folding : Config := { dialect := .postgreSql }

namespace Table

theorem create_nameless :
    (nameless.create {} .empty).outcome = .ok "CREATE TABLE `T` (\n\t`` INT64,\n) PRIMARY KEY (``)" :=
  create_eq_ok_iff.mpr ⟨_, "``", rfl, (keyText_singleton ..).trans (by decide), by decide +kernel⟩

theorem keyReadsEmpty_nameless : nameless.KeyReadsEmpty .folding :=
  ⟨_, _, rfl, rfl, rfl, rfl, .inr ⟨rfl, rfl⟩⟩

theorem keyText_nameless : nameless.keyText .folding nameless.primaryKey = .ok "" :=
  keyText_eq_empty_iff.mpr (.inr keyReadsEmpty_nameless)

theorem create_nameless_folding :
    (nameless.create .folding .empty).outcome = .ok "CREATE TABLE T (\n\t INT8,\n)" :=
  create_eq_ok_iff.mpr ⟨_, "", rfl, keyText_nameless, by decide +kernel⟩

end Table

open Table in
theorem key_clause_iff_nameless :
    (nameless.create {} .empty).outcome =
        .ok "CREATE TABLE `T` (\n\t`` INT64,\n) PRIMARY KEY (``)" ∧
      nameless.Keyed {} .empty "CREATE TABLE `T` (\n\t`` INT64,\n) PRIMARY KEY (``)" ∧
        (nameless.create .folding .empty).outcome = .ok "CREATE TABLE T (\n\t INT8,\n)" ∧
          nameless.Keyless .folding .empty "CREATE TABLE T (\n\t INT8,\n)" := by
  have hquoted : ¬nameless.KeyReadsEmpty {} := by
    intro h
    obtain ⟨_, _, _, _, _, _, hbare⟩ := h
    rcases hbare with h | h
    · cases h
    · cases h.1
  have hkeyed := (key_clause_iff {} .empty nameless create_nameless).1
  have hkeyless := (key_clause_iff .folding .empty nameless create_nameless_folding).2
  exact ⟨create_nameless, hkeyed.mpr ⟨List.cons_ne_nil _ _, hquoted⟩, create_nameless_folding,
    hkeyless.mpr (.inr keyReadsEmpty_nameless)⟩

/-- A key with parts is not always written: of this one the text is empty. -/
theorem key_clause_missing :
    ¬∀ (cfg : Config) (s : Schema) (t : Table) (text : String), (t.create cfg s).outcome = .ok text →
      (t.Keyed cfg s text ↔ t.primaryKey ≠ []) := by
  intro h
  have hkeyed := (h .folding .empty .nameless _ Table.create_nameless_folding).mpr
    (List.cons_ne_nil _ _)
  exact (Table.keyed_iff Table.create_nameless_folding Table.keyText_nameless).mp hkeyed rfl

end SchemaScript
