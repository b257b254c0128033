import SchemaScript.Script.Column
import SchemaScript.Proofs.Parentheses

/-! Defaults of columns.

After its name, its type and `NOT NULL` a column has a `DEFAULT` clause for its default expression and
one for its generator, each if there is one. A reader who passes over what stands in parentheses counts
as many (`defaults_of_column`): two for a column that has both.

A default expression is cast to the base type of its column, whatever else the type says. The type that
is written before it is that type, or that type with a length, exactly if it is not an array
(`default_cast_fits_iff`). -/
namespace SchemaScript

/-! ### Clauses -/

/-- Whether a generator has a clause, and so a default, of its own. -/
def Generator.writes (g : Generator) : Bool := g.isUuid || g.generation = .sequence

theorem generatorClause_of_not_writes {g : Generator} (h : g.writes = false) (d : Dialect) :
    generatorClause d g = "" := by
  rw [Generator.writes, Bool.or_eq_false_iff, decide_eq_false_iff_not] at h
  rw [generatorClause, h.1, if_neg h.2]
  rfl

theorem generatorClause_of_writes {g : Generator} (h : g.writes = true) (d : Dialect) :
    generatorClause d g = uuidClause d ∨
      g.generation = .sequence ∧ generatorClause d g = nextValueClause g.name d := by
  unfold generatorClause
  by_cases huuid : g.isUuid = true
  · exact .inl (if_pos huuid)
  · rw [Generator.writes, Bool.or_eq_true, or_iff_right huuid, decide_eq_true_eq] at h
    rw [if_neg huuid, if_pos h]
    exact .inr ⟨h, rfl⟩

namespace Column

/-- What every column has: its name, its type and whether it may be null. -/
def heading (cfg : Config) (c : Column) : String :=
  cfg.quote c.name ++ " " ++ c.type.text cfg.dialect ++ (if c.notNull then " NOT NULL" else "")

theorem text_eq (cfg : Config) (c : Column) :
    c.text cfg = c.heading cfg ++
      (c.defaultText cfg.dialect ++ (generatorClause cfg.dialect c.generator ++ c.optionsText)) := by
  simp only [text, heading, String.append_assoc]

/-- The clauses of a column that give it a default. -/
def defaultClauses (d : Dialect) (c : Column) : List String :=
  (if c.default.present then [c.defaultText d] else []) ++
    (if c.generator.writes then [generatorClause d c.generator] else [])

theorem defaultText_of_not_present {c : Column} (h : c.default.present = false) (d : Dialect) :
    c.defaultText d = "" := by
  simp [defaultText, DefaultValue.text?, h]

theorem concat_defaultClauses (d : Dialect) (c : Column) :
    Text.concat (c.defaultClauses d) = c.defaultText d ++ generatorClause d c.generator := by
  rw [defaultClauses, Text.concat_append]
  congr 1
  · cases hpresent : c.default.present
    · exact (defaultText_of_not_present hpresent d).symm
    · exact String.append_empty
  · cases hwrites : c.generator.writes
    · exact (generatorClause_of_not_writes hwrites d).symm
    · exact String.append_empty

/-- Whatever the column writes as it was given has its parentheses in pairs. -/
structure Closed (c : Column) : Prop where
  default : ∀ text, c.default.text? = some text → Text.Closed text
  generator : c.generator.generation = .sequence → Text.Closed c.generator.name
  options : ∀ type, c.cassandraType? = some type → Text.Closed type

end Column

open Text

theorem closed_name (d : Dialect) (t : BaseType) : Text.Closed (t.name d) := by
  cases d <;> cases t <;> decide +kernel

theorem leaves_defaultClause (d : Dialect) (t : BaseType) {text : String} (h : Text.Closed text) :
    Leaves (defaultClause d t text) " DEFAULT " := by
  unfold defaultClause
  split
  · have hwords : Text.Closed (" AS " ++ t.name d) := .append (by decide) (closed_name d t)
    have hcast : Text.Closed ("CAST" ++ ("(" ++ (text ++ (" AS " ++ t.name d)) ++ ")")) :=
      .append (by decide) (.parenthesized (h.append hwords))
    exact leaves_parenthesized (by decide) hcast (by simp)
  · exact leaves_parenthesized (by decide) h (by simp)

theorem leaves_uuidClause (d : Dialect) : Leaves (uuidClause d) " DEFAULT " := by
  cases d with
  | googleSql =>
    have hcall : Text.Closed "GENERATE_UUID()" := by decide
    exact leaves_parenthesized (by decide) hcall (by decide)
  | postgreSql =>
    have hcall : Text.Closed "spanner.generate_uuid()" := by decide
    exact leaves_parenthesized (by decide) hcall (by decide)

theorem leaves_nextValueClause (d : Dialect) {sequence : String} (h : Text.Closed sequence) :
    Leaves (nextValueClause sequence d) " DEFAULT " ∨
      Leaves (nextValueClause sequence d) " DEFAULT NEXTVAL" := by
  cases d with
  | googleSql =>
    left
    have hnext : Text.Closed ("GET_NEXT_SEQUENCE_VALUE" ++ ("(" ++ ("SEQUENCE " ++ sequence) ++ ")")) :=
      .append (by decide) (.parenthesized (.append (by decide) h))
    unfold nextValueClause
    exact leaves_parenthesized (by decide) hnext (by simp)
  | postgreSql =>
    -- Here the function itself stands before the parentheses.
    right
    have hquoted : Text.Closed ("'" ++ (sequence ++ "'")) := .append (by decide) (h.append (by decide))
    unfold nextValueClause
    exact leaves_parenthesized (by decide) hquoted (by simp)

/-- What a generator leaves of its clause. -/
def generatorWords (writes : Bool) : List String :=
  if writes then [" DEFAULT ", " DEFAULT NEXTVAL"] else [""]

theorem leaves_generatorClause (d : Dialect) {g : Generator}
    (hname : g.generation = .sequence → Text.Closed g.name) :
    ∃ outside ∈ generatorWords g.writes, Leaves (generatorClause d g) outside := by
  cases hwrites : g.writes with
  | false =>
    rw [generatorClause_of_not_writes hwrites]
    exact ⟨"", List.mem_singleton_self _, leaves_empty⟩
  | true =>
    rcases generatorClause_of_writes hwrites d with huuid | ⟨hsequence, hnext⟩
    · rw [huuid]
      exact ⟨" DEFAULT ", by decide, leaves_uuidClause d⟩
    · rw [hnext]
      rcases leaves_nextValueClause d (hname hsequence) with hvalue | hvalue
      · exact ⟨" DEFAULT ", by decide, hvalue⟩
      · exact ⟨" DEFAULT NEXTVAL", by decide, hvalue⟩

namespace Column

theorem leaves_defaultText (d : Dialect) {c : Column}
    (h : ∀ text, c.default.text? = some text → Text.Closed text) :
    Leaves (c.defaultText d) (if c.default.present then " DEFAULT " else "") := by
  cases hpresent : c.default.present with
  | false =>
    rw [defaultText_of_not_present hpresent]
    exact leaves_empty
  | true =>
    have htext : c.default.text? = some c.default.value.text := if_pos hpresent
    rw [defaultText, htext, if_pos rfl]
    exact leaves_defaultClause d c.type.base (h _ htext)

theorem leaves_optionsText {c : Column}
    (h : ∀ type, c.cassandraType? = some type → Text.Closed type) :
    ∃ outside ∈ ["", " OPTIONS "], Leaves c.optionsText outside := by
  unfold optionsText
  cases htype : c.cassandraType? with
  | none => exact ⟨"", by decide, leaves_empty⟩
  | some type =>
    have hsetting : Text.Closed (cassandraTypeOption ++ " = '" ++ (type ++ "'")) :=
      .append (by decide) ((h type htype).append (by decide))
    exact ⟨" OPTIONS ", by decide, leaves_parenthesized (by decide) hsetting (by simp)⟩

theorem length_defaultClauses (d : Dialect) (c : Column) :
    (c.defaultClauses d).length = c.default.present.toNat + c.generator.writes.toNat := by
  unfold defaultClauses
  cases c.default.present <;> cases c.generator.writes <;> rfl

end Column

/-- How often the word `DEFAULT` stands among words with blanks between them. -/
def defaultWords (words : List Char) : Nat := (words.splitOn ' ').count "DEFAULT".toList

theorem defaultWords_eq : ∀ present writes : Bool, ∀ generator ∈ generatorWords writes,
    ∀ options ∈ ["", " OPTIONS "],
      defaultWords ((if present then " DEFAULT " else "") ++ (generator ++ options)).toList =
        present.toNat + writes.toNat := by
  decide +kernel

theorem defaultClause_begins (d : Dialect) (t : BaseType) (text : String) :
    " DEFAULT ".toList <+: (defaultClause d t text).toList := by
  unfold defaultClause
  split <;> simp

theorem generatorClause_begins (d : Dialect) {g : Generator} (h : g.writes = true) :
    " DEFAULT ".toList <+: (generatorClause d g).toList := by
  rcases generatorClause_of_writes h d with huuid | ⟨_, hnext⟩
  · rw [huuid]
    cases d <;> decide
  · rw [hnext]
    unfold nextValueClause
    cases d <;> simp

theorem Column.defaultClauses_begin (d : Dialect) {c : Column} {clause : String}
    (h : clause ∈ c.defaultClauses d) : " DEFAULT ".toList <+: clause.toList := by
  rcases List.mem_append.mp h with hmem | hmem
  · obtain ⟨hpresent, hmem⟩ := List.mem_ite_nil_right.mp hmem
    have htext : c.default.text? = some c.default.value.text := if_pos hpresent
    rw [List.mem_singleton.mp hmem, defaultText, htext]
    exact defaultClause_begins ..
  · obtain ⟨hwrites, hmem⟩ := List.mem_ite_nil_right.mp hmem
    rw [List.mem_singleton.mp hmem]
    exact generatorClause_begins d hwrites

theorem Column.defaultWords_eq_length (d : Dialect) {c : Column} (h : c.Closed) :
    defaultWords (Text.outer 0 (Text.concat (c.defaultClauses d) ++ c.optionsText).toList) =
      (c.defaultClauses d).length := by
  obtain ⟨generator, hgenerator, hleft⟩ := leaves_generatorClause d h.generator
  obtain ⟨options, hoptions, hlast⟩ := c.leaves_optionsText h.options
  have hwhole := (leaves_defaultText d h.default).append (hleft.append hlast)
  rw [concat_defaultClauses, String.append_assoc, hwhole.outer_eq, length_defaultClauses]
  exact defaultWords_eq _ _ generator hgenerator options hoptions

/-- **A default and a generator each bring a default of their own.** Where no text that the column was
given breaks up its parentheses, so does a reader find it who passes over them. -/
theorem defaults_of_column (cfg : Config) (c : Column) :
    c.text cfg = c.heading cfg ++ (Text.concat (c.defaultClauses cfg.dialect) ++ c.optionsText) ∧
      (∀ clause ∈ c.defaultClauses cfg.dialect, " DEFAULT ".toList <+: clause.toList) ∧
        ((c.defaultClauses cfg.dialect).length ≤ 1 ↔
          ¬(c.default.present = true ∧ c.generator.writes = true)) ∧
            (c.Closed → defaultWords
              (Text.outer 0 (Text.concat (c.defaultClauses cfg.dialect) ++ c.optionsText).toList) =
                (c.defaultClauses cfg.dialect).length) := by
  refine ⟨?_, fun _ h => c.defaultClauses_begin _ h, ?_, fun h => c.defaultWords_eq_length _ h⟩
  · rw [c.text_eq, c.concat_defaultClauses, String.append_assoc]
  · rw [c.length_defaultClauses]
    cases c.default.present <;> cases c.generator.writes <;> decide

/-- A column with a default of its own and a generator besides. -/
def Column.filledTwice : Column :=
  { id := "c1", name := "Id", type := .ofBase .string, default := .ofText "'none'", generator := .uuid }

theorem Column.closed_filledTwice : filledTwice.Closed where
  default := fun text h => by
    cases h
    decide
  generator := nofun
  options := nofun

theorem defaults_of_column_filledTwice :
    Column.filledTwice.Closed ∧
      defaultWords (Text.outer 0 " DEFAULT ('none') DEFAULT (GENERATE_UUID())".toList) = 2 :=
  ⟨Column.closed_filledTwice,
    (defaults_of_column {} Column.filledTwice).2.2.2 Column.closed_filledTwice⟩

/-- A default and a generator make two `DEFAULT` clauses in one column. -/
theorem defaults_not_unique :
    Column.filledTwice.text {} =
        "`Id` STRING(MAX)" ++ " DEFAULT ('none') DEFAULT (GENERATE_UUID())" ∧
      Column.filledTwice.heading {} = "`Id` STRING(MAX)" ∧
        ¬defaultWords (Text.outer 0 " DEFAULT ('none') DEFAULT (GENERATE_UUID())".toList) ≤ 1 := by
  decide +kernel

/-! ### Casts -/

/-- A name of a type, alone or with a length. -/
inductive ColumnType.Named (name : String) : String → Prop
  | alone : Named name name
  | greatest : Named name (name ++ "(MAX)")
  | limited (n : Int64) : Named name (sized name n)

/-- A default that is cast to `target`. -/
def castClause (text target : String) : String := " DEFAULT (CAST(" ++ text ++ " AS " ++ target ++ "))"

theorem castClause_inj {text target other : String}
    (h : castClause text target = castClause text other) : target = other := by
  unfold castClause at h
  rw [← String.toList_inj] at h ⊢
  simpa using h

/-- A default without a cast is too short to be one with a cast. -/
theorem ne_castClause (text target : String) :
    " DEFAULT (" ++ text ++ ")" ≠ castClause text target := by
  intro h
  have hlength := congrArg String.length h
  have hlonger : " DEFAULT (".length + ")".length < " DEFAULT (CAST(".length := by decide
  unfold castClause at hlength
  simp only [String.length_append] at hlength
  omega

/-- A default reads as cast only if it is, and then to the base type of its column. -/
theorem defaultClause_eq_castClause_iff (d : Dialect) (t : BaseType) (text target : String) :
    defaultClause d t text = castClause text target ↔ t.castsDefault d = true ∧ target = t.name d := by
  unfold defaultClause
  by_cases hcast : t.castsDefault d = true
  · rw [if_pos hcast, and_iff_right hcast]
    exact ⟨fun h => (castClause_inj h).symm, fun h => h ▸ rfl⟩
  · rw [if_neg hcast]
    exact ⟨fun h => absurd h (ne_castClause text target), fun h => absurd h.1 hcast⟩

namespace ColumnType

theorem Named.begins {name printed : String} (h : Named name printed) :
    name.toList <+: printed.toList := by
  cases h with
  | alone => exact List.prefix_rfl
  | greatest => simp
  | limited n => simp [sized]

/-- A type that is no array is printed by its name, with a length if it has one. -/
theorem named_text (d : Dialect) {t : ColumnType} (h : t.isArray = false) :
    Named (t.base.name d) (t.text d) := by
  cases d with
  | googleSql =>
    show Named t.base.googleSqlName t.googleSqlText
    rw [googleSqlText, if_neg (ne_true_of_eq_false h), googleSqlElement]
    split
    · split
      · exact .greatest
      · exact .limited _
    · exact .alone
  | postgreSql =>
    show Named (t.base.name .postgreSql) t.postgreSqlText
    rw [postgreSqlText, if_neg (ne_true_of_eq_false h)]
    split
    · split
      · exact .limited _
      · exact .limited _
    · exact .alone

/-- What a cast is to and what is printed for an array do not begin alike. -/
theorem head?_name_of_cast {d : Dialect} {t : BaseType} (h : t.castsDefault d = true) :
    (t.name d).toList.head? ∈ [some 'F', some 'N', some 'B'] := by
  revert h
  cases d <;> cases t <;> decide

theorem head?_text_of_array (d : Dialect) {t : ColumnType} (h : t.isArray = true) :
    (t.text d).toList.head? ∈ [some 'A', some 'V'] := by
  cases d with
  | googleSql =>
    rw [text, googleSqlText, if_pos h]
    simp
  | postgreSql =>
    rw [text, postgreSqlText, if_pos h]
    simp [sized]

theorem named_text_iff {d : Dialect} {t : ColumnType} (h : t.base.castsDefault d = true) :
    Named (t.base.name d) (t.text d) ↔ t.isArray = false := by
  refine ⟨fun hnamed => Bool.eq_false_iff.mpr fun harray => ?_, named_text d⟩
  have hname := head?_name_of_cast h
  have htext := head?_text_of_array d harray
  obtain ⟨rest, hrest⟩ := hnamed.begins
  rw [← hrest, List.head?_append] at htext
  simp only [List.mem_cons, List.not_mem_nil, or_false] at hname
  rcases hname with hname | hname | hname <;> simp [hname] at htext

end ColumnType

/-- **A default is cast to the base type of its column**, which is the type that is printed for the
column, alone or with a length, exactly if that is no array. -/
theorem default_cast_fits_iff (cfg : Config) (c : Column) {text target : String}
    (h : c.default.text? = some text)
    (hcast : c.text cfg = c.heading cfg ++
      (castClause text target ++ (generatorClause cfg.dialect c.generator ++ c.optionsText))) :
    target = c.type.base.name cfg.dialect ∧
      (ColumnType.Named target (c.type.text cfg.dialect) ↔ c.type.isArray = false) := by
  have hclause : defaultClause cfg.dialect c.type.base text = castClause text target := by
    rw [c.text_eq, Column.defaultText, h] at hcast
    exact (String.append_left_inj _).mp ((String.append_right_inj _).mp hcast)
  obtain ⟨hcasts, rfl⟩ := (defaultClause_eq_castClause_iff ..).mp hclause
  exact ⟨rfl, ColumnType.named_text_iff hcasts⟩

/-- A limited text of bytes with a default. -/
def Column.stamped : Column :=
  { id := "c1", name := "Mark", type := { base := .bytes, length := .limit 16 },
    default := .ofText "b'none'" }

theorem default_cast_fits_iff_stamped :
    Column.stamped.text {} = "`Mark` BYTES(16) DEFAULT (CAST(b'none' AS BYTES))" ∧
      ColumnType.Named "BYTES" "BYTES(16)" := by
  have hcast : Column.stamped.text {} = Column.stamped.heading {} ++ (castClause "b'none'" "BYTES" ++
      (generatorClause .googleSql Column.stamped.generator ++ Column.stamped.optionsText)) := by
    decide +kernel
  refine ⟨by decide +kernel, ?_⟩
  exact (default_cast_fits_iff {} Column.stamped rfl hcast).2.mpr rfl

/-- An array with a default. -/
def Column.flags : Column :=
  { id := "c1", name := "Flags", type := { base := .bool, isArray := true }, default := .ofText "[true]" }

/-- The default of an array is cast to the type of its elements. -/
theorem cast_of_array_default :
    Column.flags.text {} = "`Flags` ARRAY<BOOL>" ++ castClause "[true]" "BOOL" ∧
      Column.flags.type.text .googleSql = "ARRAY<BOOL>" ∧ ¬ColumnType.Named "BOOL" "ARRAY<BOOL>" := by
  refine ⟨by decide +kernel, by decide +kernel, fun hnamed => ?_⟩
  exact absurd hnamed.begins (by decide)

end SchemaScript
