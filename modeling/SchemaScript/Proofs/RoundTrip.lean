import SchemaScript.Json.Schema
import SchemaScript.Proofs.Forms

/-! The whole model in JSON and back.

Every type of the model is written as JSON and read back. One thing is lost on the way: a stated
limit equal to the number that stands for the greatest length is read as the greatest length.
Columns, tables and schemas lose it in their types and nothing else (`settled`); all other values
come back as they were, and so does every value that was read in the first place
(`values_come_back`). -/
namespace SchemaScript

/-! ### Lengths -/

/-- The length that is read back. -/
def Length.settled (l : Length) : Length := if l = .limit maxCode then .max else l

def ColumnType.settled (t : ColumnType) : ColumnType := { t with length := t.length.settled }

def Column.settled (c : Column) : Column := { c with type := c.type.settled }

def Table.settled (t : Table) : Table := { t with columns := t.columns.mapped Column.settled }

def Schema.settled (s : Schema) : Schema := { tables := s.tables.mapped Table.settled }

theorem Length.settled_ofCode (n : Int64) : (ofCode n).settled = ofCode n := by
  unfold ofCode
  split
  · rfl
  · rename_i h
    exact if_neg fun hl => h (Length.limit.inj hl)

namespace Json

/-! ### Named values -/

instance : Settles Dialect id where
  read_write := Dialect.ofLabel?_label
  write_ne_null _ := nofun
  settled _ := rfl

instance : Settles Source id where
  read_write := Source.ofLabel?_label
  write_ne_null _ := nofun
  settled _ := rfl

instance : Settles BaseType id where
  read_write := BaseType.ofName?_googleSqlName
  write_ne_null _ := nofun
  settled _ := rfl

instance : Settles Generation id where
  read_write := Generation.ofLabel?_label
  write_ne_null _ := nofun
  settled _ := rfl

instance : Settles Interleaving id where
  read_write := Interleaving.ofWords?_words
  write_ne_null _ := nofun
  settled _ := rfl

instance : Settles Distribution id where
  read_write := Distribution.ofLabel?_label
  write_ne_null _ := nofun
  settled _ := rfl

/-! ### Configurations and types -/

instance : Settles Config id := by
  refine .of_record configRecord (by decide) (fun c => ?_) (fun c => ?_) fun _ _ _ => rfl
  · simp only [configRecord, List.append_assoc]
    apply_rules [sublist_append, sublist_field, sublist_optionalField]
  · simp [configRecord, List.lookup_append]

instance : Settles Length Length.settled where
  read_write l := by
    show (read? (write l.code)).map Length.ofCode = _
    rw [read_write]
    exact congrArg some l.ofCode_code
  write_ne_null _ := nofun
  settled h := by
    obtain ⟨n, -, rfl⟩ := Option.map_eq_some_iff.mp h
    exact Length.settled_ofCode n

instance : Settles ColumnType ColumnType.settled := by
  refine .of_record columnTypeRecord (by decide) (fun t => ?_) (fun t => ?_) fun fs t h => ?_
  · simp only [columnTypeRecord, List.append_assoc]
    apply_rules [sublist_append, sublist_field, sublist_optionalField]
  · simp [columnTypeRecord, List.lookup_append, ColumnType.settled]
  · simp only [columnTypeRecord, Option.bind_eq_bind, Option.bind_eq_some_iff] at h
    obtain ⟨base, -, length, hlength, isArray, -, h⟩ := h
    cases h
    exact congrArg (ColumnType.mk base · isArray) (Fields.settled_of_orElse rfl hlength)

/-! ### Columns -/

instance : Settles Expression id := by
  refine .of_record expressionRecord (by decide) (fun e => ?_) (fun e => ?_) fun _ _ _ => rfl
  · simp only [expressionRecord]
    apply_rules [sublist_append, sublist_field, sublist_optionalField]
  · simp [expressionRecord, List.lookup_append]

instance : Settles DefaultValue id := by
  refine .of_record defaultValueRecord (by decide) (fun d => ?_) (fun d => ?_) fun _ _ _ => rfl
  · simp only [defaultValueRecord]
    apply_rules [sublist_append, sublist_field, sublist_optionalField]
  · simp [defaultValueRecord, List.lookup_append]

instance : Settles Generator id := by
  refine .of_record generatorRecord (by decide) (fun g => ?_) (fun g => ?_) fun _ _ _ => rfl
  · simp only [generatorRecord]
    apply_rules [sublist_append, sublist_field, sublist_optionalField]
  · simp [generatorRecord, List.lookup_append]

instance : Settles Column Column.settled := by
  refine .of_record columnRecord (by decide) (fun c => ?_) (fun c => ?_) fun fs c h => ?_
  · simp only [columnRecord, List.append_assoc]
    apply_rules [sublist_append, sublist_field, sublist_optionalField]
    split
    · exact List.nil_sublist _
    · exact sublist_field ..
  · by_cases h : c.options = ∅ <;>
      simp [columnRecord, List.lookup_append, Column.settled, Keyed.isEmpty_iff, h]
  · simp only [columnRecord, Option.bind_eq_bind, Option.bind_eq_some_iff] at h
    obtain ⟨id, -, name, -, type, htype, notNull, -, comment, -, generator, -, default, -, options,
      -, h⟩ := h
    cases h
    exact congrArg (Column.mk id name · notNull comment generator default options)
      (Fields.settled_of_required htype)

/-! ### Keys -/

instance : Settles KeyPart id := by
  refine .of_record keyPartRecord (by decide) (fun k => ?_) (fun k => ?_) fun _ _ _ => rfl
  · simp only [keyPartRecord, List.append_assoc]
    apply_rules [sublist_append, sublist_field, sublist_optionalField]
  · simp [keyPartRecord, List.lookup_append]

instance : Settles Index id := by
  refine .of_record indexRecord (by decide) (fun i => ?_) (fun i => ?_) fun _ _ _ => rfl
  · simp only [indexRecord, List.append_assoc]
    apply_rules [sublist_append, sublist_field, sublist_optionalField]
  · simp [indexRecord, List.lookup_append]

instance : Settles ForeignKey id := by
  refine .of_record foreignKeyRecord (by decide) (fun k => ?_) (fun k => ?_) fun _ _ _ => rfl
  · simp only [foreignKeyRecord, List.append_assoc]
    apply_rules [sublist_append, sublist_field, sublist_optionalField]
  · simp [foreignKeyRecord, List.lookup_append]

instance : Settles Check id := by
  refine .of_record checkRecord (by decide) (fun k => ?_) (fun k => ?_) fun _ _ _ => rfl
  · simp only [checkRecord, List.append_assoc]
    apply_rules [sublist_append, sublist_field, sublist_optionalField]
  · simp [checkRecord, List.lookup_append]

/-! ### Tables and schemas -/

instance : Settles Parent id := by
  refine .of_record parentRecord (by decide) (fun p => ?_) (fun p => ?_) fun _ _ _ => rfl
  · simp only [parentRecord, List.append_assoc]
    apply_rules [sublist_append, sublist_field, sublist_optionalField]
  · simp [parentRecord, List.lookup_append]

instance : Settles Table Table.settled := by
  refine .of_record tableRecord (by decide) (fun t => ?_) (fun t => ?_) fun fs t h => ?_
  · simp only [tableRecord, List.append_assoc]
    apply_rules [sublist_append, sublist_field, sublist_optionalField]
  · simp [tableRecord, List.lookup_append, Table.settled]
  · simp only [tableRecord, Option.bind_eq_bind, Option.bind_eq_some_iff] at h
    obtain ⟨id, -, name, -, columnIds, -, columns, hcolumns, primaryKey, -, foreignKeys, -, indexes,
      -, parent, -, checks, -, comment, -, h⟩ := h
    cases h
    exact congrArg
      (Table.mk id name columnIds · primaryKey foreignKeys indexes parent checks comment)
      (Fields.settled_of_orElse rfl hcolumns)

instance : Settles Schema Schema.settled where
  read_write s := by
    show (read? (write s.tables)).map _ = _
    rw [read_write]
    rfl
  write_ne_null _ := nofun
  settled h := by
    obtain ⟨tables, htables, rfl⟩ := Option.map_eq_some_iff.mp h
    exact congrArg Schema.mk (settled htables)

/-! ### Sequences -/

instance : Settles Sequence id := by
  refine .of_record sequenceRecord (by decide) (fun q => ?_) (fun q => ?_) fun _ _ _ => rfl
  · simp only [sequenceRecord, List.append_assoc]
    apply_rules [sublist_append, sublist_field, sublist_optionalField]
  · simp [sequenceRecord, List.lookup_append]

/-! ### There and back -/

/-- What is written is read back settled, and what has been read is read back as it is. -/
structure Reproduces (α : Type) [Form α] (settle : α → α) : Prop where
  back (a : α) : read? (write a) = some (settle a)
  again (v : Value) (a : α) (h : read? v = some a) : read? (write a) = some a

theorem Settles.reproduces {α : Type} [Form α] {settle : α → α} [Settles α settle] :
    Reproduces α settle where
  back := read_write
  again _ a h := by rw [read_write, settled h]

/-- **Values come back.** Whatever is written as JSON is read back, and it is what was written but
for lengths that equal the number of the greatest length; what came from JSON comes back exactly. -/
theorem values_come_back :
    Reproduces Config id ∧ Reproduces Schema Schema.settled ∧ Reproduces Table Table.settled ∧
      Reproduces Column Column.settled ∧ Reproduces ColumnType ColumnType.settled ∧
      Reproduces KeyPart id ∧ Reproduces Index id ∧ Reproduces ForeignKey id ∧
      Reproduces Check id ∧ Reproduces Parent id ∧ Reproduces Sequence id ∧
      Reproduces Expression id ∧ Reproduces DefaultValue id ∧ Reproduces Generator id :=
  ⟨Settles.reproduces, Settles.reproduces, Settles.reproduces, Settles.reproduces,
    Settles.reproduces, Settles.reproduces, Settles.reproduces, Settles.reproduces,
    Settles.reproduces, Settles.reproduces, Settles.reproduces, Settles.reproduces,
    Settles.reproduces, Settles.reproduces⟩

/-- A limit that cannot be told from the greatest length. -/
example : read? (write (ColumnType.mk .bytes (.limit Length.maxCode) true)) =
    some (ColumnType.mk .bytes .max true) := by decide

end Json

end SchemaScript
