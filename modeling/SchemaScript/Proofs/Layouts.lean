import SchemaScript.Json.Schema
import SchemaScript.Proofs.Regularity
import Mathlib.Logic.Relation

/-! The layouts of the model.

Each type of the model has its layout in JSON: which fields its record has, which of them are required,
and what the others are without a value. Every type is read the same however its JSON is presented, and
not at all where a required field is missing (`presentation_does_not_matter`). -/
namespace SchemaScript.Json

/-! ### Names and lengths -/

instance : Regular Dialect .plain := .of_plain fun _ _ => readNamed_same _

instance : Regular Source .plain := .of_plain fun _ _ h => by cases h <;> rfl

instance : Regular BaseType .plain := .of_plain fun _ _ => readNamed_same _

instance : Regular Generation .plain := .of_plain fun _ _ => readNamed_same _

instance : Regular Interleaving .plain := .of_plain fun _ _ => readNamed_same _

instance : Regular Distribution .plain := .of_plain fun _ _ => readNamed_same _

instance : Regular Length .plain := .of_plain fun _ _ h => by cases h <;> rfl

/-! ### Configurations and columns -/

def configLayout : Layout := .record
  [.orElse "comments" false .plain, .orElse "protect_ids" true .plain, .orElse "tables" true .plain,
   .orElse "foreign_keys" true .plain, .orElse "dialect" Dialect.googleSql .plain,
   .optional "source" .plain]

instance : Regular Config configLayout :=
  .of_record configRecord rfl (by decide) <|
    .step .orElse fun _ => .step .orElse fun _ => .step .orElse fun _ => .step .orElse fun _ =>
      .step .orElse fun _ => .step .optional fun _ => .done BEq.rfl

def columnTypeLayout : Layout := .record
  [.required "name" .plain, .orElse "len" Length.max .plain, .orElse "isArray" false .plain]

instance : Regular ColumnType columnTypeLayout :=
  .of_record columnTypeRecord rfl (by decide) <|
    .step .required fun _ => .step .orElse fun _ => .step .orElse fun _ => .done BEq.rfl

def expressionLayout : Layout := .record
  [.orElse "expressionId" "" .plain, .orElse "statement" "" .plain]

instance : Regular Expression expressionLayout :=
  .of_record expressionRecord rfl (by decide) <|
    .step .orElse fun _ => .step .orElse fun _ => .done BEq.rfl

def defaultValueLayout : Layout := .record
  [.orElse "isPresent" false .plain, .orElse "value" ({} : Expression) expressionLayout]

instance : Regular DefaultValue defaultValueLayout :=
  .of_record defaultValueRecord rfl (by decide) <|
    .step .orElse fun _ => .step .orElse fun _ => .done BEq.rfl

def generatorLayout : Layout := .record
  [.orElse "name" "" .plain, .orElse "generationType" Generation.off .plain]

instance : Regular Generator generatorLayout :=
  .of_record generatorRecord rfl (by decide) <|
    .step .orElse fun _ => .step .orElse fun _ => .done BEq.rfl

def columnLayout : Layout := .record
  [.required "id" .plain, .required "name" .plain, .required "type" columnTypeLayout,
   .orElse "notNull" false .plain, .optional "comment" .plain,
   .orElse "autoGen" ({} : Generator) generatorLayout,
   .orElse "defaultValue" ({} : DefaultValue) defaultValueLayout,
   .orElse "opts" (∅ : Keyed String) (.map .plain)]

instance : Regular Column columnLayout :=
  .of_record columnRecord rfl (by decide) <|
    .step .required fun _ => .step .required fun _ => .step .required fun _ => .step .orElse fun _ =>
      .step .optional fun _ => .step .orElse fun _ => .step .orElse fun _ =>
        .bind .orElse fun _ _ hoptions => .done ((Column.beq_iff _ _).mpr ⟨rfl, hoptions⟩)

/-! ### Keys -/

def keyPartLayout : Layout := .record
  [.required "colId" .plain, .orElse "desc" false .plain, .required "order" .plain]

instance : Regular KeyPart keyPartLayout :=
  .of_record keyPartRecord rfl (by decide) <|
    .step .required fun _ => .step .orElse fun _ => .step .required fun _ => .done BEq.rfl

def indexLayout : Layout := .record
  [.required "id" .plain, .required "name" .plain, .required "tableId" .plain,
   .orElse "unique" false .plain, .required "keys" (.list keyPartLayout),
   .orElse "storedColumnIds" ([] : List String) (.list .plain)]

instance : Regular Index indexLayout :=
  .of_record indexRecord rfl (by decide) <|
    .step .required fun _ => .step .required fun _ => .step .required fun _ => .step .orElse fun _ =>
      .step .required fun _ => .step .orElse fun _ => .done BEq.rfl

def foreignKeyLayout : Layout := .record
  [.required "id" .plain, .optional "name" .plain, .required "colIds" (.list .plain),
   .required "referTableId" .plain, .required "referColumnIds" (.list .plain),
   .optional "onDelete" .plain, .optional "onUpdate" .plain]

instance : Regular ForeignKey foreignKeyLayout :=
  .of_record foreignKeyRecord rfl (by decide) <|
    .step .required fun _ => .step .optional fun _ => .step .required fun _ =>
      .step .required fun _ => .step .required fun _ => .step .optional fun _ =>
        .step .optional fun _ => .done BEq.rfl

def checkLayout : Layout := .record
  [.required "id" .plain, .optional "name" .plain, .required "expr" .plain]

instance : Regular Check checkLayout :=
  .of_record checkRecord rfl (by decide) <|
    .step .required fun _ => .step .optional fun _ => .step .required fun _ => .done BEq.rfl

/-! ### Tables, schemas and sequences -/

def parentLayout : Layout := .record
  [.required "id" .plain, .optional "onDelete" .plain,
   .orElse "interleaveType" Interleaving.parent .plain]

instance : Regular Parent parentLayout :=
  .of_record parentRecord rfl (by decide) <|
    .step .required fun _ => .step .optional fun _ => .step .orElse fun _ => .done BEq.rfl

def tableLayout : Layout := .record
  [.orElse "id" "" .plain, .orElse "name" "" .plain, .orElse "colIds" ([] : List String) (.list .plain),
   .orElse "colDefs" (∅ : Keyed Column) (.map columnLayout),
   .orElse "primaryKeys" ([] : List KeyPart) (.list keyPartLayout),
   .orElse "foreignKeys" ([] : List ForeignKey) (.list foreignKeyLayout),
   .orElse "indexes" ([] : List Index) (.list indexLayout), .optional "parentTable" parentLayout,
   .orElse "checkConstraints" ([] : List Check) (.list checkLayout), .optional "comment" .plain]

instance : Regular Table tableLayout :=
  .of_record tableRecord rfl (by decide) <|
    .step .orElse fun _ => .step .orElse fun _ => .step .orElse fun _ =>
      .bind .orElse fun _ _ hcolumns =>
        .step .orElse fun _ => .step .orElse fun _ => .step .orElse fun _ => .step .optional fun _ =>
          .step .orElse fun _ => .step .optional fun _ =>
            .done ((Table.beq_iff _ _).mpr ⟨rfl, hcolumns⟩)

instance : Regular Schema (.map tableLayout) where
  read_same {v w} h := by
    have htables : ((read? v : Option (Keyed Table)) == read? w) = true := read_same h
    exact map_beq_map (f := Schema.mk) htables fun _ _ hab => hab
  read_none {v} h := by
    have hnone : (read? v : Option (Keyed Table)) = none := read_none h
    exact congrArg (Option.map Schema.mk) hnone

def sequenceLayout : Layout := .record
  [.orElse "id" "" .plain, .orElse "name" "" .plain, .optional "sequenceKind" .plain,
   .optional "skipRangeMin" .plain, .optional "skipRangeMax" .plain,
   .optional "startWithCounter" .plain,
   .orElse "columnsUsingSeq" (∅ : Keyed (List String)) (.map (.list .plain))]

instance : Regular Sequence sequenceLayout :=
  .of_record sequenceRecord rfl (by decide) <|
    .step .orElse fun _ => .step .orElse fun _ => .step .optional fun _ => .step .optional fun _ =>
      .step .optional fun _ => .step .optional fun _ =>
        .bind .orElse fun _ _ husers => .done ((Sequence.beq_iff _ _).mpr ⟨rfl, husers⟩)

/-! ### Presentation -/

/-- How a type is read of values that differ in presentation only, and of values that lack something. -/
structure Indifferent (α : Type) [BEq α] [Form α] (layout : Layout) : Prop where
  /-- The same is read, or nothing of either, after any number of changes back and forth. -/
  same (v w : Value) (h : Relation.EqvGen (Recast layout) v w) :
    ((read? v : Option α) == read? w) = true
  rejected (v : Value) (h : Lacks layout v) : (read? v : Option α) = none

theorem Regular.indifferent {α : Type} [BEq α] [EquivBEq α] [Form α] {layout : Layout}
    [Regular α layout] : Indifferent α layout where
  same v w h := by
    induction h with
    | rel v w h => exact read_same h
    | refl v => exact BEq.rfl
    | symm v w _ ih => exact BEq.symm ih
    | trans u v w _ _ ih ih' => exact BEq.trans ih ih'
  rejected _ h := read_none h

/-- **Presentation does not matter.** Whatever is read, the order of members, members that are no fields
and fields that say what goes without saying make no difference, at any depth, and no required field can
be left out. -/
theorem presentation_does_not_matter :
    (∀ ms ns : Members, (ms.map Prod.fst).Nodup → ms.Perm ns → Shuffle (.object ms) (.object ns)) ∧
      Indifferent Config configLayout ∧ Indifferent Column columnLayout ∧
      Indifferent ColumnType columnTypeLayout ∧ Indifferent BaseType .plain ∧
      Indifferent Length .plain ∧ Indifferent Expression expressionLayout ∧
      Indifferent DefaultValue defaultValueLayout ∧ Indifferent Generator generatorLayout ∧
      Indifferent Generation .plain ∧ Indifferent KeyPart keyPartLayout ∧
      Indifferent Index indexLayout ∧ Indifferent ForeignKey foreignKeyLayout ∧
      Indifferent Check checkLayout ∧ Indifferent Parent parentLayout ∧
      Indifferent Interleaving .plain ∧ Indifferent Table tableLayout ∧
      Indifferent Schema (.map tableLayout) ∧ Indifferent Sequence sequenceLayout ∧
      Indifferent Distribution .plain ∧ Indifferent Dialect .plain ∧ Indifferent Source .plain :=
  ⟨fun _ _ hdistinct h => .members (rearranged_of_perm hdistinct h), Regular.indifferent,
    Regular.indifferent, Regular.indifferent, Regular.indifferent, Regular.indifferent,
    Regular.indifferent, Regular.indifferent, Regular.indifferent, Regular.indifferent,
    Regular.indifferent, Regular.indifferent, Regular.indifferent, Regular.indifferent,
    Regular.indifferent, Regular.indifferent, Regular.indifferent, Regular.indifferent,
    Regular.indifferent, Regular.indifferent, Regular.indifferent, Regular.indifferent⟩

section Column

def idMember : String × Value := ("id", .string "c1")

def nameMember : String × Value := ("name", .string "Id")

def baseMember : String × Value := ("name", .string "INT64")

/-- The members of a column, and last the type with its members. -/
def columnValue (members type : Members) : Value := .object (members ++ [("type", .object type)])

theorem presentation_does_not_matter_column :
    let v := columnValue [idMember, nameMember] [("isArray", .bool false), baseMember]
    let w := columnValue [nameMember, idMember, ("note", .null)] [baseMember]
    Relation.EqvGen (Recast columnLayout) v w ∧ ((read? v : Option Column) == read? w) = true ∧
      (read? v : Option Column).isSome = true ∧
        (read? (columnValue [idMember] [baseMember]) : Option Column) = none := by
  intro v w
  obtain ⟨hshuffle, _, hcolumn, _⟩ := presentation_does_not_matter
  have hdropped : Recast columnLayout v (columnValue [idMember, nameMember] [baseMember]) :=
    @Recast.field _ [idMember, nameMember] [] (.required "type" columnTypeLayout) _ _ (by simp)
      (@Recast.dropped _ [] [baseMember] (.orElse "isArray" false .plain) _ _ (by simp) rfl rfl
        (by decide))
  have hswapped : Recast columnLayout (columnValue [idMember, nameMember] [baseMember])
      (columnValue [nameMember, idMember] [baseMember]) :=
    .shuffled (hshuffle _ _ (by decide) (.swap ..))
  have hadded : Recast columnLayout (columnValue [nameMember, idMember] [baseMember]) w :=
    @Recast.added _ [nameMember, idMember] [("type", .object [baseMember])] "note" .null (by decide)
  have hrecast : Relation.EqvGen (Recast columnLayout) v w :=
    .trans _ _ _ (.rel _ _ hdropped) (.trans _ _ _ (.rel _ _ hswapped) (.rel _ _ hadded))
  refine ⟨hrecast, hcolumn.same _ _ hrecast, rfl, hcolumn.rejected _ ?_⟩
  exact @Lacks.missing _ _ (.required "name" .plain) (by simp) rfl (by decide)

end Column

/-- An object that says nothing is read as the configuration that says nothing. -/
example : (read? (.object [("theme", .bool true), ("source", .null)]) : Option Config) = some {} := by
  decide

end SchemaScript.Json
