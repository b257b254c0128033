import SchemaScript.Model.ColumnType
import Mathlib.Data.List.Forall2

/-! Names as they are read.

Types, source databases and dialects are read by their names, and the case of a letter is no part of a
name. In a `Vocabulary` no two values have a name in common, so a text stands for one value at most, and
reading finds that value whichever comes first in a search (`Vocabulary.read?_eq_some_iff`).

Types have a vocabulary in each dialect. PostgreSQL names are looked up in two places, among the
spellings of PostgreSQL and then among the names of GoogleSQL, of which some do not count. That still
comes to reading one vocabulary (`BaseType.ofPostgreSql?_eq_read?`), and a text that is a name in both
dialects stands for one type (`names_are_read_exactly`). -/
namespace SchemaScript

/-! ### Case -/

namespace Text

/-- A basic Latin letter as a capital, and as a small letter. -/
def IsCapitalOf (c d : Char) : Prop := 'A' ≤ c ∧ c ≤ 'Z' ∧ d.toNat = c.toNat + 32

/-- One character, or one basic Latin letter in its two cases. -/
def SameLetter (c d : Char) : Prop := c = d ∨ IsCapitalOf c d ∨ IsCapitalOf d c

/-- Texts that differ in the case of basic Latin letters at most. -/
def SameUpToCase (a b : String) : Prop := List.Forall₂ SameLetter a.toList b.toList

def IsAscii (text : String) : Prop := ∀ c ∈ text.toList, c.toNat < 128

instance (text : String) : Decidable (IsAscii text) :=
  List.decidableBAll (fun c : Char => c.toNat < 128) text.toList

variable {a b : String} {c d : Char}

theorem isCapital_iff : 'A' ≤ c ∧ c ≤ 'Z' ↔ 65 ≤ c.toNat ∧ c.toNat ≤ 90 := by
  rw [Char.le_def, Char.le_def, UInt32.le_iff_toNat_le, UInt32.le_iff_toNat_le]
  exact Iff.rfl

theorem toNat_toLower (c : Char) :
    c.toLower.toNat = if 'A' ≤ c ∧ c ≤ 'Z' then c.toNat + 32 else c.toNat := by
  unfold Char.toLower
  split
  next h =>
    have hcapital : 'A' ≤ c ∧ c ≤ 'Z' := h
    have hbound := isCapital_iff.mp hcapital
    have hval : c.val.toNat = c.toNat := rfl
    rw [if_pos hcapital]
    show (c.val + 32).toNat = c.val.toNat + 32
    rw [UInt32.toNat_add]
    exact Nat.mod_eq_of_lt (show c.val.toNat + 32 < 2 ^ 32 by omega)
  next h =>
    have hother : ¬('A' ≤ c ∧ c ≤ 'Z') := h
    rw [if_neg hother]

/-- Making letters small joins the two cases of a letter, and nothing else. -/
theorem toLower_eq_toLower_iff : c.toLower = d.toLower ↔ SameLetter c d := by
  unfold SameLetter IsCapitalOf
  rw [← Char.toNat_inj, ← Char.toNat_inj, toNat_toLower, toNat_toLower]
  simp only [isCapital_iff, ← and_assoc]
  split <;> split <;> omega

theorem fold_eq_fold_iff : fold a = fold b ↔ SameUpToCase a b := by
  rw [fold, fold, ← List.forall₂_eq_eq_eq, List.forall₂_map_left_iff, List.forall₂_map_right_iff]
  simp only [toLower_eq_toLower_iff]
  exact Iff.rfl

instance (a b : String) : Decidable (SameUpToCase a b) := decidable_of_iff _ fold_eq_fold_iff

theorem SameLetter.isAscii (h : SameLetter c d) (hd : d.toNat < 128) : c.toNat < 128 := by
  unfold SameLetter IsCapitalOf at h
  simp only [← and_assoc, isCapital_iff] at h
  rcases h with rfl | h | h
  · exact hd
  · omega
  · omega

/-- Beyond ASCII there is no letter in two cases. -/
theorem SameUpToCase.isAscii (h : SameUpToCase a b) (hb : IsAscii b) : IsAscii a := by
  intro c hc
  have hfolded : c.toLower ∈ fold b := by
    rw [← fold_eq_fold_iff.mpr h]
    exact List.mem_map_of_mem hc
  obtain ⟨d, hd, hsame⟩ := List.mem_map.mp hfolded
  exact (toLower_eq_toLower_iff.mp hsame.symm).isAscii (hb d hd)

end Text

/-! ### Vocabularies -/

/-- The names of some values, all in ASCII and each the name of one value only. -/
structure Vocabulary (α : Type) where
  values : List α
  names : α → List String
  complete (a : α) : a ∈ values
  /-- Names of two values differ in more than case. -/
  apart : ∀ a ∈ values, ∀ b ∈ values, ∀ v ∈ names a, ∀ w ∈ names b, Text.fold v = Text.fold w → a = b
  ascii : ∀ a ∈ values, ∀ name ∈ names a, Text.IsAscii name

namespace Vocabulary

section Reading
variable {α : Type} (V : Vocabulary α) {text : String} {a b : α}

/-- The first value with this name, whatever its case. -/
def read? (text : String) : Option α :=
  V.values.find? fun a => (V.names a).any (Text.sameFolded · text)

/-- A text is a name of the value, up to case. -/
def Means (text : String) (a : α) : Prop := ∃ name ∈ V.names a, Text.SameUpToCase text name

theorem any_names_iff : (V.names a).any (Text.sameFolded · text) = true ↔ V.Means text a := by
  simp only [List.any_eq_true, Text.sameFolded_iff, Means, ← Text.fold_eq_fold_iff]
  exact exists_congr fun _ => and_congr_right fun _ => eq_comm

variable {V}

theorem Means.unique (ha : V.Means text a) (hb : V.Means text b) : a = b := by
  obtain ⟨v, hv, hsame⟩ := ha
  obtain ⟨w, hw, hsame'⟩ := hb
  rw [← Text.fold_eq_fold_iff] at hsame hsame'
  exact V.apart a (V.complete a) b (V.complete b) v hv w hw (hsame.symm.trans hsame')

theorem means_of_read? (h : V.read? text = some a) : V.Means text a := by
  have hfound := List.find?_some h
  exact V.any_names_iff.mp hfound

/-- Reading finds the one value that a text means. -/
theorem read?_eq_some_iff : V.read? text = some a ↔ V.Means text a := by
  refine ⟨means_of_read?, fun h => ?_⟩
  cases hread : V.read? text with
  | none => exact absurd (V.any_names_iff.mpr h) (List.find?_eq_none.mp hread a (V.complete a))
  | some b => rw [(means_of_read? hread).unique h]

/-- What merely looks like a name is none. -/
theorem read?_of_not_isAscii (h : ¬Text.IsAscii text) : V.read? text = none := by
  rw [Option.eq_none_iff_forall_ne_some]
  intro a hread
  obtain ⟨name, hname, hsame⟩ := means_of_read? hread
  exact h (hsame.isAscii (V.ascii a (V.complete a) name hname))

end Reading

section OneName
variable {α : Type} {values : List α} {name : α → String} {complete : ∀ a, a ∈ values}
  {apart : ∀ a ∈ values, ∀ b ∈ values, Text.fold (name a) = Text.fold (name b) → a = b}
  {ascii : ∀ a ∈ values, Text.IsAscii (name a)}

/-- Values with one name each. -/
def single (values : List α) (name : α → String) (complete : ∀ a, a ∈ values)
    (apart : ∀ a ∈ values, ∀ b ∈ values, Text.fold (name a) = Text.fold (name b) → a = b)
    (ascii : ∀ a ∈ values, Text.IsAscii (name a)) : Vocabulary α where
  values := values
  names a := [name a]
  complete := complete
  apart a ha b hb v hv w hw h := by
    rw [List.mem_singleton] at hv hw
    subst hv hw
    exact apart a ha b hb h
  ascii a ha v hv := by
    rw [List.mem_singleton] at hv
    subst hv
    exact ascii a ha

theorem read?_single (text : String) :
    (single values name complete apart ascii).read? text =
      values.find? fun a => Text.sameFolded (name a) text := by
  simp only [read?, single, List.any_cons, List.any_nil, Bool.or_false]

theorem means_single_iff {text : String} {a : α} :
    (single values name complete apart ascii).Means text a ↔ Text.SameUpToCase text (name a) := by
  simp only [Means, single, List.mem_singleton, exists_eq_left]

theorem read?_single_eq_some_iff {text : String} {a : α} :
    (single values name complete apart ascii).read? text = some a ↔
      Text.SameUpToCase text (name a) :=
  read?_eq_some_iff.trans means_single_iff

end OneName

end Vocabulary

/-! ### Types -/

namespace BaseType

theorem mem_all (t : BaseType) : t ∈ all := by cases t <;> decide

/-- No name is shared by two types, be it in different dialects. -/
theorem name_apart (d e : Dialect) :
    ∀ t ∈ all, ∀ u ∈ all, Text.fold (t.name d) = Text.fold (u.name e) → t = u := by
  cases d <;> cases e <;> decide +kernel

theorem isAscii_name (d : Dialect) : ∀ t ∈ all, Text.IsAscii (t.name d) := by
  cases d <;> decide +kernel

def vocabulary (d : Dialect) : Vocabulary BaseType :=
  .single all (name d) mem_all (name_apart d d) (isAscii_name d)

variable {text : String} {t : BaseType}

theorem ofGoogleSql?_eq_read? (text : String) :
    ofGoogleSql? text = (vocabulary .googleSql).read? text :=
  (Vocabulary.read?_single text).symm

/-- A type has at most one spelling of its own, the one that is listed. -/
theorem postgreSqlName?_eq_some_iff {own : String} :
    t.postgreSqlName? = some own ↔ (t, own) ∈ postgreSqlSpellings := by
  constructor
  · intro h
    obtain ⟨before, after, hlist, _⟩ := List.lookup_eq_some_iff.mp h
    rw [hlist]
    simp
  · have hlisted : ∀ e ∈ postgreSqlSpellings, e.1.postgreSqlName? = some e.2 := by decide
    exact hlisted (t, own)

/-- The two steps of the search come to one. -/
theorem ofPostgreSql?_eq_read? (text : String) :
    ofPostgreSql? text = (vocabulary .postgreSql).read? text := by
  unfold ofPostgreSql?
  cases hspelling : postgreSqlSpellings.find? fun e => Text.sameFolded e.2 text with
  | some e =>
    have hsame := List.find?_some hspelling
    have hown := postgreSqlName?_eq_some_iff.mpr (List.mem_of_find?_eq_some hspelling)
    rw [Text.sameFolded_iff] at hsame
    -- A spelling that was found is the PostgreSQL name of its type.
    refine (Vocabulary.read?_single_eq_some_iff.mpr ?_).symm
    rw [name, hown, Option.getD_some, ← Text.fold_eq_fold_iff]
    exact hsame.symm
  | none =>
    refine Option.ext fun t => ?_
    show (ofGoogleSql? text).filter _ = some t ↔ _
    rw [Option.filter_eq_some_iff, ofGoogleSql?_eq_read?, vocabulary, vocabulary,
      Vocabulary.read?_single_eq_some_iff, Vocabulary.read?_single_eq_some_iff, name, name]
    -- A type with a spelling of its own passes neither here nor there: that spelling was not found.
    cases hown : t.postgreSqlName? with
    | none => simp
    | some own =>
      have hother := List.find?_eq_none.mp hspelling _ (postgreSqlName?_eq_some_iff.mp hown)
      rw [Text.sameFolded_iff, eq_comm, Text.fold_eq_fold_iff] at hother
      simpa using hother

theorem ofGoogleSql?_eq_some_iff :
    ofGoogleSql? text = some t ↔ Text.SameUpToCase text t.googleSqlName := by
  rw [ofGoogleSql?_eq_read?]
  exact Vocabulary.read?_single_eq_some_iff

theorem ofPostgreSql?_eq_some_iff :
    ofPostgreSql? text = some t ↔ Text.SameUpToCase text (t.name .postgreSql) := by
  rw [ofPostgreSql?_eq_read?]
  exact Vocabulary.read?_single_eq_some_iff

/-- A text that is a name in both dialects, or twice in one, stands for one type. -/
theorem eq_of_sameUpToCase {d e : Dialect} {u : BaseType} (ht : Text.SameUpToCase text (t.name d))
    (hu : Text.SameUpToCase text (u.name e)) : t = u := by
  rw [← Text.fold_eq_fold_iff] at ht hu
  exact name_apart d e t (mem_all t) u (mem_all u) (ht.symm.trans hu)

/-- The two names of a type are one name or differ in more than case. -/
theorem names_agree : ∀ t ∈ all, Text.fold (t.name .postgreSql) = Text.fold t.googleSqlName →
    t.name .postgreSql = t.googleSqlName := by
  decide +kernel

/-- A type that PostgreSQL calls something else does not answer to its GoogleSQL name there, and no
other type does. -/
theorem ofPostgreSql?_of_googleSqlName (hdiffer : t.name .postgreSql ≠ t.googleSqlName)
    (hsame : Text.SameUpToCase text t.googleSqlName) : ofPostgreSql? text = none := by
  rw [Option.eq_none_iff_forall_ne_some]
  intro u hread
  have hother := ofPostgreSql?_eq_some_iff.mp hread
  obtain rfl : t = u := eq_of_sameUpToCase (d := .googleSql) hsame hother
  rw [← Text.fold_eq_fold_iff] at hsame hother
  exact hdiffer (names_agree t (mem_all t) (hother.symm.trans hsame))

/-- Some names of types in PostgreSQL, and some that are none. -/
example : ["float8", "Numeric", "SERIAL", "INT64"].map ofPostgreSql? =
    [some float64, some numeric, none, none] := by decide

end BaseType

/-! ### Source databases and dialects -/

namespace Source

def vocabulary : Vocabulary Source :=
  .single all label (fun k => by cases k <;> decide) (by decide +kernel) (by decide +kernel)

theorem ofLabel?_eq_read? (text : String) : ofLabel? text = vocabulary.read? text :=
  (Vocabulary.read?_single text).symm

theorem ofLabel?_eq_some_iff {text : String} {k : Source} :
    ofLabel? text = some k ↔ Text.SameUpToCase text k.label := by
  rw [ofLabel?_eq_read?]
  exact Vocabulary.read?_single_eq_some_iff

end Source

namespace Dialect

def vocabulary : Vocabulary Dialect where
  values := all
  names := aliases
  complete d := by cases d <;> decide
  apart := by decide +kernel
  ascii := by decide +kernel

theorem ofAlias?_eq_read? (text : String) : ofAlias? text = vocabulary.read? text := rfl

end Dialect

/-! ### Names -/

/-- **A text is read as what it is a name of, and as nothing else.** Its case does not count. A name of
a type stands for that type in both dialects or is unknown in one of them, and no character beyond ASCII
passes for one that belongs to a name. -/
theorem names_are_read_exactly (text : String) :
    (∀ t, BaseType.ofGoogleSql? text = some t ↔ Text.SameUpToCase text t.googleSqlName) ∧
      (∀ t, BaseType.ofPostgreSql? text = some t ↔ Text.SameUpToCase text (t.name .postgreSql)) ∧
      (∀ t : BaseType, t.name .postgreSql ≠ t.googleSqlName →
        Text.SameUpToCase text t.googleSqlName → BaseType.ofPostgreSql? text = none) ∧
      (∀ (d e : Dialect) (t u : BaseType), Text.SameUpToCase text (t.name d) →
        Text.SameUpToCase text (u.name e) → t = u) ∧
      (∀ k, Source.ofLabel? text = some k ↔ Text.SameUpToCase text k.label) ∧
      (∀ d, Dialect.ofAlias? text = some d ↔ ∃ name ∈ d.aliases, Text.SameUpToCase text name) ∧
      (Dialect.googleSql.aliases = ["google_standard_sql", "googlesql", "gsql"] ∧
        Dialect.postgreSql.aliases = ["postgresql", "postgres", "pg"] ∧
          ∀ d : Dialect, d.label ∈ d.aliases) ∧
      (¬Text.IsAscii text → BaseType.ofGoogleSql? text = none ∧ BaseType.ofPostgreSql? text = none ∧
        Source.ofLabel? text = none ∧ Dialect.ofAlias? text = none) := by
  refine ⟨fun _ => BaseType.ofGoogleSql?_eq_some_iff, fun _ => BaseType.ofPostgreSql?_eq_some_iff,
    fun _ => BaseType.ofPostgreSql?_of_googleSqlName, fun _ _ _ _ => BaseType.eq_of_sameUpToCase,
    fun _ => Source.ofLabel?_eq_some_iff, fun d => ?_, ⟨rfl, rfl, Dialect.label_mem_aliases⟩,
    fun hascii => ?_⟩
  · rw [Dialect.ofAlias?_eq_read?]
    exact Vocabulary.read?_eq_some_iff
  · rw [BaseType.ofGoogleSql?_eq_read?, BaseType.ofPostgreSql?_eq_read?, Source.ofLabel?_eq_read?,
      Dialect.ofAlias?_eq_read?]
    exact ⟨Vocabulary.read?_of_not_isAscii hascii, Vocabulary.read?_of_not_isAscii hascii,
      Vocabulary.read?_of_not_isAscii hascii, Vocabulary.read?_of_not_isAscii hascii⟩

/-- `Numeric` is one name in both dialects, `Int64` is none in PostgreSQL, and a long s is no `s`. -/
theorem names_are_read_exactly_lookalike :
    (Text.SameUpToCase "Numeric" (BaseType.numeric.name .googleSql) ∧
        Text.SameUpToCase "Numeric" (BaseType.numeric.name .postgreSql) ∧
          ∀ t, BaseType.ofPostgreSql? "Numeric" = some t → BaseType.numeric = t) ∧
      (Text.SameUpToCase "Int64" BaseType.int64.googleSqlName ∧
        BaseType.ofPostgreSql? "Int64" = none) ∧
      ¬Text.IsAscii "Poſtgres" ∧ Source.ofLabel? "Poſtgres" = none ∧
        Dialect.ofAlias? "Poſtgres" = none := by
  have hnumeric : ∀ d, Text.SameUpToCase "Numeric" (BaseType.numeric.name d) := by
    intro d
    cases d <;> decide
  have hint64 : Text.SameUpToCase "Int64" BaseType.int64.googleSqlName := by decide
  have hascii : ¬Text.IsAscii "Poſtgres" := by decide
  obtain ⟨_, hpostgreSql, _, hone, _⟩ := names_are_read_exactly "Numeric"
  obtain ⟨_, _, hshadowed, _⟩ := names_are_read_exactly "Int64"
  obtain ⟨_, _, _, _, _, _, _, hforeign⟩ := names_are_read_exactly "Poſtgres"
  obtain ⟨_, _, hsource, hdialect⟩ := hforeign hascii
  refine ⟨⟨hnumeric _, hnumeric _, fun t ht => ?_⟩,
    ⟨hint64, hshadowed .int64 (by decide) hint64⟩, hascii, hsource, hdialect⟩
  exact hone .googleSql .postgreSql .numeric t (hnumeric _) ((hpostgreSql t).mp ht)

end SchemaScript
