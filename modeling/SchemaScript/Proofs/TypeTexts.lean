import SchemaScript.Model.ColumnType
import Mathlib

/-! What the text of a type says.

A printed type is a name, alone or with a size in parentheses (`ColumnType.annotated`), and an array is
one between angle brackets. No name has a parenthesis, so both parts can be told from the text, and a
size can be read back to the length that it stands for (`Length.ofSize?_size`). In GoogleSQL, therefore,
the text of a type tells all of it but a length that does not belong to it. The PostgreSQL dialect has
one text for all types of a `PostgreSqlClass`, and tells no more than the classes apart
(`type_texts_tell_types`). -/
namespace SchemaScript

/-! ### Sizes -/

namespace Length

/-- A length as it stands between parentheses. -/
def size : Length → String
  | max => "MAX"
  | limit n => toString n

/-- The length that is written so. -/
def ofSize? (text : String) : Option Length :=
  if text = "MAX" then some max else text.toInt?.map fun n => limit (Int64.ofInt n)

/-- Every number is written in digits, perhaps after a sign, and so can be read again. -/
theorem toInt?_toString (n : Int64) : (toString n).toInt? = some n.toInt :=
  Int.toInt?_repr n.toInt

theorem size_limit_ne (n : Int64) : (limit n).size ≠ "MAX" := by
  intro h
  have hword : "MAX".toInt? = none := by cbv
  rw [← h, size, toInt?_toString] at hword
  cases hword

@[simp] theorem ofSize?_size (l : Length) : ofSize? l.size = some l := by
  cases l with
  | max => rfl
  | limit n =>
    rw [ofSize?, if_neg (size_limit_ne n), size, toInt?_toString, Option.map_some, Int64.ofInt_toInt]

theorem size_inj {l m : Length} (h : l.size = m.size) : l = m := by
  have hread := congrArg ofSize? h
  rwa [ofSize?_size, ofSize?_size, Option.some_inj] at hread

end Length

/-! ### Names -/

namespace BaseType

theorem googleSqlName_inj {t u : BaseType} (h : t.googleSqlName = u.googleSqlName) : t = u := by
  have hread := congrArg ofName? h
  rwa [ofName?_googleSqlName, ofName?_googleSqlName, Option.some_inj] at hread

theorem ofPostgreSql?_name (t : BaseType) : ofPostgreSql? (t.name .postgreSql) = some t := by
  cases t <;> decide

theorem postgreSqlName_inj {t u : BaseType} (h : t.name .postgreSql = u.name .postgreSql) : t = u := by
  have hread := congrArg ofPostgreSql? h
  rwa [ofPostgreSql?_name, ofPostgreSql?_name, Option.some_inj] at hread

theorem name_has_no_parenthesis (d : Dialect) (t : BaseType) : '(' ∉ (t.name d).toList := by
  cases d <;> cases t <;> decide

end BaseType

namespace ColumnType

/-- A name, alone or with a size in parentheses. -/
def annotated (name : String) : Option String → String
  | none => name
  | some size => name ++ "(" ++ size ++ ")"

theorem toList_annotated_some (name size : String) :
    (annotated name (some size)).toList = name.toList ++ '(' :: (size.toList ++ [')']) := by
  simp [annotated]

/-- The name is what comes before the parenthesis. -/
theorem takeWhile_annotated {name : String} (h : '(' ∉ name.toList) (size : Option String) :
    (annotated name size).toList.takeWhile (· ≠ '(') = name.toList := by
  have hname : ∀ c ∈ name.toList, decide (c ≠ '(') = true := fun c hc =>
    decide_eq_true fun heq => h (heq ▸ hc)
  cases size with
  | none => exact List.takeWhile_eq_self_iff.mpr hname
  | some size => rw [toList_annotated_some, List.takeWhile_append_of_pos hname]; simp

theorem annotated_inj {a b : String} {x y : Option String} (ha : '(' ∉ a.toList) (hb : '(' ∉ b.toList)
    (h : annotated a x = annotated b y) : a = b ∧ x = y := by
  have hname : a = b := by
    rw [← String.toList_inj, ← takeWhile_annotated ha x, h, takeWhile_annotated hb y]
  subst hname
  refine ⟨rfl, ?_⟩
  have hlist := congrArg String.toList h
  cases x with
  | none =>
    cases y with
    | none => rfl
    | some size => simp [annotated] at hlist
  | some size =>
    cases y with
    | none => simp [annotated] at hlist
    | some other =>
      rw [toList_annotated_some, toList_annotated_some, List.append_cancel_left_eq, List.cons_inj_right,
        List.append_cancel_right_eq, String.toList_inj] at hlist
      rw [hlist]

/-- An annotated name begins as the name does. -/
theorem head?_annotated {name : String} {c : Char} (h : name.toList.head? = some c)
    (size : Option String) : (annotated name size).toList.head? = some c := by
  cases size with
  | none => exact h
  | some size => rw [toList_annotated_some, List.head?_append, h, Option.some_or]

/-! ### GoogleSQL -/

/-- The size behind the name of a type that has a length. -/
def size? (t : ColumnType) : Option String := if t.base.hasLength then some t.length.size else none

theorem googleSqlElement_eq (t : ColumnType) :
    t.googleSqlElement = annotated t.base.googleSqlName t.size? := by
  unfold googleSqlElement size?
  cases t.base.hasLength with
  | false => rfl
  | true =>
    cases t.length with
    | max =>
      show t.base.googleSqlName ++ ("(" ++ "MAX" ++ ")") = _
      simp only [if_true, annotated, Length.size, String.append_assoc]
    | limit n => rfl

variable {a b : ColumnType}

theorem size?_inj (h : a.base = b.base) :
    a.size? = b.size? ↔ (b.base.hasLength = true → a.length = b.length) := by
  unfold size?
  rw [h]
  cases b.base.hasLength with
  | false => simp
  | true => simpa using ⟨Length.size_inj, congrArg Length.size⟩

theorem googleSqlElement_inj :
    a.googleSqlElement = b.googleSqlElement ↔
      a.base = b.base ∧ (b.base.hasLength = true → a.length = b.length) := by
  rw [googleSqlElement_eq, googleSqlElement_eq]
  constructor
  · intro h
    obtain ⟨hname, hsize⟩ := annotated_inj (a.base.name_has_no_parenthesis .googleSql)
      (b.base.name_has_no_parenthesis .googleSql) h
    have hbase := BaseType.googleSqlName_inj hname
    exact ⟨hbase, (size?_inj hbase).mp hsize⟩
  · intro h
    rw [h.1, (size?_inj h.1).mpr h.2]

/-- What is not an array does not read like one. -/
theorem googleSqlElement_ne_array (t : ColumnType) (element : String) :
    t.googleSqlElement ≠ "ARRAY<" ++ element ++ ">" := by
  have hfirst : ∃ c, t.base.googleSqlName.toList.head? = some c ∧ c ≠ 'A' := by
    cases t.base <;> exact ⟨_, rfl, by decide⟩
  obtain ⟨c, hc, hne⟩ := hfirst
  intro h
  have hhead := head?_annotated hc t.size?
  rw [← googleSqlElement_eq, h] at hhead
  exact hne (by simpa using hhead.symm)

theorem googleSqlText_inj :
    a.googleSqlText = b.googleSqlText ↔
      a.isArray = b.isArray ∧ a.googleSqlElement = b.googleSqlElement := by
  unfold googleSqlText
  cases a.isArray with
  | false =>
    cases b.isArray with
    | false => simp
    | true => simpa using a.googleSqlElement_ne_array b.googleSqlElement
  | true =>
    cases b.isArray with
    | false => simpa [eq_comm] using b.googleSqlElement_ne_array a.googleSqlElement
    | true => simp [← String.toList_inj]

end ColumnType

/-! ### PostgreSQL -/

/-- What the PostgreSQL dialect makes of a type: text of at most so many characters, or something that
its name says all about. -/
inductive PostgreSqlClass where
  | varchar (length : Int64)
  | named (base : BaseType)
  deriving DecidableEq

namespace PostgreSqlClass

def name : PostgreSqlClass → String
  | varchar _ => "VARCHAR"
  | named base => base.name .postgreSql

def size? : PostgreSqlClass → Option String
  | varchar length => some (Length.limit length).size
  | named _ => none

def text (c : PostgreSqlClass) : String := ColumnType.annotated c.name c.size?

theorem name_has_no_parenthesis (c : PostgreSqlClass) : '(' ∉ c.name.toList := by
  cases c with
  | varchar _ => exact (by decide : '(' ∉ "VARCHAR".toList)
  | named base => exact base.name_has_no_parenthesis .postgreSql

theorem text_inj {c d : PostgreSqlClass} (h : c.text = d.text) : c = d := by
  obtain ⟨hname, hsize⟩ :=
    ColumnType.annotated_inj c.name_has_no_parenthesis d.name_has_no_parenthesis h
  cases c with
  | varchar m =>
    cases d with
    | varchar n =>
      cases Length.size_inj (Option.some.inj hsize)
      rfl
    | named _ => cases hsize
  | named t =>
    cases d with
    | varchar _ => cases hsize
    | named u => rw [BaseType.postgreSqlName_inj hname]

end PostgreSqlClass

/-- An array counts as text of the greatest length, which is 2621440 characters. -/
def ColumnType.postgreSqlClass (t : ColumnType) : PostgreSqlClass :=
  if t.isArray ∨ t.base = .string ∧ t.length = .max then .varchar 2621440
  else
    match t.base, t.length with
    | .string, .limit n => .varchar n
    | base, _ => .named base

theorem ColumnType.postgreSqlText_eq (t : ColumnType) :
    t.postgreSqlText = t.postgreSqlClass.text := by
  obtain ⟨base, length, isArray⟩ := t
  cases isArray with
  | true => rfl
  | false => cases base <;> cases length <;> rfl

/-- **The text of a type tells the type, up to what the dialect leaves out.** -/
theorem type_texts_tell_types (a b : ColumnType) :
    (a.text .googleSql = b.text .googleSql ↔
      a.base = b.base ∧ a.isArray = b.isArray ∧
        (a.base = .string ∨ a.base = .bytes → a.length = b.length)) ∧
      (a.text .postgreSql = b.text .postgreSql ↔ a.postgreSqlClass = b.postgreSqlClass) := by
  constructor
  · have hlength : a.base.hasLength = true ↔ a.base = .string ∨ a.base = .bytes := by
      cases a.base <;> decide
    show a.googleSqlText = b.googleSqlText ↔ _
    rw [ColumnType.googleSqlText_inj, ColumnType.googleSqlElement_inj, and_left_comm, ← hlength]
    exact and_congr_right fun hbase => by rw [hbase]
  · show a.postgreSqlText = b.postgreSqlText ↔ _
    rw [ColumnType.postgreSqlText_eq, ColumnType.postgreSqlText_eq]
    exact ⟨PostgreSqlClass.text_inj, congrArg PostgreSqlClass.text⟩

/-- The number that stands for the greatest length elsewhere is written like any other. -/
example : ((ColumnType.mk .string .max true).text .googleSql,
    (ColumnType.mk .string (.limit Length.maxCode) true).text .googleSql) =
      ("ARRAY<STRING(MAX)>", "ARRAY<STRING(9223372036854775807)>") := by decide

end SchemaScript
