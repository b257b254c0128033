import SchemaScript.Proofs.Outcomes
import Mathlib.Algebra.Ring.Nat

/-! Comments and the lines of a script.

Writing comments puts three lines above a table that has one, and comments of columns behind lines that
are there without them. So it is as long as no comment has a newline (`comments_stand_apart_iff`). What
follows a newline in a comment stands on a line of its own, where nothing marks it as comment. -/
namespace SchemaScript

/-! ### Lines of a text -/

namespace Text

/-- The pieces of a text between its newlines. -/
def lines (text : String) : List String := (text.toList.splitOn '\n').map String.ofList

def newlines (text : String) : Nat := text.toList.count '\n'

variable {text more : String}

@[simp] theorem newlines_append (a b : String) : newlines (a ++ b) = newlines a + newlines b := by
  simp [newlines]

theorem newlines_eq_zero_iff : newlines text = 0 ↔ '\n' ∉ text.toList := List.count_eq_zero

theorem lines_append_newline (a b : String) : lines (a ++ "\n" ++ b) = lines a ++ lines b := by
  have hchars : (a ++ "\n" ++ b).toList = a.toList ++ '\n' :: b.toList := by simp
  rw [lines, hchars, List.splitOn_append_cons_self, List.map_append]
  rfl

theorem lines_of_newline_free (h : '\n' ∉ text.toList) : lines text = [text] := by
  rw [lines, List.splitOn_eq_singleton h]
  simp

/-- There is one line more than there are newlines. -/
theorem length_lines (text : String) : (lines text).length = newlines text + 1 := by
  rw [lines, newlines, List.length_map]
  induction text.toList with
  | nil => rfl
  | cons c l ih =>
    rw [List.splitOn_cons_eq_if_modifyHead, List.count_cons]
    split
    · rw [List.length_cons, ih]
    · rw [List.length_modifyHead, ih]

/-- Text without newlines goes to the last line. -/
theorem splitOn_append (l : List Char) {m : List Char} (h : '\n' ∉ m) :
    ∃ front last, l.splitOn '\n' = front ++ [last] ∧
      (l ++ m).splitOn '\n' = front ++ [last ++ m] := by
  induction l with
  | nil => exact ⟨[], [], rfl, List.splitOn_eq_singleton h⟩
  | cons c l ih =>
    obtain ⟨front, last, hl, hlm⟩ := ih
    rw [List.cons_append, List.splitOn_cons_eq_if_modifyHead, List.splitOn_cons_eq_if_modifyHead,
      hl, hlm]
    by_cases hc : c = '\n'
    · exact ⟨[] :: front, last, by simp [hc], by simp [hc]⟩
    · cases front with
      | nil => exact ⟨[], c :: last, by simp [hc], by simp [hc]⟩
      | cons first front => exact ⟨(c :: first) :: front, last, by simp [hc], by simp [hc]⟩

/-- The lines of two texts are related one by one. -/
def LineByLine (r : String → String → Prop) (a b : String) : Prop :=
  List.Forall₂ r (lines a) (lines b)

namespace LineByLine

variable {r : String → String → Prop} {a b c d : String}

theorem refl (hsame : ∀ line, r line line) (text : String) : LineByLine r text text :=
  List.forall₂_same.mpr fun line _ => hsame line

theorem append_newline (h : LineByLine r a b) (h' : LineByLine r c d) :
    LineByLine r (a ++ "\n" ++ c) (b ++ "\n" ++ d) := by
  rw [LineByLine, lines_append_newline, lines_append_newline]
  exact List.rel_append h h'

/-- More text on the last line. -/
theorem append_right (hsame : ∀ line, r line line) (hmore : ∀ line, r line (line ++ more))
    (h : '\n' ∉ more.toList) (text : String) : LineByLine r text (text ++ more) := by
  obtain ⟨front, last, hplain, hlonger⟩ := splitOn_append text.toList h
  rw [LineByLine, lines, lines, String.toList_append, hplain, hlonger, List.map_append,
    List.map_append]
  refine List.rel_append (List.forall₂_same.mpr fun line _ => hsame line) (.cons ?_ .nil)
  rw [String.ofList_append, String.ofList_toList]
  exact hmore _

end LineByLine

end Text

/-! ### Writing comments or not -/

def Config.withComments (cfg : Config) (comments : Bool) : Config := { cfg with comments }

variable {cfg : Config} {s : Schema} {t : Table} {columns : List Column}

/-- The comments beside the columns of a table's body. -/
def Table.marginRemarks (t : Table) : List String :=
  t.columnIds.filterMap fun id => (t.columns.get? id).bind Column.remark?

/-- All comments that can be written with a table. -/
def Table.remarks (t : Table) : List String := t.remark?.toList ++ t.marginRemarks

theorem Table.column_eq_ok_iff {id : String} {c : Column} :
    t.column id = .ok c ↔ t.columns.get? id = some c := by
  rw [column]
  cases t.columns.get? id <;> simp

/-- The comments of the columns that have been found are those of the body. -/
theorem Table.filterMap_remark? (h : t.columnIds.mapM t.column = .ok columns) :
    columns.filterMap Column.remark? = t.marginRemarks := by
  unfold marginRemarks
  replace h := mapM_eq_ok_iff.mp h
  generalize t.columnIds = ids at h ⊢
  induction h with
  | nil => rfl
  | @cons id c ids columns hid _ ih =>
    rw [List.filterMap_cons, List.filterMap_cons, column_eq_ok_iff.mp hid, ih]
    rfl

namespace Body

theorem newlines_remarkText (width length : Nat) (remark : String) :
    Text.newlines (remarkText width length remark) = Text.newlines remark := by
  have hspaces : Text.newlines (spaces (width - length)) = 0 := by
    simp [Text.newlines, spaces, List.count_replicate]
  have hdashes : Text.newlines " -- " = 0 := by decide
  rw [remarkText, Text.newlines_append, Text.newlines_append, hspaces, hdashes, Nat.zero_add]

theorem chunk_plain (width : Nat) (c : Column) :
    chunk (cfg.withComments false) width c = line cfg c ++ "\n" := chunk_without_comments rfl width c

/-- A comment stands behind the column's line. -/
theorem chunk_remarked (width : Nat) (c : Column) :
    chunk (cfg.withComments true) width c =
      line cfg c ++
        (match c.remark? with
          | some remark => remarkText width (line cfg c).length remark
          | none => "") ++ "\n" := by
  unfold chunk marginText
  cases c.remark? <;> rfl

/-- The comments of columns bring their own newlines into the body, and no others. -/
theorem newlines_concat_chunks (width : Nat) (columns : List Column) :
    Text.newlines (Text.concat (columns.map (chunk (cfg.withComments true) width))) =
      Text.newlines (Text.concat (columns.map (chunk (cfg.withComments false) width))) +
        ((columns.filterMap Column.remark?).map Text.newlines).sum := by
  induction columns with
  | nil => rfl
  | cons c columns ih =>
    simp only [List.map_cons, Text.concat_cons, Text.newlines_append, ih, chunk_plain, chunk_remarked,
      List.filterMap_cons]
    cases c.remark? with
    | none =>
      simp only [show Text.newlines "" = 0 from rfl]
      omega
    | some remark =>
      simp only [newlines_remarkText, List.map_cons, List.sum_cons]
      omega

/-- Comments without newlines lengthen the lines they stand behind. -/
theorem lineByLine_chunks {r : String → String → Prop} (hsame : ∀ line, r line line)
    (hremark : ∀ remark ∈ columns.filterMap Column.remark?, '\n' ∉ remark.toList ∧
      ∀ line n, r line (line ++ spaces n ++ " -- " ++ remark)) (width : Nat) (rest : String) :
    Text.LineByLine r
      (Text.concat (columns.map (chunk (cfg.withComments false) width)) ++ rest)
      (Text.concat (columns.map (chunk (cfg.withComments true) width)) ++ rest) := by
  induction columns with
  | nil =>
    rw [List.map_nil, List.map_nil]
    exact .refl hsame _
  | cons c columns ih =>
    have hsplit (a b : String) : a ++ "\n" ++ b ++ rest = a ++ "\n" ++ (b ++ rest) :=
      String.append_assoc
    rw [List.map_cons, List.map_cons, Text.concat_cons, Text.concat_cons, chunk_plain, chunk_remarked,
      hsplit, hsplit]
    cases hc : c.remark? with
    | none =>
      rw [List.filterMap_cons_none hc] at hremark
      rw [String.append_empty]
      exact .append_newline (.refl hsame _) (ih hremark)
    | some remark =>
      rw [List.filterMap_cons_some hc, List.forall_mem_cons] at hremark
      dsimp only
      refine .append_newline (.append_right hsame ?_ ?_ _) (ih hremark.2)
      · intro line
        rw [remarkText, ← String.append_assoc, ← String.append_assoc]
        exact hremark.1.2 line _
      · rw [← Text.newlines_eq_zero_iff, newlines_remarkText, Text.newlines_eq_zero_iff]
        exact hremark.1.1

end Body

namespace Table

theorem banner_of_remark {remark : String} (h : t.remark? = some remark) :
    t.banner (cfg.withComments true) = "--\n-- " ++ remark ++ "\n--\n" := by
  unfold banner
  rw [h]
  rfl

theorem banner_of_none (h : t.remark? = none) (cfg : Config) : t.banner cfg = "" := by
  unfold banner
  rw [h]

/-- A comment above a table is three lines, each of which begins with two dashes. -/
theorem lines_banner (h : ∀ remark ∈ t.remark?, '\n' ∉ remark.toList) (text : String) :
    ∃ banner, Text.lines (t.banner (cfg.withComments true) ++ text) = banner ++ Text.lines text ∧
      banner.length = (if t.remark?.isSome then 3 else 0) ∧
        ∀ line ∈ banner, ∃ rest, line = "--" ++ rest := by
  cases hremark : t.remark? with
  | none =>
    rw [banner_of_none hremark, String.empty_append]
    exact ⟨[], rfl, rfl, nofun⟩
  | some remark =>
    have hsplit : "--\n-- " ++ remark ++ "\n--\n" ++ text =
        "--" ++ "\n" ++ ("-- " ++ remark ++ "\n" ++ ("--" ++ "\n" ++ text)) := by
      rw [← String.toList_inj]
      simp only [String.toList_append, List.append_assoc]
      rfl
    have hfree : '\n' ∉ ("-- " ++ remark).toList := by
      simpa using h remark hremark
    have hdashes : '\n' ∉ "--".toList := by decide
    rw [banner_of_remark hremark, hsplit, Text.lines_append_newline, Text.lines_append_newline,
      Text.lines_append_newline, Text.lines_of_newline_free hfree, Text.lines_of_newline_free hdashes]
    refine ⟨["--", "-- " ++ remark, "--"], rfl, rfl, ?_⟩
    simp only [List.forall_mem_cons]
    exact ⟨⟨"", rfl⟩, ⟨" " ++ remark, rfl⟩, ⟨"", rfl⟩, nofun⟩

theorem newlines_banner (t : Table) : Text.newlines (t.banner (cfg.withComments true)) =
    (if t.remark?.isSome then 3 else 0) + (t.remark?.toList.map Text.newlines).sum := by
  cases hremark : t.remark? with
  | none =>
    rw [banner_of_none hremark]
    rfl
  | some remark =>
    have hbefore : Text.newlines "--\n-- " = 1 := by decide
    have hafter : Text.newlines "\n--\n" = 2 := by decide
    rw [banner_of_remark hremark, Text.newlines_append, Text.newlines_append, hbefore, hafter]
    simp
    omega

/-- A statement from the first line of the body on. -/
def ending (cfg : Config) (s : Schema) (t : Table) (keys : String) : String :=
  checkLines cfg.dialect t.checks ++ (closing cfg.dialect keys ++ t.interleavingText cfg s)

/-- Comments matter above a table and in the lines of its columns only. -/
theorem createText_withComments (cfg : Config) (comments : Bool) (s : Schema) (t : Table)
    (columns : List Column) (keys : String) :
    t.createText (cfg.withComments comments) s columns keys =
      t.banner (cfg.withComments comments) ++
        ("CREATE TABLE " ++ cfg.quote t.name ++ " (" ++ "\n" ++
          (Body.columnLines (cfg.withComments comments) columns ++ t.ending cfg s keys)) := by
  rw [← String.toList_inj, createText, ending]
  simp only [String.toList_append, List.append_assoc]
  rfl

theorem createText_plain (cfg : Config) (s : Schema) (t : Table) (columns : List Column)
    (keys : String) :
    t.createText (cfg.withComments false) s columns keys =
      "CREATE TABLE " ++ cfg.quote t.name ++ " (" ++ "\n" ++
        (Body.columnLines (cfg.withComments false) columns ++ t.ending cfg s keys) := by
  rw [createText_withComments, banner_without_comments rfl, String.empty_append]

/-! ### The statement with comments and without -/

/-- The same line, or the line with the comment of a column behind it. -/
def Remarked (t : Table) (line line' : String) : Prop :=
  line' = line ∨
    ∃ n, ∃ remark ∈ t.marginRemarks, line' = line ++ Body.spaces n ++ " -- " ++ remark

/-- Comments stay apart from the rest of a statement: those of the table on lines of their own before
it, each marked as comment, and those of columns behind the lines of the statement. -/
def RemarksStandApart (t : Table) (plain remarked : String) : Prop :=
  ∃ banner body, Text.lines remarked = banner ++ body ∧
    banner.length = (if t.remark?.isSome then 3 else 0) ∧
      (∀ line ∈ banner, ∃ rest, line = "--" ++ rest) ∧
        List.Forall₂ t.Remarked (Text.lines plain) body

/-- Comments add three newlines for one above the table, and those that are in them. -/
theorem newlines_createText (h : t.columnIds.mapM t.column = .ok columns) (keys : String) :
    Text.newlines (t.createText (cfg.withComments true) s columns keys) =
      (if t.remark?.isSome then 3 else 0) +
        Text.newlines (t.createText (cfg.withComments false) s columns keys) +
          (t.remarks.map Text.newlines).sum := by
  have hbody : Text.newlines (Body.columnLines (cfg.withComments true) columns) =
      Text.newlines (Body.columnLines (cfg.withComments false) columns) +
        (t.marginRemarks.map Text.newlines).sum := by
    rw [← filterMap_remark? h]
    exact Body.newlines_concat_chunks (Body.width cfg columns) columns
  rw [createText_plain, createText_withComments, Text.newlines_append, newlines_banner, remarks,
    List.map_append, List.sum_append]
  simp only [Text.newlines_append, hbody]
  omega

/-- Without newlines in them comments stand apart. -/
theorem remarksStandApart_createText (h : t.columnIds.mapM t.column = .ok columns)
    (hfree : ∀ remark ∈ t.remarks, '\n' ∉ remark.toList) (keys : String) :
    t.RemarksStandApart (t.createText (cfg.withComments false) s columns keys)
      (t.createText (cfg.withComments true) s columns keys) := by
  have hbanner : ∀ remark ∈ t.remark?, '\n' ∉ remark.toList := fun remark hremark =>
    hfree remark (List.mem_append_left _ (Option.mem_toList.mpr hremark))
  rw [createText_plain, createText_withComments]
  obtain ⟨banner, hlines, hlength, hdashes⟩ := @lines_banner cfg t hbanner _
  refine ⟨banner, _, hlines, hlength, hdashes, ?_⟩
  have hsame (line : String) : t.Remarked line line := .inl rfl
  -- The line that opens the statement has no comment behind it.
  refine Text.LineByLine.append_newline (.refl hsame _) ?_
  refine Body.lineByLine_chunks hsame (fun remark hremark => ?_) (Body.width cfg columns) _
  rw [filterMap_remark? h] at hremark
  exact ⟨hfree remark (List.mem_append_right _ hremark),
    fun line n => .inr ⟨n, remark, hremark, rfl⟩⟩

/-- Of statements whose comments stand apart, the one with comments has three lines more for one above
the table, and no others. -/
theorem RemarksStandApart.newlines_eq {plain remarked : String}
    (h : t.RemarksStandApart plain remarked) :
    Text.newlines remarked = (if t.remark?.isSome then 3 else 0) + Text.newlines plain := by
  obtain ⟨banner, body, hlines, hlength, _, hbody⟩ := h
  have hcount := congrArg List.length hlines
  rw [List.length_append, Text.length_lines, hlength, ← hbody.length_eq, Text.length_lines] at hcount
  omega

theorem remarksStandApart_iff (h : t.columnIds.mapM t.column = .ok columns) (keys : String) :
    t.RemarksStandApart (t.createText (cfg.withComments false) s columns keys)
        (t.createText (cfg.withComments true) s columns keys) ↔
      ∀ remark ∈ t.remarks, '\n' ∉ remark.toList := by
  constructor
  · intro hapart remark hremark
    -- A newline in a comment would be one more than there are when comments stand apart.
    have hcount := hapart.newlines_eq
    rw [newlines_createText h] at hcount
    have hsum : (t.remarks.map Text.newlines).sum = 0 := by omega
    rw [← Text.newlines_eq_zero_iff]
    exact List.sum_eq_zero_iff_forall_eq_nat.mp hsum _ (List.mem_map_of_mem hremark)
  · exact fun hfree => remarksStandApart_createText h hfree keys

end Table

/-- **Comments stand apart exactly if no comment has a newline.** In any case a statement has three lines
more for a comment above the table, and one more for each newline in a comment; whether there is a
statement does not depend on comments. -/
theorem comments_stand_apart_iff (cfg : Config) (s : Schema) (t : Table)
    (h : Succeeds (t.create cfg s).outcome) :
    ∃ plain remarked, (t.create (cfg.withComments false) s).outcome = .ok plain ∧
      (t.create (cfg.withComments true) s).outcome = .ok remarked ∧
        (t.RemarksStandApart plain remarked ↔ ∀ remark ∈ t.remarks, '\n' ∉ remark.toList) ∧
          (Text.lines remarked).length = (if t.remark?.isSome then 3 else 0) +
            (Text.lines plain).length + (t.remarks.map Text.newlines).sum := by
  obtain ⟨text, htext⟩ := h
  obtain ⟨columns, keys, hcolumns, hkeys, _⟩ := Table.create_eq_ok_iff.mp htext
  refine ⟨_, _, Table.create_eq_ok_iff.mpr ⟨columns, keys, hcolumns, hkeys, rfl⟩,
    Table.create_eq_ok_iff.mpr ⟨columns, keys, hcolumns, hkeys, rfl⟩,
    Table.remarksStandApart_iff hcolumns keys, ?_⟩
  rw [Text.length_lines, Text.length_lines, Table.newlines_createText hcolumns]
  omega

/-- A table with one column, which has a comment. -/
def Table.noted (comment : String) : Table :=
  (named "t1" "T").withColumn { id := "c1", name := "Id", type := .ofBase .int64, comment }

theorem Table.create_noted (cfg : Config) (comment : String) :
    ∃ columns, (noted comment).columnIds.mapM (noted comment).column = .ok columns ∧
      ((noted comment).create cfg .empty).outcome =
        .ok ((noted comment).createText cfg .empty columns "") :=
  ⟨_, rfl, create_eq_ok_iff.mpr ⟨_, _, rfl, keyText_nil cfg _, rfl⟩⟩

theorem comments_stand_apart_iff_noted :
    Succeeds ((Table.noted "From: id bigint").create {} .empty).outcome ∧ ∃ plain remarked,
      ((Table.noted "From: id bigint").create { comments := true } .empty).outcome = .ok remarked ∧
        (Table.noted "From: id bigint").RemarksStandApart plain remarked := by
  obtain ⟨_, _, hok⟩ := Table.create_noted {} "From: id bigint"
  obtain ⟨plain, remarked, _, hremarked, happart, _⟩ := comments_stand_apart_iff {} .empty _ ⟨_, hok⟩
  exact ⟨⟨_, hok⟩, plain, remarked, hremarked, happart.mpr (by decide)⟩

/-- What follows a newline in a comment is a line of its own in the body of the table. -/
theorem comment_runs_on :
    ((Table.noted "first\nsecond").create { comments := false } .empty).outcome =
        .ok "CREATE TABLE \x60T\x60 (\n\t\x60Id\x60 INT64,\n)" ∧
      ((Table.noted "first\nsecond").create { comments := true } .empty).outcome =
          .ok "CREATE TABLE \x60T\x60 (\n\t\x60Id\x60 INT64, -- first\nsecond\n)" ∧
        ¬(Table.noted "first\nsecond").RemarksStandApart
          "CREATE TABLE \x60T\x60 (\n\t\x60Id\x60 INT64,\n)"
          "CREATE TABLE \x60T\x60 (\n\t\x60Id\x60 INT64, -- first\nsecond\n)" := by
  refine ⟨?_, ?_, fun happart => ?_⟩
  · exact Table.create_eq_ok_iff.mpr ⟨_, _, rfl, Table.keyText_nil _ _, by decide⟩
  · exact Table.create_eq_ok_iff.mpr ⟨_, _, rfl, Table.keyText_nil _ _, by decide⟩
  · exact absurd happart.newlines_eq (by decide)

end SchemaScript
