import SchemaScript.Proofs.Remarks
import Mathlib.Order.Bounds.Basic

/-! Where comments stand.

Behind the line of a column there are spaces up to the length of the longest line, and then its comment.
No line is longer than what it is filled up to, since the longest is one of them. So all comments in the
body of a table begin at one place, counted in characters (`comments_are_aligned`). -/
namespace SchemaScript

namespace Body

variable {cfg : Config} {columns : List Column} {c : Column} {n : Nat}

/-! ### The longest line -/

/-- Some line is as long as the longest, if there are any. -/
theorem exists_length_eq_width (cfg : Config) (h : columns ≠ []) :
    ∃ c ∈ columns, (line cfg c).length = width cfg columns := by
  induction columns with
  | nil => exact absurd rfl h
  | cons c rest ih =>
    have hwidth : width cfg (c :: rest) = max (line cfg c).length (width cfg rest) := rfl
    rw [hwidth]
    rcases Nat.le_total (width cfg rest) (line cfg c).length with hfirst | hrest
    · exact ⟨c, List.mem_cons_self .., (Nat.max_eq_left hfirst).symm⟩
    · by_cases hnone : rest = []
      · subst hnone
        exact ⟨c, List.mem_cons_self .., (Nat.max_zero _).symm⟩
      · obtain ⟨d, hd, hlength⟩ := ih hnone
        exact ⟨d, List.mem_cons_of_mem c hd, hlength.trans (Nat.max_eq_right hrest).symm⟩

theorem isGreatest_width (cfg : Config) (h : columns ≠ []) :
    IsGreatest {n | ∃ c ∈ columns, (line cfg c).length = n} (width cfg columns) := by
  refine ⟨exists_length_eq_width cfg h, ?_⟩
  rintro n ⟨c, hc, rfl⟩
  exact length_line_le_width cfg hc

/-! ### Beside a line -/

@[simp] theorem length_spaces (n : Nat) : (spaces n).length = n := by simp [spaces]

theorem eq_of_mem_spaces {ch : Char} (h : ch ∈ (spaces n).toList) : ch = ' ' := by
  rw [spaces, String.toList_ofList] at h
  exact List.eq_of_mem_replicate h

/-- A column's part of a body in which comments begin after `n` characters. -/
structure Stands (cfg : Config) (n : Nat) (c : Column) (chunk : String) : Prop where
  /-- What is missing to `n` characters is never less than nothing. -/
  fits : (line cfg c).length ≤ n
  /-- Before the dashes there are `n` characters, and nothing but spaces behind the line. -/
  remarked : cfg.comments = true → ∀ remark, c.comment = some remark → remark ≠ "" →
    ∃ padding, chunk = line cfg c ++ padding ++ " -- " ++ remark ++ "\n" ∧
      (∀ ch ∈ padding.toList, ch = ' ') ∧ padding.length = n - (line cfg c).length ∧
        (line cfg c ++ padding).length = n
  plain : cfg.comments = false ∨ c.comment = none ∨ c.comment = some "" → chunk = line cfg c ++ "\n"
  ended : ∃ text, chunk = text ++ "\n"

theorem chunk_of_none (h : c.remark? = none) (cfg : Config) (n : Nat) :
    chunk cfg n c = line cfg c ++ "\n" := by
  rw [chunk, marginText, h, String.append_empty]

theorem chunk_of_remark {remark : String} (hcomments : cfg.comments = true)
    (h : c.remark? = some remark) (n : Nat) :
    chunk cfg n c = line cfg c ++ spaces (n - (line cfg c).length) ++ " -- " ++ remark ++ "\n" := by
  rw [chunk, marginText, h]
  dsimp only
  rw [if_pos hcomments, remarkText, ← String.append_assoc, ← String.append_assoc]

theorem stands_chunk (h : (line cfg c).length ≤ n) : Stands cfg n c (chunk cfg n c) where
  fits := h
  remarked hcomments remark hremark hne := by
    have hgiven : c.remark? = some remark := by
      rw [Column.remark?, hremark, Text.given?_some remark hne]
    refine ⟨spaces (n - (line cfg c).length), chunk_of_remark hcomments hgiven n,
      fun _ => eq_of_mem_spaces, length_spaces _, ?_⟩
    rw [String.length_append, length_spaces]
    omega
  plain hplain := by
    rcases hplain with hcomments | hnone | hempty
    · exact chunk_without_comments hcomments n c
    · exact chunk_of_none (by rw [Column.remark?, hnone]; rfl) cfg n
    · exact chunk_of_none (by rw [Column.remark?, hempty]; rfl) cfg n
  ended := ⟨_, rfl⟩

/-- The lines of some columns, with their comments at one place. -/
structure Aligned (cfg : Config) (columns : List Column) (n : Nat) (chunks : List String) : Prop where
  body : columnLines cfg columns = Text.concat chunks
  stands : List.Forall₂ (Stands cfg n) columns chunks
  widest : columns ≠ [] → IsGreatest {length | ∃ c ∈ columns, (line cfg c).length = length} n

theorem aligned_chunks (cfg : Config) (columns : List Column) :
    Aligned cfg columns (width cfg columns) (columns.map (chunk cfg (width cfg columns))) where
  body := rfl
  stands := by
    rw [List.forall₂_map_right_iff, List.forall₂_same]
    exact fun c hc => stands_chunk (length_line_le_width cfg hc)
  widest := isGreatest_width cfg

end Body

/-! ### In a table -/

/-- **Comments are aligned** in the body of any table that defines the columns it lists. They stand
beside the lines of the columns, each of which is a tab, the text of the column and a comma. -/
theorem comments_are_aligned (cfg : Config) (t : Table)
    (h : ∀ id ∈ t.columnIds, t.columns.contains id = true) :
    ∃ columns, (Run.each (t.bodyColumn cfg) t.columnIds).outcome = .ok columns ∧
      List.Forall₂ (fun id c => t.columns.get? id = some c) t.columnIds columns ∧
        (∀ c : Column, Body.line cfg c = "\t" ++ c.text cfg ++ ",") ∧
          (∃ n chunks, Body.Aligned cfg columns n chunks) ∧
            ∀ s text, (t.create cfg s).outcome = .ok text → ∃ rest,
              text = t.banner cfg ++ "CREATE TABLE " ++ cfg.quote t.name ++ " (\n" ++
                Body.columnLines cfg columns ++ rest := by
  obtain ⟨columns, hcolumns⟩ : Succeeds (t.columnIds.mapM t.column) :=
    mapM_succeeds_iff.mpr fun id hid => Table.column_succeeds_iff.mpr (h id hid)
  refine ⟨columns, ?_, ?_, fun _ => rfl, ⟨_, _, Body.aligned_chunks cfg columns⟩,
    fun s text htext => ?_⟩
  · rw [Run.outcome_each]
    simp only [Table.outcome_bodyColumn]
    exact hcolumns
  · exact (mapM_eq_ok_iff.mp hcolumns).imp fun _ _ => Table.column_eq_ok_iff.mp
  · obtain ⟨found, keys, hfound, _, rfl⟩ := Table.create_eq_ok_iff.mp htext
    cases hcolumns.symm.trans hfound
    refine ⟨t.ending cfg s keys, ?_⟩
    rw [Table.createText, Table.ending]
    simp only [String.append_assoc]

/-- Names of two scripts, a column without a comment and one with an empty one. -/
def Table.glossed : Table :=
  (named "t1" "Länder").withColumn
      { id := "c1", name := "Größe", type := .ofBase .float64, comment := "km²" }
    |>.withColumn { id := "c2", name := "名前", type := .ofBase .string }
    |>.withColumn { id := "c3", name := "Id", type := .ofBase .int64, comment := "" }
    |>.withColumn { id := "c4", name := "Hauptstadt", type := .ofBase .bool, comment := "首都" }

theorem comments_are_aligned_glossed :
    (∀ id ∈ Table.glossed.columnIds, Table.glossed.columns.contains id = true) ∧
      ∃ columns n chunks,
        (Run.each (Table.glossed.bodyColumn { comments := true }) Table.glossed.columnIds).outcome =
          .ok columns ∧ columns.length = 4 ∧ Body.Aligned { comments := true } columns n chunks := by
  have hdefined : ∀ id ∈ Table.glossed.columnIds, Table.glossed.columns.contains id = true := by decide
  obtain ⟨columns, houtcome, hcolumns, _, ⟨n, chunks, haligned⟩, _⟩ :=
    comments_are_aligned { comments := true } Table.glossed hdefined
  exact ⟨hdefined, columns, n, chunks, houtcome, hcolumns.length_eq.symm, haligned⟩

example : Body.columnLines { comments := true } Table.glossed.columns.values =
    "\t\x60Größe\x60 FLOAT64,   -- km²\n\t\x60名前\x60 STRING(MAX),\n\t\x60Id\x60 INT64,\n" ++
      "\t\x60Hauptstadt\x60 BOOL, -- 首都\n" := by
  decide

end SchemaScript
