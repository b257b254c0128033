import SchemaScript.Naming.Quoting
import Mathlib

/-! Names as a reader of the script takes them.

A reader finds a quoted name by its opening quote and reads on to the quote that closes it. Between
double quotes every name comes back, and a name that is written bare is no reserved word
(`postgreSql_names_come_back`). Between backticks a backslash takes the character after it as it stands,
also one of the name's own, which are written as they are: a name comes back exactly if it has no
backslash (`backticked_comes_back_iff`). Names are still told apart by how they are written
(`quote_tells_names_apart`). -/
namespace SchemaScript

namespace Quoting

/-! ### Reading quoted names -/

/-- The rest of a name in backticks, and what follows the backtick that closes it. A backslash takes
the character after it as it stands. -/
def readToBacktick : List Char → Option (List Char × List Char)
  | [] => none
  | '\x60' :: rest => some ([], rest)
  | '\\' :: c :: rest => (readToBacktick rest).map (Prod.map (c :: ·) id)
  | c :: rest => (readToBacktick rest).map (Prod.map (c :: ·) id)

/-- A name in backticks, and what follows it. -/
def readBackticked : List Char → Option (List Char × List Char)
  | '\x60' :: rest => readToBacktick rest
  | _ => none

/-- The rest of a name in double quotes, and what follows the double quote that closes it. Two double
quotes in a row stand for one. -/
def readToDoubleQuote : List Char → Option (List Char × List Char)
  | [] => none
  | '\x22' :: '\x22' :: rest => (readToDoubleQuote rest).map (Prod.map ('\x22' :: ·) id)
  | '\x22' :: rest => some ([], rest)
  | c :: rest => (readToDoubleQuote rest).map (Prod.map (c :: ·) id)

/-- A name in double quotes, and what follows it. -/
def readDoubleQuoted : List Char → Option (List Char × List Char)
  | '\x22' :: rest => readToDoubleQuote rest
  | _ => none

/-! ### What stands between the quotes -/

/-- The characters of a name, with a guard before each that looks like the closing quote. -/
def guarded (guard quote : Char) (name : List Char) : List Char :=
  name.flatMap fun c => if c = quote then [guard, c] else [c]

variable {guard quote c : Char}

theorem guarded_quote (guard quote : Char) (name : List Char) :
    guarded guard quote (quote :: name) = guard :: quote :: guarded guard quote name := by
  simp [guarded]

theorem guarded_cons (h : c ≠ quote) (name : List Char) :
    guarded guard quote (c :: name) = c :: guarded guard quote name := by
  simp [guarded, h]

theorem toList_backticked (name : String) :
    (backticked name).toList = '\x60' :: (guarded '\\' '\x60' name.toList ++ ['\x60']) := by
  simp [backticked, guarded]

theorem toList_doubleQuoted (name : String) :
    (doubleQuoted name).toList = '\x22' :: (guarded '\x22' '\x22' name.toList ++ ['\x22']) := by
  have hsame : (fun c => if c = '\x22' then ['\x22', c] else [c]) =
      fun c => if c = '\x22' then [c, c] else [c] := by
    funext c
    split <;> simp_all
  simp [doubleQuoted, guarded, hsame]

/-! ### Backticks -/

theorem readToBacktick_cons (hbacktick : c ≠ '\x60') (hbackslash : c ≠ '\\')
    (rest : List Char) :
    readToBacktick (c :: rest) = (readToBacktick rest).map (Prod.map (c :: ·) id) := by
  simp [readToBacktick, hbackslash]

theorem map_cons_eq_some_iff {x : Option (List Char × List Char)} {read rest : List Char} :
    x.map (Prod.map (c :: ·) id) = some (read, rest) ↔
      ∃ more, x = some (more, rest) ∧ c :: more = read := by
  rcases x with _ | ⟨more, left⟩
  · simp
  · simp [and_comm]

/-- A reader takes at least the backtick that closes the name. -/
theorem length_lt_of_readToBacktick {text read rest : List Char}
    (h : readToBacktick text = some (read, rest)) : rest.length < text.length := by
  fun_induction readToBacktick text generalizing read with
  | case1 => cases h
  | case2 text =>
    cases h
    exact Nat.lt_succ_self _
  | case3 c text ih =>
    obtain ⟨more, hmore, _⟩ := map_cons_eq_some_iff.mp h
    exact Nat.lt_succ_of_lt (Nat.lt_succ_of_lt (ih hmore))
  | case4 c text _ _ ih =>
    obtain ⟨more, hmore, _⟩ := map_cons_eq_some_iff.mp h
    exact Nat.lt_succ_of_lt (ih hmore)

/-- What a name turns into when its own backslashes are taken for escapes: each takes the character
after it as it stands. There is no such thing if one of them takes a backtick of the name or the one
that closes it. -/
def unescaped? : List Char → Option (List Char)
  | [] => some []
  | '\\' :: c :: rest => if c = '\x60' then none else (unescaped? rest).map (c :: ·)
  | c :: rest => if c = '\\' then none else (unescaped? rest).map (c :: ·)

theorem unescaped?_cons (h : c ≠ '\\') (rest : List Char) :
    unescaped? (c :: rest) = (unescaped? rest).map (c :: ·) := by
  simp [unescaped?, h]

/-- **What is read of a name between backticks**: itself, with its backslashes taken for escapes. -/
theorem readToBacktick_guarded (name following read : List Char) :
    readToBacktick (guarded '\\' '\x60' name ++ '\x60' :: following) = some (read, following) ↔
      unescaped? name = some read := by
  fun_induction unescaped? name generalizing read with
  | case1 => simp [guarded, readToBacktick]
  | case2 rest =>
    -- The backslash takes the one before the backtick, and the backtick closes the name too early.
    rw [guarded_cons (by decide), guarded_quote]
    have hlonger : guarded '\\' '\x60' rest ++ '\x60' :: following ≠ following := fun h => by
      have hlength := congrArg List.length h
      rw [List.length_append, List.length_cons] at hlength
      omega
    simp [readToBacktick, hlonger]
  | case3 c rest hc ih =>
    rw [guarded_cons (by decide), guarded_cons hc, Option.map_eq_some_iff]
    simp only [← ih]
    exact map_cons_eq_some_iff
  | case4 rest h =>
    -- The last backslash takes the closing backtick, and reading goes on behind it.
    cases rest with
    | cons c rest => exact absurd rfl (h c rest rfl)
    | nil =>
      constructor
      · intro hread
        obtain ⟨more, hmore, _⟩ := map_cons_eq_some_iff.mp hread
        exact absurd (length_lt_of_readToBacktick hmore) (Nat.lt_irrefl _)
      · exact nofun
  | case5 c rest h hc ih =>
    rw [Option.map_eq_some_iff]
    simp only [← ih]
    by_cases hbacktick : c = '\x60'
    · rw [hbacktick, guarded_quote]
      exact map_cons_eq_some_iff
    · rw [guarded_cons hbacktick, List.cons_append, readToBacktick_cons hbacktick hc]
      exact map_cons_eq_some_iff

/-- A backslash that takes a character is gone. -/
theorem length_lt_of_unescaped? {name read : List Char} (h : unescaped? name = some read) :
    read.length ≤ name.length ∧ ('\\' ∈ name → read.length < name.length) := by
  fun_induction unescaped? name generalizing read with
  | case1 => simp_all
  | case2 rest => cases h
  | case3 c rest hc ih =>
    obtain ⟨more, hmore, rfl⟩ := Option.map_eq_some_iff.mp h
    have hrest := Nat.succ_le_succ (ih hmore).1
    exact ⟨Nat.le_succ_of_le hrest, fun _ => Nat.lt_succ_of_le hrest⟩
  | case4 rest _ => cases h
  | case5 c rest _ hc ih =>
    obtain ⟨more, hmore, rfl⟩ := Option.map_eq_some_iff.mp h
    have hrest := ih hmore
    refine ⟨Nat.succ_le_succ hrest.1, fun hmem => Nat.succ_lt_succ (hrest.2 ?_)⟩
    exact (List.mem_cons.mp hmem).resolve_left (Ne.symm hc)

theorem unescaped?_eq_self_iff (name : List Char) : unescaped? name = some name ↔ '\\' ∉ name := by
  constructor
  · intro h hmem
    exact absurd ((length_lt_of_unescaped? h).2 hmem) (Nat.lt_irrefl _)
  · intro h
    induction name with
    | nil => rfl
    | cons c name ih =>
      have hc : c ≠ '\\' := fun hc => h (hc ▸ List.mem_cons_self)
      rw [unescaped?_cons hc, ih fun hmem => h (List.mem_cons_of_mem c hmem)]
      rfl

/-! ### Double quotes -/

theorem readToDoubleQuote_cons (h : c ≠ '\x22') (rest : List Char) :
    readToDoubleQuote (c :: rest) = (readToDoubleQuote rest).map (Prod.map (c :: ·) id) := by
  simp [readToDoubleQuote, h]

theorem readToDoubleQuote_close {following : List Char} (h : following.head? ≠ some '\x22') :
    readToDoubleQuote ('\x22' :: following) = some ([], following) := by
  cases following with
  | nil => rfl
  | cons c rest =>
    have hc : c ≠ '\x22' := fun hc => h (congrArg some hc)
    simp [readToDoubleQuote, hc]

/-- **A name between double quotes comes back**, if no double quote follows the one that closes it. -/
theorem readToDoubleQuote_guarded (name : List Char) {following : List Char}
    (h : following.head? ≠ some '\x22') :
    readToDoubleQuote (guarded '\x22' '\x22' name ++ '\x22' :: following) = some (name, following) := by
  induction name with
  | nil => exact readToDoubleQuote_close h
  | cons c name ih =>
    by_cases hc : c = '\x22'
    · rw [hc, guarded_quote, List.cons_append, List.cons_append, readToDoubleQuote, ih]
      rfl
    · rw [guarded_cons hc, List.cons_append, readToDoubleQuote_cons hc, ih]
      rfl

/-! ### Telling names apart -/

/-- The characters of a name without the backslashes that stand right before a backtick. -/
def withoutEscapes : List Char → List Char
  | [] => []
  | '\\' :: '\x60' :: rest => '\x60' :: withoutEscapes rest
  | c :: rest => c :: withoutEscapes rest

theorem guarded_ne_backtick_cons (name rest : List Char) :
    guarded '\\' '\x60' name ≠ '\x60' :: rest := by
  cases name with
  | nil => exact nofun
  | cons c name =>
    by_cases hc : c = '\x60'
    · rw [hc, guarded_quote]
      exact fun h => absurd (List.cons.inj h).1 (by decide)
    · rw [guarded_cons hc]
      exact fun h => hc (List.cons.inj h).1

/-- Where a backtick has a backslash before it, that is the one written with it, so it can go. -/
theorem withoutEscapes_guarded (name : List Char) :
    withoutEscapes (guarded '\\' '\x60' name) = name := by
  induction name with
  | nil => rfl
  | cons c name ih =>
    by_cases hc : c = '\x60'
    · rw [hc, guarded_quote, withoutEscapes, ih]
    · rw [guarded_cons hc, withoutEscapes, ih]
      exact fun rest _ hrest => guarded_ne_backtick_cons name rest hrest

theorem backticked_injective : Function.Injective backticked := by
  intro a b h
  have hchars := congrArg String.toList h
  rw [toList_backticked, toList_backticked, List.cons.injEq, List.append_left_inj] at hchars
  have hescaped := congrArg withoutEscapes hchars.2
  rw [withoutEscapes_guarded, withoutEscapes_guarded] at hescaped
  exact String.toList_inj.mp hescaped

theorem readDoubleQuoted_doubleQuoted (name : String) {following : List Char}
    (h : following.head? ≠ some '\x22') :
    readDoubleQuoted ((doubleQuoted name).toList ++ following) = some (name.toList, following) := by
  rw [toList_doubleQuoted, List.cons_append, List.append_assoc]
  exact readToDoubleQuote_guarded name.toList h

theorem doubleQuoted_injective : Function.Injective doubleQuoted := by
  intro a b h
  have hnone : ([] : List Char).head? ≠ some '\x22' := by decide
  have hread := readDoubleQuoted_doubleQuoted a hnone
  rw [h, readDoubleQuoted_doubleQuoted b hnone, Option.some.injEq, Prod.mk.injEq] at hread
  exact String.toList_inj.mp hread.1.symm

theorem doubleQuote_mem_doubleQuoted (name : String) : '\x22' ∈ (doubleQuoted name).toList := by
  rw [toList_doubleQuoted]
  exact List.mem_cons_self

end Quoting

/-! ### Reserved words -/

theorem Text.fold_toUpper (text : String) : fold text.toUpper = fold text := by
  simp [fold, String.toUpper, Char.toLower_toUpper_eq_toLower]

theorem Text.map_toUpper_fold (text : String) :
    (fold text).map Char.toUpper = text.toList.map Char.toUpper := by
  simp [fold, Char.toUpper_toLower_eq_toUpper]

namespace Reserved

/-- Reserved words are kept in capitals, and none begins with a double quote. -/
theorem words_spec : ∀ word ∈ words,
    word.toList.map Char.toUpper = word.toList ∧ (Text.fold word).head? ≠ some '\x22' := by
  decide +kernel

theorem contains_eq_true_iff {name : String} :
    contains name = true ↔ ∃ word ∈ words, Text.fold word = Text.fold name := by
  simp only [contains, List.any_eq_true, Text.sameFolded_iff]

theorem contains_eq_false_iff {name : String} :
    contains name = false ↔ ∀ word ∈ words, Text.fold word ≠ Text.fold name := by
  rw [← Bool.not_eq_true, contains_eq_true_iff]
  simp only [not_exists, not_and, ne_eq]

/-- A name is reserved if its capitals are. -/
theorem contains_iff_toUpper_mem (name : String) : contains name = true ↔ name.toUpper ∈ words := by
  rw [contains_eq_true_iff]
  constructor
  · intro h
    obtain ⟨word, hword, hfold⟩ := h
    have hupper : name.toUpper = word := by
      have hfolded := congrArg (List.map Char.toUpper) hfold
      rw [Text.map_toUpper_fold, Text.map_toUpper_fold, (words_spec word hword).1] at hfolded
      rw [← String.toList_inj, String.toUpper, String.toList_map]
      exact hfolded.symm
    rwa [hupper]
  · intro h
    exact ⟨name.toUpper, h, Text.fold_toUpper name⟩

/-- A name in double quotes is no reserved word. -/
theorem contains_doubleQuoted (name : String) : contains (Quoting.doubleQuoted name) = false := by
  rw [contains_eq_false_iff]
  intro word hword hfold
  apply (words_spec word hword).2
  rw [hfold, Text.fold, Quoting.toList_doubleQuoted]
  rfl

end Reserved

open Quoting (readBackticked readDoubleQuoted unescaped?)

/-! ### Names of a script -/

/-- **A name in backticks comes back exactly if it has no backslash.** In general a reader takes the
backslashes of the name for escapes, and if one of them takes a backtick, of the name or the closing one,
then what is read does not end where the name does. -/
theorem backticked_comes_back_iff {cfg : Config} (hprotected : cfg.protectNames = true)
    (hdialect : cfg.dialect = .googleSql) (name : String) (following : List Char) :
    (readBackticked ((cfg.quote name).toList ++ following) = some (name.toList, following) ↔
        '\\' ∉ name.toList) ∧
      ∀ read, readBackticked ((cfg.quote name).toList ++ following) = some (read, following) ↔
        unescaped? name.toList = some read := by
  have hread (read : List Char) :
      readBackticked ((cfg.quote name).toList ++ following) = some (read, following) ↔
        unescaped? name.toList = some read := by
    rw [Config.quote_googleSql hprotected hdialect, Quoting.toList_backticked, List.cons_append,
      List.append_assoc]
    exact Quoting.readToBacktick_guarded name.toList following read
  exact ⟨(hread name.toList).trans (Quoting.unescaped?_eq_self_iff name.toList), hread⟩

theorem backticked_comes_back_iff_odd :
    ({} : Config).protectNames = true ∧ ({} : Config).dialect = .googleSql ∧
      readBackticked ((({} : Config).quote "odd\x60name").toList ++ [')']) =
        some ("odd\x60name".toList, [')']) :=
  ⟨rfl, rfl, (backticked_comes_back_iff rfl rfl "odd\x60name" [')']).1.mpr (by decide)⟩

/-- A backslash at the end takes the closing backtick, and before a backtick it lets the name end
there: what follows in the name is read as part of the script. -/
theorem backslash_breaks_out :
    ({} : Config).protectNames = true ∧ ({} : Config).dialect = .googleSql ∧
      readBackticked (({} : Config).quote "a\\").toList = none ∧
      readBackticked (({} : Config).quote "a\\\x60 (b").toList =
        some ("a\\".toList, " (b\x60".toList) := by
  decide

/-- **Names of a PostgreSQL script come back.** A name is written bare only if case does not matter and
it is not reserved, and else between double quotes, where it is read back whatever it is. What is
written is never a reserved word. -/
theorem postgreSql_names_come_back {cfg : Config} (hprotected : cfg.protectNames = true)
    (hdialect : cfg.dialect = .postgreSql) (name : String) :
    ((cfg.quote name = name ∧ cfg.keepsCase = false ∧ name.toUpper ∉ Reserved.words) ∨
        (cfg.keepsCase = true ∨ name.toUpper ∈ Reserved.words) ∧
          ∀ following : List Char, following.head? ≠ some '\x22' →
            readDoubleQuoted ((cfg.quote name).toList ++ following) =
              some (name.toList, following)) ∧
      ∀ word ∈ Reserved.words, Text.fold word ≠ Text.fold (cfg.quote name) := by
  rw [Config.quote_postgreSql hprotected hdialect, ← Reserved.contains_iff_toUpper_mem,
    ← Reserved.contains_eq_false_iff]
  by_cases hquoted : (cfg.keepsCase || Reserved.contains name) = true
  · rw [if_pos hquoted]
    refine ⟨.inr ⟨by simpa using hquoted, fun following => ?_⟩, ?_⟩
    · exact Quoting.readDoubleQuoted_doubleQuoted name
    · exact Reserved.contains_doubleQuoted name
  · rw [if_neg hquoted]
    rw [Bool.not_eq_true, Bool.or_eq_false_iff] at hquoted
    refine ⟨.inl ⟨rfl, hquoted.1, ?_⟩, hquoted.2⟩
    rw [hquoted.2]
    exact Bool.false_ne_true

theorem postgreSql_names_come_back_all :
    (Config.ofDialect .postgreSql).protectNames = true ∧
      (Config.ofDialect .postgreSql).dialect = .postgreSql ∧
        readDoubleQuoted (((Config.ofDialect .postgreSql).quote "all").toList ++ [')']) =
          some ("all".toList, [')']) := by
  have hquoted := (@postgreSql_names_come_back (.ofDialect .postgreSql) rfl rfl "all").1
  refine ⟨rfl, rfl, (hquoted.resolve_left fun hbare => ?_).2 [')'] (by decide)⟩
  exact hbare.2.2 ((Reserved.contains_iff_toUpper_mem "all").mp (by decide))

theorem Config.quote_injective {cfg : Config}
    (h : cfg.protectNames = false ∨ cfg.dialect = .googleSql ∨ cfg.keepsCase = true) :
    Function.Injective cfg.quote := by
  intro a b hab
  cases hprotected : cfg.protectNames with
  | false => rwa [quote_bare hprotected, quote_bare hprotected] at hab
  | true =>
    cases hdialect : cfg.dialect with
    | googleSql =>
      rw [quote_googleSql hprotected hdialect, quote_googleSql hprotected hdialect] at hab
      exact Quoting.backticked_injective hab
    | postgreSql =>
      have hcase : cfg.keepsCase = true := by simpa [hprotected, hdialect] using h
      rw [quote_postgreSql hprotected hdialect, quote_postgreSql hprotected hdialect, hcase] at hab
      exact Quoting.doubleQuoted_injective hab

/-- Among names without double quotes, one that is written bare does not look like one that is quoted. -/
theorem Config.quote_injOn (cfg : Config) : Set.InjOn cfg.quote {name | '\x22' ∉ name.toList} := by
  by_cases h : cfg.protectNames = false ∨ cfg.dialect = .googleSql ∨ cfg.keepsCase = true
  · exact (quote_injective h).injOn
  · obtain ⟨hprotected, hdialect⟩ : cfg.protectNames = true ∧ cfg.dialect = .postgreSql := by
      cases hdialect : cfg.dialect <;> simp_all
    intro a ha b hb hab
    rw [quote_postgreSql hprotected hdialect, quote_postgreSql hprotected hdialect] at hab
    split at hab
    · split at hab
      · exact Quoting.doubleQuoted_injective hab
      · exact absurd (hab ▸ Quoting.doubleQuote_mem_doubleQuoted a) hb
    · split at hab
      · exact absurd (hab ▸ Quoting.doubleQuote_mem_doubleQuoted b) ha
      · exact hab

/-- **Different names are written differently**: always where no name is quoted, between backticks, and
where every name is put in double quotes; where some names are left bare, if they have no double
quotes. -/
theorem quote_tells_names_apart (cfg : Config) :
    (cfg.protectNames = false ∨ cfg.dialect = .googleSql ∨ cfg.keepsCase = true →
        Function.Injective cfg.quote) ∧
      Set.InjOn cfg.quote {name | '\x22' ∉ name.toList} :=
  ⟨Config.quote_injective, cfg.quote_injOn⟩

theorem quote_tells_names_apart_all :
    ({} : Config).dialect = .googleSql ∧ ({} : Config).quote "a\\" ≠ ({} : Config).quote "a\x60" ∧
      (Config.ofDialect .postgreSql).quote "all" ≠ (Config.ofDialect .postgreSql).quote "alls" := by
  refine ⟨rfl, fun h => ?_, fun h => ?_⟩
  · exact absurd ((quote_tells_names_apart {}).1 (.inr (.inl rfl)) h) (by decide)
  · have hsame := (quote_tells_names_apart (.ofDialect .postgreSql)).2
      (show '\x22' ∉ "all".toList by decide) (show '\x22' ∉ "alls".toList by decide) h
    exact absurd hsame (by decide)

end SchemaScript
