import SchemaScript.Json.Form
import Mathlib.Data.List.Forall2

/-! Reading back what was written.

A value need not come back as it was: two values may be written alike, and then one of them stands
for both. `settle` names the one that is read back, and what has been read is settled (`Settles`).
Lists and maps settle what they hold. A record comes back field by field if its fields are written in
the order of their names and none of them twice (`Settles.of_record`); a field that is left out has
to be one that is read as absent or as its default. -/
namespace SchemaScript

/-- The map with its values changed, under the same keys. -/
def Keyed.mapped {α : Type} (f : α → α) (m : Keyed α) : Keyed α where
  entries := m.entries.map (Prod.map id f)
  distinct := by
    rw [List.map_map]
    exact m.distinct

@[simp] theorem Keyed.mapped_id {α : Type} (m : Keyed α) : m.mapped id = m :=
  Keyed.ext (List.map_id m.entries)

namespace Json

variable {α : Type} [Form α] {settle : α → α}

/-- Values are read back settled, and only settled values are ever read. No value is written as
null, which would read as absent. -/
class Settles (α : Type) [Form α] (settle : outParam (α → α)) : Prop where
  read_write (a : α) : read? (write a) = some (settle a)
  write_ne_null (a : α) : write a ≠ .null
  settled {v : Value} {a : α} (h : read? v = some a) : settle a = a

export Settles (read_write write_ne_null settled)

attribute [simp] read_write

/-! ### Plain values -/

instance : Settles String id where
  read_write _ := rfl
  write_ne_null _ := nofun
  settled _ := rfl

instance : Settles Bool id where
  read_write _ := rfl
  write_ne_null _ := nofun
  settled _ := rfl

instance : Settles Int32 id where
  read_write n := by
    show (if _ then _ else _) = _
    rw [if_pos ⟨n.minValue_le_toInt, n.toInt_le⟩, n.ofInt_toInt]
    rfl
  write_ne_null _ := nofun
  settled _ := rfl

instance : Settles Int64 id where
  read_write n := by
    show (if _ then _ else _) = _
    rw [if_pos ⟨n.minValue_le_toInt, n.toInt_le⟩, n.ofInt_toInt]
    rfl
  write_ne_null _ := nofun
  settled _ := rfl

/-! ### Lists and maps -/

section Traversals
variable {β γ : Type} {f : β → Option γ} {l : List β} {cs : List γ}

theorem mapM_eq_some_iff : l.mapM f = some cs ↔ List.Forall₂ (fun b c => f b = some c) l cs := by
  induction l generalizing cs with
  | nil => cases cs <;> simp
  | cons b l ih =>
    simp only [List.forall₂_cons_left_iff, List.mapM_cons, Option.bind_eq_bind,
      Option.bind_eq_some_iff, Option.pure_def, Option.some.injEq, ← ih]
    exact ⟨fun ⟨c, hc, cs, hcs, h⟩ => ⟨c, cs, hc, hcs, h.symm⟩,
      fun ⟨c, cs, hc, hcs, h⟩ => ⟨c, hc, cs, hcs, h.symm⟩⟩

/-- What every step ensures holds of all results. -/
theorem forall_mem_of_mapM {P : γ → Prop} (h : l.mapM f = some cs)
    (hstep : ∀ b c, f b = some c → P c) : ∀ c ∈ cs, P c := by
  have hsteps := mapM_eq_some_iff.mp h
  clear h
  induction hsteps with
  | nil => exact nofun
  | cons hbc _ ih => exact List.forall_mem_cons.mpr ⟨hstep _ _ hbc, ih⟩

theorem map_eq_self {f : β → β} (h : ∀ b ∈ l, f b = b) : l.map f = l :=
  (List.map_congr_left h).trans (List.map_id l)

end Traversals

instance [Settles α settle] : Settles (List α) (List.map settle) where
  read_write as := by
    show (as.map write).mapM read? = _
    rw [mapM_eq_some_iff, List.forall₂_map_left_iff, List.forall₂_map_right_iff, List.forall₂_same]
    exact fun a _ => read_write a
  write_ne_null _ := nofun
  settled {v as} h := by
    cases v with
    | array items => exact map_eq_self (forall_mem_of_mapM h fun _ _ => settled)
    | _ => cases h

instance [Settles α settle] : Settles (Keyed α) (Keyed.mapped settle) where
  read_write m := by
    have hread : (m.entries.map fun e => (e.1, write e.2)).mapM
        (fun m => (read? m.2).map fun a => (m.1, a)) = some (m.mapped settle).entries := by
      rw [mapM_eq_some_iff, Keyed.mapped, List.forall₂_map_left_iff, List.forall₂_map_right_iff,
        List.forall₂_same]
      intro e _
      rw [read_write]
      rfl
    refine (congrArg (Option.map Keyed.ofList) hread).trans (congrArg some ?_)
    exact Keyed.ext (Keyed.entries_ofList (m.mapped settle).distinct)
  write_ne_null _ := nofun
  settled {v m} h := by
    cases v with
    | object members =>
      obtain ⟨l, hl, rfl⟩ := Option.map_eq_some_iff.mp h
      have hsettled : ∀ e ∈ l, settle e.2 = e.2 := by
        refine forall_mem_of_mapM hl fun m e he => ?_
        obtain ⟨a, ha, rfl⟩ := Option.map_eq_some_iff.mp he
        exact settled ha
      exact Keyed.ext (map_eq_self fun e he =>
        Prod.ext rfl (hsettled e (Keyed.mem_of_mem_ofList he)))
    | _ => cases h

/-! ### Fields

A field is read from what is found under its name, so the fields that a record has been written as
are read one by one. -/

/-- An optional value, read from what its field has been given. -/
def readOptional : Option Value → Option (Option α)
  | none | some .null => some none
  | some v => (read? v).map some

theorem readOptional_some {v : Value} (h : v ≠ .null) :
    (readOptional (some v) : Option (Option α)) = (read? v).map some := by
  cases v with
  | null => exact absurd rfl h
  | _ => rfl

@[simp] theorem readOptional_map_write [Settles α settle] (a : Option α) :
    readOptional (a.map write) = some (a.map settle) := by
  cases a with
  | none => rfl
  | some a => rw [Option.map_some, readOptional_some (write_ne_null a), read_write]; rfl

@[simp] theorem lookup_field (name other : String) (a : α) :
    (field name a).lookup other = if other = name then some (write a) else none := by
  by_cases h : other = name
  · simp [field, h]
  · simp [field, List.lookup_cons, beq_false_of_ne h, h]

@[simp] theorem lookup_optionalField (name other : String) (a : Option α) :
    (optionalField name a).lookup other = if other = name then a.map write else none := by
  cases a with
  | none => simp [optionalField]
  | some a => exact lookup_field name other a

namespace Fields

variable (fs : Fields) (name : String)

@[simp] theorem required_eq : (fs.required name : Option α) = (fs.lookup name).bind read? := by
  unfold required
  cases fs.lookup name <;> rfl

@[simp] theorem orElse_eq (fallback : α) :
    fs.orElse name fallback = (fs.lookup name).elim (some fallback) read? := by
  unfold orElse
  cases fs.lookup name <;> rfl

@[simp] theorem optional_eq :
    (fs.optional name : Option (Option α)) = readOptional (fs.lookup name) := rfl

variable {fs name}

theorem settled_of_required [Settles α settle] {a : α} (h : fs.required name = some a) :
    settle a = a := by
  rw [required_eq] at h
  obtain ⟨v, -, hv⟩ := Option.bind_eq_some_iff.mp h
  exact settled hv

theorem settled_of_orElse [Settles α settle] {fallback a : α}
    (hfallback : settle fallback = fallback) (h : fs.orElse name fallback = some a) :
    settle a = a := by
  rw [orElse_eq] at h
  cases hv : fs.lookup name with
  | none =>
    rw [hv] at h
    exact Option.some.inj h ▸ hfallback
  | some v =>
    rw [hv] at h
    exact settled h

end Fields

/-! ### Records -/

section Names
variable {names : List String} {fs : Fields} (name : String)

theorem sublist_field (a : α) : ((field name a).map Prod.fst).Sublist [name] := .refl _

theorem sublist_optionalField (a : Option α) :
    ((optionalField name a).map Prod.fst).Sublist [name] := by
  cases a with
  | none => exact List.nil_sublist _
  | some a => exact sublist_field name a

theorem sublist_append {gs : Fields} (hname : (gs.map Prod.fst).Sublist [name])
    (h : (fs.map Prod.fst).Sublist names) : ((gs ++ fs).map Prod.fst).Sublist (name :: names) := by
  rw [List.map_append]
  exact hname.append h

end Names

/-- Fields that come in the order of their names are the fields of the object they make up. -/
theorem fields?_object {names : List String} {fs : Fields} (hdistinct : names.Nodup)
    (hnames : (fs.map Prod.fst).Sublist names) : fields? names (.object fs) = some fs := by
  have hknown : fs.filter (fun m => names.contains m.1) = fs :=
    List.filter_eq_self.mpr fun m hm =>
      List.contains_iff_mem.mpr (hnames.subset (List.mem_map_of_mem hm))
  have hnodup : (fs.map Prod.fst).Nodup := hdistinct.sublist hnames
  simp only [fields?, hknown, hnodup, if_true]

/-- A record settles as its fields say. -/
theorem Settles.of_record {α : Type} {settle : α → α} (r : Record α) (hdistinct : r.names.Nodup)
    (hnames : ∀ a, ((r.toFields a).map Prod.fst).Sublist r.names)
    (hread : ∀ a, r.ofFields? (r.toFields a) = some (settle a))
    (hsettled : ∀ fs a, r.ofFields? fs = some a → settle a = a) :
    @Settles α r.form settle :=
  letI := r.form
  { read_write := fun a => by
      show (fields? r.names (.object (r.toFields a))).bind r.ofFields? = _
      rw [fields?_object hdistinct (hnames a), Option.bind_some, hread]
    write_ne_null := fun _ => nofun
    settled := fun h => by
      obtain ⟨fs, -, hfs⟩ := Option.bind_eq_some_iff.mp h
      exact hsettled fs _ hfs }

end Json

end SchemaScript
