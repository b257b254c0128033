import SchemaScript.Json.Form
import Mathlib.Data.List.Nodup
import Mathlib.Data.List.Perm.Basic
import Mathlib.Data.Option.Defs

/-! What does not matter in JSON.

A `Layout` says where in a value the objects of records stand and what their fields are. The value may be
recast: the members of an object may come in another order, a record's object may have members that are
no fields, and a field that is not required may be left out if it holds its default (`Recast`). A record
is then given the same fields, each of them recast itself or left out (`rel_fields?`). A value that lacks
a required field somewhere (`Lacks`) gives a record a field that does, or no fields at all
(`exists_broken`). -/
namespace SchemaScript.Json

/-! ### Layouts -/

inductive Presence where
  | required
  /-- The field may be missing, and then it is as if it held a blank value. -/
  | elective (blank : Value → Prop)

structure Field (ι : Type) where
  name : String
  presence : Presence
  layout : ι

/-- Where the records of a type stand in its JSON. -/
inductive Layout where
  /-- Text, numbers, truth values and names. -/
  | plain
  | list (item : Layout)
  | map (entry : Layout)
  | record (fields : List (Field Layout))

namespace Field

def required (name : String) (layout : Layout) : Field Layout := ⟨name, .required, layout⟩

/-- A field with a default. -/
def orElse {α : Type} [Form α] (name : String) (fallback : α) (layout : Layout) : Field Layout :=
  ⟨name, .elective fun v => read? v = some fallback, layout⟩

/-- An optional field, for which null is as good as nothing. -/
def optional (name : String) (layout : Layout) : Field Layout := ⟨name, .elective (· = .null), layout⟩

end Field

/-! ### Recast values -/

abbrev Members := List (String × Value)

/-- The same members in another order, in which those of one name keep theirs. -/
def Rearranged (ms ns : Members) : Prop :=
  ms.Perm ns ∧ ∀ name, (ms.filter fun m => m.1 == name) = ns.filter fun n => n.1 == name

/-- The members of one object have been rearranged, wherever it stands. -/
inductive Shuffle : Value → Value → Prop where
  | members {ms ns : Members} (h : Rearranged ms ns) : Shuffle (.object ms) (.object ns)
  | item {before after : List Value} {v w : Value} (h : Shuffle v w) :
    Shuffle (.array (before ++ v :: after)) (.array (before ++ w :: after))
  | member {before after : Members} {name : String} {v w : Value} (h : Shuffle v w) :
    Shuffle (.object (before ++ (name, v) :: after)) (.object (before ++ (name, w) :: after))

/-- One thing about a value has been changed that should not matter. -/
inductive Recast : Layout → Value → Value → Prop where
  | shuffled {layout : Layout} {v w : Value} (h : Shuffle v w) : Recast layout v w
  /-- A member that is no field. -/
  | added {fields : List (Field Layout)} {before after : Members} {name : String} {v : Value}
    (h : name ∉ fields.map Field.name) :
    Recast (.record fields) (.object (before ++ after)) (.object (before ++ (name, v) :: after))
  /-- A field that is left out. -/
  | dropped {fields : List (Field Layout)} {before after : Members} {x : Field Layout}
    {blank : Value → Prop} {v : Value} (hx : x ∈ fields) (hblank : x.presence = .elective blank)
    (hv : blank v) (hsole : x.name ∉ (before ++ after).map Prod.fst) :
    Recast (.record fields) (.object (before ++ (x.name, v) :: after)) (.object (before ++ after))
  | item {layout : Layout} {before after : List Value} {v w : Value} (h : Recast layout v w) :
    Recast (.list layout) (.array (before ++ v :: after)) (.array (before ++ w :: after))
  | entry {layout : Layout} {before after : Members} {name : String} {v w : Value}
    (h : Recast layout v w) :
    Recast (.map layout) (.object (before ++ (name, v) :: after))
      (.object (before ++ (name, w) :: after))
  | field {fields : List (Field Layout)} {before after : Members} {x : Field Layout} {v w : Value}
    (hx : x ∈ fields) (h : Recast x.layout v w) :
    Recast (.record fields) (.object (before ++ (x.name, v) :: after))
      (.object (before ++ (x.name, w) :: after))
  /-- A field of a record that is given as an array. -/
  | place {fields : List (Field Layout)} {before after : List Value} {x : Field Layout} {v w : Value}
    (hx : fields[before.length]? = some x) (h : Recast x.layout v w) :
    Recast (.record fields) (.array (before ++ v :: after)) (.array (before ++ w :: after))

/-- Somewhere in the value the object of a record is without a required field. -/
inductive Lacks : Layout → Value → Prop where
  | missing {fields : List (Field Layout)} {ms : Members} {x : Field Layout} (hx : x ∈ fields)
    (hrequired : x.presence = .required) (h : x.name ∉ ms.map Prod.fst) :
    Lacks (.record fields) (.object ms)
  | item {layout : Layout} {items : List Value} {v : Value} (hv : v ∈ items) (h : Lacks layout v) :
    Lacks (.list layout) (.array items)
  | entry {layout : Layout} {ms : Members} {m : String × Value} (hm : m ∈ ms)
    (h : Lacks layout m.2) : Lacks (.map layout) (.object ms)
  | field {fields : List (Field Layout)} {ms : Members} {x : Field Layout} {v : Value}
    (hx : x ∈ fields) (hv : (x.name, v) ∈ ms) (h : Lacks x.layout v) :
    Lacks (.record fields) (.object ms)
  | place {fields : List (Field Layout)} {items : List Value} {i : Nat} {x : Field Layout} {v : Value}
    (hx : fields[i]? = some x) (hv : items[i]? = some v) (h : Lacks x.layout v) :
    Lacks (.record fields) (.array items)

/-! ### Members -/

/-- Where no name is repeated, members may come in any order. -/
theorem rearranged_of_perm {ms ns : Members} (hdistinct : (ms.map Prod.fst).Nodup) (h : ms.Perm ns) :
    Rearranged ms ns := by
  refine ⟨h, fun name => ?_⟩
  have hone {l : Members} (hl : (l.map Prod.fst).Nodup) :
      (l.filter fun m => m.1 == name).Pairwise fun _ _ => False := by
    rw [List.Nodup, List.pairwise_map] at hl
    refine (hl.filter _).imp_of_mem fun ha hb hne => hne ?_
    rw [List.mem_filter, beq_iff_eq] at ha hb
    exact ha.2.trans hb.2.symm
  refine (h.filter _).eq_of_pairwise (fun _ _ _ _ hab _ => hab.elim) (hone hdistinct) (hone ?_)
  exact (h.map Prod.fst).nodup_iff.mp hdistinct

section Lookup
variable {ms ns before after : Members} {name key : String} {v w : Value}

theorem lookup_eq_head? (ms : Members) (key : String) :
    ms.lookup key = ((ms.filter fun m => m.1 == key).head?).map Prod.snd := by
  induction ms with
  | nil => rfl
  | cons m ms ih =>
    obtain ⟨name, v⟩ := m
    by_cases h : name = key
    · simp [h]
    · have h' : key ≠ name := fun hk => h hk.symm
      simp [List.lookup_cons, h, beq_false_of_ne h', ih]

theorem Rearranged.lookup_eq (h : Rearranged ms ns) (key : String) : ms.lookup key = ns.lookup key := by
  rw [lookup_eq_head?, lookup_eq_head?, h.2]

/-- With another value under a name, what is found is that value or the same as before. -/
theorem lookup_replaced (before after : Members) (name key : String) (v w : Value) :
    (before ++ (name, v) :: after).lookup key = (before ++ (name, w) :: after).lookup key ∨
      key = name ∧ (before ++ (name, v) :: after).lookup key = some v ∧
        (before ++ (name, w) :: after).lookup key = some w := by
  rw [List.lookup_append, List.lookup_append]
  by_cases h : key = name
  · subst h
    rw [List.lookup_cons_self, List.lookup_cons_self]
    cases before.lookup key with
    | some o => exact .inl rfl
    | none => exact .inr ⟨rfl, rfl, rfl⟩
  · rw [List.lookup_cons, List.lookup_cons, beq_false_of_ne h]
    exact .inl rfl

theorem lookup_dropped (before after : Members) {name key : String} (v : Value) (h : key ≠ name) :
    (before ++ (name, v) :: after).lookup key = (before ++ after).lookup key := by
  rw [List.lookup_append, List.lookup_append, List.lookup_cons, beq_false_of_ne h]

theorem lookup_filter {names : List String} (h : name ∈ names) (ms : Members) :
    (ms.filter fun m => names.contains m.1).lookup name = ms.lookup name := by
  rw [lookup_eq_head?, lookup_eq_head?, List.filter_filter]
  congr 2
  refine List.filter_congr fun m _ => ?_
  by_cases hm : m.1 = name
  · simp [hm, h]
  · simp [hm]

theorem lookup_eq_none_iff_not_mem : ms.lookup name = none ↔ name ∉ ms.map Prod.fst := by
  rw [List.lookup_eq_none_iff, List.mem_map]
  constructor
  · intro h hmem
    obtain ⟨m, hm, rfl⟩ := hmem
    exact absurd (h m hm) (by simp)
  · intro h m hm
    exact bne_iff_ne.mpr fun hname => h ⟨m, hm, hname.symm⟩

/-- Names that are all different tell what stands at their places. -/
theorem lookup_zip {names : List String} (hdistinct : names.Nodup) {i : Nat}
    (h : names[i]? = some name) (items : List Value) : (names.zip items).lookup name = items[i]? := by
  induction names generalizing items i with
  | nil => cases h
  | cons first names ih =>
    obtain ⟨hfirst, hdistinct⟩ := List.nodup_cons.mp hdistinct
    cases items with
    | nil => rfl
    | cons v items =>
      cases i with
      | zero =>
        cases Option.some.inj h
        exact List.lookup_cons_self
      | succ i =>
        have hne : name ≠ first := by
          rintro rfl
          exact hfirst (List.mem_of_getElem? h)
        rw [List.zip_cons_cons, List.lookup_cons, beq_false_of_ne hne]
        exact ih hdistinct h items

end Lookup

/-! ### Fields -/

/-- What a field is given before and after a value has been recast. -/
inductive Slot (x : Field Layout) : Option Value → Option Value → Prop where
  | same (o : Option Value) : Slot x o o
  | recast {v w : Value} (h : Recast x.layout v w) : Slot x (some v) (some w)
  | dropped {blank : Value → Prop} {v : Value} (hblank : x.presence = .elective blank)
    (hv : blank v) : Slot x (some v) none

/-- What a field is given lacks something, or it is given nothing and required. -/
def Field.Broken (x : Field Layout) (o : Option Value) : Prop :=
  x.presence = .required ∧ o = none ∨ ∃ v, o = some v ∧ Lacks x.layout v

/-- Each of some fields is given what it was given before, but for how it is cast. -/
def Slots (fields : List (Field Layout)) (fs gs : Fields) : Prop :=
  ∀ x ∈ fields, Slot x (fs.lookup x.name) (gs.lookup x.name)

section Slots
variable {fields : List (Field Layout)} {names : List String} {ms ns before after : Members}
  {name : String} {v w : Value}

theorem name_mem (hnames : fields.map Field.name = names) {x : Field Layout} (hx : x ∈ fields) :
    x.name ∈ names := hnames ▸ List.mem_map_of_mem hx

theorem name_at (hnames : fields.map Field.name = names) {i : Nat} {x : Field Layout}
    (hx : fields[i]? = some x) : names[i]? = some x.name := by
  rw [← hnames, List.getElem?_map, hx]
  rfl

theorem map_fst_filter (ms : Members) (names : List String) :
    (ms.filter fun m => names.contains m.1).map Prod.fst = (ms.map Prod.fst).filter names.contains := by
  rw [List.filter_map]
  rfl

/-- Two objects give a record the same fields if they agree in what is found under its names. -/
theorem rel_fields?_object (hnames : fields.map Field.name = names)
    (hdistinct : ((ms.map Prod.fst).filter names.contains).Nodup ↔
      ((ns.map Prod.fst).filter names.contains).Nodup)
    (hslots : Slots fields ms ns) :
    Option.Rel (Slots fields) (fields? names (.object ms)) (fields? names (.object ns)) := by
  unfold fields?
  simp only [map_fst_filter, ← hdistinct]
  split
  · refine .some fun x hx => ?_
    rw [lookup_filter (name_mem hnames hx), lookup_filter (name_mem hnames hx)]
    exact hslots x hx
  · exact .none

theorem rel_fields?_rearranged (hnames : fields.map Field.name = names) (h : Rearranged ms ns) :
    Option.Rel (Slots fields) (fields? names (.object ms)) (fields? names (.object ns)) := by
  refine rel_fields?_object hnames ((h.1.map Prod.fst).filter _).nodup_iff fun x _ => ?_
  rw [h.lookup_eq]
  exact .same _

/-- One member of an object has another value. -/
theorem rel_fields?_member (hnames : fields.map Field.name = names)
    (h : ∀ x ∈ fields, x.name = name → Recast x.layout v w) :
    Option.Rel (Slots fields) (fields? names (.object (before ++ (name, v) :: after)))
      (fields? names (.object (before ++ (name, w) :: after))) := by
  refine rel_fields?_object hnames ?_ fun x hx => ?_
  · rw [List.map_append, List.map_append, List.map_cons, List.map_cons]
  · rcases lookup_replaced before after name x.name v w with hsame | ⟨hname, hv, hw⟩
    · rw [hsame]
      exact .same _
    · rw [hv, hw]
      exact .recast (h x hx hname)

theorem rel_fields?_added (hnames : fields.map Field.name = names) (h : name ∉ names) :
    Option.Rel (Slots fields) (fields? names (.object (before ++ after)))
      (fields? names (.object (before ++ (name, v) :: after))) := by
  refine rel_fields?_object hnames ?_ fun x hx => ?_
  · rw [List.map_append, List.map_append, List.filter_append, List.filter_append, List.map_cons,
      List.filter_cons_of_neg (by simpa using h)]
  · have hne : x.name ≠ name := by
      rintro rfl
      exact h (name_mem hnames hx)
    rw [lookup_dropped before after v hne]
    exact .same _

theorem rel_fields?_dropped (hnames : fields.map Field.name = names) (hdistinct : names.Nodup)
    {x : Field Layout} {blank : Value → Prop} (hx : x ∈ fields)
    (hblank : x.presence = .elective blank) (hv : blank v)
    (hsole : x.name ∉ (before ++ after).map Prod.fst) :
    Option.Rel (Slots fields) (fields? names (.object (before ++ (x.name, v) :: after)))
      (fields? names (.object (before ++ after))) := by
  have hperm : ((before ++ (x.name, v) :: after).map Prod.fst).Perm
      (x.name :: (before ++ after).map Prod.fst) := by
    rw [List.map_append, List.map_append, List.map_cons]
    exact List.perm_middle
  have hknown : names.contains x.name = true := List.contains_iff_mem.mpr (name_mem hnames hx)
  refine rel_fields?_object hnames ?_ fun y hy => ?_
  · rw [(hperm.filter _).nodup_iff, List.filter_cons_of_pos hknown, List.nodup_cons]
    exact and_iff_right fun hmem => hsole (List.mem_of_mem_filter hmem)
  · by_cases hname : y.name = x.name
    · have hyx : y = x := List.inj_on_of_nodup_map (hnames ▸ hdistinct) hy hx hname
      subst hyx
      have hfirst : before.lookup y.name = none := lookup_eq_none_iff_not_mem.mpr fun hmem =>
        hsole (by rw [List.map_append]; exact List.mem_append_left _ hmem)
      rw [lookup_eq_none_iff_not_mem.mpr hsole, List.lookup_append, hfirst, Option.none_or,
        List.lookup_cons_self]
      exact .dropped hblank hv
    · rw [lookup_dropped before after v hname]
      exact .same _

/-- One item of an array has another value. -/
theorem rel_fields?_item (hnames : fields.map Field.name = names) (hdistinct : names.Nodup)
    {before after : List Value} (h : ∀ x, fields[before.length]? = some x → Recast x.layout v w) :
    Option.Rel (Slots fields) (fields? names (.array (before ++ v :: after)))
      (fields? names (.array (before ++ w :: after))) := by
  have hlength : (before ++ v :: after).length = (before ++ w :: after).length := by simp
  unfold fields?
  simp only [hlength]
  split
  · refine .some fun x hx => ?_
    obtain ⟨i, hi⟩ := List.mem_iff_getElem?.mp hx
    rw [lookup_zip hdistinct (name_at hnames hi), lookup_zip hdistinct (name_at hnames hi)]
    rcases Nat.lt_trichotomy i before.length with hlt | rfl | hgt
    · rw [List.getElem?_append_left hlt, List.getElem?_append_left hlt]
      exact .same _
    · rw [List.getElem?_append_right (Nat.le_refl _), List.getElem?_append_right (Nat.le_refl _),
        Nat.sub_self, List.getElem?_cons_zero, List.getElem?_cons_zero]
      exact .recast (h x hi)
    · obtain ⟨j, hj⟩ : ∃ j, i - before.length = j + 1 := ⟨i - before.length - 1, by omega⟩
      have hle := Nat.le_of_lt hgt
      rw [List.getElem?_append_right hle, List.getElem?_append_right hle, hj,
        List.getElem?_cons_succ, List.getElem?_cons_succ]
      exact .same _
  · exact .none

/-- However a value is cast, a record is given the same fields or none. -/
theorem rel_fields? (hnames : fields.map Field.name = names) (hdistinct : names.Nodup)
    (h : Recast (.record fields) v w) :
    Option.Rel (Slots fields) (fields? names v) (fields? names w) := by
  cases h with
  | shuffled h =>
    cases h with
    | members h => exact rel_fields?_rearranged hnames h
    | item h => exact rel_fields?_item hnames hdistinct fun _ _ => .shuffled h
    | member h => exact rel_fields?_member hnames fun _ _ _ => .shuffled h
  | added h => exact rel_fields?_added hnames (hnames ▸ h)
  | dropped hx hblank hv hsole => exact rel_fields?_dropped hnames hdistinct hx hblank hv hsole
  | @field _ _ _ x _ _ hx h =>
    refine rel_fields?_member hnames fun y hy hname => ?_
    rwa [List.inj_on_of_nodup_map (hnames ▸ hdistinct) hy hx hname]
  | @place _ _ _ x _ _ hx h =>
    refine rel_fields?_item hnames hdistinct fun y hy => ?_
    rwa [Option.some.inj (hy.symm.trans hx)]

/-- A value that lacks something gives a record a field that does. -/
theorem exists_broken (hnames : fields.map Field.name = names) (hdistinct : names.Nodup)
    (h : Lacks (.record fields) v) {fs : Fields} (hfs : fields? names v = some fs) :
    ∃ x ∈ fields, x.Broken (fs.lookup x.name) := by
  cases h with
  | @missing _ ms x hx hrequired h =>
    obtain ⟨_, hfs⟩ := Option.ite_some_none_eq_some.mp hfs
    refine ⟨x, hx, .inl ⟨hrequired, ?_⟩⟩
    rw [← hfs, lookup_filter (name_mem hnames hx)]
    exact lookup_eq_none_iff_not_mem.mpr h
  | @field _ ms x v hx hv h =>
    obtain ⟨hnodup, hfs⟩ := Option.ite_some_none_eq_some.mp hfs
    have hmem : (x.name, v) ∈ ms.filter fun m => names.contains m.1 :=
      List.mem_filter.mpr ⟨hv, List.contains_iff_mem.mpr (name_mem hnames hx)⟩
    refine ⟨x, hx, .inr ⟨v, ?_, h⟩⟩
    rw [← hfs]
    exact (Keyed.get?_eq_some_iff ⟨_, hnodup⟩).mpr hmem
  | @place _ items i x v hx hv h =>
    obtain ⟨_, hfs⟩ := Option.ite_some_none_eq_some.mp hfs
    refine ⟨x, List.mem_of_getElem? hx, .inr ⟨v, ?_, h⟩⟩
    rw [← hfs, lookup_zip hdistinct (name_at hnames hx), hv]

end Slots

end SchemaScript.Json
