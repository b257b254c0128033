import SchemaScript.Proofs.Forms
import SchemaScript.Proofs.Maps
import SchemaScript.Proofs.Presentation

/-! Types that are read the same however their JSON is presented.

A type is `Regular` if the same is read of a value and of one that has been recast, and nothing of one
that lacks a required field. Plain types are, lists and maps are if what they hold is, and so is a record
that reads its fields one after another as its layout says (`Follows`, `Regular.of_record`). -/
namespace SchemaScript.Json

class Regular (α : Type) [BEq α] [Form α] (layout : outParam Layout) : Prop where
  read_same {v w : Value} (h : Recast layout v w) : ((read? v : Option α) == read? w) = true
  read_none {v : Value} (h : Lacks layout v) : (read? v : Option α) = none

export Regular (read_same read_none)

/-! ### Reading fields -/

theorem Recast.ne_null {layout : Layout} {v w : Value} (h : Recast layout v w) :
    v ≠ .null ∧ w ≠ .null := by
  cases h with
  | shuffled h => cases h <;> exact ⟨nofun, nofun⟩
  | _ => exact ⟨nofun, nofun⟩

theorem Lacks.ne_null {layout : Layout} {v : Value} (h : Lacks layout v) : v ≠ .null := by
  cases h <;> exact nofun

section Reading
variable {α β : Type} [BEq α] [BEq β]

theorem bind_beq_bind {f g : β → Option α} {x y : Option β} (h : (x == y) = true)
    (hfg : ∀ b c, (b == c) = true → (f b == g c) = true) : (x.bind f == y.bind g) = true := by
  cases x with
  | none =>
    cases y with
    | none => rfl
    | some c => cases h
  | some b =>
    cases y with
    | none => cases h
    | some c => exact hfg b c h

theorem map_beq_map {f : β → α} {x y : Option β} (h : (x == y) = true)
    (hf : ∀ b c, (b == c) = true → (f b == f c) = true) : (x.map f == y.map f) = true := by
  rw [Option.map_eq_bind, Option.map_eq_bind]
  exact bind_beq_bind h hf

/-- A way to read a field. It sees no difference in how the field is cast, and reads nothing of a field
that is broken. -/
structure Field.Reads (x : Field Layout) (read : Fields → Option β) : Prop where
  same (fs gs : Fields) (h : Slot x (fs.lookup x.name) (gs.lookup x.name)) :
    (read fs == read gs) = true
  fails (fs : Fields) (h : x.Broken (fs.lookup x.name)) : read fs = none

namespace Field.Reads

theorem of_slot [ReflBEq β] {x : Field Layout} {read : Fields → Option β}
    (readSlot : Option Value → Option β) (hread : ∀ fs, read fs = readSlot (fs.lookup x.name))
    (hrecast : ∀ v w, Recast x.layout v w → (readSlot (some v) == readSlot (some w)) = true)
    (hdropped : ∀ blank v, x.presence = .elective blank → blank v →
      (readSlot (some v) == readSlot none) = true)
    (hrequired : x.presence = .required → readSlot none = none)
    (hlacks : ∀ v, Lacks x.layout v → readSlot (some v) = none) : x.Reads read where
  same fs gs h := by
    rw [hread, hread]
    generalize fs.lookup x.name = o, gs.lookup x.name = p at h
    cases h with
    | same => exact BEq.rfl
    | recast h => exact hrecast _ _ h
    | dropped hblank hv => exact hdropped _ _ hblank hv
  fails fs h := by
    rw [hread]
    rcases h with ⟨hx, h⟩ | ⟨v, hv, h⟩
    · rw [h, hrequired hx]
    · rw [hv, hlacks v h]

variable [Form β] {layout : Layout} [Regular β layout] [ReflBEq β] {name : String}

theorem required : (Field.required name layout).Reads fun fs => (fs.required name : Option β) :=
  of_slot (·.bind read?) (Fields.required_eq · name) (fun _ _ => read_same) nofun
    (fun _ => rfl) fun _ => read_none

theorem orElse {fallback : β} :
    (Field.orElse name fallback layout).Reads fun fs => fs.orElse name fallback := by
  refine of_slot (·.elim (some fallback) read?) (Fields.orElse_eq · name fallback)
    (fun _ _ => read_same) (fun blank v hblank hv => ?_) nofun fun _ => read_none
  cases hblank
  exact beq_of_eq hv

theorem optional :
    (Field.optional name layout).Reads fun fs => (fs.optional name : Option (Option β)) := by
  refine of_slot readOptional (Fields.optional_eq · name) (fun v w h => ?_)
    (fun blank v hblank hv => ?_) nofun fun v h => ?_
  · have hsame : ((read? v : Option β) == read? w) = true := read_same h
    rw [readOptional_some h.ne_null.1, readOptional_some h.ne_null.2]
    exact map_beq_map hsame fun _ _ hbc => hbc
  · cases hblank
    rw [hv]
    rfl
  · have hnone : (read? v : Option β) = none := read_none h
    rw [readOptional_some h.ne_null, hnone]
    rfl

end Field.Reads

/-! ### Reading records -/

/-- Two ways to read a record. Both read these fields one after another, and make the same of them. -/
structure Follows (fields : List (Field Layout)) (f g : Fields → Option α) : Prop where
  same (fs gs : Fields) (h : Slots fields fs gs) : (f fs == g gs) = true
  fails (fs : Fields) (h : ∃ x ∈ fields, x.Broken (fs.lookup x.name)) : f fs = none

namespace Follows

theorem done {a b : α} (h : (a == b) = true) : Follows [] (fun _ => some a) fun _ => some b where
  same _ _ _ := h
  fails _ h := by
    obtain ⟨_, hx, _⟩ := h
    cases hx

variable {x : Field Layout} {fields : List (Field Layout)} {read : Fields → Option β}
  {f g : β → Fields → Option α}

/-- First one field, and then the others, whichever of two values that are the same has been read. -/
theorem bind [ReflBEq β] (hx : x.Reads read)
    (h : ∀ b c, (b == c) = true → Follows fields (f b) (g c)) :
    Follows (x :: fields) (fun fs => read fs >>= fun b => f b fs)
      fun gs => read gs >>= fun c => g c gs where
  same fs gs hslots := by
    obtain ⟨hslot, hslots⟩ := List.forall_mem_cons.mp hslots
    exact bind_beq_bind (hx.same fs gs hslot) fun b c hbc => (h b c hbc).same fs gs hslots
  fails fs hbroken := by
    cases hb : read fs with
    | none => rfl
    | some b =>
      obtain ⟨y, hy, hbroken⟩ := hbroken
      rcases List.mem_cons.mp hy with rfl | hy
      · rw [hx.fails fs hbroken] at hb
        cases hb
      · exact (h b b BEq.rfl).fails fs ⟨y, hy, hbroken⟩

/-- Where the same is equal, there is only one value to go on with. -/
theorem step [LawfulBEq β] (hx : x.Reads read) (h : ∀ b, Follows fields (f b) (g b)) :
    Follows (x :: fields) (fun fs => read fs >>= fun b => f b fs)
      fun gs => read gs >>= fun c => g c gs := by
  refine bind hx fun b c hbc => ?_
  rw [eq_of_beq hbc]
  exact h c

end Follows

/-- A record that is read field by field is regular. -/
theorem Regular.of_record (r : Record α) {fields : List (Field Layout)}
    (hnames : fields.map Field.name = r.names) (hdistinct : r.names.Nodup)
    (h : Follows fields r.ofFields? r.ofFields?) : @Regular α _ r.form (.record fields) :=
  letI := r.form
  { read_same := fun {v w} hrecast => by
      show ((fields? r.names v).bind r.ofFields? == (fields? r.names w).bind r.ofFields?) = true
      have hfields := rel_fields? hnames hdistinct hrecast
      generalize fields? r.names v = fs, fields? r.names w = gs at hfields
      cases hfields with
      | none => rfl
      | some hslots => exact h.same _ _ hslots
    read_none := fun {v} hlacks => by
      show (fields? r.names v).bind r.ofFields? = none
      rw [Option.bind_eq_none_iff]
      exact fun fs hfs => h.fails fs (exists_broken hnames hdistinct hlacks hfs) }

end Reading

/-! ### Plain values -/

/-- There is nothing to change in a plain value, and objects and arrays are none. -/
theorem Regular.of_plain {α : Type} [BEq α] [ReflBEq α] [Form α]
    (h : ∀ v w, Shuffle v w → (read? v : Option α) = read? w) : Regular α .plain where
  read_same {v w} hrecast := by
    cases hrecast with
    | shuffled hshuffle => exact beq_of_eq (h v w hshuffle)
  read_none hlacks := nomatch hlacks

/-- A name is no object in which anything could change places. -/
theorem readNamed_same {α : Type} (ofName? : String → Option α) {v w : Value} (h : Shuffle v w) :
    readNamed ofName? v = readNamed ofName? w := by
  cases h with
  | @members ms ns h =>
    rcases ms with _ | ⟨m, _ | ⟨m', ms⟩⟩
    · rw [h.1.nil_eq]
    · rw [← List.singleton_perm.mp h.1]
    · rcases ns with _ | ⟨n, _ | ⟨n', ns⟩⟩
      · cases h.1.length_eq
      · cases h.1.length_eq
      · simp [readNamed]
  | item h => rfl
  | @member before after name v w h =>
    have hnull : v ≠ .null ∧ w ≠ .null := by cases h <;> exact ⟨nofun, nofun⟩
    rcases before with _ | ⟨b, before⟩
    · cases after <;> simp [readNamed, hnull]
    · cases before <;> simp [readNamed]

instance : Regular String .plain := .of_plain fun _ _ h => by cases h <;> rfl

instance : Regular Bool .plain := .of_plain fun _ _ h => by cases h <;> rfl

instance : Regular Int32 .plain := .of_plain fun _ _ h => by cases h <;> rfl

/-! ### Lists and maps -/

section Traversals
variable {β γ : Type} {f : β → Option γ}

theorem mapM_replaced {b c : β} (h : f b = f c) (before after : List β) :
    (before ++ b :: after).mapM f = (before ++ c :: after).mapM f := by
  rw [List.mapM_append, List.mapM_append, List.mapM_cons, List.mapM_cons, h]

theorem mapM_eq_none_iff {l : List β} : l.mapM f = none ↔ ∃ b ∈ l, f b = none := by
  induction l with
  | nil => simp
  | cons b l ih =>
    rw [List.mapM_cons, List.exists_mem_cons_iff, ← ih]
    cases f b with
    | none => simp
    | some c => cases l.mapM f <;> simp

end Traversals

section Containers
variable {α : Type} [Form α]

/-- Nothing is read of an object that has a member of which nothing is read. -/
theorem read_object_eq_none_iff {ms : Members} :
    (read? (.object ms) : Option (Keyed α)) = none ↔ ∃ m ∈ ms, (read? m.2 : Option α) = none := by
  refine Option.map_eq_none_iff.trans (mapM_eq_none_iff.trans ?_)
  simp only [Option.map_eq_none_iff]

/-- A map holds under a name what is read of the last member with that name. -/
theorem get?_of_read_object {ms : Members} {m : Keyed α} (h : read? (.object ms) = some m)
    (name : String) : m.get? name = (lastBy Prod.fst ms name).bind fun e => read? e.2 := by
  obtain ⟨l, hl, rfl⟩ := Option.map_eq_some_iff.mp h
  have hlast : Option.Rel (fun e d => (read? e.2).map (fun a => (e.1, a)) = some d)
      (lastBy Prod.fst ms name) (lastBy Prod.fst l name) := by
    refine rel_lastBy (fun e d hd => ?_) (mapM_eq_some_iff.mp hl) name
    obtain ⟨_, _, rfl⟩ := Option.map_eq_some_iff.mp hd
    rfl
  rw [Keyed.get?_ofList]
  generalize lastBy Prod.fst ms name = last, lastBy Prod.fst l name = last' at hlast
  cases hlast with
  | none => rfl
  | some he =>
    obtain ⟨_, hb, rfl⟩ := Option.map_eq_some_iff.mp he
    exact hb.symm

variable [BEq α]

/-- Two objects are read as the same map if the same is read of what they have under each name. -/
theorem read_object_same {ms ns : Members}
    (hnone : (∃ m ∈ ms, (read? m.2 : Option α) = none) ↔ ∃ n ∈ ns, (read? n.2 : Option α) = none)
    (hlast : ∀ name, (((lastBy Prod.fst ms name).bind fun e => read? e.2 : Option α) ==
      (lastBy Prod.fst ns name).bind fun e => read? e.2) = true) :
    ((read? (.object ms) : Option (Keyed α)) == read? (.object ns)) = true := by
  rw [← read_object_eq_none_iff, ← read_object_eq_none_iff] at hnone
  cases hm : (read? (.object ms) : Option (Keyed α)) with
  | none =>
    rw [hnone.mp hm]
    rfl
  | some m =>
    cases hn : (read? (.object ns) : Option (Keyed α)) with
    | none =>
      rw [hnone.mpr hn] at hm
      cases hm
    | some n =>
      refine Keyed.beq_iff.mpr fun name => ?_
      rw [get?_of_read_object hm, get?_of_read_object hn]
      exact hlast name

theorem read_object_rearranged [ReflBEq α] {ms ns : Members} (h : Rearranged ms ns) :
    ((read? (.object ms) : Option (Keyed α)) == read? (.object ns)) = true := by
  refine read_object_same ?_ fun name => ?_
  · simp only [h.1.mem_iff]
  · rw [lastBy, lastBy, h.2]
    exact BEq.rfl

/-- One member has another value, of which the same is read. -/
theorem read_object_replaced [ReflBEq α] {before after : Members} {name : String} {v w : Value}
    (h : ((read? v : Option α) == read? w) = true) :
    ((read? (.object (before ++ (name, v) :: after)) : Option (Keyed α)) ==
      read? (.object (before ++ (name, w) :: after))) = true := by
  refine read_object_same ?_ fun key => ?_
  · have hnone : (read? v : Option α) = none ↔ (read? w : Option α) = none := by
      rw [← Option.isNone_iff_eq_none, ← Option.isNone_iff_eq_none, ← Option.not_isSome,
        ← Option.not_isSome, Keyed.isSome_eq_of_beq h]
    simp only [List.mem_append, List.mem_cons, or_and_right, exists_or, exists_eq_left, hnone]
  · rw [lastBy_append, lastBy_append, lastBy_cons, lastBy_cons]
    cases lastBy Prod.fst after key with
    | some e => exact BEq.rfl
    | none =>
      by_cases hname : name = key
      · rw [if_pos hname, if_pos hname]
        exact h
      · rw [if_neg hname, if_neg hname]
        exact BEq.rfl

variable {layout : Layout} [Regular α layout]

instance [LawfulBEq α] : Regular (List α) (.list layout) where
  read_same {v w} h := by
    have hitem {before after : List Value} {v w : Value} (h : Recast layout v w) :
        (before ++ v :: after).mapM (read? : Value → Option α) =
          (before ++ w :: after).mapM read? := mapM_replaced (eq_of_beq (read_same h)) before after
    cases h with
    | shuffled h =>
      cases h with
      | members h => rfl
      | item h => exact beq_of_eq (hitem (.shuffled h))
      | member h => rfl
    | item h => exact beq_of_eq (hitem h)
  read_none {v} h := by
    cases h with
    | item hv h => exact mapM_eq_none_iff.mpr ⟨_, hv, read_none h⟩

instance [ReflBEq α] : Regular (Keyed α) (.map layout) where
  read_same {v w} h := by
    cases h with
    | shuffled h =>
      cases h with
      | members h => exact read_object_rearranged h
      | item h => rfl
      | member h => exact read_object_replaced (read_same (.shuffled h))
    | entry h => exact read_object_replaced (read_same h)
  read_none {v} h := by
    cases h with
    | entry hm h => exact read_object_eq_none_iff.mpr ⟨_, hm, read_none h⟩

end Containers

end SchemaScript.Json
