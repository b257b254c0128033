/-! Finite maps from names to values.

A `Keyed α` lists its entries in the order in which their keys first came; no key comes twice.
That order is there to enumerate the entries, and nothing else should depend on it: two maps are
compared (`==`) by what they hold under each key. -/
namespace SchemaScript

structure Keyed (α : Type) where
  entries : List (String × α)
  distinct : (entries.map Prod.fst).Nodup

namespace Keyed
variable {α : Type}

def empty : Keyed α := ⟨[], List.nodup_nil⟩

instance : EmptyCollection (Keyed α) := ⟨empty⟩

instance : Inhabited (Keyed α) := ⟨empty⟩

def keys (m : Keyed α) : List String := m.entries.map Prod.fst

def values (m : Keyed α) : List α := m.entries.map Prod.snd

def size (m : Keyed α) : Nat := m.entries.length

def isEmpty (m : Keyed α) : Bool := m.entries.isEmpty

def get? (m : Keyed α) (key : String) : Option α := m.entries.lookup key

def contains (m : Keyed α) (key : String) : Bool := (m.get? key).isSome

/-! ### Adding an entry -/

/-- The entries with `a` under `key`: in the place of the entry that was there, else at the end. -/
def put (key : String) (a : α) : List (String × α) → List (String × α)
  | [] => [(key, a)]
  | e :: rest => if e.1 = key then (key, a) :: rest else e :: put key a rest

theorem map_fst_put (key : String) (a : α) (l : List (String × α)) :
    (put key a l).map Prod.fst =
      if key ∈ l.map Prod.fst then l.map Prod.fst else l.map Prod.fst ++ [key] := by
  induction l with
  | nil => rfl
  | cons e rest ih =>
    by_cases h : e.1 = key
    · subst h
      simp [put]
    · have h' : ¬key = e.1 := fun hk => h hk.symm
      by_cases hm : key ∈ rest.map Prod.fst
      · rw [if_pos hm] at ih
        simp only [put, if_neg h, List.map_cons, ih, List.mem_cons, hm, or_true, if_true]
      · rw [if_neg hm] at ih
        simp only [put, if_neg h, List.map_cons, ih, List.mem_cons, hm, h', or_self, if_false,
          List.cons_append]

theorem nodup_put (key : String) (a : α) {l : List (String × α)} (h : (l.map Prod.fst).Nodup) :
    ((put key a l).map Prod.fst).Nodup := by
  rw [map_fst_put]
  split
  · exact h
  · rename_i hm
    refine List.nodup_append.mpr ⟨h, by simp, ?_⟩
    intro x hx y hy hxy
    rw [List.mem_singleton.mp hy] at hxy
    exact hm (hxy ▸ hx)

/-- A new key comes last. -/
theorem put_of_not_mem {key : String} (a : α) {l : List (String × α)}
    (h : key ∉ l.map Prod.fst) : put key a l = l ++ [(key, a)] := by
  induction l with
  | nil => rfl
  | cons e rest ih =>
    simp only [List.map_cons, List.mem_cons, not_or] at h
    rw [put, if_neg (Ne.symm h.1), ih h.2, List.cons_append]

def insert (m : Keyed α) (key : String) (a : α) : Keyed α :=
  ⟨put key a m.entries, nodup_put key a m.distinct⟩

/-- What stood under `key`, and the entries with `a` put there. -/
def displace (key : String) (a : α) : List (String × α) → Option α × List (String × α)
  | [] => (none, [(key, a)])
  | e :: rest =>
    if e.1 = key then (some e.2, (key, a) :: rest)
    else
      let r := displace key a rest
      (r.1, e :: r.2)

theorem snd_displace (key : String) (a : α) (l : List (String × α)) :
    (displace key a l).2 = put key a l := by
  induction l with
  | nil => rfl
  | cons e rest ih =>
    unfold displace put
    split
    · rfl
    · exact congrArg (e :: ·) ih

/-- What the map held under `key`, and the map with `a` there. -/
def exchange (m : Keyed α) (key : String) (a : α) : Option α × Keyed α :=
  let r := displace key a m.entries
  (r.1, ⟨r.2, by
    rw [snd_displace]
    exact nodup_put key a m.distinct⟩)

/-- The map that a list of entries amounts to: of entries with one key the last counts. -/
def ofList (l : List (String × α)) : Keyed α :=
  l.foldl (fun m e => m.insert e.1 e.2) ∅

/-- A map is its entries. -/
@[ext] theorem ext {a b : Keyed α} (h : a.entries = b.entries) : a = b := by
  cases a
  cases b
  congr

theorem isEmpty_iff (m : Keyed α) : m.isEmpty = true ↔ m = ∅ := by
  refine ⟨fun h => ext (List.isEmpty_iff.mp h), fun h => ?_⟩
  rw [h]
  rfl

/-- Entries under new keys are listed in the order in which they were added. -/
theorem entries_foldl_insert (m : Keyed α) {l : List (String × α)} (hnew : ∀ e ∈ l, e.1 ∉ m.keys)
    (hdistinct : (l.map Prod.fst).Nodup) :
    (l.foldl (fun m e => m.insert e.1 e.2) m).entries = m.entries ++ l := by
  induction l generalizing m with
  | nil => exact (List.append_nil _).symm
  | cons e l ih =>
    obtain ⟨he, hdistinct⟩ := List.nodup_cons.mp hdistinct
    have hput : (m.insert e.1 e.2).entries = m.entries ++ [e] :=
      put_of_not_mem e.2 (hnew e (List.mem_cons_self ..))
    have hnew' : ∀ d ∈ l, d.1 ∉ (m.insert e.1 e.2).keys := by
      intro d hd hmem
      rw [keys, hput, List.map_append, List.mem_append] at hmem
      rcases hmem with h | h
      · exact hnew d (List.mem_cons_of_mem _ hd) h
      · exact he (List.mem_singleton.mp h ▸ List.mem_map_of_mem hd)
    rw [List.foldl_cons, ih _ hnew' hdistinct, hput, List.append_assoc]
    rfl

theorem entries_ofList {l : List (String × α)} (h : (l.map Prod.fst).Nodup) :
    (ofList l).entries = l :=
  entries_foldl_insert ∅ (fun _ _ => List.not_mem_nil) h

theorem mem_of_mem_put {key : String} {a : α} {l : List (String × α)} {e : String × α}
    (h : e ∈ put key a l) : e = (key, a) ∨ e ∈ l := by
  induction l with
  | nil => exact .inl (List.mem_singleton.mp h)
  | cons d rest ih =>
    unfold put at h
    split at h
    · rcases List.mem_cons.mp h with he | he
      · exact .inl he
      · exact .inr (List.mem_cons_of_mem _ he)
    · rcases List.mem_cons.mp h with rfl | he
      · exact .inr (List.mem_cons_self ..)
      · exact (ih he).imp id (List.mem_cons_of_mem _)

/-- Nothing comes into a map but what was listed. -/
theorem mem_of_mem_ofList {l : List (String × α)} {e : String × α} (h : e ∈ (ofList l).entries) :
    e ∈ l := by
  have hfold : ∀ m : Keyed α, e ∈ (l.foldl (fun m e => m.insert e.1 e.2) m).entries →
      e ∈ m.entries ∨ e ∈ l := by
    clear h
    induction l with
    | nil => exact fun _ => .inl
    | cons d l ih =>
      intro m he
      rcases ih _ he with he | he
      · exact (mem_of_mem_put he).elim (fun he => .inr (he ▸ List.mem_cons_self ..)) .inl
      · exact .inr (List.mem_cons_of_mem _ he)
  exact (hfold ∅ h).resolve_left List.not_mem_nil

/-! ### What a map holds -/

@[simp] theorem get?_empty (key : String) : (∅ : Keyed α).get? key = none := rfl

theorem lookup_put (key : String) (a : α) (l : List (String × α)) (other : String) :
    (put key a l).lookup other = if other = key then some a else l.lookup other := by
  induction l with
  | nil =>
    by_cases h : other = key
    · simp [put, h]
    · simp [put, List.lookup_cons, h, beq_false_of_ne h]
  | cons e rest ih =>
    obtain ⟨k, b⟩ := e
    by_cases hk : k = key
    · subst hk
      by_cases h : other = k
      · simp [put, h]
      · simp [put, List.lookup_cons, h, beq_false_of_ne h]
    · by_cases h : other = k
      · subst h
        simp [put, hk]
      · simp [put, List.lookup_cons, hk, ih, beq_false_of_ne h]

theorem get?_insert (m : Keyed α) (key : String) (a : α) (other : String) :
    (m.insert key a).get? other = if other = key then some a else m.get? other :=
  lookup_put key a m.entries other

theorem fst_displace (key : String) (a : α) (l : List (String × α)) :
    (displace key a l).1 = l.lookup key := by
  induction l with
  | nil => rfl
  | cons e rest ih =>
    obtain ⟨k, b⟩ := e
    by_cases hk : k = key
    · simp [displace, hk]
    · simp [displace, hk, ih, List.lookup_cons, beq_false_of_ne (Ne.symm hk)]

theorem exchange_eq (m : Keyed α) (key : String) (a : α) :
    m.exchange key a = (m.get? key, m.insert key a) :=
  Prod.ext (fst_displace key a m.entries) (ext (snd_displace key a m.entries))

theorem get?_eq_some_iff (m : Keyed α) {key : String} {a : α} :
    m.get? key = some a ↔ (key, a) ∈ m.entries := by
  unfold get?
  constructor
  · intro h
    obtain ⟨l, r, hs, _⟩ := List.lookup_eq_some_iff.mp h
    rw [hs]
    exact List.mem_append_right _ (List.mem_cons_self ..)
  · intro h
    obtain ⟨l, r, hs⟩ := List.append_of_mem h
    refine List.lookup_eq_some_iff.mpr ⟨l, r, hs, ?_⟩
    intro e he
    have hd := m.distinct
    rw [hs, List.map_append, List.nodup_append] at hd
    have := hd.2.2 e.1 (List.mem_map_of_mem he) key (by simp)
    simpa [bne_iff_ne] using Ne.symm this

theorem contains_iff (m : Keyed α) (key : String) : m.contains key = true ↔ key ∈ m.keys := by
  simp only [contains, Option.isSome_iff_exists, get?_eq_some_iff, keys, List.mem_map]
  constructor
  · intro hv
    obtain ⟨a, h⟩ := hv
    exact ⟨_, h, rfl⟩
  · intro he
    obtain ⟨e, h, rfl⟩ := he
    exact ⟨e.2, h⟩

/-! ### Sameness -/

/-- Whether two maps hold the same under each key, values compared by `f`. -/
def sameBy (f : α → α → Bool) (a b : Keyed α) : Bool :=
  a.size == b.size && a.entries.all fun e =>
    match b.get? e.1 with
    | some x => f e.2 x
    | none => false

instance [BEq α] : BEq (Keyed α) := ⟨sameBy (· == ·)⟩

/-- The keys in ascending order. -/
def sortedKeys (m : Keyed α) : List String := m.keys.mergeSort fun a b => decide (a ≤ b)

end Keyed

end SchemaScript
