import Mathlib
import Facet.SlotStore

/-!
# A slot store is a finite map

`create` never looks for the lowest empty slot: it takes the head of the free list, or else the
high-water mark. That this is the lowest empty slot is what `WellFormed` is for: below the mark a
slot is occupied or listed as free, never both, and from the mark on every slot is empty.

Each operation then has one lemma that says, in terms of `get?` alone, everything it can do
(`create_cases`, `destroy_cases`, `get?_modify`, `get?_modifyAll`, `mem_toList`). Nothing after
this file looks at slots, marks or free lists again.
-/

namespace Facet

namespace Handle

@[simp] theorem ofIndex_index (h : Handle) : ofIndex h.index = h := by
  simp [ofIndex, index]

theorem index_ofIndex {i : Nat} (h : i < 2 ^ 32) : (ofIndex i).index = i :=
  UInt32.toNat_ofNat_of_lt' h

theorem index_inj {a b : Handle} : a.index = b.index ↔ a = b :=
  ⟨fun h => by rw [← ofIndex_index a, h, ofIndex_index], fun h => congrArg index h⟩

end Handle

namespace SlotStore

variable {Seed Object World : Type}

/-- What a slot holds; nothing past the end. -/
def slot (s : SlotStore Object) (i : Nat) : Option Object := (s.slots[i]?).join

theorem get?_eq_slot (s : SlotStore Object) (h : Handle) : s.get? h = s.slot h.index := rfl

/-- Every number below the high-water mark is in use or free, never both; none is from it on. -/
structure WellFormed (s : SlotStore Object) : Prop where
  /-- Every number fits a handle. -/
  capacity_lt : s.capacity < 2 ^ 32
  highWater_le : s.highWater ≤ s.capacity
  /-- The free numbers are listed once each, the lowest first. -/
  free_sorted : s.free.Pairwise (· < ·)
  mem_free : ∀ i, i ∈ s.free ↔ i < s.highWater ∧ s.slot i = none
  unused : ∀ i, s.highWater ≤ i → s.slot i = none

theorem slot_empty (capacity i : Nat) : (empty capacity : SlotStore Object).slot i = none := by
  simp [slot, empty, Array.getElem?_replicate]
  split <;> rfl

theorem wellFormed_empty {capacity : Nat} (h : capacity < 2 ^ 32) :
    (empty capacity : SlotStore Object).WellFormed where
  capacity_lt := by simpa [SlotStore.capacity, empty] using h
  highWater_le := Nat.zero_le _
  free_sorted := List.Pairwise.nil
  mem_free i := by simp [empty]
  unused i _ := slot_empty capacity i

theorem WellFormed.slot_lt {s : SlotStore Object} (h : s.WellFormed) {i : Nat} {object : Object}
    (hi : s.slot i = some object) : i < s.highWater := by
  by_contra hle
  rw [h.unused i (by omega)] at hi
  exact absurd hi (by simp)

theorem WellFormed.index_lt {s : SlotStore Object} (h : s.WellFormed) {id : Handle}
    (hid : s.get? id ≠ none) : id.index < s.highWater := by
  obtain ⟨object, hobject⟩ := Option.ne_none_iff_exists'.mp hid
  exact h.slot_lt hobject

/-! ## Creating -/

theorem slot_set (s : SlotStore Object) (entry : Option Object) (m : Nat) (free : List Nat)
    {i : Nat} (hi : i < s.capacity) (j : Nat) :
    slot ⟨s.slots.setIfInBounds i entry, m, free⟩ j = if j = i then entry else s.slot j := by
  by_cases hji : j = i
  · subst hji
    have hsize : j < s.slots.size := hi
    simp [slot, hsize]
  · simp [slot, Array.getElem?_setIfInBounds_ne (Ne.symm hji), hji]

theorem WellFormed.reserve_eq_none {s : SlotStore Object} (h : s.WellFormed)
    (hr : s.reserve = none) : ∀ i, i < s.capacity → s.slot i ≠ none := by
  intro i hi hempty
  unfold reserve at hr
  split at hr
  · exact absurd hr (by simp)
  · rename_i hfree
    split at hr
    · exact absurd hr (by simp)
    · have := (h.mem_free i).mpr ⟨by omega, hempty⟩
      rw [hfree] at this
      exact absurd this (by simp)

/-- One slot is set, and the mark and the free list follow suit. -/
theorem WellFormed.set {s : SlotStore Object} (h : s.WellFormed) {i m : Nat} {free : List Nat}
    (entry : Option Object) (him : i < m) (hmark : s.highWater ≤ m) (hm : m ≤ s.capacity)
    (hsorted : free.Pairwise (· < ·))
    (hfree : ∀ j, j ∈ free ↔ j < m ∧ (if j = i then entry else s.slot j) = none) :
    WellFormed ⟨s.slots.setIfInBounds i entry, m, free⟩ := by
  have hi : i < s.capacity := Nat.lt_of_lt_of_le him hm
  refine ⟨?_, ?_, hsorted, ?_, ?_⟩
  · simpa [SlotStore.capacity] using h.capacity_lt
  · simpa [SlotStore.capacity] using hm
  · intro j
    rw [slot_set s _ _ _ hi]
    exact hfree j
  · intro j hj
    have hmj : m ≤ j := hj
    rw [slot_set s _ _ _ hi, if_neg (by omega)]
    exact h.unused j (by omega)

/-- **The number handed out is the lowest that is not in use**, and putting an object there keeps
the store in order. -/
theorem WellFormed.reserve_eq_some {s r : SlotStore Object} (h : s.WellFormed) {i : Nat}
    (hr : s.reserve = some (i, r)) :
    i < s.capacity ∧ s.slot i = none ∧ (∀ j, j < i → s.slot j ≠ none)
      ∧ r.slots = s.slots ∧ ∀ object, (r.put i object).WellFormed := by
  have hmark := h.highWater_le
  unfold reserve at hr
  split at hr
  · rename_i k rest hfree
    injection hr with hr; injection hr with hi hr
    subst hi; subst hr
    have hsorted := h.free_sorted
    rw [hfree, List.pairwise_cons] at hsorted
    obtain ⟨hlt, hempty⟩ := (h.mem_free k).mp (by rw [hfree]; exact List.mem_cons_self)
    refine ⟨Nat.lt_of_lt_of_le hlt hmark, hempty, ?_, rfl, ?_⟩
    · -- an empty slot before the head of the list would be listed before it
      intro j hj hjempty
      have hmem := (h.mem_free j).mpr ⟨by omega, hjempty⟩
      rw [hfree] at hmem
      rcases List.mem_cons.mp hmem with rfl | hmem
      · omega
      · have := hsorted.1 j hmem; omega
    · intro object
      refine h.set (some object) hlt (Nat.le_refl _) hmark hsorted.2 fun j => ?_
      have hj := h.mem_free j
      rw [hfree, List.mem_cons] at hj
      by_cases hjk : j = k
      · subst hjk
        simpa using fun hmem => Nat.lt_irrefl _ (hsorted.1 _ hmem)
      · simpa [hjk] using hj
  · rename_i hfree
    split at hr
    · rename_i hlt
      injection hr with hr; injection hr with hi hr
      subst hi; subst hr
      refine ⟨hlt, h.unused _ (Nat.le_refl _), ?_, rfl, ?_⟩
      · -- with nothing listed as free, every slot below the mark is in use
        intro j hj hjempty
        have hmem := (h.mem_free j).mpr ⟨hj, hjempty⟩
        rw [hfree] at hmem
        exact absurd hmem (by simp)
      · intro object
        refine h.set (m := s.highWater + 1) (some object) (Nat.lt_succ_self _) (Nat.le_succ _) hlt
          h.free_sorted fun j => ?_
        rw [h.mem_free]
        by_cases hjm : j = s.highWater
        · simp [hjm]
        · rw [if_neg hjm]
          exact and_congr_left fun _ => by omega
    · exact absurd hr (by simp)

/-- Everything `create` can do: it fills the lowest handle not in use, or finds none. -/
theorem WellFormed.create_cases {s : SlotStore Object} (h : s.WellFormed)
    (l : Lifecycle Seed Object World) (seed : Seed) (w : World) :
    (∃ id s', create l seed s w = (some id, s', (l.allocate seed w).2)
      ∧ id.index < s.capacity ∧ s.get? id = none
      ∧ (∀ id', id'.index < id.index → s.get? id' ≠ none)
      ∧ s'.get? = Function.update s.get? id (some (l.allocate seed w).1)
      ∧ s'.capacity = s.capacity ∧ s'.WellFormed)
    ∨ (create l seed s w = (none, s, w) ∧ ∀ id, id.index < s.capacity → s.get? id ≠ none) := by
  rw [create]
  split
  · rename_i hr
    exact .inr ⟨rfl, fun id hid => h.reserve_eq_none hr id.index hid⟩
  · rename_i i r hr
    obtain ⟨hi, hempty, hlowest, hslots, hwf⟩ := h.reserve_eq_some hr
    have hindex : (Handle.ofIndex i).index = i :=
      Handle.index_ofIndex (Nat.lt_trans hi h.capacity_lt)
    have hr_slot : ∀ j, r.slot j = s.slot j := fun j => by rw [slot, slot, hslots]
    have hr_capacity : r.capacity = s.capacity := by rw [capacity, capacity, hslots]
    refine .inl ⟨Handle.ofIndex i, _, rfl, ?_, ?_, ?_, ?_, ?_, hwf _⟩
    · rwa [hindex]
    · rwa [get?_eq_slot, hindex]
    · intro id' hid'
      rw [hindex] at hid'
      exact hlowest id'.index hid'
    · funext id
      rw [get?_eq_slot, put, slot_set r _ _ _ (by rwa [hr_capacity]), hr_slot,
        Function.update_apply, get?_eq_slot]
      congr 1
      rw [← Handle.index_inj, hindex]
    · rw [← hr_capacity]
      exact Array.size_setIfInBounds

/-! ## Destroying -/

theorem mem_insertFree {i j : Nat} {free : List Nat} :
    j ∈ insertFree i free ↔ j = i ∨ j ∈ free := by
  induction free with
  | nil => simp [insertFree]
  | cons k rest ih =>
      rw [insertFree]
      split
      · simp
      · split
        · rename_i hik; subst hik; simp
        · simp [ih, or_left_comm]

theorem insertFree_sorted {i : Nat} {free : List Nat} (h : free.Pairwise (· < ·)) :
    (insertFree i free).Pairwise (· < ·) := by
  induction free with
  | nil => simp [insertFree]
  | cons k rest ih =>
      rw [List.pairwise_cons] at h
      rw [insertFree]
      split
      · rename_i hik
        rw [List.pairwise_cons]
        refine ⟨fun j hj => ?_, List.pairwise_cons.mpr h⟩
        rcases List.mem_cons.mp hj with rfl | hj
        · exact hik
        · exact Nat.lt_trans hik (h.1 j hj)
      · split
        · exact List.pairwise_cons.mpr h
        · rw [List.pairwise_cons]
          refine ⟨fun j hj => ?_, ih h.2⟩
          rcases mem_insertFree.mp hj with rfl | hj
          · omega
          · exact h.1 j hj

/-- Everything `destroy` can do: it takes a live object out, or refuses. -/
theorem WellFormed.destroy_cases {s : SlotStore Object} (h : s.WellFormed)
    (l : Lifecycle Seed Object World) (id : Handle) (w : World) :
    (∃ object s', destroy l id s w = (.ok (), s', l.dispose object w)
      ∧ s.get? id = some object
      ∧ s'.get? = Function.update s.get? id none
      ∧ s'.capacity = s.capacity ∧ s'.WellFormed)
    ∨ (destroy l id s w = (.error (.outOfRange id), s, w) ∧ s.get? id = none) := by
  rw [destroy]
  split
  · rename_i hget
    exact .inr ⟨rfl, hget⟩
  · rename_i object hget
    have hlt : id.index < s.highWater := h.index_lt (by rw [hget]; simp)
    have hcapacity : id.index < s.capacity := Nat.lt_of_lt_of_le hlt h.highWater_le
    refine .inl ⟨object, _, rfl, hget, ?_, Array.size_setIfInBounds, ?_⟩
    · funext id'
      rw [get?_eq_slot, slot_set s _ _ _ hcapacity, Function.update_apply, get?_eq_slot]
      simp only [Handle.index_inj]
    · refine h.set none hlt (Nat.le_refl _) h.highWater_le (insertFree_sorted h.free_sorted)
        fun j => ?_
      rw [mem_insertFree, h.mem_free]
      by_cases hj : j = id.index
      · simp [hj, hlt]
      · simp [hj]

/-! ## Changing in place -/

/-- Changing objects in place, without taking any out, keeps the store in order. -/
theorem WellFormed.of_slot_eq_none {s s' : SlotStore Object} (h : s.WellFormed)
    (hcapacity : s'.capacity = s.capacity) (hmark : s'.highWater = s.highWater)
    (hfree : s'.free = s.free) (hslot : ∀ i, s'.slot i = none ↔ s.slot i = none) :
    s'.WellFormed where
  capacity_lt := by rw [hcapacity]; exact h.capacity_lt
  highWater_le := by rw [hcapacity, hmark]; exact h.highWater_le
  free_sorted := by rw [hfree]; exact h.free_sorted
  mem_free i := by rw [hfree, hmark, hslot]; exact h.mem_free i
  unused i hi := by rw [hslot]; exact h.unused i (by rwa [hmark] at hi)

theorem slot_modify (s : SlotStore Object) (id : Handle) (f : Object → Object) (i : Nat) :
    (s.modify id f).slot i = if i = id.index then (s.slot i).map f else s.slot i := by
  rw [slot, modify, Array.getElem?_modify]
  by_cases hi : id.index = i
  · rw [if_pos hi, if_pos hi.symm, slot]
    cases s.slots[i]? <;> rfl
  · rw [if_neg hi, if_neg (Ne.symm hi), slot]

theorem get?_modify (s : SlotStore Object) (id : Handle) (f : Object → Object) :
    (s.modify id f).get? = Function.update s.get? id ((s.get? id).map f) := by
  funext id'
  rw [get?_eq_slot, slot_modify, Function.update_apply]
  simp only [Handle.index_inj]
  split
  · rename_i hid; subst hid; rfl
  · rfl

theorem capacity_modify (s : SlotStore Object) (id : Handle) (f : Object → Object) :
    (s.modify id f).capacity = s.capacity := Array.size_modify

theorem WellFormed.modify {s : SlotStore Object} (h : s.WellFormed) (id : Handle)
    (f : Object → Object) : (s.modify id f).WellFormed := by
  refine h.of_slot_eq_none (capacity_modify s id f) rfl rfl fun i => ?_
  rw [slot_modify]
  split <;> simp

theorem slot_modifyAll (s : SlotStore Object) (f : Handle → Object → Object) (i : Nat) :
    (s.modifyAll f).slot i
      = if i < s.highWater then (s.slot i).map (f (Handle.ofIndex i)) else s.slot i := by
  rw [slot, modifyAll, Array.getElem?_mapIdx, slot]
  cases s.slots[i]? with
  | none => simp
  | some entry => split <;> simp_all

theorem WellFormed.get?_modifyAll {s : SlotStore Object} (h : s.WellFormed)
    (f : Handle → Object → Object) :
    (s.modifyAll f).get? = fun id => (s.get? id).map (f id) := by
  funext id
  rw [get?_eq_slot, slot_modifyAll, Handle.ofIndex_index, get?_eq_slot]
  split
  · rfl
  · rw [h.unused id.index (by omega)]; rfl

theorem capacity_modifyAll (s : SlotStore Object) (f : Handle → Object → Object) :
    (s.modifyAll f).capacity = s.capacity := Array.size_mapIdx

theorem WellFormed.modifyAll {s : SlotStore Object} (h : s.WellFormed)
    (f : Handle → Object → Object) : (s.modifyAll f).WellFormed := by
  refine h.of_slot_eq_none (capacity_modifyAll s f) rfl rfl fun i => ?_
  rw [slot_modifyAll]
  split <;> simp

/-! ## Listing and counting -/

theorem WellFormed.toList_eq {s : SlotStore Object} (h : s.WellFormed) :
    s.toList = (List.range s.highWater).filterMap fun i =>
      (s.slot i).map fun object => (Handle.ofIndex i, object) := by
  have hmark : s.highWater ≤ s.slots.size := h.highWater_le
  have hentries : (s.slots.toList.take s.highWater).zipIdx
      = (List.range s.highWater).map fun i => (s.slot i, i) := by
    apply List.ext_getElem
    · simp [hmark]
    · intro i hi hi'
      have hlt : i < s.highWater := by simpa using hi'
      have hsize : i < s.slots.size := Nat.lt_of_lt_of_le hlt hmark
      simp [slot, hsize]
  rw [toList, hentries, List.filterMap_map]
  rfl

/-- The objects are listed by increasing slot. -/
theorem WellFormed.toList_sorted {s : SlotStore Object} (h : s.WellFormed) :
    s.toList.Pairwise fun a b => a.1.index < b.1.index := by
  rw [h.toList_eq, List.pairwise_filterMap]
  refine (List.pairwise_lt_range (n := s.highWater)).imp_of_mem ?_
  intro i j hi hj hij a ha b hb
  obtain ⟨_, _, rfl⟩ := Option.map_eq_some_iff.mp ha
  obtain ⟨_, _, rfl⟩ := Option.map_eq_some_iff.mp hb
  have hfit : s.highWater < 2 ^ 32 := Nat.lt_of_le_of_lt h.highWater_le h.capacity_lt
  have hj' := List.mem_range.mp hj
  rw [Handle.index_ofIndex (by omega), Handle.index_ofIndex (by omega)]
  exact hij

/-- Exactly the live objects are listed, each under its handle. -/
theorem WellFormed.mem_toList {s : SlotStore Object} (h : s.WellFormed) {id : Handle}
    {object : Object} : (id, object) ∈ s.toList ↔ s.get? id = some object := by
  have hfit : s.highWater < 2 ^ 32 := Nat.lt_of_le_of_lt h.highWater_le h.capacity_lt
  rw [h.toList_eq, List.mem_filterMap]
  constructor
  · intro h
    obtain ⟨i, hi, hmap⟩ := h
    obtain ⟨o, ho, heq⟩ := Option.map_eq_some_iff.mp hmap
    injection heq with hid hobject
    subst hid; subst hobject
    rwa [get?_eq_slot, Handle.index_ofIndex (by have := List.mem_range.mp hi; omega)]
  · intro hget
    refine ⟨id.index, List.mem_range.mpr (h.slot_lt hget), ?_⟩
    rw [← get?_eq_slot, hget, Option.map_some, Handle.ofIndex_index]

theorem WellFormed.handles_nodup {s : SlotStore Object} (h : s.WellFormed) :
    (s.toList.map Prod.fst).Nodup := by
  rw [List.Nodup, List.pairwise_map]
  exact h.toList_sorted.imp fun hlt heq => Nat.ne_of_lt hlt (congrArg Handle.index heq)

/-- Where two stores differ under one handle only, so do their listings. -/
theorem WellFormed.toList_perm_of_update {s s' : SlotStore Object} (h : s.WellFormed)
    (h' : s'.WellFormed) {id : Handle} {entry : Option Object}
    (hget : s'.get? = Function.update s.get? id entry) :
    s'.toList.Perm ((entry.map fun object => (id, object)).toList
      ++ s.toList.filter fun e => e.1 ≠ id) := by
  have hmem : ∀ e ∈ (entry.map fun object => (id, object)).toList, e.1 = id := by
    intro e he
    obtain ⟨object, -, rfl⟩ := Option.map_eq_some_iff.mp (Option.mem_toList.mp he)
    rfl
  have hnodup : ((entry.map fun object => (id, object)).toList
      ++ s.toList.filter fun e => e.1 ≠ id).Nodup := by
    rw [List.nodup_append']
    refine ⟨?_, h.handles_nodup.of_map.filter _, ?_⟩
    · cases entry <;> simp
    · intro e he he'
      exact absurd (hmem e he) (by simpa using (List.mem_filter.mp he').2)
  rw [List.perm_ext_iff_of_nodup h'.handles_nodup.of_map hnodup]
  intro e
  rw [h'.mem_toList, hget, Function.update_apply, List.mem_append, List.mem_filter, h.mem_toList]
  by_cases he : e.1 = id
  · subst he
    have hsame : ∀ object, (e.1, object) = e ↔ object = e.2 := fun object =>
      ⟨fun heq => congrArg Prod.snd heq, fun heq => by rw [heq]⟩
    simp [Option.map_eq_some_iff, hsame]
  · have hout : e ∉ (entry.map fun object => (id, object)).toList := fun hin => he (hmem e hin)
    simp [he, hout]

/-- The entries under the other handles are in both listings. -/
theorem WellFormed.exists_others {s s' : SlotStore Object} (h : s.WellFormed) (h' : s'.WellFormed)
    {id : Handle} {entry : Option Object} (hget : s'.get? = Function.update s.get? id entry) :
    ∃ others, s.toList.Perm (((s.get? id).map fun object => (id, object)).toList ++ others)
      ∧ s'.toList.Perm ((entry.map fun object => (id, object)).toList ++ others) :=
  ⟨_, h.toList_perm_of_update h (Function.update_eq_self id s.get?).symm,
    h.toList_perm_of_update h' hget⟩

/-- Below the mark every number is listed with its object or free. -/
theorem WellFormed.length_toList_add_free {s : SlotStore Object} (h : s.WellFormed) :
    s.toList.length + s.free.length = s.highWater := by
  have hfree : s.free.Perm ((List.range s.highWater).filter fun i => ¬(s.slot i).isSome) := by
    rw [List.perm_ext_iff_of_nodup (h.free_sorted.imp Nat.ne_of_lt)
      (List.nodup_range.filter _)]
    intro i
    rw [h.mem_free, List.mem_filter, List.mem_range]
    simp
  rw [h.toList_eq, List.length_filterMap_eq_countP, hfree.length_eq,
    ← List.countP_eq_length_filter]
  have hsplit := List.length_eq_countP_add_countP (fun i => (s.slot i).isSome)
    (l := List.range s.highWater)
  rw [List.length_range] at hsplit
  simpa using hsplit.symm

/-- The subtraction in `size` never goes below zero, and what is left is the number of objects. -/
theorem WellFormed.size_eq {s : SlotStore Object} (h : s.WellFormed) :
    s.size = s.toList.length := by
  have := h.length_toList_add_free
  rw [size]; omega

end SlotStore

end Facet
