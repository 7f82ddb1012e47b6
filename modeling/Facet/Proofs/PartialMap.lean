import Facet.Proofs.SlotStore

/-!
# What a client of a slot store sees

A client makes calls and gets answers. `MapStep` says what a plain partial map from the handles
below a capacity would answer, without a word on slots or free lists: a new object goes under the
lowest handle not in use, an operation on one handle leaves the others alone, a listing is sorted
and complete. These rules leave nothing open (`MapStep.unique`).

`run_iff_mapRun` says that a store answers any sequence of calls in that way and in no other, and
that the objects it allocates and disposes of, in which order, are those of the map as well.
-/

namespace Facet.SlotStore

variable {Seed Object World : Type}

/-- A call on a store; what a client does through a mutable access is part of the call. -/
inductive Call (Seed Object : Type) where
  | create (seed : Seed)
  | destroy (id : Handle)
  | get (id : Handle)
  | getMut (id : Handle) (change : Object → Object)
  | isValid (id : Handle)
  | iter
  | iterMut (change : Handle → Object → Object)
  | len

/-- What a call gives back. -/
inductive Answer (Object : Type) where
  | created (id : Option Handle)
  | destroyed (result : Except StoreError Unit)
  | object (object : Option Object)
  | valid (isLive : Bool)
  | entries (list : List (Handle × Object))
  | count (n : Nat)

/-- One call. -/
def perform (l : Lifecycle Seed Object World) (c : Call Seed Object) (s : SlotStore Object)
    (w : World) : Answer Object × SlotStore Object × World :=
  match c with
  | .create seed =>
    let made := create l seed s w
    (.created made.1, made.2)
  | .destroy id =>
    let gone := destroy l id s w
    (.destroyed gone.1, gone.2)
  | .get id => (.object (s.get? id), s, w)
  | .getMut id change => (.object (s.get? id), s.modify id change, w)
  | .isValid id => (.valid (s.contains id), s, w)
  | .iter => (.entries s.toList, s, w)
  | .iterMut change => (.entries s.toList, s.modifyAll change, w)
  | .len => (.count s.size, s, w)

/-- The calls one after the other, with their answers. -/
def run (l : Lifecycle Seed Object World) :
    List (Call Seed Object) → SlotStore Object → World →
      List (Answer Object) × SlotStore Object × World
  | [], s, w => ([], s, w)
  | c :: cs, s, w =>
    let first := perform l c s w
    let rest := run l cs first.2.1 first.2.2
    (first.1 :: rest.1, rest.2)

/-! ## The partial map -/

/-- The entries of a map: each once, by increasing handle. -/
def Lists (m : Handle → Option Object) (entries : List (Handle × Object)) : Prop :=
  (entries.Pairwise fun a b => a.1.index < b.1.index)
    ∧ ∀ id object, (id, object) ∈ entries ↔ m id = some object

/-- What one call does to a partial map on the handles below a capacity, and what it answers. -/
inductive MapStep (capacity : Nat) (l : Lifecycle Seed Object World)
    (m : Handle → Option Object) (w : World) :
    Call Seed Object → Answer Object → (Handle → Option Object) → World → Prop where
  /-- A new object goes under the lowest handle that is not in use. -/
  | create {seed : Seed} {id : Handle} :
      id.index < capacity → m id = none → (∀ id', id'.index < id.index → m id' ≠ none) →
      MapStep capacity l m w (.create seed) (.created (some id))
        (Function.update m id (some (l.allocate seed w).1)) (l.allocate seed w).2
  /-- With all handles in use nothing is allocated. -/
  | full {seed : Seed} :
      (∀ id, id.index < capacity → m id ≠ none) →
      MapStep capacity l m w (.create seed) (.created none) m w
  | destroy {id : Handle} {object : Object} :
      m id = some object →
      MapStep capacity l m w (.destroy id) (.destroyed (.ok ())) (Function.update m id none)
        (l.dispose object w)
  | refuse {id : Handle} :
      m id = none →
      MapStep capacity l m w (.destroy id) (.destroyed (.error (.outOfRange id))) m w
  | get {id : Handle} : MapStep capacity l m w (.get id) (.object (m id)) m w
  | getMut {id : Handle} {change : Object → Object} :
      MapStep capacity l m w (.getMut id change) (.object (m id))
        (Function.update m id ((m id).map change)) w
  | isValid {id : Handle} : MapStep capacity l m w (.isValid id) (.valid (m id).isSome) m w
  | iter {entries : List (Handle × Object)} :
      Lists m entries → MapStep capacity l m w .iter (.entries entries) m w
  | iterMut {change : Handle → Object → Object} {entries : List (Handle × Object)} :
      Lists m entries →
      MapStep capacity l m w (.iterMut change) (.entries entries)
        (fun id => (m id).map (change id)) w
  /-- The length is the number of handles in use. -/
  | len : MapStep capacity l m w .len (.count {id | m id ≠ none}.ncard) m w

/-- What a sequence of calls does to a partial map. -/
inductive MapRun (capacity : Nat) (l : Lifecycle Seed Object World) :
    (Handle → Option Object) → World → List (Call Seed Object) → List (Answer Object) →
      (Handle → Option Object) → World → Prop where
  | nil {m : Handle → Option Object} {w : World} : MapRun capacity l m w [] [] m w
  | cons {m m' m'' : Handle → Option Object} {w w' w'' : World} {c : Call Seed Object}
      {cs : List (Call Seed Object)} {a : Answer Object} {answers : List (Answer Object)} :
      MapStep capacity l m w c a m' w' → MapRun capacity l m' w' cs answers m'' w'' →
      MapRun capacity l m w (c :: cs) (a :: answers) m'' w''

/-! ## The rules leave nothing open -/

theorem Lists.unique {m : Handle → Option Object} {xs ys : List (Handle × Object)}
    (hx : Lists m xs) (hy : Lists m ys) : xs = ys := by
  have hnodup : ∀ {zs : List (Handle × Object)}, Lists m zs → zs.Nodup := by
    intro zs hz
    refine hz.1.imp ?_
    intro a b hlt hab
    exact Nat.ne_of_lt hlt (congrArg (fun entry => entry.1.index) hab)
  have hperm : xs.Perm ys := by
    rw [List.perm_ext_iff_of_nodup (hnodup hx) (hnodup hy)]
    intro entry
    rw [hx.2 entry.1 entry.2, hy.2 entry.1 entry.2]
  refine hperm.eq_of_pairwise ?_ hx.1 hy.1
  intro a b _ _ hab hba
  exact absurd hab (Nat.lt_asymm hba)

theorem MapStep.unique {capacity : Nat} {l : Lifecycle Seed Object World}
    {m m₁ m₂ : Handle → Option Object} {w w₁ w₂ : World} {c : Call Seed Object}
    {a₁ a₂ : Answer Object} (h₁ : MapStep capacity l m w c a₁ m₁ w₁)
    (h₂ : MapStep capacity l m w c a₂ m₂ w₂) : a₁ = a₂ ∧ m₁ = m₂ ∧ w₁ = w₂ := by
  cases h₁ with
  | @create seed id hlt hfree hlowest =>
      cases h₂ with
      | @create _ id' hlt' hfree' hlowest' =>
          -- the lower of the two would have been in use
          have hid : id = id' := by
            rcases Nat.lt_trichotomy id.index id'.index with h | h | h
            · exact absurd hfree (hlowest' id h)
            · exact Handle.index_inj.mp h
            · exact absurd hfree' (hlowest id' h)
          subst hid
          exact ⟨rfl, rfl, rfl⟩
      | full hall => exact absurd hfree (hall id hlt)
  | full hall =>
      cases h₂ with
      | create hlt hfree _ => exact absurd hfree (hall _ hlt)
      | full _ => exact ⟨rfl, rfl, rfl⟩
  | destroy hget =>
      cases h₂ with
      | destroy hget' =>
          obtain rfl := Option.some.inj (hget.symm.trans hget')
          exact ⟨rfl, rfl, rfl⟩
      | refuse hnone => exact absurd (hget.symm.trans hnone) (by simp)
  | refuse hnone =>
      cases h₂ with
      | destroy hget => exact absurd (hget.symm.trans hnone) (by simp)
      | refuse _ => exact ⟨rfl, rfl, rfl⟩
  | iter hlist =>
      cases h₂ with
      | iter hlist' => exact ⟨by rw [hlist.unique hlist'], rfl, rfl⟩
  | iterMut hlist =>
      cases h₂ with
      | iterMut hlist' => exact ⟨by rw [hlist.unique hlist'], rfl, rfl⟩
  | get | getMut | isValid | len => cases h₂; exact ⟨rfl, rfl, rfl⟩

theorem MapRun.unique {capacity : Nat} {l : Lifecycle Seed Object World}
    {m m₁ m₂ : Handle → Option Object} {w w₁ w₂ : World} {cs : List (Call Seed Object)}
    {as₁ as₂ : List (Answer Object)} (h₁ : MapRun capacity l m w cs as₁ m₁ w₁)
    (h₂ : MapRun capacity l m w cs as₂ m₂ w₂) : as₁ = as₂ ∧ m₁ = m₂ ∧ w₁ = w₂ := by
  induction h₁ generalizing as₂ with
  | nil => cases h₂; exact ⟨rfl, rfl, rfl⟩
  | cons hstep _ ih =>
      cases h₂ with
      | cons hstep' hrest' =>
          obtain ⟨rfl, rfl, rfl⟩ := hstep.unique hstep'
          obtain ⟨rfl, rfl, rfl⟩ := ih hrest'
          exact ⟨rfl, rfl, rfl⟩

/-! ## The store follows the rules -/

theorem WellFormed.lists_toList {s : SlotStore Object} (h : s.WellFormed) :
    Lists s.get? s.toList :=
  ⟨h.toList_sorted, fun _ _ => h.mem_toList⟩

theorem WellFormed.size_eq_ncard {s : SlotStore Object} (h : s.WellFormed) :
    s.size = {id | s.get? id ≠ none}.ncard := by
  have hlive : {id | s.get? id ≠ none} = ((s.toList.map Prod.fst).toFinset : Set Handle) := by
    ext id
    simp only [Set.mem_ofPred_eq, List.coe_toFinset, List.mem_map, Prod.exists,
      exists_and_right, exists_eq_right, h.mem_toList]
    exact Option.ne_none_iff_exists'
  rw [hlive, Set.ncard_coe_finset, List.toFinset_card_of_nodup h.handles_nodup,
    List.length_map, h.size_eq]

/-- **One call on a store is one step of the map it stands for.** -/
theorem WellFormed.mapStep {s : SlotStore Object} (h : s.WellFormed)
    (l : Lifecycle Seed Object World) (c : Call Seed Object) (w : World) :
    MapStep s.capacity l s.get? w c (perform l c s w).1 (perform l c s w).2.1.get?
        (perform l c s w).2.2
      ∧ (perform l c s w).2.1.capacity = s.capacity ∧ (perform l c s w).2.1.WellFormed := by
  cases c with
  | create seed =>
      rcases h.create_cases l seed w with
        ⟨id, s', hrun, hlt, hfree, hlowest, hget, hcapacity, hwf⟩ | ⟨hrun, hfull⟩
      · simp only [perform, hrun, hget]
        exact ⟨.create hlt hfree hlowest, hcapacity, hwf⟩
      · simp only [perform, hrun]
        exact ⟨.full hfull, trivial, h⟩
  | destroy id =>
      rcases h.destroy_cases l id w with
        ⟨object, s', hrun, hlive, hget, hcapacity, hwf⟩ | ⟨hrun, hfree⟩
      · simp only [perform, hrun, hget]
        exact ⟨.destroy hlive, hcapacity, hwf⟩
      · simp only [perform, hrun]
        exact ⟨.refuse hfree, trivial, h⟩
  | get id => exact ⟨.get, rfl, h⟩
  | getMut id change =>
      simp only [perform, get?_modify]
      exact ⟨.getMut, capacity_modify s id change, h.modify id change⟩
  | isValid id => exact ⟨.isValid, rfl, h⟩
  | iter => exact ⟨.iter h.lists_toList, rfl, h⟩
  | iterMut change =>
      simp only [perform, h.get?_modifyAll]
      exact ⟨.iterMut h.lists_toList, capacity_modifyAll s change, h.modifyAll change⟩
  | len =>
      simp only [perform, h.size_eq_ncard]
      exact ⟨.len, trivial, h⟩

theorem WellFormed.mapRun (l : Lifecycle Seed Object World) :
    ∀ (cs : List (Call Seed Object)) {s : SlotStore Object} (_ : s.WellFormed) (w : World),
      MapRun s.capacity l s.get? w cs (run l cs s w).1 (run l cs s w).2.1.get? (run l cs s w).2.2
        ∧ (run l cs s w).2.1.capacity = s.capacity ∧ (run l cs s w).2.1.WellFormed
  | [], _, h, _ => ⟨.nil, rfl, h⟩
  | c :: cs, s, h, w => by
      obtain ⟨hstep, hcapacity, hwf⟩ := h.mapStep l c w
      obtain ⟨hrest, hcapacity', hwf'⟩ := mapRun l cs hwf (perform l c s w).2.2
      rw [hcapacity] at hrest hcapacity'
      exact ⟨.cons hstep hrest, hcapacity', hwf'⟩

/--
**A fresh store answers every sequence of calls as an empty partial map does, and only so.** On
the way every slot below the high-water mark stays occupied or free, so the length, which is the
mark less the free slots, is never taken from a smaller number.
-/
theorem run_iff_mapRun (capacity : UInt32) (l : Lifecycle Seed Object World)
    (calls : List (Call Seed Object)) (w w' : World) (answers : List (Answer Object))
    (m : Handle → Option Object) :
    MapRun capacity.toNat l (fun _ => none) w calls answers m w'
      ↔ ∃ s, run l calls (empty capacity.toNat) w = (answers, s, w') ∧ s.get? = m
        ∧ (∀ id, m id ≠ none → id.index < capacity.toNat)
        ∧ s.WellFormed ∧ s.free.length ≤ s.highWater := by
  have hfresh : (empty capacity.toNat : SlotStore Object).WellFormed :=
    wellFormed_empty capacity.toNat_lt
  have hcapacity : (empty capacity.toNat : SlotStore Object).capacity = capacity.toNat :=
    Array.size_replicate
  have hempty : (empty capacity.toNat : SlotStore Object).get? = fun _ => none :=
    funext fun id => slot_empty _ id.index
  obtain ⟨hrun, hkept, hwf⟩ := hfresh.mapRun l calls w
  rw [hcapacity, hempty] at hrun
  rw [hcapacity] at hkept
  constructor
  · -- the store's run is one run of the map, and there is only one
    intro hmap
    obtain ⟨rfl, rfl, rfl⟩ := hmap.unique hrun
    refine ⟨(run l calls (empty capacity.toNat) w).2.1, rfl, rfl, ?_, hwf, ?_⟩
    · intro id hid
      exact hkept ▸ Nat.lt_of_lt_of_le (hwf.index_lt hid) hwf.highWater_le
    · rw [← hwf.length_toList_add_free]
      exact Nat.le_add_left _ _
  · intro h
    obtain ⟨s, heq, rfl, -⟩ := h
    rw [heq] at hrun
    exact hrun

end Facet.SlotStore
