import Facet.Proofs.ObjectLifetimes

/-!
# The high-water mark is the peak

A store that has held many objects and lost most of them still has its high-water mark, and every
listing walks up to it. How far the mark may run ahead of what is live is therefore a question about
the whole past of a store: the answer is not at all, for the mark is the largest number of objects
that were ever live at once.

What carries this is that the mark moves only when the free list is empty (`mark_cases`). At that
moment every number below it is in use, so the mark and the number of live objects go up together.
-/

namespace Facet.SlotStore

variable {Seed Object World : Type}

/-! ## What a call does to the mark -/

section Step

variable (l : Lifecycle Seed Object World) (c : Call Seed Object) (w : World)
  {s : SlotStore Object}

/-- Everything a call can do to the mark. It stays, and a handle given out was used before; or
nothing was free, and the first unused number is given out. -/
theorem WellFormed.mark_cases (h : s.WellFormed) :
    ((perform l c s w).2.1.highWater = s.highWater
        ∧ ∀ id, (perform l c s w).1 = .created (some id) → id.index < s.highWater)
      ∨ ((perform l c s w).2.1.highWater = s.highWater + 1
        ∧ (perform l c s w).2.1.free = []
        ∧ ∃ id, (perform l c s w).1 = .created (some id) ∧ id.index = s.highWater) := by
  cases c with
  | create seed =>
      have hmark := h.highWater_le
      have hfit := h.capacity_lt
      simp only [perform, create, reserve]
      cases hfree : s.free with
      | cons i rest =>
          -- a free number lies below the mark
          have hi : i < s.highWater :=
            ((h.mem_free i).mp (by rw [hfree]; exact List.mem_cons_self)).1
          refine .inl ⟨rfl, ?_⟩
          rintro id hid
          simp only [Answer.created.injEq, Option.some.injEq] at hid
          rw [← hid, Handle.index_ofIndex (by omega)]
          exact hi
      | nil =>
          by_cases hlt : s.highWater < s.capacity
          · simp only [hlt, if_true]
            exact .inr ⟨rfl, rfl, _, rfl, Handle.index_ofIndex (by omega)⟩
          · simp only [hlt, if_false]
            exact .inl ⟨trivial, fun _ hid => by cases hid⟩
  | destroy id =>
      refine .inl ⟨?_, fun _ hid => by cases hid⟩
      simp only [perform, destroy]
      cases s.get? id <;> rfl
  | get | getMut | isValid | iter | iterMut | len =>
      exact .inl ⟨rfl, fun _ hid => by cases hid⟩

/-- **The mark keeps up with the number of live objects**, and does not run ahead of it. -/
theorem WellFormed.highWater_perform (h : s.WellFormed) :
    (perform l c s w).2.1.highWater = max s.highWater (perform l c s w).2.1.size := by
  -- the live objects are what lies below the mark and is not free
  have hsize : (perform l c s w).2.1.size
      = (perform l c s w).2.1.highWater - (perform l c s w).2.1.free.length := rfl
  rcases h.mark_cases l c w with ⟨hmark, -⟩ | ⟨hmark, hfree, -⟩
  · omega
  · rw [hfree, List.length_nil] at hsize
    omega

end Step

/-! ## Runs -/

section Run

variable (l : Lifecycle Seed Object World) (capacity : UInt32) (w : World)
  (calls : List (Call Seed Object)) (c : Call Seed Object)

/-- The number of live objects after some calls on a fresh store. -/
noncomputable def liveAfter : Nat :=
  {id | (freshRun l capacity w calls).2.1.get? id ≠ none}.ncard

/-- The numbers of live objects after the calls so far, and after those before them. -/
def liveCounts : Set Nat :=
  {n | ∃ past, past <+: calls ∧ liveAfter l capacity w past = n}

theorem wellFormed_freshRun : (freshRun l capacity w calls).2.1.WellFormed :=
  (WellFormed.mapRun l calls (wellFormed_empty capacity.toNat_lt) w).2.2

theorem liveAfter_eq_size : liveAfter l capacity w calls = (freshRun l capacity w calls).2.1.size :=
  (wellFormed_freshRun l capacity w calls).size_eq_ncard.symm

theorem liveCounts_nil : liveCounts l capacity w [] = {0} := by
  ext n
  simp only [liveCounts, List.prefix_nil, exists_eq_left, liveAfter_eq_size]
  exact eq_comm

theorem liveCounts_snoc :
    liveCounts l capacity w (calls ++ [c])
      = insert (liveAfter l capacity w (calls ++ [c])) (liveCounts l capacity w calls) := by
  ext n
  simp only [liveCounts, List.prefix_concat_iff, or_and_right, exists_or, exists_eq_left]
  exact or_congr_left eq_comm

theorem highWater_isGreatest :
    IsGreatest (liveCounts l capacity w calls) (freshRun l capacity w calls).2.1.highWater := by
  induction calls using List.reverseRecOn with
  | nil =>
      rw [liveCounts_nil]
      exact isGreatest_singleton
  | append_singleton calls c ih =>
      rw [liveCounts_snoc, liveAfter_eq_size, freshRun_snoc,
        (wellFormed_freshRun l capacity w calls).highWater_perform, max_comm]
      exact ih.insert _

/-- The handles given out are those below the mark. -/
theorem issued_iff (id : Handle) :
    .created (some id) ∈ (freshRun l capacity w calls).1
      ↔ id.index < (freshRun l capacity w calls).2.1.highWater := by
  induction calls using List.reverseRecOn with
  | nil => simp [freshRun, run, empty]
  | append_singleton calls c ih =>
      rw [freshRun_snoc, List.mem_append, List.mem_singleton, ih]
      rcases (wellFormed_freshRun l capacity w calls).mark_cases l c
        (freshRun l capacity w calls).2.2 with ⟨hmark, hissued⟩ | ⟨hmark, -, new, hnew, hindex⟩
      · rw [hmark]
        refine ⟨?_, .inl⟩
        rintro (hlt | hlast)
        · exact hlt
        · exact hissued id hlast.symm
      · rw [hmark, hnew, Nat.lt_succ_iff_lt_or_eq, ← hindex, Handle.index_inj]
        simp

/-- How the high-water mark of a store bears on its past and on its slots. -/
structure KeepsToPeak (l : Lifecycle Seed Object World) (capacity : UInt32) (w : World)
    (calls : List (Call Seed Object)) : Prop where
  /-- The mark is the largest number of objects that were live at once so far. -/
  isGreatest : IsGreatest (liveCounts l capacity w calls)
    (freshRun l capacity w calls).2.1.highWater
  /-- The handles ever given out are those below that number: none is skipped, none lies beyond. -/
  issued (id : Handle) : .created (some id) ∈ (freshRun l capacity w calls).1
    ↔ id.index < (freshRun l capacity w calls).2.1.highWater
  /-- No slot from there on holds an object. -/
  live (id : Handle) : (freshRun l capacity w calls).2.1.get? id ≠ none →
    id.index < (freshRun l capacity w calls).2.1.highWater

/-- **A store never uses more slots than it has had live objects at once**, in whichever order they
came and went. -/
theorem keepsToPeak_after (l : Lifecycle Seed Object World) (capacity : UInt32) (w : World)
    (calls : List (Call Seed Object)) : KeepsToPeak l capacity w calls where
  isGreatest := highWater_isGreatest l capacity w calls
  issued := issued_iff l capacity w calls
  live _ := (wellFormed_freshRun l capacity w calls).index_lt

/-- Four objects were made, but never more than two were live. -/
example : (freshRun ⟨fun n w => (n, w), fun _ w => w⟩ 4 () [.create 5, .create 6, .destroy ⟨1⟩,
    .destroy ⟨0⟩, .create 7, .create 8]).2.1.highWater = 2 := by
  decide

end Run

end Facet.SlotStore
