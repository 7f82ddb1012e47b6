import Facet.Proofs.EarClipping

/-!
# Splitting a ring is triangulating it

The directed sides of all ears together are the sides of the ring once each and some diagonals in
both directions (`Clipped.exists_diagonals`). That holds for every ring, with corners in the same
place or not. When the members of the ring are distinct, as positions are, no side occurs twice
(`Clipped.sides_nodup`), and the two facts together say that the ears tile the ring as a
combinatorial triangulation (`Triangulates`): the boundary is covered once and in its own
direction, and every inner side is shared by exactly two ears that agree on the orientation.

None of this depends on which ears the test lets through.
-/

namespace Facet.Ear

variable {α : Type}

/-! ## Directed sides -/

/-- The directed sides of a ring: every member with the one after it. -/
def ringSides (ring : List α) : List (α × α) := ring.zip (ring.rotate 1)

/-- The directed sides of an ear. -/
def sides (e : Ear α) : List (α × α) := ringSides e.toList

theorem sides_mk (a b c : α) : sides ⟨a, b, c⟩ = [(a, b), (b, c), (c, a)] := by
  simp [sides, ringSides, toList]

theorem length_ringSides (ring : List α) : (ringSides ring).length = ring.length := by
  simp [ringSides]

theorem ringSides_cons_cons (a b : α) (rest : List α) :
    ringSides (a :: b :: rest) = (a, b) :: (b :: rest).zip (rest ++ [a]) := by
  simp [ringSides]

theorem ringSides_isRotated {ring ring' : List α} (h : ring ~r ring') :
    ringSides ring ~r ringSides ring' := by
  obtain ⟨n, rfl⟩ := h
  refine ⟨n, ?_⟩
  have hlen : ring.length = (ring.rotate 1).length := (List.length_rotate ring 1).symm
  rw [ringSides, ringSides, List.rotate_rotate, Nat.add_comm n 1, ← List.rotate_rotate]
  exact List.zipWith_rotate_distrib Prod.mk ring (ring.rotate 1) n hlen

theorem mem_ringSides {ring : List α} {x : α × α} :
    x ∈ ringSides ring ↔ ∃ (i j : Nat) (hi : i < ring.length) (hj : j < ring.length),
      j = (i + 1) % ring.length ∧ x = (ring[i], ring[j]) := by
  rw [List.mem_iff_getElem]
  constructor
  · intro h
    obtain ⟨i, hi, rfl⟩ := h
    have hi' : i < ring.length := by rwa [length_ringSides] at hi
    have hj : (i + 1) % ring.length < ring.length := Nat.mod_lt _ (by omega)
    exact ⟨i, _, hi', hj, rfl, by simp [ringSides, List.getElem_rotate]⟩
  · intro h
    obtain ⟨i, j, hi, hj, rfl, rfl⟩ := h
    exact ⟨i, by rwa [length_ringSides], by simp [ringSides, List.getElem_rotate]⟩

theorem ringSides_nodup {ring : List α} (hn : ring.Nodup) : (ringSides ring).Nodup := by
  -- already their starts are distinct
  refine List.Nodup.of_map Prod.fst ?_
  rwa [ringSides, List.map_fst_zip (by rw [List.length_rotate])]

/-- A ring of at least three distinct members never runs back along its own side. -/
theorem swap_notMem_ringSides {ring : List α} (hn : ring.Nodup) (h3 : 3 ≤ ring.length)
    {x : α × α} (hx : x ∈ ringSides ring) : x.swap ∉ ringSides ring := by
  intro hswap
  obtain ⟨i, i', hi, hi', hnext, rfl⟩ := mem_ringSides.mp hx
  obtain ⟨j, j', hj, hj', hnext', heq⟩ := mem_ringSides.mp hswap
  simp only [Prod.swap_prod_mk, Prod.mk.injEq] at heq
  have h1 : i' = j := hn.getElem_inj_iff.mp heq.1
  have h2 : i = j' := hn.getElem_inj_iff.mp heq.2
  -- two steps forward lead back to `i`, which takes a ring of two members
  rw [hnext', ← h1, hnext, Nat.mod_add_mod] at h2
  have h3' : (i + 1 + 1) % ring.length = if i + 2 < ring.length then i + 2
      else i + 2 - ring.length := by
    split
    · exact Nat.mod_eq_of_lt (by omega)
    · rw [Nat.mod_eq_sub_mod (by omega)]; exact Nat.mod_eq_of_lt (by omega)
  split at h3' <;> omega

/-! ## The sides of all ears -/

/-- One cut trades two sides of the ring for a diagonal that the ear covers the other way. -/
theorem sides_cut_perm (a b c : α) (rest : List α) :
    (sides ⟨a, b, c⟩ ++ ringSides (a :: c :: rest)).Perm
      (ringSides (a :: b :: c :: rest) ++ [(a, c), (c, a)]) := by
  rw [sides_mk, ringSides_cons_cons, ringSides_cons_cons]
  show ((a, b) :: (b, c) :: [(c, a), (a, c)] ++ (c :: rest).zip (rest ++ [a])).Perm
    ((a, b) :: (b, c) :: ((c :: rest).zip (rest ++ [a]) ++ [(a, c), (c, a)]))
  have hback : ([(a, c), (c, a)] ++ (c :: rest).zip (rest ++ [a])).Perm
      ((c :: rest).zip (rest ++ [a]) ++ [(a, c), (c, a)]) := List.perm_append_comm
  exact (((List.Perm.swap _ _ _).trans hback).cons _).cons _

/-- **The sides of the ears are those of the ring and diagonals in both directions.** -/
theorem Clipped.exists_diagonals {ring : List α} {ears : List (Ear α)} (h : Clipped ring ears) :
    ∃ diagonals : List (α × α), diagonals.length + 3 = ring.length
      ∧ (ears.flatMap sides).Perm
        (ringSides ring ++ (diagonals ++ diagonals.map Prod.swap)) := by
  induction h with
  | @whole a b c ring hw =>
      refine ⟨[], hw.perm.length_eq.symm, ?_⟩
      have hsides : ([⟨a, b, c⟩] : List (Ear α)).flatMap sides = ringSides [a, b, c] := by
        rw [List.flatMap_singleton]; rfl
      rw [hsides, List.map_nil, List.append_nil, List.append_nil]
      exact (ringSides_isRotated hw).perm.symm
  | @cut a b c ring rest ears hc _ ih =>
      obtain ⟨diagonals, hlen, hperm⟩ := ih
      refine ⟨(a, c) :: diagonals, ?_, ?_⟩
      · rw [hc.perm.length_eq]; simp at hlen ⊢; omega
      · rw [List.flatMap_cons]
        calc (sides ⟨a, b, c⟩ ++ ears.flatMap sides).Perm
              (sides ⟨a, b, c⟩ ++ (ringSides (a :: c :: rest)
                ++ (diagonals ++ diagonals.map Prod.swap))) := hperm.append_left _
          _ |>.Perm (ringSides (a :: b :: c :: rest)
                ++ ([(a, c), (c, a)] ++ (diagonals ++ diagonals.map Prod.swap))) := by
              rw [← List.append_assoc, ← List.append_assoc (ringSides _)]
              exact (sides_cut_perm a b c rest).append_right _
          _ |>.Perm (ringSides ring ++ ([(a, c), (c, a)]
                ++ (diagonals ++ diagonals.map Prod.swap))) :=
              (ringSides_isRotated hc).perm.symm.append_right _
          _ |>.Perm (ringSides ring ++ ((a, c) :: diagonals
                ++ ((a, c) :: diagonals).map Prod.swap)) := by
              have hmiddle : (diagonals ++ (c, a) :: diagonals.map Prod.swap).Perm
                  ((c, a) :: (diagonals ++ diagonals.map Prod.swap)) := List.perm_middle
              exact (hmiddle.symm.cons (a, c)).append_left (ringSides ring)

/-- No side of the ring is also run backwards. -/
theorem Clipped.swap_notMem {ring : List α} {ears : List (Ear α)} (h : Clipped ring ears)
    (hn : ring.Nodup) (hs : (ears.flatMap sides).Nodup) {x : α × α} (hx : x ∈ ringSides ring) :
    x.swap ∉ ears.flatMap sides := by
  obtain ⟨diagonals, hlen, hperm⟩ := h.exists_diagonals
  rw [hperm.nodup_iff, List.nodup_append'] at hs
  obtain ⟨_, _, hdisjoint⟩ := hs
  have hx' := hdisjoint hx
  rw [hperm.mem_iff, List.mem_append, List.mem_append]
  intro hback
  rcases hback with hring | hdiag | hdiag
  · exact swap_notMem_ringSides hn (by omega) hx hring
  · -- a diagonal that reverses a side of the ring has that side as its own reverse
    exact hx' (List.mem_append_right _ (List.mem_map.mpr ⟨_, hdiag, Prod.swap_swap x⟩))
  · obtain ⟨y, hy, hyx⟩ := List.mem_map.mp hdiag
    rw [Prod.swap_inj] at hyx
    exact hx' (List.mem_append_left _ (hyx ▸ hy))

theorem Clipped.side_mem {ring : List α} {ears : List (Ear α)} (h : Clipped ring ears)
    {x : α × α} (hx : x ∈ ears.flatMap sides) : x.1 ∈ ring ∧ x.2 ∈ ring := by
  obtain ⟨e, he, hxe⟩ := List.mem_flatMap.mp hx
  obtain ⟨h1, h2⟩ := List.of_mem_zip (show (x.1, x.2) ∈ e.toList.zip (e.toList.rotate 1) from hxe)
  exact ⟨h.mem_ring he _ h1, h.mem_ring he _ (List.mem_rotate.mp h2)⟩

/-- **In a ring of distinct members no two ears share a directed side.** -/
theorem Clipped.sides_nodup {ring : List α} {ears : List (Ear α)} (h : Clipped ring ears)
    (hn : ring.Nodup) : (ears.flatMap sides).Nodup := by
  induction h with
  | @whole a b c ring hw =>
      rw [List.flatMap_singleton]
      exact ringSides_nodup (hw.nodup_iff.mp hn)
  | @cut a b c ring rest ears hc hrest ih =>
      have hn' : (a :: b :: c :: rest).Nodup := hc.nodup_iff.mp hn
      have hshort : (a :: c :: rest).Nodup :=
        hn'.sublist ((List.sublist_cons_self b (c :: rest)).cons_cons a)
      have hb : b ∉ a :: c :: rest := by
        simp only [List.nodup_cons, List.mem_cons, not_or] at hn' ⊢
        exact ⟨fun hba => hn'.1.1 hba.symm, hn'.2.1⟩
      have hside : (a, c) ∈ ringSides (a :: c :: rest) := by
        rw [ringSides_cons_cons]; exact List.mem_cons_self
      rw [List.flatMap_cons, List.nodup_append']
      refine ⟨ringSides_nodup (hn'.sublist (List.prefix_append [a, b, c] rest).sublist),
        ih hshort, ?_⟩
      -- the middle is gone from the shorter ring, and the diagonal is its side in one direction
      intro x hx hlater
      rw [sides_mk] at hx
      simp only [List.mem_cons, List.not_mem_nil, or_false] at hx
      rcases hx with rfl | rfl | rfl
      · exact hb (hrest.side_mem hlater).2
      · exact hb (hrest.side_mem hlater).1
      · exact hrest.swap_notMem hshort (ih hshort) hside hlater

/-! ## Rings of positions -/

/-- The position after a position of a ring. -/
def next {n : Nat} (k : Fin n) : Fin n := ⟨(k + 1) % n, Nat.mod_lt _ k.pos⟩

/-- The positions run forwards round the ring, wherever the ring is cut open. -/
def InOrder {n : Nat} (e : Ear (Fin n)) : Prop :=
  e.first < e.middle ∧ e.middle < e.last
    ∨ e.middle < e.last ∧ e.last < e.first
    ∨ e.last < e.first ∧ e.first < e.middle

/-- The ears are a combinatorial triangulation of a ring of `n` positions. -/
structure Triangulates (n : Nat) (ears : List (Ear (Fin n))) : Prop where
  /-- Two ears fewer than positions. -/
  length_eq : ears.length = n - 2
  /-- Every ear has three positions in the ring's order. -/
  inOrder : ∀ e ∈ ears, e.InOrder
  /-- Every side of the ring is a side of one ear, and never run backwards. -/
  side : ∀ k : Fin n, (ears.flatMap sides).count (k, next k) = 1
    ∧ (ears.flatMap sides).count (next k, k) = 0
  /-- Every other side is a side of one ear, and its reverse of another. -/
  diagonal : ∀ i j : Fin n, (i, j) ∈ ears.flatMap sides → j ≠ next i →
    (ears.flatMap sides).count (i, j) = 1 ∧ (ears.flatMap sides).count (j, i) = 1
  /-- There are `n - 3` diagonals, each in two directions. -/
  diagonals : ((ears.flatMap sides).filter fun x => x.2 ≠ next x.1).length = 2 * (n - 3)

theorem mem_ringSides_finRange {n : Nat} {x : Fin n × Fin n} :
    x ∈ ringSides (List.finRange n) ↔ x.2 = next x.1 := by
  rw [mem_ringSides]
  constructor
  · intro h
    obtain ⟨i, j, hi, hj, hnext, rfl⟩ := h
    simpa [next] using hnext
  · intro hx
    refine ⟨x.1, x.2, by simp, by simp, ?_, by simp⟩
    rw [hx, List.length_finRange]
    rfl

theorem inOrder_of_sublist {n : Nat} {e : Ear (Fin n)} {part : List (Fin n)}
    (hpart : part ~r e.toList) (hsub : part.Sublist (List.finRange n)) : e.InOrder := by
  have hsorted : part.Pairwise (· < ·) := (List.pairwise_lt_finRange n).sublist hsub
  obtain ⟨k, hk, rfl⟩ := List.isRotated_iff_mod.mp hpart.symm
  have hk3 : k ≤ 3 := hk
  -- a sorted triple, read from its first, second or third member on
  obtain ⟨a, b, c⟩ := e
  interval_cases k <;> simp_all [toList, InOrder]

theorem Clipped.triangulates {n : Nat} {ears : List (Ear (Fin n))}
    (h : Clipped (List.finRange n) ears) : Triangulates n ears := by
  have hn := List.nodup_finRange n
  have hnodup := h.sides_nodup hn
  have hlen := h.length
  rw [List.length_finRange] at hlen
  obtain ⟨diagonals, hcount, hperm⟩ := h.exists_diagonals
  rw [List.length_finRange] at hcount
  have hparts := hnodup
  rw [hperm.nodup_iff, List.nodup_append'] at hparts
  obtain ⟨_, _, hdisjoint⟩ := hparts
  -- a side off the ring is a diagonal in one of its two directions
  have hinner : ∀ x ∈ diagonals ++ diagonals.map Prod.swap, x.2 ≠ next x.1 :=
    fun x hx hring => hdisjoint (mem_ringSides_finRange.mpr hring) hx
  refine ⟨by omega, ?_, ?_, ?_, ?_⟩
  · intro e he
    obtain ⟨part, hpart, hsub⟩ := h.sublist e he
    exact inOrder_of_sublist hpart hsub
  · -- the ring's own sides
    intro k
    have hk : (k, next k) ∈ ringSides (List.finRange n) := mem_ringSides_finRange.mpr rfl
    constructor
    · exact List.count_eq_one_of_mem hnodup (hperm.mem_iff.mpr (List.mem_append_left _ hk))
    · exact List.count_eq_zero_of_not_mem (h.swap_notMem hn hnodup hk)
  · -- every other side comes from a diagonal, whose reverse is there too
    intro i j hij hoff
    refine ⟨List.count_eq_one_of_mem hnodup hij, List.count_eq_one_of_mem hnodup ?_⟩
    rw [hperm.mem_iff, List.mem_append, List.mem_append] at hij
    rw [hperm.mem_iff, List.mem_append, List.mem_append]
    rcases hij with hring | hdiag | hdiag
    · exact absurd (mem_ringSides_finRange.mp hring) hoff
    · exact .inr (.inr (List.mem_map.mpr ⟨_, hdiag, rfl⟩))
    · obtain ⟨y, hy, hyx⟩ := List.mem_map.mp hdiag
      rw [← Prod.swap_swap y, hyx] at hy
      exact .inr (.inl hy)
  · rw [(hperm.filter _).length_eq, List.filter_append]
    have hring : (ringSides (List.finRange n)).filter (fun x => x.2 ≠ next x.1) = [] := by
      rw [List.filter_eq_nil_iff]
      intro x hx
      simpa using mem_ringSides_finRange.mp hx
    have hdiag : (diagonals ++ diagonals.map Prod.swap).filter (fun x => x.2 ≠ next x.1)
        = diagonals ++ diagonals.map Prod.swap := by
      rw [List.filter_eq_self]
      intro x hx
      simpa using hinner x hx
    rw [hring, hdiag, List.nil_append, List.length_append, List.length_map]
    omega

end Facet.Ear

namespace Facet.Face

/--
**A split face is a triangulation of its own ring.** The triangles are those that the same cuts
make of the ring of positions, each position replaced by the corner that stands there.
-/
theorem triangulate_fills_ring {f : Face} {triangles : List Face}
    (h : f.triangulate = .ok triangles) :
    ∃ ears : List (Ear (Fin f.corners.length)),
      Ear.split (fun e => winding f.normal (e.map f.corners.get) < 0)
          (List.finRange f.corners.length) = .ok ears
      ∧ triangles = ears.map (fun e => ofEar f.normal (e.map f.corners.get))
      ∧ triangles.map corners = ears.map (fun e => (e.map f.corners.get).toList)
      ∧ triangles.length = f.size - 2
      ∧ Ear.Triangulates f.corners.length ears := by
  rw [triangulate] at h
  split at h
  · rename_i ears hsplit
    injection h with h; subst h
    -- the same cuts on the ring of positions, which are distinct where corners need not be
    have hmap := Ear.split_map f.corners.get (fun e => decide (winding f.normal e < 0))
      (List.finRange f.corners.length)
    rw [List.map_get_finRange, hsplit] at hmap
    cases hpos : Ear.split (fun e => decide (winding f.normal (e.map f.corners.get) < 0))
        (List.finRange f.corners.length) with
    | error stuck => rw [hpos] at hmap; exact absurd hmap (by simp [Except.map])
    | ok positions =>
      rw [hpos] at hmap
      injection hmap with hmap; subst hmap
      have hfill := (Ear.split_clipped (by simpa using f.three_le) hpos).triangulates
      refine ⟨positions, rfl, by rw [List.map_map]; rfl, by simp [ofEar], ?_, hfill⟩
      rw [List.length_map, List.length_map, hfill.length_eq, size]
  · exact absurd h (by simp)

/-- A dart whose ring runs against its normal: only the ear at its notch, round the end, passes. -/
def backwardDart : Face :=
  { normal := ⟨0, 0, 1⟩
    corners := [⟨1, 1, 0⟩, ⟨4, 0, 0⟩, ⟨0, 0, 0⟩, ⟨0, 4, 0⟩]
    three_le := by decide }

/-- The notch comes off first, and with it the first corner of the list. -/
theorem backwardDart_fills_ring :
    ∃ triangles, backwardDart.triangulate = .ok triangles
      ∧ ∃ ears : List (Ear (Fin backwardDart.corners.length)),
        Ear.split (fun e => winding backwardDart.normal (e.map backwardDart.corners.get) < 0)
            (List.finRange backwardDart.corners.length) = .ok ears
        ∧ triangles = ears.map (fun e => ofEar backwardDart.normal
            (e.map backwardDart.corners.get))
        ∧ triangles.map corners = ears.map (fun e => (e.map backwardDart.corners.get).toList)
        ∧ triangles.length = backwardDart.size - 2
        ∧ Ear.Triangulates backwardDart.corners.length ears := by
  have h : backwardDart.triangulate = .ok
      [ofEar ⟨0, 0, 1⟩ ⟨⟨0, 4, 0⟩, ⟨1, 1, 0⟩, ⟨4, 0, 0⟩⟩,
        ofEar ⟨0, 0, 1⟩ ⟨⟨4, 0, 0⟩, ⟨0, 0, 0⟩, ⟨0, 4, 0⟩⟩] := by
    decide +kernel
  exact ⟨_, h, triangulate_fills_ring h⟩

end Facet.Face
