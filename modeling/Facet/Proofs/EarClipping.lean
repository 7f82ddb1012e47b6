import Mathlib
import Facet.Face.EarClipping

/-!
# Ears up to rotation

`Ear.clip` walks a start index round a list that shrinks under it: an ear may straddle the end of
the list, and taking out the first member moves every later index. Up to rotation nothing of this
shows. One cut turns a ring `a, b, c, …` into the ring `a, c, …` and yields the ear `⟨a, b, c⟩`.

`Clipped` is that rule as a relation, and `clip_clipped` says that every successful run obeys it,
whatever the test rejects. What all triangulations have in common is then proved by induction on
`Clipped`, without an index in sight. `split_map` is the other half: a run on corners is the image
of the run on their positions.
-/

namespace Facet.Ear

variable {α β : Type}

/-- The ears have been cut off the ring one after the other, up to rotation. -/
inductive Clipped : List α → List (Ear α) → Prop where
  | whole {a b c : α} {ring : List α} :
      ring ~r [a, b, c] → Clipped ring [⟨a, b, c⟩]
  | cut {a b c : α} {ring rest : List α} {ears : List (Ear α)} :
      ring ~r a :: b :: c :: rest → Clipped (a :: c :: rest) ears →
      Clipped ring (⟨a, b, c⟩ :: ears)

theorem Clipped.of_isRotated {ring ring' : List α} {ears : List (Ear α)}
    (h : Clipped ring ears) (hr : ring' ~r ring) : Clipped ring' ears := by
  cases h with
  | whole hw => exact .whole (hr.trans hw)
  | cut hc hrest => exact .cut (hr.trans hc) hrest

/-! ## One cut -/

theorem eraseIdx_isRotated (ring : List α) {i : Nat} (hi : i < ring.length) :
    ring.eraseIdx i ~r (ring.rotate i).tail := by
  rw [List.eraseIdx_eq_take_drop_succ, List.rotate_eq_drop_append_take hi.le,
    List.drop_eq_getElem_cons hi, List.cons_append, List.tail_cons]
  exact List.isRotated_append

theorem rotate_eq_candidate {ring : List α} (h : 0 < ring.length) (h3 : 3 ≤ ring.length)
    (start : Nat) :
    ∃ rest, ring.rotate start = (candidate ring h start).first :: (candidate ring h start).middle
      :: (candidate ring h start).last :: rest := by
  have hlen := List.length_rotate ring start
  have hget := List.getElem_rotate ring start
  match hr : ring.rotate start with
  | a :: b :: c :: rest =>
    refine ⟨rest, ?_⟩
    have ha := hget 0 (by omega)
    have hb := hget 1 (by omega)
    have hc := hget 2 (by omega)
    simp only [hr, List.getElem_cons_zero, List.getElem_cons_succ] at ha hb hc
    rw [ha, hb, hc]
    simp [candidate, Nat.add_comm]
  | [] | [_] | [_, _] => simp [hr] at hlen; omega

/-- Taking out the middle of a candidate is the cut of `Clipped`. -/
theorem candidate_cut {ring : List α} (h : 0 < ring.length) (h3 : 3 ≤ ring.length) (start : Nat) :
    ∃ rest,
      ring ~r (candidate ring h start).first :: (candidate ring h start).middle
        :: (candidate ring h start).last :: rest
      ∧ ring.eraseIdx ((start + 1) % ring.length) ~r
        (candidate ring h start).first :: (candidate ring h start).last :: rest := by
  obtain ⟨rest, hrest⟩ := rotate_eq_candidate h h3 start
  refine ⟨rest, ⟨start, hrest⟩, ?_⟩
  -- rotated one further, the ring begins with the middle and ends with the first
  have herase := eraseIdx_isRotated ring (Nat.mod_lt (start + 1) h)
  rw [List.rotate_mod, ← List.rotate_rotate, hrest] at herase
  refine herase.trans ?_
  rw [List.rotate_cons_succ, List.rotate_zero, List.cons_append, List.tail_cons]
  exact List.isRotated_concat _ _

/-- **Every successful run cuts ears, whatever the test.** -/
theorem clip_clipped {rejects : Ear α → Bool} :
    ∀ (cuts : Nat) {ring : List α} {start : Nat} {ears : List (Ear α)},
      ring.length = cuts + 3 → clip rejects cuts ring start = .ok ears → Clipped ring ears
  | 0, ring, start, ears, hlen, h => by
      obtain ⟨a, b, c, rfl⟩ := List.length_eq_three.mp hlen
      injection h with h; subst h
      exact .whole (.refl _)
  | cuts + 1, ring, start, ears, hlen, h => by
      have h3 : 3 < ring.length := by omega
      rw [clip, dif_pos h3] at h
      split at h
      · exact absurd h (by simp)
      · -- an ear starts at `i`; the shorter ring has one cut less to come
        rename_i i _
        dsimp only at h
        split at h
        · exact absurd h (by simp)
        · rename_i more hmore
          injection h with h; subst h
          obtain ⟨rest, hring, hshorter⟩ := candidate_cut (by omega) h3.le i
          have hlt : (i + 1) % ring.length < ring.length := Nat.mod_lt _ (by omega)
          have hlen' : (ring.eraseIdx ((i + 1) % ring.length)).length = cuts + 3 := by
            rw [List.length_eraseIdx_of_lt hlt]; omega
          exact .cut hring ((clip_clipped cuts hlen' hmore).of_isRotated hshorter.symm)

theorem split_clipped {rejects : Ear α → Bool} {ring : List α} {ears : List (Ear α)}
    (h3 : 3 ≤ ring.length) (h : split rejects ring = .ok ears) : Clipped ring ears :=
  clip_clipped _ (by omega) h

theorem Clipped.length {ring : List α} {ears : List (Ear α)} (h : Clipped ring ears) :
    ears.length + 2 = ring.length := by
  induction h with
  | whole hw => simp [hw.perm.length_eq]
  | cut hc _ ih => simp [hc.perm.length_eq] at ih ⊢; omega

/-! ## Every ear keeps the ring's cyclic order -/

/-- A part of a rotation of a list is a rotation of a part of the list. -/
theorem sublist_of_isRotated {part ring ring' : List α} (h : part.Sublist ring')
    (hr : ring ~r ring') : ∃ part', part' ~r part ∧ part'.Sublist ring := by
  obtain ⟨n, hn, rfl⟩ := List.isRotated_iff_mod.mp hr.symm
  -- cut the part where the rotation cuts the list, and swap its two halves
  rw [← List.take_append_drop n ring'] at h
  obtain ⟨front, back, rfl, hfront, hback⟩ := List.sublist_append_iff.mp h
  refine ⟨back ++ front, List.isRotated_append, ?_⟩
  rw [List.rotate_eq_drop_append_take hn]
  exact hback.append hfront

/-- Read from the right one of its members on, an ear is a part of the ring. -/
theorem Clipped.sublist {ring : List α} {ears : List (Ear α)} (h : Clipped ring ears) :
    ∀ e ∈ ears, ∃ part, part ~r e.toList ∧ part.Sublist ring := by
  induction h with
  | whole hw =>
      intro e he
      obtain rfl := List.mem_singleton.mp he
      exact ⟨_, hw, .refl _⟩
  | @cut a b c ring rest ears hc _ ih =>
      intro e he
      rcases List.mem_cons.mp he with rfl | he
      · exact sublist_of_isRotated (List.prefix_append [a, b, c] rest).sublist hc
      · -- a later ear is a part of the shorter ring, which is a part of this one
        obtain ⟨part, hpart, hsub⟩ := ih e he
        have hkept : (a :: c :: rest).Sublist (a :: b :: c :: rest) :=
          (List.sublist_cons_self b (c :: rest)).cons_cons a
        obtain ⟨part', hpart', hsub'⟩ := sublist_of_isRotated (hsub.trans hkept) hc
        exact ⟨part', hpart'.trans hpart, hsub'⟩

theorem Clipped.mem_ring {ring : List α} {ears : List (Ear α)} (h : Clipped ring ears)
    {e : Ear α} (he : e ∈ ears) : ∀ x ∈ e.toList, x ∈ ring := by
  intro x hx
  obtain ⟨part, hpart, hsub⟩ := h.sublist e he
  exact hsub.subset (hpart.mem_iff.mpr hx)

/-! ## A run on corners is the image of a run on positions -/

theorem candidate_map (f : α → β) (ring : List α) (h : 0 < (ring.map f).length)
    (h' : 0 < ring.length) (start : Nat) :
    candidate (ring.map f) h start = (candidate ring h' start).map f := by
  simp [candidate, map]

theorem whole_map (f : α → β) (ring : List α) :
    whole (ring.map f) = (whole ring).map (map f) := by
  match ring with
  | [_, _, _] => rfl
  | [] | [_] | [_, _] | _ :: _ :: _ :: _ :: _ => rfl

theorem seek_map (f : α → β) (rejects : Ear β → Bool) (ring : List α)
    (h : 0 < (ring.map f).length) (h' : 0 < ring.length) :
    ∀ (tries start attempts : Nat),
      seek rejects (ring.map f) h tries start attempts
        = seek (fun e => rejects (e.map f)) ring h' tries start attempts
  | 0, _, _ => by simp [seek]
  | tries + 1, start, attempts => by
      rw [seek, seek, candidate_map f ring h h', seek_map f rejects ring h h' tries,
        List.length_map]

theorem clip_map (f : α → β) (rejects : Ear β → Bool) :
    ∀ (cuts : Nat) (ring : List α) (start : Nat),
      clip rejects cuts (ring.map f) start
        = (clip (fun e => rejects (e.map f)) cuts ring start).map (List.map (map f))
  | 0, ring, _ => by rw [clip, clip, whole_map]; rfl
  | cuts + 1, ring, start => by
      rw [clip, clip]
      by_cases h : 3 < ring.length
      · have h' : 3 < (ring.map f).length := by rw [List.length_map]; exact h
        rw [dif_pos h, dif_pos h', seek_map f rejects ring (by omega) (by omega),
          List.length_map]
        cases seek (fun e => rejects (e.map f)) ring (by omega) ring.length start 0 with
        | error _ => rfl
        | ok i =>
          dsimp only
          rw [List.eraseIdx_map, clip_map f rejects cuts, List.length_map,
            candidate_map f ring (by omega) (by omega)]
          cases clip (fun e => rejects (e.map f)) cuts (ring.eraseIdx ((i + 1) % ring.length))
            ((i + 1) % (ring.eraseIdx ((i + 1) % ring.length)).length) with
          | error _ => rfl
          | ok _ => rfl
      · have h' : ¬3 < (ring.map f).length := by rw [List.length_map]; exact h
        rw [dif_neg h, dif_neg h', whole_map]; rfl

/-- **Clipping commutes with naming the members of a ring.** -/
theorem split_map (f : α → β) (rejects : Ear β → Bool) (ring : List α) :
    split rejects (ring.map f)
      = (split (fun e => rejects (e.map f)) ring).map (List.map (map f)) := by
  rw [split, split, clip_map, List.length_map]

end Facet.Ear
