import Facet.Proofs.EarSweep
import Facet.Proofs.Triangulation

/-!
# Convex faces

Whatever has been cut off a ring, its ears are three of its corners in ring order
(`candidate_inOrder`). So if the winding test lets every such three pass, no candidate is ever
rejected, and where the cuts fall is decided by the number of corners: `Ear.everySecond` takes out
one corner and leaves the next, round and round. If the test rejects every such three, the first
ring has no ear.
-/

namespace Facet

namespace Ear

variable {α β : Type} {rejects : Ear α → Bool}

/-! ## Rings of positions -/

theorem candidate_inOrder {n : Nat} {ring : List (Fin n)} (hsub : ring.Sublist (List.finRange n))
    (h3 : 3 ≤ ring.length) (h : 0 < ring.length) (start : Nat) :
    (candidate ring h start).InOrder := by
  obtain ⟨rest, hring, -⟩ := candidate_cut h h3 start
  have hprefix := (List.prefix_append (candidate ring h start).toList rest).sublist
  obtain ⟨part, hpart, hpart_sub⟩ := sublist_of_isRotated hprefix hring
  exact inOrder_of_sublist hpart (hpart_sub.trans hsub)

instance {n : Nat} (e : Ear (Fin n)) : Decidable e.InOrder :=
  inferInstanceAs (Decidable (_ ∨ _ ∨ _))

/-! ## A run without rejections -/

/-- The ears of a ring when every candidate is cut off. -/
def everySecond : (cuts : Nat) → (ring : List α) → (start : Nat) → List (Ear α)
  | 0, ring, _ => whole ring
  | cuts + 1, ring, start =>
    if h : 3 < ring.length then
      let shorter := ring.eraseIdx ((start + 1) % ring.length)
      candidate ring (pos_of_three_lt h) start
        :: everySecond cuts shorter ((start + 1) % shorter.length)
    else whole ring

theorem seek_of_passed {ring : List α} {h : 0 < ring.length} {start : Nat}
    (hpass : rejects (candidate ring h start) = false) {tries : Nat} (htries : 0 < tries)
    (attempts : Nat) : seek rejects ring h tries start attempts = .ok start := by
  obtain ⟨more, rfl⟩ : ∃ more, tries = more + 1 := ⟨tries - 1, by omega⟩
  rw [seek, if_neg (by simp [hpass])]

theorem clip_of_passes :
    ∀ (cuts : Nat) {ring : List α} (start : Nat),
      (∀ shorter, shorter.Sublist ring → 3 < shorter.length → ∀ h i,
        rejects (candidate shorter h i) = false) →
      clip rejects cuts ring start = .ok (everySecond cuts ring start)
  | 0, ring, start, _ => rfl
  | cuts + 1, ring, start, hpass => by
      rw [clip, everySecond]
      by_cases h : 3 < ring.length
      · have hseek := seek_of_passed (hpass ring (.refl _) h (by omega) start)
          (by omega : 0 < ring.length) 0
        rw [dif_pos h, dif_pos h, hseek]
        dsimp only
        have herase := List.eraseIdx_sublist ring ((start + 1) % ring.length)
        rw [clip_of_passes cuts _ fun shorter hsub => hpass shorter (hsub.trans herase)]
      · rw [dif_neg h, dif_neg h]

/-- The cuts of a ring of `n` positions when every candidate is cut off. -/
def everySecondOf (n : Nat) : List (Ear (Fin n)) := everySecond (n - 3) (List.finRange n) 0

example : everySecondOf 6 = [⟨0, 1, 2⟩, ⟨2, 3, 4⟩, ⟨4, 5, 0⟩, ⟨0, 2, 4⟩] := by decide

end Ear

namespace Face

open Ear (candidate)

/-- The winding test lets any three corners in ring order pass. -/
def IsConvex (f : Face) : Prop :=
  ∀ a b c : Fin f.corners.length, Ear.InOrder ⟨a, b, c⟩ →
    ¬winding f.normal ((Ear.mk a b c).map f.corners.get) < 0

/-- The winding test rejects any three corners in ring order. -/
def RunsBackwards (f : Face) : Prop :=
  ∀ a b c : Fin f.corners.length, Ear.InOrder ⟨a, b, c⟩ →
    winding f.normal ((Ear.mk a b c).map f.corners.get) < 0

instance (f : Face) : Decidable f.IsConvex :=
  inferInstanceAs (Decidable (∀ _ _ _, _ → ¬_))

instance (f : Face) : Decidable f.RunsBackwards :=
  inferInstanceAs (Decidable (∀ _ _ _, _ → _))

/-- The ears of what is left of a face's ring are corners of the face in ring order. -/
theorem exists_candidate {f : Face} {ring : List Vec3} (hsub : ring.Sublist f.corners)
    (h3 : 3 ≤ ring.length) (h : 0 < ring.length) (start : Nat) :
    ∃ a b c : Fin f.corners.length, Ear.InOrder ⟨a, b, c⟩
      ∧ candidate ring h start = (Ear.mk a b c).map f.corners.get := by
  have hcorners := hsub
  rw [← List.map_get_finRange f.corners] at hcorners
  obtain ⟨positions, hpositions, hring⟩ := List.sublist_map_iff.mp hcorners
  subst hring
  rw [List.length_map] at h3
  have horder := Ear.candidate_inOrder hpositions h3 (by omega) start
  exact ⟨_, _, _, horder, Ear.candidate_map f.corners.get positions h (by omega) start⟩

theorem IsConvex.passes {f : Face} (hf : f.IsConvex) {ring : List Vec3}
    (hsub : ring.Sublist f.corners) (h3 : 3 ≤ ring.length) (h : 0 < ring.length) (start : Nat) :
    ¬winding f.normal (candidate ring h start) < 0 := by
  obtain ⟨a, b, c, horder, hcandidate⟩ := exists_candidate hsub h3 h start
  rw [hcandidate]
  exact hf a b c horder

theorem RunsBackwards.rejects {f : Face} (hf : f.RunsBackwards) {ring : List Vec3}
    (hsub : ring.Sublist f.corners) (h3 : 3 ≤ ring.length) (h : 0 < ring.length) (start : Nat) :
    winding f.normal (candidate ring h start) < 0 := by
  obtain ⟨a, b, c, horder, hcandidate⟩ := exists_candidate hsub h3 h start
  rw [hcandidate]
  exact hf a b c horder

/-- **A sweep over a convex face rejects nothing.** -/
theorem IsConvex.trials_pass {f : Face} (hf : f.IsConvex) :
    ∀ {turns : Nat} {s : Sweep}, Sweep.SweepInv f s →
      (∀ t ∈ s.trials, ¬winding f.normal t.ear < 0) →
      ∀ {s' : Sweep}, s.after f.normal turns = .ok s' →
        ∀ t ∈ s'.trials, ¬winding f.normal t.ear < 0 := by
  intro turns
  induction turns with
  | zero =>
      intro s hinv hpast s' hafter
      injection hafter with hafter
      exact hafter ▸ hpast
  | succ turns ih =>
      intro s hinv hpast s' hafter
      rw [Sweep.after] at hafter
      cases hturn : s.turn f.normal with
      | error e => rw [hturn] at hafter; exact absurd hafter (by simp)
      | ok next =>
          rw [hturn] at hafter
          refine ih (hinv.turn hturn) ?_ hafter
          have hcases := Sweep.turn_cases f.normal s
          rw [hturn] at hcases
          cases hcases with
          | done => exact hpast
          | passedOver h3 hneg =>
              exact absurd hneg (hf.passes hinv.sublist hinv.three_le (by omega) s.start)
          | cutOff h3 hpass =>
              intro t ht
              rcases List.mem_append.mp ht with ht | ht
              · exact hpast t ht
              · rw [List.mem_singleton.mp ht]
                exact hpass

/--
**How a convex face is split is decided by the number of its corners.** No candidate is rejected
on the way. A face wound against its normal in the same sense is not split at all.
-/
theorem triangulate_convex (f : Face) :
    (f.IsConvex →
      f.triangulate = .ok ((Ear.everySecondOf f.corners.length).map fun e =>
          ofEar f.normal (e.map f.corners.get))
        ∧ ∀ turns s, f.Reaches turns s → ∀ t ∈ s.trials, ¬winding f.normal t.ear < 0)
    ∧ (f.RunsBackwards → 4 ≤ f.size →
      f.triangulate = .error (.noValidEar f.size f.size)) := by
  refine ⟨fun hf => ⟨?_, ?_⟩, fun hf h4 => ?_⟩
  · -- cut the ring of positions instead of the ring of corners
    have hsplit : Ear.split (fun e => decide (winding f.normal (e.map f.corners.get) < 0))
        (List.finRange f.corners.length) = .ok (Ear.everySecondOf f.corners.length) := by
      unfold Ear.split
      rw [List.length_finRange]
      refine Ear.clip_of_passes (f.corners.length - 3) 0 fun shorter hsub h3 h i => ?_
      exact decide_eq_false (hf _ _ _ (Ear.candidate_inOrder hsub h3.le h i))
    have hmap := Ear.split_map f.corners.get (fun e => decide (winding f.normal e < 0))
      (List.finRange f.corners.length)
    rw [List.map_get_finRange, hsplit] at hmap
    unfold triangulate
    rw [hmap]
    show Except.ok (((Ear.everySecondOf f.corners.length).map _).map (ofEar f.normal)) = _
    rw [List.map_map]
    rfl
  · intro turns s hreaches
    exact hf.trials_pass (Sweep.sweepInv_ofFace f) (by exact nofun) hreaches
  · -- already the first ring has no ear
    have hpos : 0 < f.corners.length := Nat.lt_of_lt_of_le (by decide) f.three_le
    rw [← Sweep.answer_ofFace]
    exact (Sweep.sweepInv_ofFace f).answer_stuck h4
      ⟨hpos, fun i _ => hf.rejects (.refl _) f.three_le hpos i⟩

/-- A square with a corner in the middle of one side, seen from above. -/
def midpointPlate : Face :=
  { normal := ⟨0, 0, 1⟩
    corners := [⟨0, 0, 0⟩, ⟨1, 0, 0⟩, ⟨2, 0, 0⟩, ⟨2, 2, 0⟩, ⟨0, 2, 0⟩]
    three_le := by decide }

/-- A square seen from below. -/
def overturnedPlate : Face :=
  { normal := ⟨0, 0, -1⟩
    corners := [⟨0, 0, 0⟩, ⟨2, 0, 0⟩, ⟨2, 2, 0⟩, ⟨0, 2, 0⟩]
    three_le := by decide }

/-- Three corners in a row do not spoil convexity. -/
theorem triangulate_convex_plates :
    midpointPlate.IsConvex
      ∧ midpointPlate.triangulate = .ok ((Ear.everySecondOf 5).map fun e =>
          ofEar midpointPlate.normal (e.map midpointPlate.corners.get))
      ∧ (∀ turns s, midpointPlate.Reaches turns s →
          ∀ t ∈ s.trials, ¬winding midpointPlate.normal t.ear < 0)
      ∧ overturnedPlate.RunsBackwards ∧ 4 ≤ overturnedPlate.size
      ∧ overturnedPlate.triangulate = .error (.noValidEar 4 4) := by
  have hconvex : midpointPlate.IsConvex := by decide +kernel
  have hbackwards : overturnedPlate.RunsBackwards := by decide +kernel
  obtain ⟨hsplit, hpass⟩ := (triangulate_convex midpointPlate).1 hconvex
  have h4 : 4 ≤ overturnedPlate.size := by decide
  have hstuck := (triangulate_convex overturnedPlate).2 hbackwards h4
  exact ⟨hconvex, hsplit, hpass, hbackwards, h4, hstuck⟩

end Face

end Facet
