import Facet.Proofs.EarClipping

/-!
# Which triangles are tested

The test of `Ear.split` guards the ears that are cut off. The three members left at the end make
an ear of their own that nobody asks about: `clip_dropLast` holds of every ear but the last, and a
concave ring whose first candidate is the ear across its notch has a last ear that runs backwards
(`concaveDart_runs_backwards`).

A failure, on the other hand, is never premature. It takes a ring on which every candidate was
rejected (`clip_error`).
-/

namespace Facet.Ear

variable {α : Type} {rejects : Ear α → Bool}

/-! ## Looking for an ear -/

/-- A start index counts only up to whole rounds. -/
theorem candidate_congr {ring : List α} (h : 0 < ring.length) {i j : Nat}
    (hij : i ≡ j [MOD ring.length]) : candidate ring h i = candidate ring h j := by
  have h0 : i % ring.length = j % ring.length := hij
  have h1 : (i + 1) % ring.length = (j + 1) % ring.length := hij.add_right 1
  have h2 : (i + 2) % ring.length = (j + 2) % ring.length := hij.add_right 2
  simp only [candidate, h0, h1, h2]

theorem seek_ok {ring : List α} {h : 0 < ring.length} :
    ∀ {tries start attempts i : Nat}, seek rejects ring h tries start attempts = .ok i →
      rejects (candidate ring h i) = false
  | 0, _, _, _, hseek => by exact absurd hseek (by simp [seek])
  | tries + 1, start, attempts, i, hseek => by
      rw [seek] at hseek
      split at hseek
      · exact seek_ok hseek
      · rename_i hpasses
        injection hseek with hseek; subst hseek
        simpa using hpasses

/-- A search that finds nothing has rejected every candidate it was to try. -/
theorem seek_error {ring : List α} {h : 0 < ring.length} :
    ∀ {tries start attempts : Nat} {stuck : Stuck},
      seek rejects ring h tries start attempts = .error stuck →
      stuck = ⟨ring.length, attempts + tries⟩
        ∧ ∀ k, k < tries → rejects (candidate ring h (start + k)) = true
  | 0, _, _, _, hseek => by
      rw [seek] at hseek
      injection hseek with hseek; subst hseek
      exact ⟨rfl, fun k hk => absurd hk (Nat.not_lt_zero k)⟩
  | tries + 1, start, attempts, stuck, hseek => by
      rw [seek] at hseek
      split at hseek
      · rename_i hrejected
        obtain ⟨hstuck, hlater⟩ := seek_error hseek
        refine ⟨by rw [hstuck, Nat.add_assoc, Nat.add_comm 1], ?_⟩
        intro k hk
        cases k with
        | zero => exact hrejected
        | succ k =>
            have hround : start + (k + 1) ≡ (start + 1) % ring.length + k [MOD ring.length] := by
              rw [Nat.ModEq, Nat.mod_add_mod]
              congr 1
              omega
            rw [candidate_congr h hround]
            exact hlater k (by omega)
      · exact absurd hseek (by simp)

/-- From any place of a ring every other is met within one round. -/
theorem exists_ahead {n : Nat} (h : 0 < n) (start i : Nat) :
    ∃ j < n, start + j ≡ i [MOD n] := by
  refine ⟨(i + (n - start % n)) % n, Nat.mod_lt _ h, ?_⟩
  have hstart : start % n < n := Nat.mod_lt _ h
  have hsum : start % n + (i + (n - start % n)) = i + n := by omega
  rw [Nat.ModEq, Nat.add_mod_mod, ← Nat.mod_add_mod, hsum, Nat.add_mod_right]

/-- After a full round every candidate of the ring has been rejected, wherever it starts. -/
theorem seek_round {ring : List α} {h : 0 < ring.length} {start : Nat} {stuck : Stuck}
    (hseek : seek rejects ring h ring.length start 0 = .error stuck) :
    stuck = ⟨ring.length, ring.length⟩ ∧ ∀ i, rejects (candidate ring h i) = true := by
  obtain ⟨hstuck, hall⟩ := seek_error hseek
  refine ⟨by rw [hstuck, Nat.zero_add], ?_⟩
  intro i
  obtain ⟨j, hj, hahead⟩ := exists_ahead h start i
  rw [← candidate_congr h hahead]
  exact hall j hj

/-! ## What a run has tested -/

/-- **Every ear but the last has passed the test.** -/
theorem clip_dropLast :
    ∀ (cuts : Nat) {ring : List α} {start : Nat} {ears : List (Ear α)},
      ring.length = cuts + 3 → clip rejects cuts ring start = .ok ears →
      ∀ e ∈ ears.dropLast, rejects e = false
  | 0, ring, start, ears, hlen, h => by
      obtain ⟨a, b, c, rfl⟩ := List.length_eq_three.mp hlen
      injection h with h; subst h
      intro e he
      exact absurd he (by simp [whole])
  | cuts + 1, ring, start, ears, hlen, h => by
      have h3 : 3 < ring.length := by omega
      rw [clip, dif_pos h3] at h
      split at h
      · exact absurd h (by simp)
      · rename_i i hseek
        dsimp only at h
        split at h
        · exact absurd h (by simp)
        · rename_i more hmore
          injection h with h; subst h
          have hlt : (i + 1) % ring.length < ring.length := Nat.mod_lt _ (by omega)
          have hlen' : (ring.eraseIdx ((i + 1) % ring.length)).length = cuts + 3 := by
            rw [List.length_eraseIdx_of_lt hlt]; omega
          have hrest := clip_dropLast cuts hlen' hmore
          -- the rest of the run yields an ear, so this one is not the last
          have hmore_ne : more ≠ [] := by
            intro hnil
            have hcount := (clip_clipped cuts hlen' hmore).length
            rw [hnil, hlen'] at hcount
            simp at hcount
          intro e he
          rw [List.dropLast_cons_of_ne_nil hmore_ne, List.mem_cons] at he
          rcases he with rfl | he
          · exact seek_ok hseek
          · exact hrest e he

/-- **A run fails only on a ring all of whose candidates are rejected.** -/
theorem clip_error :
    ∀ (cuts : Nat) {ring : List α} {start : Nat} {stuck : Stuck},
      clip rejects cuts ring start = .error stuck →
      ∃ (rest : List α) (h : 0 < rest.length), rest.Sublist ring ∧ 3 < rest.length
        ∧ stuck = ⟨rest.length, rest.length⟩ ∧ ∀ i, rejects (candidate rest h i) = true
  | 0, ring, start, stuck, hclip => by exact absurd hclip (by simp [clip])
  | cuts + 1, ring, start, stuck, hclip => by
      rw [clip] at hclip
      split at hclip
      · rename_i h3
        split at hclip
        · rename_i stuck' hseek
          injection hclip with hclip; subst hclip
          obtain ⟨hstuck, hall⟩ := seek_round hseek
          exact ⟨ring, by omega, .refl ring, h3, hstuck, hall⟩
        · rename_i i _
          dsimp only at hclip
          split at hclip
          · rename_i stuck' hmore
            injection hclip with hclip; subst hclip
            obtain ⟨rest, h, hsub, hrest⟩ := clip_error cuts hmore
            exact ⟨rest, h, hsub.trans (List.eraseIdx_sublist ring _), hrest⟩
          · exact absurd hclip (by simp)
      · exact absurd hclip (by simp)

end Facet.Ear

namespace Facet.Face

/-- A triangle that is not wound against a normal. -/
def WoundWith (normal : Vec3) (t : Face) : Prop :=
  ∃ a b c, t.corners = [a, b, c] ∧ ¬winding normal ⟨a, b, c⟩ < 0

theorem woundWith_ofEar {normal parent : Vec3} {e : Ear Vec3} :
    WoundWith normal (ofEar parent e) ↔ ¬winding normal e < 0 := by
  constructor
  · intro h
    obtain ⟨a, b, c, hcorners, hwinding⟩ := h
    injection hcorners with ha hrest
    injection hrest with hb hrest
    injection hrest with hc _
    subst ha; subst hb; subst hc
    exact hwinding
  · intro h
    exact ⟨e.first, e.middle, e.last, rfl, h⟩

/--
**All triangles but the last are wound with the face's normal.** So all of them are exactly when
the last one is. A face that cannot be split has come down to a ring of at least four of its
corners, every ear of which is wound against the normal.
-/
theorem triangulate_tests_all_but_last (f : Face) :
    match f.triangulate with
    | .ok triangles =>
      (∀ t ∈ triangles.dropLast, WoundWith f.normal t)
        ∧ ((∀ t ∈ triangles, WoundWith f.normal t)
          ↔ ∀ t ∈ triangles.getLast?, WoundWith f.normal t)
    | .error e =>
      ∃ (ring : List Vec3) (h : 0 < ring.length), ring.Sublist f.corners ∧ 3 < ring.length
        ∧ e = .noValidEar ring.length ring.length
        ∧ ∀ i, winding f.normal (Ear.candidate ring h i) < 0 := by
  have h3 : f.corners.length = f.corners.length - 3 + 3 := by
    have := f.three_le
    omega
  rw [triangulate]
  cases hsplit : Ear.split (fun e => decide (winding f.normal e < 0)) f.corners with
  | ok ears =>
      have htested := Ear.clip_dropLast _ h3 hsplit
      have hfirst : ∀ t ∈ (ears.map (ofEar f.normal)).dropLast, WoundWith f.normal t := by
        intro t ht
        rw [← List.map_dropLast] at ht
        obtain ⟨e, he, rfl⟩ := List.mem_map.mp ht
        exact woundWith_ofEar.mpr (of_decide_eq_false (htested e he))
      refine ⟨hfirst, fun hall t ht => hall t (List.mem_of_getLast? ht), ?_⟩
      intro hlast t ht
      have hne : ears.map (ofEar f.normal) ≠ [] := List.ne_nil_of_mem ht
      rw [← List.dropLast_append_getLast hne, List.mem_append, List.mem_singleton] at ht
      rcases ht with ht | ht
      · exact hfirst t ht
      · exact hlast t (by rw [ht, List.getLast?_eq_getLast_of_ne_nil hne]; rfl)
  | error stuck =>
      obtain ⟨ring, h, hsub, hlen, hstuck, hall⟩ := Ear.clip_error _ hsplit
      refine ⟨ring, h, hsub, hlen, by rw [hstuck], ?_⟩
      intro i
      exact of_decide_eq_true (hall i)

/-- A dart that runs counter-clockwise, read from the corner before the one across its notch. -/
def concaveDart : List Vec3 := [⟨0, 4, 0⟩, ⟨0, 0, 0⟩, ⟨4, 0, 0⟩, ⟨1, 1, 0⟩]

/-- The ear across the notch is cut off first, and the rest of the dart runs clockwise. -/
theorem concaveDart_runs_backwards :
    ∃ f triangles, ofCorners concaveDart = .ok f ∧ f.triangulate = .ok triangles
      ∧ ∃ t ∈ triangles, ¬WoundWith f.normal t := by
  refine ⟨⟨⟨0, -0, 1⟩, concaveDart, by decide⟩,
    [ofEar ⟨0, -0, 1⟩ ⟨⟨0, 4, 0⟩, ⟨0, 0, 0⟩, ⟨4, 0, 0⟩⟩,
      ofEar ⟨0, -0, 1⟩ ⟨⟨0, 4, 0⟩, ⟨4, 0, 0⟩, ⟨1, 1, 0⟩⟩], ?_, ?_, ?_⟩
  · decide +kernel
  · decide +kernel
  · refine ⟨_, List.mem_cons_of_mem _ List.mem_cons_self, ?_⟩
    rw [woundWith_ofEar, Classical.not_not]
    decide +kernel

end Facet.Face
