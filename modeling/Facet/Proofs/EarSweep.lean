import Facet.Proofs.EarWinding

/-!
# The sweep round a ring, test by test

`Ear.clip` searches a ring for its next ear with a fresh budget of one round. The same work can be
done by one loop that never counts rounds: it keeps the place where it stands and how many
candidates it has rejected in a row, goes on by one place after every test, and gives up when the
rejections have reached the size of the ring. `Sweep` is that loop, one turn to a candidate, and
it assembles its triangles with the constructors of a face.

What has to be seen is that the counter means what it is taken for. It is set back by every cut,
while the place is carried over to a ring that has become shorter; `SweepInv` says that it counts
the tests on the ring at hand, and that these were of different candidates. A sweep then gives up
only on a ring without an ear, and it ends after at most one test for every candidate of every
ring on the way down (`turnsLeft`).
-/

namespace Facet

namespace Ear

variable {α : Type} {rejects : Ear α → Bool} {ring : List α}

/-! ## Clipping from the middle of a round -/

theorem pos_of_three_lt (h : 3 < ring.length) : 0 < ring.length := Nat.zero_lt_of_lt h

theorem seek_all_rejected {h : 0 < ring.length}
    (hall : ∀ i, rejects (candidate ring h i) = true) :
    ∀ (tries start attempts : Nat),
      seek rejects ring h tries start attempts = .error ⟨ring.length, attempts + tries⟩
  | 0, _, _ => rfl
  | tries + 1, start, attempts => by
      rw [seek, if_pos (hall start), seek_all_rejected hall tries, Nat.add_assoc, Nat.add_comm 1]

/-- The ears of a ring that has `rejected` candidates in a row behind it. -/
def resume (rejects : Ear α → Bool) (ring : List α) (start rejected : Nat) :
    Except Stuck (List (Ear α)) :=
  if h : 3 < ring.length then
    match seek rejects ring (pos_of_three_lt h) (ring.length - rejected) start rejected with
    | .error stuck => .error stuck
    | .ok i =>
      let shorter := ring.eraseIdx ((i + 1) % ring.length)
      match clip rejects (shorter.length - 3) shorter ((i + 1) % shorter.length) with
      | .error stuck => .error stuck
      | .ok ears => .ok (candidate ring (pos_of_three_lt h) i :: ears)
  else .ok (whole ring)

theorem length_eraseIdx_mod (ring : List α) (h : 0 < ring.length) (i : Nat) :
    (ring.eraseIdx (i % ring.length)).length = ring.length - 1 :=
  List.length_eraseIdx_of_lt (Nat.mod_lt i h)

/-- With no rejection behind it, clipping goes on as on a new ring. -/
theorem resume_zero (ring : List α) (start : Nat) :
    resume rejects ring start 0 = clip rejects (ring.length - 3) ring start := by
  unfold resume
  by_cases h : 3 < ring.length
  · obtain ⟨cuts, hcuts⟩ : ∃ cuts, ring.length = cuts + 4 := ⟨ring.length - 4, by omega⟩
    have hcuts' : ring.length - 3 = cuts + 1 := by omega
    have hshorter : ∀ i, (ring.eraseIdx ((i + 1) % ring.length)).length - 3 = cuts := by
      intro i
      rw [length_eraseIdx_mod ring (pos_of_three_lt h)]
      omega
    rw [dif_pos h, hcuts', clip, dif_pos h, Nat.sub_zero]
    cases seek rejects ring (pos_of_three_lt h) ring.length start 0 with
    | error stuck => rfl
    | ok i =>
        have hclip : ∀ start', clip rejects ((ring.eraseIdx ((i + 1) % ring.length)).length - 3)
            (ring.eraseIdx ((i + 1) % ring.length)) start'
            = clip rejects cuts (ring.eraseIdx ((i + 1) % ring.length)) start' := by
          intro start'
          rw [hshorter i]
        dsimp only
        cases hears : clip rejects cuts (ring.eraseIdx ((i + 1) % ring.length)) _ with
        | error stuck => rw [hclip, hears]
        | ok ears => rw [hclip, hears]
  · have hzero : ring.length - 3 = 0 := by omega
    rw [dif_neg h, hzero, clip]

theorem resume_of_rejected (h : 3 < ring.length) {start rejected : Nat}
    (hlt : rejected < ring.length)
    (hreject : rejects (candidate ring (pos_of_three_lt h) start) = true) :
    resume rejects ring start rejected
      = resume rejects ring ((start + 1) % ring.length) (rejected + 1) := by
  unfold resume
  obtain ⟨tries, htries⟩ : ∃ tries, ring.length - rejected = tries + 1 :=
    ⟨ring.length - rejected - 1, by omega⟩
  have htries' : ring.length - (rejected + 1) = tries := by omega
  rw [dif_pos h, dif_pos h, htries, htries', seek, if_pos hreject]

/-- After a full round there is nothing left to try. -/
theorem resume_exhausted (h : 3 < ring.length) (start : Nat) :
    resume rejects ring start ring.length = .error ⟨ring.length, ring.length⟩ := by
  unfold resume
  rw [dif_pos h, Nat.sub_self, seek]

theorem resume_of_passed (h : 3 < ring.length) {start rejected : Nat}
    (hlt : rejected < ring.length)
    (hpass : rejects (candidate ring (pos_of_three_lt h) start) = false) :
    resume rejects ring start rejected
      = (resume rejects (ring.eraseIdx ((start + 1) % ring.length))
          ((start + 1) % (ring.eraseIdx ((start + 1) % ring.length)).length) 0).map
        (candidate ring (pos_of_three_lt h) start :: ·) := by
  rw [resume_zero]
  unfold resume
  obtain ⟨tries, htries⟩ : ∃ tries, ring.length - rejected = tries + 1 :=
    ⟨ring.length - rejected - 1, by omega⟩
  rw [dif_pos h, htries, seek, if_neg (by simp [hpass])]
  dsimp only
  cases clip rejects _ (ring.eraseIdx ((start + 1) % ring.length)) _ with
  | error stuck => rfl
  | ok ears => rfl

theorem resume_all_rejected (h : 3 < ring.length)
    (hall : ∀ i, rejects (candidate ring (pos_of_three_lt h) i) = true) {rejected : Nat}
    (hle : rejected ≤ ring.length) (start : Nat) :
    resume rejects ring start rejected = .error ⟨ring.length, ring.length⟩ := by
  unfold resume
  rw [dif_pos h, seek_all_rejected hall, Nat.add_sub_cancel' hle]

end Ear

namespace Face

open Ear (candidate)

/-! ## The loop -/

/-- The face of the given corners with their own normal, or with its parent's if they are on a
line. -/
def assemble (parent : Vec3) (corners : List Vec3) : Except FaceError Face :=
  match ofCorners corners with
  | .error .degenerate => withNormal corners parent
  | made => made

/-- **Three corners always make a triangle**, on a line or not. -/
theorem assemble_toList (parent : Vec3) (e : Ear Vec3) :
    assemble parent e.toList = .ok (ofEar parent e) := by
  obtain ⟨a, b, c⟩ := e
  have h3 : 3 ≤ (Ear.toList ⟨a, b, c⟩).length := Nat.le_refl 3
  have hnormal : ringNormal? (Ear.toList ⟨a, b, c⟩) = planeNormal? a b c := rfl
  unfold assemble ofCorners
  rw [dif_pos h3, hnormal]
  unfold ofEar
  cases planeNormal? a b c with
  | some normal => rfl
  | none => rfl

/-- A test of a candidate, on a ring of the given size. -/
structure Trial where
  size : Nat
  ear : Ear Vec3

/-- How many tests were on rings of the given size. -/
def trialsOn (trials : List Trial) (size : Nat) : Nat :=
  trials.countP fun t => t.size = size

theorem trialsOn_snoc (trials : List Trial) (t : Trial) (size : Nat) :
    trialsOn (trials ++ [t]) size = trialsOn trials size + if t.size = size then 1 else 0 := by
  rw [trialsOn, trialsOn, List.countP_append, List.countP_singleton]
  simp only [decide_eq_true_eq]

/-- The state of the loop. -/
structure Sweep where
  /-- What is left of the ring. -/
  ring : List Vec3
  /-- Where the next candidate starts. -/
  start : Nat := 0
  /-- How many candidates were rejected since the last cut. -/
  rejected : Nat := 0
  triangles : List Face := []
  /-- All tests so far; nothing reads them back. -/
  trials : List Trial := []

namespace Sweep

def ofFace (f : Face) : Sweep := { ring := f.corners }

theorem ring_pos {s : Sweep} (h : 3 < s.ring.length) : 0 < s.ring.length := Nat.zero_lt_of_lt h

/-- One turn: a candidate is tested, and then passed over or cut off. -/
def turn (normal : Vec3) (s : Sweep) : Except FaceError Sweep :=
  if h : 3 < s.ring.length then
    let size := s.ring.length
    let ear := candidate s.ring (ring_pos h) s.start
    let trials := s.trials ++ [⟨size, ear⟩]
    if winding normal ear < 0 then
      if size ≤ s.rejected + 1 then .error (.noValidEar size (s.rejected + 1))
      else .ok { s with start := (s.start + 1) % size, rejected := s.rejected + 1, trials }
    else
      match assemble normal ear.toList with
      | .error e => .error e
      | .ok triangle =>
        let shorter := s.ring.eraseIdx ((s.start + 1) % size)
        .ok
          { ring := shorter
            start := (s.start + 1) % shorter.length
            rejected := 0
            triangles := s.triangles ++ [triangle]
            trials }
  else .ok s

/-- The loop after a number of turns; with three corners left it stands still. -/
def after (normal : Vec3) : Nat → Sweep → Except FaceError Sweep
  | 0, s => .ok s
  | turns + 1, s =>
    match s.turn normal with
    | .error e => .error e
    | .ok s => after normal turns s

/-- The triangles of a ring that has come down to three corners. -/
def finish (normal : Vec3) (s : Sweep) : Except FaceError (List Face) :=
  match assemble normal s.ring with
  | .error e => .error e
  | .ok triangle => .ok (s.triangles ++ [triangle])

/-- Every ear of the ring is wound against the normal. -/
def AllRejected (normal : Vec3) (s : Sweep) : Prop :=
  ∃ h : 0 < s.ring.length, ∀ i < s.ring.length, winding normal (candidate s.ring h i) < 0

/-- Everything one turn can do. -/
inductive Turn (normal : Vec3) (s : Sweep) : Except FaceError Sweep → Prop where
  /-- Three corners are left. -/
  | done : s.ring.length ≤ 3 → Turn normal s (.ok s)
  /-- The last candidate of a round was rejected like all before it. -/
  | gaveUp (h : 3 < s.ring.length) :
      winding normal (candidate s.ring (ring_pos h) s.start) < 0 →
      s.ring.length ≤ s.rejected + 1 →
      Turn normal s (.error (.noValidEar s.ring.length (s.rejected + 1)))
  | passedOver (h : 3 < s.ring.length) :
      winding normal (candidate s.ring (ring_pos h) s.start) < 0 →
      s.rejected + 1 < s.ring.length →
      Turn normal s (.ok { s with
        start := (s.start + 1) % s.ring.length
        rejected := s.rejected + 1
        trials := s.trials ++ [⟨s.ring.length, candidate s.ring (ring_pos h) s.start⟩] })
  | cutOff (h : 3 < s.ring.length) :
      ¬winding normal (candidate s.ring (ring_pos h) s.start) < 0 →
      Turn normal s (.ok
        { ring := s.ring.eraseIdx ((s.start + 1) % s.ring.length)
          start := (s.start + 1) % (s.ring.eraseIdx ((s.start + 1) % s.ring.length)).length
          rejected := 0
          triangles := s.triangles ++ [ofEar normal (candidate s.ring (ring_pos h) s.start)]
          trials := s.trials ++ [⟨s.ring.length, candidate s.ring (ring_pos h) s.start⟩] })

theorem turn_cases (normal : Vec3) (s : Sweep) : Turn normal s (s.turn normal) := by
  unfold turn
  split
  · rename_i h
    dsimp only
    split
    · rename_i hneg
      split
      · rename_i hround
        exact .gaveUp h hneg hround
      · rename_i hround
        exact .passedOver h hneg (by omega)
    · rename_i hpass
      rw [assemble_toList]
      exact .cutOff h hpass
  · rename_i h
    exact .done (by omega)

/-! ## What a sweep has behind it -/

/-- What holds of a sweep over a face's ring, after any number of turns. -/
structure SweepInv (f : Face) (s : Sweep) : Prop where
  sublist : s.ring.Sublist f.corners
  three_le : 3 ≤ s.ring.length
  rejected_lt : s.rejected < s.ring.length
  /-- The rejected candidates are those before the present one. -/
  behind : ∀ (h : 0 < s.ring.length) (j : Nat), j < s.rejected →
    winding f.normal (candidate s.ring h (s.start + (s.ring.length - s.rejected) + j)) < 0
  /-- They are the tests there have been on this ring. -/
  trialsOn_ring : trialsOn s.trials s.ring.length = s.rejected
  trialsOn_smaller : ∀ m < s.ring.length, trialsOn s.trials m = 0
  trialsOn_le : ∀ m, trialsOn s.trials m ≤ m

variable {f : Face} {s s' : Sweep} {e : FaceError}

theorem sweepInv_ofFace (f : Face) : SweepInv f (ofFace f) where
  sublist := .refl _
  three_le := f.three_le
  rejected_lt := by
    have h3 := f.three_le
    show 0 < f.corners.length
    omega
  behind _ j hj := absurd hj (Nat.not_lt_zero j)
  trialsOn_ring := rfl
  trialsOn_smaller _ _ := rfl
  trialsOn_le m := Nat.zero_le m

/-- **Preserved by every turn.** -/
theorem SweepInv.turn (h : SweepInv f s) (hturn : s.turn f.normal = .ok s') : SweepInv f s' := by
  have hcases := turn_cases f.normal s
  rw [hturn] at hcases
  cases hcases with
  | done => exact h
  | passedOver h3 hneg hlt =>
      refine ⟨h.sublist, h.three_le, hlt, ?_, ?_, ?_, ?_⟩
      · intro hpos j hj
        -- seen from the next place, the present candidate is one more behind
        have hround : (s.start + 1) % s.ring.length + (s.ring.length - (s.rejected + 1)) + j
            ≡ s.start + (s.ring.length - s.rejected) + j [MOD s.ring.length] := by
          rw [Nat.ModEq, Nat.add_assoc, Nat.mod_add_mod]
          congr 1
          omega
        rw [Ear.candidate_congr hpos hround]
        rcases Nat.lt_or_ge j s.rejected with hj' | hj'
        · exact h.behind hpos j hj'
        · have hhere : s.start + (s.ring.length - s.rejected) + j ≡ s.start
              [MOD s.ring.length] := by
            have hsum : s.start + (s.ring.length - s.rejected) + j = s.start + s.ring.length := by
              dsimp only at hj
              omega
            rw [Nat.ModEq, hsum, Nat.add_mod_right]
          rw [Ear.candidate_congr hpos hhere]
          exact hneg
      · rw [trialsOn_snoc, if_pos rfl, h.trialsOn_ring]
      · intro m hm
        dsimp only at hm
        rw [trialsOn_snoc, if_neg (by dsimp only; omega), h.trialsOn_smaller m hm]
      · intro m
        rw [trialsOn_snoc]
        have hle := h.trialsOn_le m
        have hring := h.trialsOn_ring
        split
        · rename_i heq
          dsimp only at heq
          subst heq
          omega
        · omega
  | cutOff h3 hpass =>
      have hlength := Ear.length_eraseIdx_mod s.ring (by omega) (s.start + 1)
      have hring := h.trialsOn_ring
      have hlt := h.rejected_lt
      refine ⟨(List.eraseIdx_sublist _ _).trans h.sublist, ?_, ?_, ?_, ?_, ?_, ?_⟩
      · dsimp only
        omega
      · dsimp only
        omega
      · intro _ j hj
        exact absurd hj (Nat.not_lt_zero j)
      · -- no test yet on the shorter ring
        rw [trialsOn_snoc, if_neg (by dsimp only; omega), hlength,
          h.trialsOn_smaller _ (by omega)]
      · intro m hm
        dsimp only at hm
        rw [trialsOn_snoc, if_neg (by dsimp only; omega), h.trialsOn_smaller m (by omega)]
      · intro m
        rw [trialsOn_snoc]
        have hle := h.trialsOn_le m
        split
        · rename_i heq
          dsimp only at heq
          subst heq
          omega
        · omega

/-- **A sweep gives up only on a ring without an ear.** -/
theorem SweepInv.gaveUp (h : SweepInv f s) (hturn : s.turn f.normal = .error e) :
    3 < s.ring.length ∧ s.AllRejected f.normal
      ∧ e = .noValidEar s.ring.length s.ring.length := by
  have hcases := turn_cases f.normal s
  rw [hturn] at hcases
  cases hcases with
  | gaveUp h3 hneg hround =>
      have hlt := h.rejected_lt
      have hrejected : s.rejected + 1 = s.ring.length := by omega
      refine ⟨h3, ⟨by omega, ?_⟩, by rw [hrejected]⟩
      intro i hi
      obtain ⟨j, hj, hahead⟩ := Ear.exists_ahead (by omega : 0 < s.ring.length) (s.start + 1) i
      rw [← Ear.candidate_congr (by omega) hahead]
      -- all places but the present one are behind, and that is a round ahead
      rcases Nat.lt_or_ge j s.rejected with hj' | hj'
      · have hbehind := h.behind (by omega) j hj'
        rwa [show s.ring.length - s.rejected = 1 by omega] at hbehind
      · have hhere : s.start + 1 + j ≡ s.start [MOD s.ring.length] := by
          rw [Nat.ModEq, show s.start + 1 + j = s.start + s.ring.length by omega,
            Nat.add_mod_right]
        rw [Ear.candidate_congr (by omega) hhere]
        exact hneg

theorem exists_next {turns : Nat} (h : s.after f.normal (turns + 1) = .ok s') :
    ∃ next, s.turn f.normal = .ok next ∧ next.after f.normal turns = .ok s' := by
  rw [Sweep.after] at h
  cases hturn : s.turn f.normal with
  | error e => rw [hturn] at h; exact absurd h (by simp)
  | ok next =>
      rw [hturn] at h
      exact ⟨next, rfl, h⟩

theorem SweepInv.after (h : SweepInv f s) :
    ∀ {turns : Nat}, s.after f.normal turns = .ok s' → SweepInv f s' := by
  intro turns
  induction turns generalizing s with
  | zero =>
      intro hafter
      injection hafter with hafter
      exact hafter ▸ h
  | succ turns ih =>
      intro hafter
      obtain ⟨next, hturn, hafter⟩ := exists_next hafter
      exact ih (h.turn hturn) hafter

/-- A sweep that ended in an error gave up in one of its turns. -/
theorem exists_turn_error :
    ∀ {turns : Nat} {s : Sweep}, s.after f.normal turns = .error e →
      ∃ k s', s.after f.normal k = .ok s' ∧ s'.turn f.normal = .error e
  | 0, s, h => by exact absurd h (by simp [Sweep.after])
  | turns + 1, s, h => by
      rw [Sweep.after] at h
      cases hturn : s.turn f.normal with
      | error e' =>
          rw [hturn] at h
          injection h with h
          exact ⟨0, s, rfl, h ▸ hturn⟩
      | ok next =>
          rw [hturn] at h
          obtain ⟨k, s', hk, hs'⟩ := exists_turn_error h
          refine ⟨k + 1, s', ?_, hs'⟩
          rw [Sweep.after, hturn]
          exact hk

/-! ## The answer that a sweep is on its way to -/

/-- The triangles cut off so far and those still to come. -/
def answer (normal : Vec3) (s : Sweep) : Except FaceError (List Face) :=
  match Ear.resume (fun e => winding normal e < 0) s.ring s.start s.rejected with
  | .ok ears => .ok (s.triangles ++ ears.map (ofEar normal))
  | .error stuck => .error (.noValidEar stuck.remaining stuck.attempts)

theorem answer_ofFace (f : Face) : answer f.normal (ofFace f) = f.triangulate := by
  unfold answer triangulate Ear.split
  rw [ofFace, Ear.resume_zero]
  cases Ear.clip _ (f.corners.length - 3) f.corners 0 with
  | ok ears => rfl
  | error stuck => rfl

/-- Three corners make the last triangle. -/
theorem finish_of_length (normal : Vec3) (h : s.ring.length = 3) :
    ∃ ear : Ear Vec3, s.ring = ear.toList
      ∧ s.finish normal = .ok (s.triangles ++ [ofEar normal ear]) := by
  obtain ⟨a, b, c, habc⟩ := List.length_eq_three.mp h
  refine ⟨⟨a, b, c⟩, habc, ?_⟩
  unfold finish
  rw [show s.ring = (Ear.mk a b c).toList from habc, assemble_toList]

theorem answer_done {normal : Vec3} (h : s.ring.length = 3) :
    s.answer normal = s.finish normal := by
  obtain ⟨ear, hring, hfinish⟩ := finish_of_length normal h
  rw [hfinish]
  unfold answer Ear.resume
  rw [dif_neg (by omega), hring]
  rfl

/-- **A turn does not change the answer**; an error is the answer. -/
theorem SweepInv.answer_turn (h : SweepInv f s) :
    (∀ s', s.turn f.normal = .ok s' → s'.answer f.normal = s.answer f.normal)
      ∧ ∀ e, s.turn f.normal = .error e → s.answer f.normal = .error e := by
  have hlt := h.rejected_lt
  have hcases := turn_cases f.normal s
  generalize s.turn f.normal = turned at hcases
  cases hcases with
  | done => exact ⟨fun s' hs' => by injection hs' with hs'; rw [hs'], nofun⟩
  | gaveUp h3 hneg hround =>
      refine ⟨nofun, ?_⟩
      intro e he
      injection he with he
      have hrejected : s.rejected + 1 = s.ring.length := by omega
      unfold answer
      rw [Ear.resume_of_rejected h3 hlt (decide_eq_true hneg), hrejected,
        Ear.resume_exhausted h3, ← he, hrejected]
  | passedOver h3 hneg =>
      refine ⟨?_, nofun⟩
      intro s' hs'
      injection hs' with hs'
      rw [← hs']
      unfold answer
      rw [Ear.resume_of_rejected h3 hlt (decide_eq_true hneg)]
  | cutOff h3 hpass =>
      refine ⟨?_, nofun⟩
      intro s' hs'
      injection hs' with hs'
      rw [← hs']
      unfold answer
      rw [Ear.resume_of_passed h3 hlt (decide_eq_false hpass)]
      dsimp only
      cases Ear.resume _ (s.ring.eraseIdx ((s.start + 1) % s.ring.length)) _ 0 with
      | error stuck => rfl
      | ok ears =>
          dsimp only [Except.map]
          rw [List.map_cons, List.append_assoc]
          rfl

theorem SweepInv.answer_after (h : SweepInv f s) :
    ∀ {turns : Nat}, s.after f.normal turns = .ok s' → s'.answer f.normal = s.answer f.normal := by
  intro turns
  induction turns generalizing s with
  | zero =>
      intro hafter
      injection hafter with hafter
      rw [hafter]
  | succ turns ih =>
      intro hafter
      obtain ⟨next, hturn, hafter⟩ := exists_next hafter
      rw [ih (h.turn hturn) hafter, h.answer_turn.1 next hturn]

/-! ## The end of a sweep -/

/-- One turn for every candidate of every ring on the way down to four corners. -/
def turnLimit (size : Nat) : Nat := ∑ m ∈ Finset.Icc 4 size, m

theorem turnLimit_pred {size : Nat} (h : 3 < size) :
    turnLimit size = turnLimit (size - 1) + size := by
  obtain ⟨smaller, rfl⟩ : ∃ smaller, size = smaller + 1 := ⟨size - 1, by omega⟩
  exact Finset.sum_Icc_succ_top (by omega) _

/-- The turns that are left, at most. -/
def turnsLeft (s : Sweep) : Nat := turnLimit s.ring.length - s.rejected

theorem SweepInv.turnsLeft_lt (h : SweepInv f s) (h3 : 3 < s.ring.length)
    (hturn : s.turn f.normal = .ok s') : s'.turnsLeft < s.turnsLeft := by
  have hlt := h.rejected_lt
  have hlimit := turnLimit_pred h3
  have hcases := turn_cases f.normal s
  rw [hturn] at hcases
  cases hcases with
  | done hle => omega
  | passedOver => simp only [turnsLeft]; omega
  | cutOff =>
      have hlength := Ear.length_eraseIdx_mod s.ring (by omega) (s.start + 1)
      simp only [turnsLeft, hlength]
      omega

theorem SweepInv.after_done :
    ∀ {turns : Nat} {s : Sweep}, SweepInv f s → s.turnsLeft ≤ turns →
      s.after f.normal turns = .ok s' → s'.ring.length = 3 := by
  intro turns
  induction turns with
  | zero =>
      intro s h hleft hafter
      injection hafter with hafter
      have h3 := h.three_le
      have hlt := h.rejected_lt
      -- a ring of four or more has a turn left
      by_contra hne
      rw [← hafter] at hne
      have hlimit := turnLimit_pred (by omega : 3 < s.ring.length)
      unfold turnsLeft at hleft
      omega
  | succ turns ih =>
      intro s h hleft hafter
      obtain ⟨next, hturn, hafter⟩ := exists_next hafter
      refine ih (h.turn hturn) ?_ hafter
      rcases Nat.lt_or_ge 3 s.ring.length with h3 | h3
      · have hdecrease := h.turnsLeft_lt h3 hturn
        omega
      · -- nothing moves any more, and no turn was left
        have hlimit : turnLimit s.ring.length = 0 := by
          rw [turnLimit, Finset.Icc_eq_empty (by omega), Finset.sum_empty]
        have hstill : s = next := by
          unfold Sweep.turn at hturn
          rw [dif_neg (by omega)] at hturn
          exact Except.ok.inj hturn
        rw [← hstill, turnsLeft, hlimit, Nat.zero_sub]
        exact Nat.zero_le turns

theorem SweepInv.answer_of_error (h : SweepInv f s) {turns : Nat}
    (herror : s.after f.normal turns = .error e) : s.answer f.normal = .error e := by
  obtain ⟨k, s', hafter, hturn⟩ := exists_turn_error herror
  rw [← h.answer_after hafter, (h.after hafter).answer_turn.2 e hturn]

/-- **A sweep comes to its answer within the turns that are left.** -/
theorem SweepInv.after_eq_answer (h : SweepInv f s) {turns : Nat} (hleft : s.turnsLeft ≤ turns) :
    (s.after f.normal turns).bind (finish f.normal) = s.answer f.normal := by
  cases hafter : s.after f.normal turns with
  | error e => rw [h.answer_of_error hafter]; rfl
  | ok s' =>
      rw [← h.answer_after hafter, answer_done (h.after_done hleft hafter)]
      rfl

theorem SweepInv.answer_stuck (h : SweepInv f s) (h3 : 3 < s.ring.length)
    (hall : s.AllRejected f.normal) :
    s.answer f.normal = .error (.noValidEar s.ring.length s.ring.length) := by
  obtain ⟨hpos, hall⟩ := hall
  have hevery : ∀ i, decide (winding f.normal (candidate s.ring (by omega) i) < 0) = true := by
    intro i
    rw [← Ear.candidate_congr hpos (Nat.mod_modEq i s.ring.length)]
    exact decide_eq_true (hall _ (Nat.mod_lt i hpos))
  unfold answer
  rw [Ear.resume_all_rejected h3 hevery h.rejected_lt.le]

end Sweep

/-- A sweep over the ring of a face has come so far after a number of turns. -/
def Reaches (f : Face) (turns : Nat) (s : Sweep) : Prop :=
  (Sweep.ofFace f).after f.normal turns = .ok s

/-- When a face cannot be split, and what the attempt costs. -/
structure StopsOnlyStuck (f : Face) : Prop where
  /-- The loop ends, whatever the corners, and its triangles are those of the face. -/
  terminates : ∀ turns, Sweep.turnLimit f.size ≤ turns →
    ((Sweep.ofFace f).after f.normal turns).bind (Sweep.finish f.normal) = f.triangulate
  /-- The only errors are rings of four or more corners all of whose ears were rejected. -/
  error_iff : ∀ e, f.triangulate = .error e ↔
    ∃ turns s, f.Reaches turns s ∧ 4 ≤ s.ring.length ∧ s.ring.length ≤ f.size
      ∧ s.AllRejected f.normal ∧ e = .noValidEar s.ring.length s.ring.length
  /-- The turn that gives up has no ear to cut off. -/
  gaveUp : ∀ turns s e, f.Reaches turns s → s.turn f.normal = .error e → s.AllRejected f.normal
  /-- No ring of `m` corners sees more than `m` tests, the one to come included. -/
  trialsOn_le : ∀ turns s, f.Reaches turns s → ∀ m,
    trialsOn s.trials m + (if 3 < s.ring.length ∧ s.ring.length = m then 1 else 0) ≤ m
  /-- Three corners make a triangle even where they have no normal of their own. -/
  assembles : ∀ e : Ear Vec3, assemble f.normal e.toList = .ok (ofEar f.normal e)

/-- **A face is split unless its ring comes down to one without an ear.** -/
theorem triangulate_stops_only_stuck (f : Face) : StopsOnlyStuck f := by
  have hstart := Sweep.sweepInv_ofFace f
  have hends : ∀ turns, Sweep.turnLimit f.size ≤ turns →
      ((Sweep.ofFace f).after f.normal turns).bind (Sweep.finish f.normal) = f.triangulate := by
    intro turns hle
    rw [hstart.after_eq_answer hle, Sweep.answer_ofFace]
  refine ⟨hends, ?_, ?_, ?_, fun e => assemble_toList f.normal e⟩
  · intro e
    constructor
    · intro herror
      rw [← Sweep.answer_ofFace] at herror
      have hafter : (Sweep.ofFace f).after f.normal (Sweep.turnLimit f.size) = .error e := by
        cases hsweep : (Sweep.ofFace f).after f.normal (Sweep.turnLimit f.size) with
        | error e' =>
            rw [hstart.answer_of_error hsweep] at herror
            rw [Except.error.inj herror]
        | ok s =>
            -- the three corners left would have made a triangle
            have hthree := hstart.after_done le_rfl hsweep
            obtain ⟨ear, -, hfinish⟩ := Sweep.finish_of_length f.normal hthree
            rw [← hstart.answer_after hsweep, Sweep.answer_done hthree, hfinish] at herror
            exact absurd herror (by simp)
      obtain ⟨turns, s, hreaches, hturn⟩ := Sweep.exists_turn_error hafter
      have hinv := hstart.after hreaches
      obtain ⟨h3, hall, rfl⟩ := hinv.gaveUp hturn
      exact ⟨turns, s, hreaches, h3, hinv.sublist.length_le, hall, rfl⟩
    · intro hstuck
      obtain ⟨turns, s, hreaches, h4, -, hall, rfl⟩ := hstuck
      rw [← Sweep.answer_ofFace, ← hstart.answer_after hreaches]
      exact (hstart.after hreaches).answer_stuck h4 hall
  · intro turns s e hreaches hturn
    exact ((hstart.after hreaches).gaveUp hturn).2.1
  · intro turns s hreaches m
    have hinv := hstart.after hreaches
    split
    · rename_i hring
      obtain ⟨-, rfl⟩ := hring
      rw [hinv.trialsOn_ring]
      exact hinv.rejected_lt
    · exact hinv.trialsOn_le m

end Face

end Facet
