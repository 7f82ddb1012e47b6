import Facet.Proofs.RegistryRun

/-!
# The shared triangle buffer

Five fields describe the shared buffer: the buffer itself, its capacity, its generation, and the
binding and the count of the last upload. An upload changes some of them and not others, depending
on whether the records fit, and a reader may look at any moment.

`SharedInv` relates all five to the uploads that have succeeded so far, which is enough to make it
an invariant: the capacity is the least power of two with room for each of them, the buffer is
that many records long and begins with the records of the last one. `followsUploads_after` is what
a reader gets out of it.
-/

namespace Facet.Registry

/-! ## Powers of two -/

/-- The powers of two with room for every upload; there is always room for one record. -/
def Rooms (uploads : List Upload) : Set Nat :=
  {p | (∃ k, p = 2 ^ k) ∧ ∀ u ∈ uploads, max 1 u.records.length ≤ p}

theorem mem_rooms_snoc {uploads : List Upload} {u : Upload} {p : Nat} :
    p ∈ Rooms (uploads ++ [u]) ↔ p ∈ Rooms uploads ∧ max 1 u.records.length ≤ p := by
  constructor
  · intro h
    obtain ⟨hpow, hall⟩ := h
    exact ⟨⟨hpow, fun v hv => hall v (List.mem_append_left _ hv)⟩, hall u (by simp)⟩
  · intro h
    obtain ⟨⟨hpow, hall⟩, hu⟩ := h
    refine ⟨hpow, fun v hv => ?_⟩
    rcases List.mem_append.mp hv with hv | hv
    · exact hall v hv
    · obtain rfl := List.mem_singleton.mp hv; exact hu

theorem roomFor_isLeast (n : Nat) :
    IsLeast {p | (∃ k, p = 2 ^ k) ∧ n ≤ p} (SharedTriangles.roomFor n) := by
  unfold SharedTriangles.roomFor
  split
  · rename_i hn
    refine ⟨⟨⟨0, rfl⟩, hn⟩, ?_⟩
    intro p hp
    obtain ⟨⟨k, rfl⟩, -⟩ := hp
    exact Nat.one_le_two_pow
  · rename_i hn
    have hbelow : n - 1 < 2 ^ ((n - 1).log2 + 1) := Nat.lt_log2_self
    refine ⟨⟨⟨_, rfl⟩, ?_⟩, ?_⟩
    · show n ≤ 2 ^ ((n - 1).log2 + 1)
      omega
    · -- a smaller power of two lies at or below `n - 1`
      intro p hp
      obtain ⟨⟨k, rfl⟩, hk⟩ := hp
      have hlog : 2 ^ (n - 1).log2 ≤ n - 1 := Nat.log2_self_le (by omega)
      have hlt : 2 ^ (n - 1).log2 < 2 ^ k := by omega
      exact Nat.pow_le_pow_right (by omega) (Nat.pow_lt_pow_iff_right (by omega) |>.mp hlt)

/-! ## One upload -/

/-- Reserving keeps a buffer that is large enough, and replaces any other by one of zeros. -/
theorem reserve_cases (s : SharedTriangles) (count : Nat) (d : Device) :
    (s.buffer.isHolding = true ∧ max count 1 ≤ s.capacity ∧ s.reserve count d = (s, d))
    ∨ ((s.buffer.isHolding = false ∨ s.capacity < max count 1)
      ∧ (s.reserve count d).1 =
        { s with
          buffer := ⟨some ⟨d.created, SharedTriangles.roomFor (max count 1) * 64, []⟩⟩
          capacity := SharedTriangles.roomFor (max count 1)
          generation := s.generation + 1 }) := by
  unfold SharedTriangles.reserve
  dsimp only
  split
  · rename_i hgrow
    refine .inr ⟨by simpa using hgrow, ?_⟩
    have hcreated : (d.release s.buffer).2.2.created = d.created := by
      rw [Device.release, Holder.take]
      cases s.buffer.held <;> rfl
    rw [SharedTriangles.grow, ← hcreated]
    rfl
  · rename_i hkeep
    simp only [Bool.or_eq_true, Bool.not_eq_true', decide_eq_true_eq, not_or] at hkeep
    exact .inl ⟨by simpa using hkeep.1, by omega, rfl⟩

theorem bytes_take_of_prefix {b : Buffer} {data : List UInt8} (h : data <+: b.front) :
    b.bytes.take data.length = data := by
  obtain ⟨rest, hrest⟩ := h
  rw [Buffer.bytes, ← hrest, List.append_assoc, List.take_left]

theorem length_bytes {b : Buffer} (h : b.front.length ≤ b.size) : b.bytes.length = b.size := by
  rw [Buffer.bytes, List.length_append, List.length_replicate]
  omega

theorem write_front (b : Buffer) (data : List UInt8) : data <+: (b.write data).front :=
  List.prefix_append _ _

theorem length_write_front {b : Buffer} {data : List UInt8} (hb : b.front.length ≤ b.size)
    (hdata : data.length ≤ b.size) : (b.write data).front.length ≤ (b.write data).size := by
  simp only [Buffer.write, List.length_append, List.length_drop]
  omega

theorem triangleBinding?_into (u : Upload) (s : SharedTriangles) (d : Device) :
    ∃ b, (u.into s d).1.buffer.held = some b ∧ (u.into s d).1.binding = u.binding
      ∧ (u.into s d).1.triangleCount = UInt32.ofNat u.records.length
      ∧ TriangleRecord.image u.records <+: b.front := by
  have hreserved : ∃ b, (s.reserve u.records.length d).1.buffer.held = some b := by
    rcases reserve_cases s u.records.length d with ⟨hheld, -, hkeep⟩ | ⟨-, hgrow⟩
    · rw [hkeep]
      exact Option.isSome_iff_exists.mp hheld
    · exact ⟨_, by rw [hgrow]⟩
  obtain ⟨b, hb⟩ := hreserved
  exact ⟨_, congrArg (Option.map _) hb, rfl, rfl, write_front b _⟩

/-! ## The invariant -/

/-- The shared buffer after the given uploads. -/
inductive SharedInv (s : SharedTriangles) : List Upload → Prop where
  | unused :
      s.buffer.held = none → s.capacity = 0 → s.generation = 0 → SharedInv s []
  | inUse {uploads : List Upload} {last : Upload} {b : Buffer} :
      s.buffer.held = some b →
      IsLeast (Rooms (uploads ++ [last])) s.capacity →
      b.size = 64 * s.capacity → b.front.length ≤ b.size →
      TriangleRecord.image last.records <+: b.front →
      s.binding = last.binding → s.triangleCount = UInt32.ofNat last.records.length →
      SharedInv s (uploads ++ [last])

/-- No upload so far was larger than the capacity. -/
theorem SharedInv.le_capacity {s : SharedTriangles} {uploads : List Upload}
    (h : SharedInv s uploads) : ∀ u ∈ uploads, max 1 u.records.length ≤ s.capacity := by
  cases h with
  | unused => intro u hu; exact absurd hu (by simp)
  | inUse _ hleast => exact hleast.1.2

theorem SharedInv.isHolding_iff {s : SharedTriangles} {uploads : List Upload}
    (h : SharedInv s uploads) : s.buffer.isHolding = false ↔ s.capacity = 0 := by
  cases h with
  | unused hnone hzero _ => simp [Holder.isHolding, hnone, hzero]
  | @inUse uploads last b hheld hleast =>
      have hpos : 1 ≤ s.capacity := (le_max_left _ _).trans (hleast.1.2 last (by simp))
      simp only [Holder.isHolding, hheld, Option.isSome_some, Bool.true_eq_false, false_iff]
      omega

/-- **An upload replaces the buffer exactly when its records do not fit.** -/
theorem SharedInv.reserve_eq {s : SharedTriangles} {uploads : List Upload}
    (h : SharedInv s uploads) (count : Nat) (d : Device) :
    (max 1 count ≤ s.capacity ∧ (s.reserve count d).1 = s)
    ∨ (s.capacity < max 1 count ∧ (s.reserve count d).1 =
        { s with
          buffer := ⟨some ⟨d.created, SharedTriangles.roomFor (max count 1) * 64, []⟩⟩
          capacity := SharedTriangles.roomFor (max count 1)
          generation := s.generation + 1 }) := by
  rcases reserve_cases s count d with ⟨_, hfits, hkeep⟩ | ⟨hwhy, hgrow⟩
  · exact .inl ⟨by rwa [max_comm], by rw [hkeep]⟩
  · refine .inr ⟨?_, hgrow⟩
    rcases hwhy with hnone | hsmall
    · rw [h.isHolding_iff.mp hnone]; omega
    · rwa [max_comm]

theorem SharedInv.into {s : SharedTriangles} {uploads : List Upload} (h : SharedInv s uploads)
    (u : Upload) (d : Device) : SharedInv (u.into s d).1 (uploads ++ [u]) := by
  have hlength : (TriangleRecord.image u.records).length = 64 * u.records.length :=
    TriangleRecord.length_image u.records
  have hfits : u.records.length ≤ max 1 u.records.length := le_max_right _ _
  rw [Upload.into]
  rcases h.reserve_eq u.records.length d with ⟨hroom, hkeep⟩ | ⟨hsmall, hgrow⟩
  · -- written in place; what an earlier, longer upload left behind stays after the records
    rw [hkeep, SharedTriangles.store]
    cases h with
    | unused _ hzero _ => omega
    | @inUse uploads last b hheld hleast hsize hfront _ _ _ =>
        refine .inUse (b := b.write (TriangleRecord.image u.records)) ?_ ?_ hsize ?_
          (write_front _ _) rfl rfl
        · rw [hheld]; rfl
        · refine ⟨mem_rooms_snoc.mpr ⟨hleast.1, hroom⟩, ?_⟩
          intro p hp
          exact hleast.2 (mem_rooms_snoc.mp hp).1
        · exact length_write_front hfront (by omega)
  · -- a new buffer, of the least size for this upload and so for all before it
    have hroom := roomFor_isLeast (max u.records.length 1)
    have hle : max 1 u.records.length ≤ SharedTriangles.roomFor (max u.records.length 1) :=
      (max_comm 1 _).le.trans hroom.1.2
    rw [hgrow, SharedTriangles.store]
    refine .inUse rfl ?_ (Nat.mul_comm _ _) ?_ (write_front _ _) rfl rfl
    · refine ⟨mem_rooms_snoc.mpr ⟨⟨hroom.1.1, fun v hv => ?_⟩, hle⟩, ?_⟩
      · exact (h.le_capacity v hv).trans (hsmall.le.trans hle)
      · intro p hp
        obtain ⟨⟨hpow, _⟩, hu⟩ := mem_rooms_snoc.mp hp
        exact hroom.2 ⟨hpow, (max_comm _ 1).le.trans hu⟩
    · exact length_write_front (Nat.zero_le _) (by simp only; omega)

theorem SharedInv.generation_into {s : SharedTriangles} {uploads : List Upload}
    (h : SharedInv s uploads) (u : Upload) (d : Device) :
    (u.into s d).1.generation
      = s.generation + if s.capacity < max 1 u.records.length then 1 else 0 := by
  show (s.reserve u.records.length d).1.generation = _
  rcases h.reserve_eq u.records.length d with ⟨hroom, hkeep⟩ | ⟨hsmall, hgrow⟩
  · rw [hkeep, if_neg (by omega), Nat.add_zero]
  · rw [hgrow, if_pos hsmall]

/-- An upload that keeps the generation writes into the buffer that was there. -/
theorem SharedInv.object_into {s : SharedTriangles} {uploads : List Upload}
    (h : SharedInv s uploads) (u : Upload) (d : Device)
    (hsame : (u.into s d).1.generation = s.generation) :
    (u.into s d).1.buffer.held.map Buffer.id = s.buffer.held.map Buffer.id := by
  rw [h.generation_into] at hsame
  rw [Upload.into]
  rcases h.reserve_eq u.records.length d with ⟨_, hkeep⟩ | ⟨hsmall, _⟩
  · rw [hkeep, SharedTriangles.store, Option.map_map]
    rfl
  · rw [if_pos hsmall] at hsame
    omega

theorem SharedInv.held_eq_none {s : SharedTriangles} {uploads : List Upload}
    (h : SharedInv s uploads) (hnil : uploads = []) : s.buffer.held = none := by
  cases h with
  | unused hnone _ _ => exact hnone
  | inUse => exact absurd hnil (by simp)

/-- After an upload there is one, and it begins with the records of the last. -/
theorem SharedInv.exists_buffer {s : SharedTriangles} {uploads : List Upload} {last : Upload}
    (h : SharedInv s uploads) (hlast : uploads.getLast? = some last) :
    ∃ b, s.buffer.held = some b ∧ IsLeast (Rooms uploads) s.capacity
      ∧ b.size = 64 * s.capacity ∧ b.front.length ≤ b.size
      ∧ TriangleRecord.image last.records <+: b.front
      ∧ s.binding = last.binding ∧ s.triangleCount = UInt32.ofNat last.records.length := by
  cases h with
  | unused => exact absurd hlast (by simp)
  | inUse hheld hleast hsize hfront himage hbinding hcount =>
      rw [List.getLast?_concat] at hlast
      injection hlast with hlast; subst hlast
      exact ⟨_, hheld, hleast, hsize, hfront, himage, hbinding, hcount⟩

/-! ## Runs -/

theorem sharedInv_after (capacity : UInt32) (d : Device) (calls : List Call) :
    SharedInv ((Run.start capacity d).after calls).registry.shared
      ((Run.start capacity d).after calls).uploads := by
  refine Run.after_induction (P := fun run => SharedInv run.registry.shared run.uploads)
    (.unused rfl rfl rfl) ?_ calls
  intro run c h
  cases run.sharedStep c with
  | uploaded u _ huploads hshared => rw [huploads, hshared]; exact h.into u run.device
  | untouched _ huploads hshared => rw [huploads, hshared]; exact h

/-- The generation never goes back, and while it stands the buffer object does. -/
theorem SharedInv.same_object {run : Run} (h : SharedInv run.registry.shared run.uploads)
    (calls : List Call) :
    run.registry.shared.generation ≤ (run.after calls).registry.shared.generation
      ∧ ((run.after calls).registry.shared.generation = run.registry.shared.generation →
        (run.after calls).registry.shared.buffer.held.map Buffer.id
          = run.registry.shared.buffer.held.map Buffer.id) := by
  induction calls generalizing run with
  | nil => exact ⟨Nat.le_refl _, fun _ => rfl⟩
  | cons c calls ih =>
      show _ ≤ ((run.step c).after calls).registry.shared.generation
        ∧ (((run.step c).after calls).registry.shared.generation = _ →
          ((run.step c).after calls).registry.shared.buffer.held.map Buffer.id = _)
      cases run.sharedStep c with
      | uploaded u _ huploads hshared =>
          have hinv : SharedInv (run.step c).registry.shared (run.step c).uploads := by
            rw [huploads, hshared]; exact h.into u run.device
          obtain ⟨hle, hsame⟩ := ih hinv
          have hgen := h.generation_into u run.device
          rw [← hshared] at hgen
          refine ⟨by omega, fun heq => ?_⟩
          -- the generation stood over the whole run, so it stood over this call
          rw [hsame (by omega), hshared]
          exact h.object_into u run.device (by rw [← hshared]; omega)
      | untouched _ huploads hshared =>
          have hinv : SharedInv (run.step c).registry.shared (run.step c).uploads := by
            rw [huploads, hshared]; exact h
          rw [← hshared]
          exact ih hinv

/-- What a reader sees of the shared buffer, in terms of the uploads that have succeeded. -/
structure FollowsUploads (run : Run) : Prop where
  none_before : run.uploads = [] → run.registry.triangleBinding? = none
  /-- Binding, count and the first bytes are those of the last upload. -/
  shows_last : ∀ last, run.uploads.getLast? = some last →
    ∃ b, run.registry.triangleBinding? = some b
      ∧ b.binding = last.binding
      ∧ b.triangleCount.toNat = last.records.length
      ∧ 64 * b.triangleCount.toNat ≤ b.buffer.size
      ∧ b.buffer.bytes.take (64 * b.triangleCount.toNat) = TriangleRecord.image last.records
  /-- The buffer is as long as the least power of two with room for every upload so far. -/
  size_eq : ∀ b, run.registry.triangleBinding? = some b →
    IsLeast (Rooms run.uploads) run.registry.shared.capacity
      ∧ b.buffer.size = 64 * run.registry.shared.capacity
      ∧ b.buffer.bytes.length = b.buffer.size
  /-- A call is an upload, which begins a generation when it does not fit, or changes nothing. -/
  next_call : ∀ c,
    (∃ u, (c.perform run.registry run.device).1 = .packed (.ok (UInt32.ofNat u.records.length))
      ∧ (run.step c).uploads = run.uploads ++ [u]
      ∧ (run.step c).registry.shared.generation = run.registry.shared.generation
        + if run.registry.shared.capacity < max 1 u.records.length then 1 else 0)
    ∨ ((∀ count, (c.perform run.registry run.device).1 ≠ .packed (.ok count))
      ∧ (run.step c).uploads = run.uploads
      ∧ (run.step c).registry.shared = run.registry.shared)
  /-- Two moments of one generation see one buffer object. -/
  same_object : ∀ calls,
    (run.after calls).registry.shared.generation = run.registry.shared.generation →
      (run.after calls).registry.triangleBinding?.map (fun b => b.buffer.id)
        = run.registry.triangleBinding?.map fun b => b.buffer.id

theorem triangleBinding?_id (r : Registry) :
    r.triangleBinding?.map (fun b => b.buffer.id) = r.shared.buffer.held.map Buffer.id := by
  rw [triangleBinding?, Option.map_map]
  rfl

/--
**The shared buffer follows the uploads**, in every run whose uploads have fewer than `2 ^ 32`
records each, which is as many as the count can tell.
-/
theorem followsUploads_after (capacity : UInt32) (d : Device) (calls : List Call)
    (hsmall : ∀ u ∈ ((Run.start capacity d).after calls).uploads, u.records.length < 2 ^ 32) :
    FollowsUploads ((Run.start capacity d).after calls) := by
  have hinv := sharedInv_after capacity d calls
  generalize (Run.start capacity d).after calls = run at hinv hsmall
  refine ⟨?_, ?_, ?_, ?_, ?_⟩
  · intro hnil
    rw [triangleBinding?, hinv.held_eq_none hnil, Option.map_none]
  · intro last hlast
    obtain ⟨b, hheld, _, hsize, hfront, himage, hbinding, hcount⟩ := hinv.exists_buffer hlast
    have hmem : last ∈ run.uploads := List.mem_of_getLast? hlast
    have hexact : run.registry.shared.triangleCount.toNat = last.records.length := by
      rw [hcount]; exact UInt32.toNat_ofNat_of_lt' (hsmall last hmem)
    have hlength : (TriangleRecord.image last.records).length = 64 * last.records.length :=
      TriangleRecord.length_image last.records
    refine ⟨_, by rw [triangleBinding?, hheld, Option.map_some], hbinding, hexact, ?_, ?_⟩
    · have := himage.length_le
      dsimp only
      omega
    · dsimp only
      rw [hexact, ← hlength]
      exact bytes_take_of_prefix himage
  · intro b hb
    obtain ⟨buffer, hheld, rfl⟩ := Option.map_eq_some_iff.mp hb
    cases hlast : run.uploads.getLast? with
    | none =>
        rw [hinv.held_eq_none (List.getLast?_eq_none_iff.mp hlast)] at hheld
        exact absurd hheld (by simp)
    | some last =>
        obtain ⟨b, hheld', hleast, hsize, hfront, _⟩ := hinv.exists_buffer hlast
        obtain rfl := Option.some.inj (hheld.symm.trans hheld')
        exact ⟨hleast, hsize, length_bytes hfront⟩
  · intro c
    cases run.sharedStep c with
    | uploaded u hanswer huploads hshared =>
        exact .inl ⟨u, hanswer, huploads, by rw [hshared]; exact hinv.generation_into u _⟩
    | untouched hanswer huploads hshared => exact .inr ⟨hanswer, huploads, hshared⟩
  · intro calls hgen
    rw [triangleBinding?_id, triangleBinding?_id]
    exact (hinv.same_object calls).2 hgen

/-- A right triangle at a height. -/
def plateCorners (height : Float32) : List Vec3 :=
  [⟨0, 0, height⟩, ⟨1, 0, height⟩, ⟨0, 1, height⟩]

theorem three_le_plateCorners (height : Float32) : 3 ≤ (plateCorners height).length :=
  Nat.le_refl 3

/-- The triangle as a face, seen from above unless its normal says otherwise. -/
def plate (height : Float32) (normal : Vec3 := ⟨0, 0, 1⟩) : Face :=
  ⟨normal, plateCorners height, three_le_plateCorners height⟩

/-- Uploads that are empty, grow, and shrink in place, between calls that fail. -/
def mixedCalls : List Call :=
  [.pack 1, .create [plate 0, plate 1, plate 2], .uploadAll, .pack 3, .create [plate 5],
    .packBodies 2 [⟨1⟩], .destroy ⟨0⟩, .packBodies 7 [⟨1⟩, ⟨0⟩], .create [plate 3 ⟨1, 0, 0⟩],
    .collect [⟨0⟩], .pack 9, .releaseAll]

theorem followsUploads_mixedCalls :
    ((Run.start 2 {}).after mixedCalls).uploads.map (fun u => u.records.length) = [0, 3, 1]
      ∧ (∀ u ∈ ((Run.start 2 {}).after mixedCalls).uploads, u.records.length < 2 ^ 32)
      ∧ FollowsUploads ((Run.start 2 {}).after mixedCalls) :=
  ⟨by decide +kernel, by decide +kernel, followsUploads_after 2 {} mixedCalls (by decide +kernel)⟩

end Facet.Registry
