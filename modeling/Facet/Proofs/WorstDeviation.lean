import Facet.Face.Record
import Facet.Proofs.ScalarOrder

/-!
# The worst deviation of a record

The deviation of a record is a running maximum, and NaN compares with nothing, so in general such a
maximum depends on the order. This one does not: a NaN is taken whenever it comes, and nothing
displaces it later. `Worst` says what the result is without an order. It holds of the maximum after
each further deviation, and it determines the result, so the verdict on a record does not depend on
the corner that comes first.
-/

namespace Facet

namespace TriangleRecord

open Scalar

/-! ## The worst of some deviations -/

/-- The worst of some deviations: one that is NaN, or else the largest, and zero if there are
none. -/
inductive Worst (ds : List Float32) : Float32 → Prop
  | none (h : ds = []) : Worst ds 0
  | undefined {w : Float32} (h : w ∈ ds) (hw : w.isNaN = true) : Worst ds w
  | largest {w : Float32} (h : w ∈ ds) (hle : ∀ d ∈ ds, d ≤ w) : Worst ds w

variable {ds ds' : List Float32} {w w' d tolerance : Float32}

theorem Worst.isNaN_iff (h : Worst ds w) : w.isNaN = true ↔ ∃ d ∈ ds, d.isNaN = true := by
  cases h with
  | none h =>
      subst h
      rw [isNaN_eq_false isFinite_zero]
      simp
  | undefined h hw => exact ⟨fun _ => ⟨w, h, hw⟩, fun _ => hw⟩
  | largest h hle =>
      refine ⟨fun hw => ⟨w, h, hw⟩, fun ⟨d, hd, hnan⟩ => ?_⟩
      rw [(not_nan_of_le (hle d hd)).1] at hnan
      exact absurd hnan Bool.false_ne_true

theorem Worst.mem_or_none (h : Worst ds w) : w ∈ ds ∨ ds = [] ∧ w = 0 := by
  cases h with
  | none h => exact .inr ⟨h, rfl⟩
  | undefined h _ => exact .inl h
  | largest h _ => exact .inl h

theorem Worst.le (h : Worst ds w) (hw : w.isNaN = false) : ∀ d ∈ ds, d ≤ w := by
  cases h with
  | none h => simp [h]
  | undefined _ hnan =>
      rw [hw] at hnan
      exact absurd hnan Bool.false_ne_true
  | largest _ hle => exact hle

/-- What is undefined or above a tolerance shows in the worst. -/
theorem Worst.exceeds_iff (h : Worst ds w) (htolerance : 0 ≤ tolerance) :
    w.isNaN = true ∨ tolerance < w ↔ ∃ d ∈ ds, d.isNaN = true ∨ tolerance < d := by
  cases h with
  | none h =>
      subst h
      rw [isNaN_eq_false isFinite_zero]
      simp [not_lt_of_le htolerance]
  | undefined h hw => exact ⟨fun _ => ⟨w, h, .inl hw⟩, fun _ => .inl hw⟩
  | largest h hle =>
      refine ⟨fun hw => ⟨w, h, hw⟩, fun ⟨d, hd, hexceeds⟩ => .inr ?_⟩
      rcases hexceeds with hnan | hlt
      · rw [(not_nan_of_le (hle d hd)).1] at hnan
        exact absurd hnan Bool.false_ne_true
      · exact lt_of_lt_of_le hlt (hle d hd)

/-- Absolute values, as deviations are. -/
def Magnitudes (ds : List Float32) : Prop := ∀ d ∈ ds, ∃ x : Float32, x.abs = d

/-- **The worst is determined by the deviations**, in whatever order and however often they
come. -/
theorem Worst.unique (h : Worst ds w) (h' : Worst ds' w') (hds : Magnitudes ds)
    (hsame : ∀ d, d ∈ ds ↔ d ∈ ds') : w = w' := by
  have hnan := h.isNaN_iff
  have hnan' := h'.isNaN_iff
  simp only [hsame] at hnan
  -- whether it is NaN is settled by the members; if not, each of the two bounds the other
  cases h with
  | none h =>
      subst h
      have hds' : ds' = [] := List.eq_nil_iff_forall_not_mem.mpr fun d hd => by
        simpa using (hsame d).mpr hd
      cases h' with
      | none => rfl
      | undefined h' => rw [hds'] at h'; exact absurd h' List.not_mem_nil
      | largest h' => rw [hds'] at h'; exact absurd h' List.not_mem_nil
  | undefined h hw =>
      have hw' := hnan'.mpr (hnan.mp hw)
      rw [Float32.isNaN_eq_decide_eq_nan, decide_eq_true_iff] at hw hw'
      rw [hw, hw']
  | largest h hle =>
      obtain ⟨x, rfl⟩ := hds w h
      have hdefined := (not_nan_of_le (hle _ h)).1
      cases h' with
      | none h' =>
          rw [hsame, h'] at h
          exact absurd h List.not_mem_nil
      | undefined h' hw' =>
          rw [hnan.mpr ⟨w', h', hw'⟩] at hdefined
          exact absurd hdefined.symm Bool.false_ne_true
      | largest h' hle' =>
          obtain ⟨x', rfl⟩ := hds w' ((hsame w').mpr h')
          exact abs_eq_of_le_of_le (hle' _ ((hsame _).mp h)) (hle _ ((hsame _).mpr h'))

theorem worse_of_nan (h : d.isNaN = true) : worse w d = d := by
  rw [worse, h]
  rfl

theorem worse_of_defined (h : d.isNaN = false) : worse w d = if w < d then d else w := by
  rw [worse, h, Bool.false_or]
  simp only [decide_eq_true_eq]

/-- **One more deviation.** A NaN is taken at once, and the comparison with it fails ever after. -/
theorem Worst.snoc (h : Worst ds w) (hd : ∃ x : Float32, x.abs = d) :
    Worst (ds ++ [d]) (worse w d) := by
  have hlast : d ∈ ds ++ [d] := List.mem_append_right ds List.mem_cons_self
  rcases hnan : d.isNaN with - | -
  · rw [worse_of_defined hnan]
    cases h with
    | none h =>
        subst h
        split
        · exact .largest hlast (List.forall_mem_singleton.mpr (le_self hnan))
        · -- the zero that stays is the deviation itself, as a magnitude has no other zero
          rename_i hzero
          obtain ⟨x, rfl⟩ := hd
          have heq : x.abs = 0 := abs_eq_zero_of_not_lt (isNaN_abs.symm.trans hnan) hzero
          rw [heq]
          exact .largest List.mem_cons_self
            (List.forall_mem_singleton.mpr (le_self (isNaN_eq_false isFinite_zero)))
    | undefined h hw =>
        rw [if_neg (not_lt_of_nan (.inl hw))]
        exact .undefined (List.mem_append_left [d] h) hw
    | largest h hle =>
        split
        · rename_i hlt
          refine .largest hlast (List.forall_mem_append.mpr
            ⟨fun d' hd' => ?_, List.forall_mem_singleton.mpr (le_self hnan)⟩)
          exact Scalar.le_trans (hle d' hd') (le_of_lt hlt)
        · rename_i hge
          have hdefined := (not_nan_of_le (hle _ h)).1
          exact .largest (List.mem_append_left [d] h) (List.forall_mem_append.mpr
            ⟨hle, List.forall_mem_singleton.mpr (le_of_not_lt hdefined hnan hge)⟩)
  · rw [worse_of_nan hnan]
    exact .undefined hlast hnan

theorem worst_foldl (h : Magnitudes ds) : Worst ds (ds.foldl worse 0) := by
  induction ds using List.reverseRecOn with
  | nil => exact .none rfl
  | append_singleton ds d ih =>
      rw [List.foldl_append]
      exact (ih fun d' hd' => h d' (List.mem_append_left [d] hd')).snoc
        (h d (List.mem_append_right ds List.mem_cons_self))

/-! ## Edges -/

/-- The edge from a corner to the next one. -/
def edge (r : TriangleRecord) (k : Fin 3) : Vec3 := r.edges.get k

/-- The deviation along an edge, if the edge has a direction. -/
def measure? (r : TriangleRecord) (k : Fin 3) : Option Float32 :=
  (r.edge k).normalized?.map fun e => (r.normal.truncate.dot e).abs

variable (r : TriangleRecord)

theorem edge_eq (k : Fin 3) : r.edge k = r.corner (k + 1) - r.corner k := by
  match k with
  | 0 | 1 | 2 => rfl

theorem mem_edges {e : Vec3} : e ∈ r.edges ↔ ∃ k, r.edge k = e := List.mem_iff_get

/-- The deviations of a record are those along its three edges. -/
theorem mem_deviations : d ∈ r.deviations ↔ ∃ k, r.measure? k = some d := by
  simp only [deviations, List.mem_map, List.mem_filterMap, mem_edges, measure?,
    Option.map_eq_some_iff]
  constructor
  · rintro ⟨e, ⟨-, ⟨k, rfl⟩, he⟩, hd⟩
    exact ⟨k, e, he, hd⟩
  · rintro ⟨k, e, he, hd⟩
    exact ⟨e, ⟨_, ⟨k, rfl⟩, he⟩, hd⟩

theorem magnitudes_deviations : Magnitudes r.deviations := by
  intro d hd
  obtain ⟨e, -, rfl⟩ := List.mem_map.mp hd
  exact ⟨_, rfl⟩

theorem worst_deviation : Worst r.deviations r.deviation := worst_foldl r.magnitudes_deviations

/-! ## Verdicts -/

/-- **A record fails by one of its edges.** -/
theorem isMisaligned_iff (htolerance : 0 ≤ tolerance) : r.isMisaligned tolerance = true ↔
    ∃ k d, r.measure? k = some d ∧ (d.isNaN = true ∨ tolerance < d) := by
  rw [isMisaligned, Bool.or_eq_true, decide_eq_true_iff, r.worst_deviation.exceeds_iff htolerance]
  simp only [mem_deviations]
  exact ⟨fun ⟨d, ⟨k, hd⟩, h⟩ => ⟨k, d, hd, h⟩, fun ⟨k, d, hd, h⟩ => ⟨d, ⟨k, hd⟩, h⟩⟩

theorem mem_misaligned {records : List TriangleRecord} {i : Nat} :
    i ∈ misaligned tolerance records
      ↔ ∃ r, records[i]? = some r ∧ r.isMisaligned tolerance = true := by
  simp only [misaligned, List.mem_map, List.mem_filter, Prod.exists, List.mem_zipIdx_iff_getElem?]
  constructor
  · rintro ⟨r, _, ⟨hr, hmisaligned⟩, rfl⟩
    exact ⟨r, hr, hmisaligned⟩
  · rintro ⟨r, hr, hmisaligned⟩
    exact ⟨r, i, ⟨hr, hmisaligned⟩, rfl⟩

theorem pairwise_misaligned (records : List TriangleRecord) :
    (misaligned tolerance records).Pairwise (· < ·) := by
  have hsublist : List.Sublist (misaligned tolerance records) (List.range' 0 records.length) := by
    rw [← List.zipIdx_map_snd]
    exact List.filter_sublist.map Prod.snd
  exact List.Pairwise.sublist hsublist List.pairwise_lt_range'

/-! ## The corner that comes first -/

/-- The same triangle, with its corners named from the second on. -/
def turned : TriangleRecord := { r with first := r.second, second := r.third, third := r.first }

theorem corner_turned (k : Fin 3) : r.turned.corner k = r.corner (k + 1) := by
  match k with
  | 0 | 1 | 2 => rfl

theorem measure?_turned (k : Fin 3) : r.turned.measure? k = r.measure? (k + 1) := by
  rw [measure?, edge_eq, corner_turned, corner_turned, ← edge_eq]
  rfl

theorem mem_deviations_turned : d ∈ r.turned.deviations ↔ d ∈ r.deviations := by
  rw [mem_deviations, mem_deviations]
  simp only [measure?_turned]
  refine ⟨fun ⟨k, hk⟩ => ⟨k + 1, hk⟩, fun ⟨k, hk⟩ => ⟨k - 1, ?_⟩⟩
  rw [sub_add_cancel]
  exact hk

/-- **Turning a record keeps its deviation.** -/
theorem deviation_turned : r.turned.deviation = r.deviation :=
  r.turned.worst_deviation.unique r.worst_deviation r.turned.magnitudes_deviations
    fun _ => r.mem_deviations_turned

/-- The same triangle, with its corners named from any of the three on. -/
inductive Relabelled : TriangleRecord → TriangleRecord → Prop
  | same (r : TriangleRecord) : Relabelled r r
  | once (r : TriangleRecord) : Relabelled r r.turned
  | twice (r : TriangleRecord) : Relabelled r r.turned.turned

variable {r} in
theorem Relabelled.deviation_eq {r' : TriangleRecord} (h : Relabelled r r') :
    r'.deviation = r.deviation := by
  cases h with
  | same => rfl
  | once => exact r.deviation_turned
  | twice => exact r.turned.deviation_turned.trans r.deviation_turned

theorem misaligned_congr {records records' : List TriangleRecord}
    (h : records'.map deviation = records.map deviation) :
    misaligned tolerance records' = misaligned tolerance records := by
  have hread : ∀ records : List TriangleRecord, misaligned tolerance records
      = ((records.map deviation).zipIdx.filter
        fun entry => entry.1.isNaN || tolerance < entry.1).map Prod.snd := by
    intro records
    rw [List.zipIdx_map, List.filter_map, List.map_map]
    rfl
  rw [hread, hread, h]

theorem misaligned_of_relabelled {records records' : List TriangleRecord}
    (h : List.Forall₂ Relabelled records records') :
    misaligned tolerance records' = misaligned tolerance records := by
  refine misaligned_congr ?_
  induction h with
  | nil => rfl
  | cons hr _ ih => rw [List.map_cons, List.map_cons, ih, hr.deviation_eq]

/--
**The worst edge decides.** The indices that are handed out rise, and they are those of the records
with an edge along which the deviation is undefined or above the tolerance. The deviation of a
record is undefined if one along an edge is, else it is the largest of them, and zero if no edge
has a direction. Whichever corner comes first, it is the same.
-/
theorem misaligned_by_edges (records : List TriangleRecord) (htolerance : 0 ≤ tolerance) :
    (misaligned tolerance records).Pairwise (· < ·)
    ∧ (∀ i, i ∈ misaligned tolerance records ↔ ∃ r, records[i]? = some r
      ∧ ∃ k d, r.measure? k = some d ∧ (d.isNaN = true ∨ tolerance < d))
    ∧ (∀ records', List.Forall₂ Relabelled records records' →
      misaligned tolerance records' = misaligned tolerance records)
    ∧ ∀ r : TriangleRecord,
      (r.deviation.isNaN = true ↔ ∃ k d, r.measure? k = some d ∧ d.isNaN = true)
      ∧ (r.deviation.isNaN = false → (∀ k d, r.measure? k = some d → d ≤ r.deviation)
        ∧ ((∃ k, r.measure? k = some r.deviation)
          ∨ (∀ k, r.measure? k = none) ∧ r.deviation = 0))
      ∧ r.turned.deviation = r.deviation := by
  refine ⟨pairwise_misaligned records, fun i => ?_, fun _ => misaligned_of_relabelled,
    fun r => ⟨?_, fun hdefined => ?_, r.deviation_turned⟩⟩
  · simp only [mem_misaligned, isMisaligned_iff _ htolerance]
  · rw [r.worst_deviation.isNaN_iff]
    simp only [mem_deviations]
    exact ⟨fun ⟨d, ⟨k, hd⟩, h⟩ => ⟨k, d, hd, h⟩, fun ⟨k, d, hd, h⟩ => ⟨d, ⟨k, hd⟩, h⟩⟩
  · refine ⟨fun k d hd => r.worst_deviation.le hdefined d (r.mem_deviations.mpr ⟨k, hd⟩),
      r.worst_deviation.mem_or_none.imp r.mem_deviations.mp ?_⟩
    rintro ⟨hnone, hzero⟩
    refine ⟨fun k => Option.eq_none_iff_forall_ne_some.mpr fun d hd => ?_, hzero⟩
    have hmem := r.mem_deviations.mpr ⟨k, hd⟩
    rw [hnone] at hmem
    exact absurd hmem List.not_mem_nil

/-- A triangle in the plane of its normal, then with a normal that leans, then with an undefined
one. -/
def leaning : List TriangleRecord :=
  let plate : TriangleRecord := ⟨⟨0, 0, 1, 0⟩, ⟨0, 0, 0, 0⟩, ⟨1, 0, 0, 0⟩, ⟨0, 1, 0, 0⟩⟩
  [plate, { plate with normal := ⟨0, 0.6, 0.8, 0⟩ }, { plate with normal := ⟨notANumber, 0, 0, 0⟩ }]

theorem misaligned_leaning : (0 : Float32) ≤ TriangleRecord.tolerance
    ∧ (misaligned TriangleRecord.tolerance leaning).Pairwise (· < ·)
    ∧ (0 ∉ misaligned TriangleRecord.tolerance leaning
      ∧ 1 ∈ misaligned TriangleRecord.tolerance leaning
      ∧ 2 ∈ misaligned TriangleRecord.tolerance leaning)
    ∧ misaligned TriangleRecord.tolerance (leaning.map turned)
      = misaligned TriangleRecord.tolerance leaning := by
  have htolerance : (0 : Float32) ≤ TriangleRecord.tolerance := by decide +kernel
  obtain ⟨hrising, hmem, hrelabelled, -⟩ := misaligned_by_edges leaning htolerance
  have hexceeds : ∀ r k,
      (measure? r k).any (fun d => d.isNaN || TriangleRecord.tolerance < d) = true
      ↔ ∃ d, r.measure? k = some d ∧ (d.isNaN = true ∨ TriangleRecord.tolerance < d) := by
    intro r k
    simp only [Option.any_eq_true, Bool.or_eq_true, decide_eq_true_eq]
  refine ⟨htolerance, hrising, ⟨fun h => ?_, (hmem 1).mpr ⟨_, rfl, 1, ?_⟩,
    (hmem 2).mpr ⟨_, rfl, 0, ?_⟩⟩, hrelabelled _ ?_⟩
  · obtain ⟨r, hr, k, hk⟩ := (hmem 0).mp h
    cases hr
    rw [← hexceeds] at hk
    revert k
    decide +kernel
  · rw [← hexceeds]
    decide +kernel
  · rw [← hexceeds]
    decide +kernel
  · exact .cons (.once _) (.cons (.once _) (.cons (.once _) .nil))

end TriangleRecord

end Facet
