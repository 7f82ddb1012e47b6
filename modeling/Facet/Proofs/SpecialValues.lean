import Facet.Proofs.VectorRounding
import Facet.Scalar.Elementary

/-!
# Infinities and NaN

What `ScalarRounding` leaves out: which results are NaN or infinite. Every float but NaN has a sign,
and rounding and packing keep it, so an operation gives NaN only in the cases its definition names:
the difference of two infinities, the product of an infinity and a zero, the quotient of two of the
same kind. Scalars other than NaN are in order, and clamping one moves it between the bounds.
-/

namespace Facet.Scalar

open Float.Model Float.Model.UnpackedFloat

/-! ## Signs -/

/-- The sign of a float; NaN has none. -/
def unpackedSign : UnpackedFloat → Option Sign
  | .infinity s => some s
  | .zero s => some s
  | .finite s _ _ _ => some s
  | .notANumber => none

/-- The sign of a scalar; NaN has none. -/
def sign? (x : Float32) : Option Sign := unpackedSign x.toModel.unpack

theorem isNaN_eq (u : UnpackedFloat) : u.isNaN = (unpackedSign u).isNone := by cases u <;> rfl

theorem sign_packComponents (s : Sign) {exponent : BitVec 8} (mantissa : BitVec 23)
    (h : exponent ≠ -1#8) :
    unpackedSign (UnpackedFloat.unpack Format.binary32
      (packComponents Format.binary32 s exponent mantissa)) = some s := by
  have hsign : Sign.ofBitVec s.toBitVec = s := by cases s <;> rfl
  unfold UnpackedFloat.unpack
  simp only [unpackMantissa_packComponents, unpackExponent_packComponents,
    unpackSign_packComponents]
  rw [if_neg h, hsign]
  split
  · split <;> rfl
  · rfl

/-- **Packing keeps the sign**, of what becomes infinite or zero also. -/
theorem sign_unpack_pack (u : UnpackedFloat) :
    unpackedSign (Float32.Model.pack u).unpack = unpackedSign u := by
  cases u with
  | notANumber => rfl
  | infinity s => cases s <;> rfl
  | zero s => cases s <;> rfl
  | finite s m e hm =>
      have hbias : (Format.binary32.exponentBias : Int) = 127 := rfl
      by_cases hlarge : 105 ≤ e
      · rw [unpack_pack_of_large s hm hlarge]
        rfl
      · obtain ⟨b, hb⟩ : ∃ b, (e + 127 + ((23 : Nat) : Int)).toNat = b := ⟨_, rfl⟩
        have hnotMax : BitVec.ofNat 8 b ≠ -1#8 := by
          intro heq
          have hnat := congrArg BitVec.toNat heq
          rw [BitVec.toNat_ofNat, Nat.mod_eq_of_lt (by omega)] at hnat
          change b = 255 at hnat
          omega
        unfold Float32.Model.pack Float32.Model.unpack
        rw [UInt32.toBitVec_ofBitVec]
        unfold UnpackedFloat.pack
        dsimp only
        rw [hbias, hb, if_neg (by omega)]
        split
        · exact sign_packComponents s _ hnotMax
        · exact sign_packComponents s _ (by decide)

theorem isNaN_unpack_pack (u : UnpackedFloat) :
    (Float32.Model.pack u).unpack.isNaN = u.isNaN := by
  rw [isNaN_eq, isNaN_eq, sign_unpack_pack]

theorem sign_roundWithAccuracy (s : Sign) (m : Nat) (e : Int) (a : Accuracy) :
    unpackedSign (roundWithAccuracy Format.binary32 s m e a) = some s := by
  unfold roundWithAccuracy
  dsimp only
  split <;> rfl

theorem sign_normalize_positive {m : Int} (hm : 0 < m) (e : Int) (zero : Sign) :
    unpackedSign (UnpackedFloat.normalize Format.binary32 m e zero) = some .positive := by
  unfold UnpackedFloat.normalize
  rw [Int.compare_eq_gt.mpr hm]
  exact sign_roundWithAccuracy _ _ _ _

theorem not_nan_normalize (m e : Int) (zero : Sign) :
    (UnpackedFloat.normalize Format.binary32 m e zero).isNaN = false := by
  rw [isNaN_eq]
  unfold UnpackedFloat.normalize
  split
  · exact congrArg Option.isNone (sign_roundWithAccuracy _ _ _ _)
  · rfl
  · exact congrArg Option.isNone (sign_roundWithAccuracy _ _ _ _)

/-! ## Kinds of scalars -/

variable {x y : Float32}

theorem not_nan_of_sign {s : Sign} (h : sign? x = some s) : x.isNaN = false := by
  show x.toModel.unpack.isNaN = false
  rw [isNaN_eq]
  exact congrArg Option.isNone h

theorem isFinite_or_isInf (h : x.isNaN = false) : x.isFinite = true ∨ x.isInf = true := by
  change x.toModel.unpack.isNaN = false at h
  show x.toModel.unpack.isFinite = true ∨ x.toModel.unpack.isInf = true
  generalize x.toModel.unpack = u at *
  cases u with
  | notANumber => exact absurd h Bool.noConfusion
  | infinity s => exact .inr rfl
  | zero s => exact .inl rfl
  | finite s m e hm => exact .inl rfl

theorem unpack_of_isInf (h : x.isInf = true) : ∃ s, x.toModel.unpack = .infinity s := by
  change x.toModel.unpack.isInf = true at h
  generalize x.toModel.unpack = u at *
  cases u with
  | infinity s => exact ⟨s, rfl⟩
  | _ => exact absurd h Bool.noConfusion

theorem isInf_pack {u : UnpackedFloat} {s : Sign} (h : u = .infinity s) :
    (⟨Float32.Model.pack u⟩ : Float32).isInf = true := by
  subst h
  cases s <;> rfl

/-- Positive, zero and infinity included. -/
inductive Positive : UnpackedFloat → Prop
  | infinity : Positive (.infinity .positive)
  | zero : Positive (.zero .positive)
  | finite {m : Nat} {e : Int} (hm : 0 < m) : Positive (.finite .positive m e hm)

theorem positive_iff {u : UnpackedFloat} : Positive u ↔ unpackedSign u = some .positive := by
  constructor
  · intro h
    cases h <;> rfl
  · intro h
    cases u with
    | notANumber => exact absurd h (by simp [unpackedSign])
    | infinity s =>
        obtain rfl : s = .positive := Option.some.inj h
        exact .infinity
    | zero s =>
        obtain rfl : s = .positive := Option.some.inj h
        exact .zero
    | finite s m e hm =>
        obtain rfl : s = .positive := Option.some.inj h
        exact .finite hm

theorem Positive.pack {u : UnpackedFloat} (h : Positive u) :
    Positive (Float32.Model.pack u).unpack := by
  rw [positive_iff, sign_unpack_pack, ← positive_iff]
  exact h

theorem Positive.isInf {u : UnpackedFloat} (h : Positive u) (hinf : u.isInf = true) :
    u = .infinity .positive := by
  cases h with
  | infinity => rfl
  | _ => exact absurd hinf Bool.noConfusion

/-! ## Lengths

The square root of a sum of squares is no NaN, and it is infinite where a coordinate is. -/

theorem positive_mul_self (h : x.isNaN = false) : Positive (x * x).toModel.unpack := by
  refine Positive.pack (u := UnpackedFloat.mul _ x.toModel.unpack x.toModel.unpack) ?_
  change x.toModel.unpack.isNaN = false at h
  generalize x.toModel.unpack = u at *
  cases u with
  | notANumber => exact absurd h Bool.noConfusion
  | infinity s => cases s <;> exact .infinity
  | zero s => cases s <;> exact .zero
  | finite s m e hm =>
      refine positive_iff.mpr ((sign_roundWithAccuracy _ _ _ _).trans ?_)
      cases s <;> rfl

theorem isInf_mul_self (h : x.isInf = true) : (x * x).isInf = true := by
  obtain ⟨s, hs⟩ := unpack_of_isInf h
  refine isInf_pack (u := UnpackedFloat.mul _ x.toModel.unpack x.toModel.unpack) (s := s * s) ?_
  rw [hs]
  rfl

theorem Positive.add {u v : UnpackedFloat} (hu : Positive u) (hv : Positive v) :
    Positive (UnpackedFloat.add Format.binary32 u v) := by
  cases hu with
  | infinity => cases hv <;> exact .infinity
  | zero =>
      cases hv with
      | infinity => exact .infinity
      | zero => exact .zero
      | finite hm => exact .finite hm
  | @finite m e hm =>
      cases hv with
      | infinity => exact .infinity
      | zero => exact .finite hm
      | @finite m' e' hm' =>
          refine positive_iff.mpr (sign_normalize_positive ?_ _ _)
          have hshift : 0 < m <<< (e - min e e').toNat := by
            rw [Nat.shiftLeft_eq]
            positivity
          exact add_pos_of_pos_of_nonneg (Int.natCast_pos.mpr hshift) (Int.natCast_nonneg _)

theorem Positive.add_isInf {u v : UnpackedFloat} (hu : Positive u) (hv : Positive v)
    (h : u.isInf = true ∨ v.isInf = true) :
    UnpackedFloat.add Format.binary32 u v = .infinity .positive := by
  rcases h with h | h
  · rw [hu.isInf h]
    cases hv <;> rfl
  · rw [hv.isInf h]
    cases hu <;> rfl

theorem Positive.sqrt {u : UnpackedFloat} (h : Positive u) :
    Positive (UnpackedFloat.sqrt Format.binary32 u) := by
  cases h with
  | infinity => exact .infinity
  | zero => exact .zero
  | finite hm => exact positive_iff.mpr (sign_roundWithAccuracy _ _ _ _)

theorem positive_add (hx : Positive x.toModel.unpack) (hy : Positive y.toModel.unpack) :
    Positive (x + y).toModel.unpack := (hx.add hy).pack

theorem isInf_add (hx : Positive x.toModel.unpack) (hy : Positive y.toModel.unpack)
    (h : x.isInf = true ∨ y.isInf = true) : (x + y).isInf = true :=
  isInf_pack (hx.add_isInf hy h)

theorem positive_sqrt (h : Positive x.toModel.unpack) : Positive x.sqrt.toModel.unpack :=
  h.sqrt.pack

theorem isInf_sqrt (hx : Positive x.toModel.unpack) (h : x.isInf = true) :
    x.sqrt.isInf = true := by
  refine isInf_pack (u := UnpackedFloat.sqrt _ x.toModel.unpack) (s := .positive) ?_
  rw [hx.isInf h]
  rfl

/-! ## Finite results -/

theorem isFinite_of_pack {u : UnpackedFloat}
    (h : (⟨Float32.Model.pack u⟩ : Float32).isFinite = true) : u.isFinite = true := by
  cases u with
  | notANumber => exact absurd h Bool.false_ne_true
  | infinity s => cases s <;> exact absurd h Bool.false_ne_true
  | zero s => rfl
  | finite s m e hm => rfl

theorem finite_of_add {u v : UnpackedFloat}
    (h : (UnpackedFloat.add Format.binary32 u v).isFinite = true) :
    u.isFinite = true ∧ v.isFinite = true := by
  cases u with
  | notANumber => exact absurd h Bool.false_ne_true
  | infinity s =>
      cases v with
      | infinity s' =>
          unfold UnpackedFloat.add at h
          dsimp only at h
          split at h <;> exact absurd h Bool.false_ne_true
      | _ => exact absurd h Bool.false_ne_true
  | _ =>
      cases v with
      | notANumber => exact absurd h Bool.false_ne_true
      | infinity s' => exact absurd h Bool.false_ne_true
      | _ => exact ⟨rfl, rfl⟩

theorem isFinite_of_add (h : (x + y).isFinite = true) :
    x.isFinite = true ∧ y.isFinite = true :=
  finite_of_add (isFinite_of_pack (u := UnpackedFloat.add _ x.toModel.unpack y.toModel.unpack) h)

theorem isFinite_of_sub (h : (x - y).isFinite = true) :
    x.isFinite = true ∧ y.isFinite = true := by
  have hdifference := isFinite_of_pack
    (u := UnpackedFloat.sub _ x.toModel.unpack y.toModel.unpack) h
  rw [unpacked_sub_eq] at hdifference
  refine (finite_of_add hdifference).imp_right fun hneg => ?_
  show y.toModel.unpack.isFinite = true
  generalize y.toModel.unpack = v at *
  cases v <;> exact hneg

theorem isFinite_of_mul (h : (x * y).isFinite = true) :
    x.isFinite = true ∧ y.isFinite = true := by
  have hproduct := isFinite_of_pack
    (u := UnpackedFloat.mul _ x.toModel.unpack y.toModel.unpack) h
  show x.toModel.unpack.isFinite = true ∧ y.toModel.unpack.isFinite = true
  generalize x.toModel.unpack = u at *
  generalize y.toModel.unpack = v at *
  cases u with
  | notANumber => exact absurd hproduct Bool.false_ne_true
  | infinity s => cases v <;> exact absurd hproduct Bool.false_ne_true
  | _ =>
      cases v with
      | notANumber => exact absurd hproduct Bool.false_ne_true
      | infinity s' => exact absurd hproduct Bool.false_ne_true
      | _ => exact ⟨rfl, rfl⟩

theorem isFinite_of_sqrt (h : x.sqrt.isFinite = true) : x.isFinite = true := by
  have hroot := isFinite_of_pack (u := UnpackedFloat.sqrt _ x.toModel.unpack) h
  show x.toModel.unpack.isFinite = true
  generalize x.toModel.unpack = u at *
  cases u with
  | notANumber => exact absurd hroot Bool.false_ne_true
  | infinity s => cases s <;> exact absurd hroot Bool.false_ne_true
  | _ => rfl

theorem value_nonpos {s : Sign} (h : sign? x = some s) (hs : s = .negative) : value x ≤ 0 := by
  subst hs
  unfold sign? at h
  unfold value
  generalize x.toModel.unpack = u at *
  cases u with
  | finite s m e hm =>
      obtain rfl : s = .negative := Option.some.inj h
      rw [unpackedValue_negative]
      have : (0 : ℚ) ≤ m * 2 ^ e := by positivity
      linarith
  | _ => exact le_rfl

/-- A reciprocal that is finite and positive is that of such a scalar. -/
theorem of_reciprocal (hfinite : (1 / x).isFinite = true) (hpos : 0 < 1 / x) :
    x.isFinite = true ∧ 0 < value x := by
  have hvalue := (zero_lt_iff hfinite).mp hpos
  have hone : ∃ m e hm, (1 : Float32).toModel.unpack = .finite .positive m e hm := ⟨_, _, _, rfl⟩
  obtain ⟨m, e, hm, hone⟩ := hone
  have hquotient : 1 / x = ⟨Float32.Model.pack
      (UnpackedFloat.div Format.binary32 (.finite .positive m e hm) x.toModel.unpack)⟩ := by
    rw [← hone]
    rfl
  have hkept := hfinite
  rw [hquotient] at hkept
  have hstored := isFinite_of_pack hkept
  show x.toModel.unpack.isFinite = true ∧ 0 < unpackedValue x.toModel.unpack
  generalize x.toModel.unpack = u at *
  cases u with
  | notANumber => exact absurd hstored Bool.false_ne_true
  | zero s => exact absurd hstored Bool.false_ne_true
  | infinity s =>
      have hzero : value (1 / x) = 0 := by
        rw [hquotient]
        exact (Stored.zero (Sign.positive / s)).value_pack.2
      exact absurd hvalue (by rw [hzero]; exact lt_irrefl 0)
  | finite s m' e' hm' =>
      refine ⟨rfl, ?_⟩
      cases s with
      | positive =>
          rw [unpackedValue_positive]
          positivity
      | negative =>
          exfalso
          have hsign : sign? (1 / x) = some .negative := by
            rw [hquotient]
            exact (sign_unpack_pack _).trans (sign_roundWithAccuracy _ _ _ _)
          exact absurd hvalue (not_lt.mpr (value_nonpos hsign rfl))

/-! ## Quotients -/

theorem isZero_iff : (x == 0) = true ↔ ∃ s, x.toModel.unpack = .zero s := by
  change (UnpackedFloat.compare x.toModel.unpack (.zero .positive) == some .eq) = true ↔ _
  generalize x.toModel.unpack = u
  cases u with
  | notANumber => simp [UnpackedFloat.compare]
  | infinity s => cases s <;> simp [UnpackedFloat.compare]
  | zero s => simp [UnpackedFloat.compare]
  | finite s m e hm => cases s <;> simp [UnpackedFloat.compare]

/-- **When a quotient is undefined.** -/
theorem isNaN_div_iff (hx : x.isNaN = false) (hy : y.isNaN = false) :
    (x / y).isNaN = true
      ↔ (x.isInf = true ∧ y.isInf = true) ∨ ((x == 0) = true ∧ (y == 0) = true) := by
  rw [isZero_iff, isZero_iff]
  change (Float32.Model.pack (UnpackedFloat.div _ x.toModel.unpack y.toModel.unpack)).unpack.isNaN
    = true ↔ (x.toModel.unpack.isInf = true ∧ y.toModel.unpack.isInf = true) ∨ _
  rw [isNaN_unpack_pack]
  change x.toModel.unpack.isNaN = false at hx
  change y.toModel.unpack.isNaN = false at hy
  generalize x.toModel.unpack = u at *
  generalize y.toModel.unpack = v at *
  cases u with
  | notANumber => exact absurd hx Bool.noConfusion
  | finite s m e hm =>
      cases v with
      | finite s' m' e' hm' =>
          have hsome : (UnpackedFloat.div Format.binary32 (.finite s m e hm)
              (.finite s' m' e' hm')).isNaN = false := by
            rw [isNaN_eq]
            exact congrArg Option.isNone (sign_roundWithAccuracy _ _ _ _)
          simp [hsome, UnpackedFloat.isInf]
      | notANumber => exact absurd hy Bool.noConfusion
      | _ => simp [UnpackedFloat.div, UnpackedFloat.isNaN, UnpackedFloat.isInf]
  | _ =>
      cases v with
      | notANumber => exact absurd hy Bool.noConfusion
      | _ => simp [UnpackedFloat.div, UnpackedFloat.isNaN, UnpackedFloat.isInf]

/-! ## Order -/

theorem lt_iff_compare :
    x < y ↔ UnpackedFloat.compare x.toModel.unpack y.toModel.unpack = some .lt := by
  have h : x < y ↔ (UnpackedFloat.compare x.toModel.unpack y.toModel.unpack == some .lt) = true :=
    decide_eq_true_iff
  rw [h, beq_iff_eq]

theorem le_iff_compare :
    x ≤ y ↔ UnpackedFloat.compare x.toModel.unpack y.toModel.unpack = some .lt
      ∨ UnpackedFloat.compare x.toModel.unpack y.toModel.unpack = some .eq := by
  have h : x ≤ y
      ↔ ((UnpackedFloat.compare x.toModel.unpack y.toModel.unpack).any (·.isLE)) = true :=
    decide_eq_true_iff
  rw [h]
  generalize UnpackedFloat.compare x.toModel.unpack y.toModel.unpack = o
  rcases o with - | (- | - | -) <;> simp

theorem compare_swap (u v : UnpackedFloat) :
    UnpackedFloat.compare v u = (UnpackedFloat.compare u v).map Ordering.swap := by
  have hfinite : ∀ (e e' : Int) (m m' : Nat), (compare e' e).then (compare m' m)
      = ((compare e e').then (compare m m')).swap := by
    intro e e' m m'
    rw [Ordering.swap_then, ← Int.compare_swap, ← Nat.compare_swap]
  cases u with
  | notANumber => cases v <;> rfl
  | infinity s => cases v with
    | infinity s' => cases s <;> cases s' <;> rfl
    | finite s' m' e' hm' => cases s <;> cases s' <;> rfl
    | _ => cases s <;> rfl
  | zero s => cases v with
    | infinity s' => cases s' <;> rfl
    | finite s' m' e' hm' => cases s' <;> rfl
    | _ => rfl
  | finite s m e hm => cases v with
    | finite s' m' e' hm' =>
        cases s <;> cases s' <;>
          simp [UnpackedFloat.compare, hfinite e e' m m']
    | infinity s' => cases s <;> cases s' <;> rfl
    | _ => cases s <;> rfl

theorem compare_of_nan {u : UnpackedFloat} (h : u.isNaN = true) (v : UnpackedFloat) :
    UnpackedFloat.compare u v = none := by
  cases u with
  | notANumber => rfl
  | _ => exact absurd h Bool.noConfusion

theorem exists_compare {u v : UnpackedFloat} (hu : u.isNaN = false) (hv : v.isNaN = false) :
    ∃ o, UnpackedFloat.compare u v = some o := by
  cases u with
  | notANumber => exact absurd hu Bool.noConfusion
  | infinity s => cases v with
    | notANumber => exact absurd hv Bool.noConfusion
    | _ => cases s <;> exact ⟨_, rfl⟩
  | zero s => cases v with
    | notANumber => exact absurd hv Bool.noConfusion
    | zero s' => exact ⟨_, rfl⟩
    | infinity s' => cases s' <;> exact ⟨_, rfl⟩
    | finite s' m' e' hm' => cases s' <;> exact ⟨_, rfl⟩
  | finite s m e hm => cases v with
    | notANumber => exact absurd hv Bool.noConfusion
    | zero s' => cases s <;> exact ⟨_, rfl⟩
    | infinity s' => cases s' <;> exact ⟨_, rfl⟩
    | finite s' m' e' hm' => cases s <;> cases s' <;> exact ⟨_, rfl⟩

theorem compare_self {u : UnpackedFloat} (h : u.isNaN = false) :
    UnpackedFloat.compare u u = some .eq := by
  obtain ⟨o, ho⟩ := exists_compare h h
  have hswap := compare_swap u u
  rw [ho, Option.map_some, Option.some.injEq] at hswap
  rw [ho]
  cases o with
  | eq => rfl
  | _ => exact absurd hswap Ordering.noConfusion

theorem not_lt_of_nan (h : x.isNaN = true ∨ y.isNaN = true) : ¬x < y := by
  rw [lt_iff_compare]
  intro hlt
  rcases h with h | h
  · rw [compare_of_nan h] at hlt
    exact absurd hlt (by simp)
  · rw [compare_swap, compare_of_nan h] at hlt
    exact absurd hlt (by simp)

theorem le_of_not_lt (hx : x.isNaN = false) (hy : y.isNaN = false) (h : ¬x < y) : y ≤ x := by
  rw [lt_iff_compare] at h
  rw [le_iff_compare, compare_swap]
  obtain ⟨o, ho⟩ := exists_compare hx hy
  rw [ho] at h ⊢
  cases o with
  | lt => exact absurd rfl h
  | eq => exact .inr rfl
  | gt => exact .inl rfl

theorem not_lt_of_le (h : x ≤ y) : ¬y < x := by
  rw [lt_iff_compare, compare_swap]
  rw [le_iff_compare] at h
  rcases h with h | h <;> simp [h]

theorem le_of_lt (h : x < y) : x ≤ y := le_iff_compare.mpr (.inl (lt_iff_compare.mp h))

theorem le_self (h : x.isNaN = false) : x ≤ x := le_iff_compare.mpr (.inr (compare_self h))

theorem not_nan_of_le (h : x ≤ y) : x.isNaN = false ∧ y.isNaN = false := by
  rw [le_iff_compare] at h
  constructor
  · by_contra hnan
    rw [compare_of_nan (eq_true_of_ne_false hnan)] at h
    simp at h
  · by_contra hnan
    rw [compare_swap, compare_of_nan (eq_true_of_ne_false hnan)] at h
    simp at h

/-- What lies between finite bounds is finite. -/
theorem isFinite_of_bounds {lo hi : Float32} (hlo : lo.isFinite = true) (hhi : hi.isFinite = true)
    (hle : lo ≤ x) (hge : x ≤ hi) : x.isFinite = true := by
  refine (isFinite_or_isInf (not_nan_of_le hle).2).resolve_right fun hinf => ?_
  obtain ⟨s, hs⟩ := unpack_of_isInf hinf
  rw [le_iff_compare, hs] at hle hge
  have hstored := stored_unpack hlo
  have hstored' := stored_unpack hhi
  generalize lo.toModel.unpack = u at *
  generalize hi.toModel.unpack = v at *
  -- one of the bounds excludes each of the two infinities
  cases s with
  | negative =>
      cases hstored with
      | zero s' => simp [UnpackedFloat.compare] at hle
      | finite s' h => cases s' <;> simp [UnpackedFloat.compare] at hle
  | positive =>
      cases hstored' with
      | zero s' => simp [UnpackedFloat.compare] at hge
      | finite s' h => cases s' <;> simp [UnpackedFloat.compare] at hge

theorem le_iff (hx : x.isFinite = true) (hy : y.isFinite = true) :
    x ≤ y ↔ value x ≤ value y := by
  have hcompare := (stored_unpack hx).compare_eq (stored_unpack hy)
  rw [le_iff_compare, hcompare, Option.some.injEq, Option.some.injEq, compare_lt_iff_lt,
    compare_eq_iff_eq]
  exact le_iff_lt_or_eq.symm

/-! ## Clamping -/

variable {lo hi : Float32}

/-- **A clamped scalar lies between the bounds.** -/
theorem clamp_bounds (h : lo ≤ hi) (hx : x.isNaN = false) :
    lo ≤ clamp lo hi x ∧ clamp lo hi x ≤ hi := by
  obtain ⟨hlo, hhi⟩ := not_nan_of_le h
  unfold clamp
  by_cases hlow : x < lo
  · rw [if_pos hlow, if_neg (not_lt_of_le h)]
    exact ⟨le_self hlo, h⟩
  · rw [if_neg hlow]
    dsimp only
    split
    · exact ⟨h, le_self hhi⟩
    · rename_i hhigh
      exact ⟨le_of_not_lt hx hlo hlow, le_of_not_lt hhi hx hhigh⟩

/-- Clamping finite scalars clamps the numbers they stand for. -/
theorem value_clamp (hx : x.isFinite = true) (hlo : lo.isFinite = true) (hhi : hi.isFinite = true)
    (h : lo ≤ hi) : value (clamp lo hi x) = max (value lo) (min (value x) (value hi)) := by
  have hle := (le_iff hlo hhi).mp h
  unfold clamp
  by_cases hlow : x < lo
  · have hlow' := (lt_iff hx hlo).mp hlow
    rw [if_pos hlow, if_neg (not_lt_of_le h), max_eq_left ((min_le_left _ _).trans hlow'.le)]
  · have hlow' := (le_iff hlo hx).mp (le_of_not_lt (isNaN_eq_false hx) (isNaN_eq_false hlo) hlow)
    rw [if_neg hlow]
    dsimp only
    split
    · rename_i hhigh
      have hhigh' := (lt_iff hhi hx).mp hhigh
      rw [min_eq_right hhigh'.le, max_eq_right hle]
    · rename_i hhigh
      have hhigh' :=
        (le_iff hx hhi).mp (le_of_not_lt (isNaN_eq_false hhi) (isNaN_eq_false hx) hhigh)
      rw [min_eq_left hhigh', max_eq_right hlow']

/-- NaN passes through. -/
theorem clamp_of_nan (hx : x.isNaN = true) : clamp lo hi x = x := by
  unfold clamp
  rw [if_neg (not_lt_of_nan (.inl hx))]
  exact if_neg (not_lt_of_nan (.inr hx))

/-! ## Elementary functions -/

theorem not_nan_ofBits {sign magnitude : Nat} (hsign : sign = 0 ∨ sign = 2 ^ 31)
    (hmagnitude : magnitude ≤ 0x7f800000) :
    (Float32.ofBits (UInt32.ofNat (sign + magnitude))).isNaN = false := by
  change (Float32.Model.pack (UnpackedFloat.unpack Format.binary32 _)).unpack.isNaN = false
  rw [isNaN_unpack_pack]
  obtain ⟨b, hb⟩ : ∃ b, (UInt32.ofNat (sign + magnitude)).toBitVec = b := ⟨_, rfl⟩
  have hnat : b.toNat = sign + magnitude := by
    rw [← hb]
    show (sign + magnitude) % 2 ^ 32 = _
    omega
  have hexponent : (@unpackExponent Format.binary32 b).toNat = b.toNat / 2 ^ 23 % 2 ^ 8 := by
    unfold unpackExponent
    rw [BitVec.toNat_cast, BitVec.extractLsb_toNat, Nat.shiftRight_eq_div_pow]
    rfl
  have hmantissa : (@unpackMantissa Format.binary32 b).toNat = b.toNat % 2 ^ 23 := by
    unfold unpackMantissa
    rw [BitVec.toNat_cast, BitVec.extractLsb_toNat, Nat.shiftRight_zero]
    rfl
  rw [hb]
  unfold UnpackedFloat.unpack
  dsimp only
  split
  · rename_i hmax
    have hmax' : (@unpackExponent Format.binary32 b).toNat = 255 := congrArg BitVec.toNat hmax
    have hzero : @unpackMantissa Format.binary32 b = 0#_ := by
      apply BitVec.eq_of_toNat_eq
      rw [hmantissa]
      show _ = 0
      omega
    rw [if_pos hzero]
    rfl
  · split
    · split <;> rfl
    · rfl

theorem not_nan_ofParts (p : Parts) : (ofParts p).isNaN = false := by
  have hsign : (if p.negative then twoPow 31 else 0) = 0
      ∨ (if p.negative then twoPow 31 else 0) = 2 ^ 31 := by
    cases p.negative
    · exact .inl rfl
    · exact .inr rfl
  unfold ofParts
  dsimp only
  split
  · have hzero := @not_nan_ofBits _ 0 hsign (Nat.zero_le _)
    rwa [Nat.add_zero] at hzero
  · exact not_nan_ofBits hsign (min_le_right _ _)

theorem not_nan_acos (hlo : -1 ≤ x) (hhi : x ≤ 1) : (acos x).isNaN = false := by
  have hone : (-1 : Float32).isFinite = true := by decide
  have hone' : value (-1 : Float32) = -1 := by decide +kernel
  have hfinite := isFinite_of_bounds hone isFinite_one hlo hhi
  rw [le_iff hone hfinite, hone'] at hlo
  rw [le_iff hfinite isFinite_one, value_one] at hhi
  obtain ⟨habsFinite, habs⟩ := abs_value hfinite
  have hle : x.abs ≤ 1 := by
    rw [le_iff habsFinite isFinite_one, habs, value_one]
    exact abs_le.mpr ⟨hlo, hhi⟩
  unfold acos
  rw [if_pos hle]
  exact not_nan_ofParts _

theorem acos_of_nan (h : x.isNaN = true) : (acos x).isNaN = true := by
  have hnot : ¬x.abs ≤ 1 := by
    intro hle
    have habs : x.abs.isNaN = true := by
      change x.toModel.unpack.isNaN = true at h
      change (Float32.Model.pack x.toModel.unpack.abs).unpack.isNaN = true
      rw [isNaN_unpack_pack]
      generalize x.toModel.unpack = u at *
      cases u with
      | notANumber => rfl
      | _ => exact absurd h Bool.noConfusion
    rw [(not_nan_of_le hle).1] at habs
    exact absurd habs Bool.false_ne_true
  unfold acos
  rw [if_neg hnot]
  decide

theorem isNegative_of_positive (h : Positive x.toModel.unpack) : isNegative x = false := by
  obtain ⟨b, hb⟩ : ∃ b, x.toBits.toBitVec = b := ⟨_, rfl⟩
  have hsign : Sign.ofBitVec (@unpackSign Format.binary32 b) = .positive := by
    have hunpack : UnpackedFloat.unpack Format.binary32 b = x.toModel.unpack := by
      rw [← hb]
      rfl
    rw [← hunpack, positive_iff] at h
    unfold UnpackedFloat.unpack at h
    dsimp only at h
    split at h
    · split at h
      · exact Option.some.inj h
      · exact absurd h (by simp [unpackedSign])
    · split at h
      · split at h <;> exact Option.some.inj h
      · exact Option.some.inj h
  have hzero : @unpackSign Format.binary32 b = 0#1 := by
    by_contra hne
    unfold Sign.ofBitVec at hsign
    rw [if_neg hne] at hsign
    exact absurd hsign Sign.noConfusion
  have htop : b.toNat / 2 ^ 31 % 2 = 0 := by
    have hnat := congrArg BitVec.toNat hzero
    unfold unpackSign at hnat
    rw [BitVec.toNat_cast, BitVec.extractLsb_toNat, Nat.shiftRight_eq_div_pow] at hnat
    exact hnat
  have hlt : b.toNat < 2 ^ 32 := b.isLt
  unfold isNegative twoPow
  refine decide_eq_false ?_
  show ¬2 ^ 31 ≤ x.toBits.toBitVec.toNat
  rw [hb]
  omega

/-- A power of a positive base is defined. -/
theorem not_nan_pow (hx : Positive x.toModel.unpack) (hy : y.isNaN = false) :
    (pow x y).isNaN = false := by
  have hsign := isNegative_of_positive hx
  have hxNaN : x.isNaN = false := not_nan_of_sign (positive_iff.mp hx)
  have hinf : infinity.isNaN = false := by decide
  have hone := isNaN_eq_false isFinite_one
  have hzero := isNaN_eq_false isFinite_zero
  unfold pow signedExp2
  rw [hsign, hxNaN, hy]
  dsimp only
  simp only [Bool.false_and, Bool.or_false, Bool.false_eq_true, if_false]
  repeat' split
  all_goals first | exact hone | exact hinf | exact hzero | exact not_nan_ofParts _

/-- A product with a finite factor is defined, unless that factor is zero and the other infinite. -/
theorem not_nan_mul (hx : x.isFinite = true) (hy : y.isNaN = false)
    (h : value x ≠ 0 ∨ y.isFinite = true) : (x * y).isNaN = false := by
  change (Float32.Model.pack (UnpackedFloat.mul _ x.toModel.unpack y.toModel.unpack)).unpack.isNaN
    = false
  rw [isNaN_unpack_pack]
  have hstored := stored_unpack hx
  change y.toModel.unpack.isNaN = false at hy
  change unpackedValue x.toModel.unpack ≠ 0 ∨ y.toModel.unpack.isFinite = true at h
  generalize x.toModel.unpack = u at *
  generalize y.toModel.unpack = v at *
  cases v with
  | notANumber => exact absurd hy Bool.noConfusion
  | infinity s' =>
      cases hstored with
      | zero s => exact absurd rfl (h.resolve_right Bool.noConfusion)
      | finite s h => rfl
  | zero s' => cases hstored <;> rfl
  | finite s' m' e' hm' =>
      cases hstored with
      | zero s => rfl
      | finite s h =>
          rw [isNaN_eq]
          exact congrArg Option.isNone (sign_roundWithAccuracy _ _ _ _)

/-- A difference of finite scalars is defined. -/
theorem not_nan_sub (hx : x.isFinite = true) (hy : y.isFinite = true) :
    (x - y).isNaN = false := by
  change (Float32.Model.pack (UnpackedFloat.sub _ x.toModel.unpack y.toModel.unpack)).unpack.isNaN
    = false
  rw [isNaN_unpack_pack, unpacked_sub_eq]
  have hu := stored_unpack hx
  obtain ⟨hv, -⟩ := (stored_unpack hy).neg
  generalize x.toModel.unpack = u at *
  generalize y.toModel.unpack.neg = v at *
  cases hu with
  | zero s =>
      cases hv with
      | zero s' => cases s <;> cases s' <;> rfl
      | finite s' h' => rfl
  | finite s h =>
      cases hv with
      | zero s' => rfl
      | finite s' h' => exact not_nan_normalize _ _ _

/-! ## Sizes -/

theorem value_nonneg (h : Positive x.toModel.unpack) : 0 ≤ value x := by
  unfold value
  generalize x.toModel.unpack = u at *
  cases h with
  | finite hm =>
      rw [unpackedValue_positive]
      positivity
  | _ => exact le_rfl

theorem positive_of_value_pos (hx : x.isFinite = true) (hpos : 0 < value x) :
    Positive x.toModel.unpack := by
  have hstored := stored_unpack hx
  unfold value at hpos
  generalize x.toModel.unpack = u at *
  cases hstored with
  | zero s => exact absurd hpos (lt_irrefl 0)
  | @finite s m e h =>
      cases s with
      | positive => exact .finite h.pos
      | negative =>
          rw [unpackedValue_negative] at hpos
          have : (0 : ℚ) ≤ m * 2 ^ e := by positivity
          linarith

theorem neg_value (hx : x.isFinite = true) : (-x).isFinite = true ∧ value (-x) = -value x := by
  obtain ⟨hstored, hvalue⟩ := (stored_unpack hx).neg
  obtain ⟨hfinite, hpack⟩ := hstored.value_pack
  exact ⟨hfinite, hpack.trans hvalue⟩

theorem tiny_le_value (hx : x.isFinite = true) (hpos : 0 < value x) : tiny ≤ value x := by
  have hstored := stored_unpack hx
  have hpositive := positive_of_value_pos hx hpos
  unfold value at *
  generalize x.toModel.unpack = u at *
  cases hstored with
  | zero s => exact absurd hpos (lt_irrefl 0)
  | @finite s m e h =>
      obtain rfl : s = .positive := Option.some.inj (positive_iff.mp hpositive)
      have hm : (1 : ℝ) ≤ m := by exact_mod_cast h.pos
      have he : (2 : ℝ) ^ (-149 : Int) ≤ 2 ^ e := zpow_le_zpow_right₀ (by norm_num) h.low
      have htiny : tiny = 2 ^ (-149 : Int) := by
        unfold tiny
        rw [zpow_neg, one_div]
        norm_cast
      rw [unpackedValue_positive, htiny]
      push_cast
      calc (2 : ℝ) ^ (-149 : Int) ≤ 2 ^ e := he
        _ = 1 * 2 ^ e := (one_mul _).symm
        _ ≤ m * 2 ^ e := mul_le_mul_of_nonneg_right hm (by positivity)

/-- The largest scalar. -/
theorem abs_value_le (hx : x.isFinite = true) : |(value x : ℝ)| ≤ 2 ^ 128 - 2 ^ 104 := by
  have hstored := stored_unpack hx
  unfold value
  generalize x.toModel.unpack = u at *
  cases hstored with
  | zero s =>
      rw [unpackedValue_zero, Rat.cast_zero, abs_zero]
      norm_num
  | @finite s m e h =>
      have hm : (m : ℝ) ≤ 2 ^ 24 - 1 := by
        have hlt : m + 1 ≤ 2 ^ 24 := h.lt
        have hlt' : (m : ℝ) + 1 ≤ 2 ^ 24 := by exact_mod_cast hlt
        linarith
      have he : (2 : ℝ) ^ e ≤ 2 ^ (104 : Int) := zpow_le_zpow_right₀ (by norm_num) h.high
      rw [Stored.finite_value s h, abs_factor_mul s (by positivity)]
      calc (m : ℝ) * 2 ^ e ≤ (2 ^ 24 - 1) * 2 ^ (104 : Int) :=
            mul_le_mul hm he (by positivity) (by norm_num)
        _ = 2 ^ 128 - 2 ^ 104 := by norm_num

/-- The product of two scalars of limited size. -/
theorem mul_le_size {t : ℝ} (hx : x.isFinite = true) (hy : y.isFinite = true)
    (h : |(value x : ℝ) * value y| ≤ t) (ht : t < 2 ^ 127) :
    (x * y).isFinite = true ∧ |(value (x * y) : ℝ)| ≤ (1 + ulp) * t + tiny := by
  obtain ⟨hfinite, hnear⟩ := product_near hx hy (h.trans_lt ht)
  refine ⟨hfinite, ?_⟩
  have htriangle := abs_sub_abs_le_abs_sub (value (x * y) : ℝ) (value x * value y)
  have hscaled := mul_le_mul_of_nonneg_left h ulp_nonneg
  linarith

/-- The reciprocal of a scalar far from the ends of the range. -/
theorem reciprocal_near (hx : x.isFinite = true) (hlo : 1 / 2 ^ 76 ≤ (value x : ℝ)) :
    (1 / x).isFinite = true
      ∧ |(value (1 / x) : ℝ) - 1 / value x| ≤ ulp * (1 / value x) + tiny := by
  have hpos : (0 : ℝ) < value x := lt_of_lt_of_le (by positivity) hlo
  have hinverse : |((value (1 : Float32) : ℚ) : ℝ) / value x| = 1 / value x := by
    rw [value_one, Rat.cast_one]
    exact abs_of_pos (by positivity)
  have hsize : 1 / (value x : ℝ) ≤ 2 ^ 76 := by
    rw [div_le_iff₀ hpos]
    linarith
  obtain ⟨hfinite, hnear⟩ := div_near isFinite_one hx (by exact_mod_cast hpos.ne')
    (by rw [hinverse]; linarith)
  rw [hinverse, value_one, Rat.cast_one] at hnear
  exact ⟨hfinite, hnear.trans
    (max_le_add_of_nonneg (mul_nonneg ulp_nonneg (one_div_nonneg.mpr hpos.le)) tiny_nonneg)⟩

/-- A scalar times its reciprocal is close to one. -/
theorem mul_reciprocal_le (hx : x.isFinite = true) (hlo : 1 / 2 ^ 76 ≤ (value x : ℝ))
    (hhi : (value x : ℝ) ≤ 2 ^ 65) : (value x : ℝ) * value (1 / x) ≤ 2 := by
  have hpos : (0 : ℝ) < value x := lt_of_lt_of_le (by positivity) hlo
  have hle := (abs_le.mp (reciprocal_near hx hlo).2).2
  have hscaled := mul_le_mul_of_nonneg_left hle hpos.le
  have hcancel : (value x : ℝ) * (1 / value x) = 1 := mul_one_div_cancel hpos.ne'
  have hrest : (value x : ℝ) * (ulp * (1 / value x) + tiny) = ulp + value x * tiny := by
    rw [mul_add, mul_left_comm, hcancel, mul_one]
  rw [mul_sub, hcancel, hrest] at hscaled
  have hsmall := mul_le_mul_of_nonneg_right hhi tiny_nonneg
  unfold ulp tiny at *
  linarith

/-- A reciprocal does not vanish. -/
theorem reciprocal_pos (hx : x.isFinite = true) (hlo : 1 / 2 ^ 76 ≤ (value x : ℝ))
    (hhi : (value x : ℝ) ≤ 2 ^ 65) : (1 / x).isFinite = true ∧ 0 < 1 / x := by
  have hpos : (0 : ℝ) < value x := lt_of_lt_of_le (by positivity) hlo
  obtain ⟨hfinite, hnear⟩ := reciprocal_near hx hlo
  have hge := (abs_le.mp hnear).1
  have hsize : 1 / 2 ^ 65 ≤ 1 / (value x : ℝ) := one_div_le_one_div_of_le hpos hhi
  have hvalue : (0 : ℝ) < value (1 / x) := by
    unfold ulp tiny at hge
    linarith
  exact ⟨hfinite, (zero_lt_iff hfinite).mpr (by exact_mod_cast hvalue)⟩

/-- The square of a scalar is at most twice what it rounds to, but for the least scalars. -/
theorem sq_value_le (h : (x * x).isFinite = true) :
    (value x : ℝ) ^ 2 ≤ 2 * (value (x * x) + tiny) := by
  obtain ⟨hx, -⟩ := isFinite_of_mul h
  have hnear := (mul_rounds hx hx).near h
  have hsq : (value x : ℝ) * value x = value x ^ 2 := (sq _).symm
  rw [hsq, abs_of_nonneg (sq_nonneg (value x : ℝ))] at hnear
  have hmax := max_le_add_of_nonneg (mul_nonneg ulp_nonneg (sq_nonneg (value x : ℝ))) tiny_nonneg
  have hlow := (abs_le.mp (hnear.trans hmax)).1
  have := sq_nonneg (value x : ℝ)
  have := tiny_nonneg
  unfold ulp at *
  linarith

/-- Sums of positive scalars are not much smaller than the exact ones. -/
theorem add_value_le (hx : Positive x.toModel.unpack) (hy : Positive y.toModel.unpack)
    (h : (x + y).isFinite = true) :
    (1 - ulp) * ((value x : ℝ) + value y) ≤ value (x + y) := by
  obtain ⟨hx', hy'⟩ := isFinite_of_add h
  have hnear := (add_rounds hx' hy').near h
  have hx₀ : (0 : ℝ) ≤ value x := by exact_mod_cast value_nonneg hx
  have hy₀ : (0 : ℝ) ≤ value y := by exact_mod_cast value_nonneg hy
  rw [abs_of_nonneg (add_nonneg hx₀ hy₀)] at hnear
  have := (abs_le.mp hnear).1
  linarith

/-! ## Zeros -/

theorem value_of_isZero (h : (x == 0) = true) : value x = 0 := by
  obtain ⟨s, hs⟩ := isZero_iff.mp h
  unfold value
  rw [hs]
  rfl

theorem isZero_of_value (hx : x.isFinite = true) (h : value x = 0) : (x == 0) = true :=
  isZero_iff.mpr (unpack_of_value_eq_zero hx h)

theorem isFinite_of_isZero (h : (x == 0) = true) : x.isFinite = true := by
  obtain ⟨s, hs⟩ := isZero_iff.mp h
  show x.toModel.unpack.isFinite = true
  rw [hs]
  rfl

theorem unpack_pack_zero (s : Sign) : (Float32.Model.pack (.zero s)).unpack = .zero s := by
  cases s <;> rfl

theorem isZero_mul (hx : x.isFinite = true) (hy : y.isFinite = true)
    (h : (x == 0) = true ∨ (y == 0) = true) : (x * y == 0) = true := by
  rw [isZero_iff, isZero_iff] at h
  rw [isZero_iff]
  change ∃ s, (Float32.Model.pack
    (UnpackedFloat.mul _ x.toModel.unpack y.toModel.unpack)).unpack = .zero s
  have hu := stored_unpack hx
  have hv := stored_unpack hy
  generalize x.toModel.unpack = u at *
  generalize y.toModel.unpack = v at *
  rcases h with ⟨s, rfl⟩ | ⟨s, rfl⟩
  · cases hv <;> exact ⟨_, unpack_pack_zero _⟩
  · cases hu <;> exact ⟨_, unpack_pack_zero _⟩

/-- The same number; zero has two signs. -/
def Alike (x y : Float32) : Prop := x = y ∨ ((x == 0) = true ∧ (y == 0) = true)

theorem Alike.value_eq (h : Alike x y) : value x = value y := by
  rcases h with rfl | ⟨hx, hy⟩
  · rfl
  · rw [value_of_isZero hx, value_of_isZero hy]

theorem Alike.isFinite (h : Alike x y) (hy : y.isFinite = true) : x.isFinite = true := by
  rcases h with rfl | ⟨hx, -⟩
  · exact hy
  · exact isFinite_of_isZero hx

theorem Alike.trans {z : Float32} (h : Alike x y) (h' : Alike y z) : Alike x z := by
  rcases h with rfl | ⟨hx, hy⟩
  · exact h'
  · rcases h' with rfl | ⟨-, hz⟩
    · exact .inr ⟨hx, hy⟩
    · exact .inr ⟨hx, hz⟩

theorem Alike.mul_self_eq (h : Alike x y) : x * x = y * y := by
  rcases h with rfl | ⟨hx, hy⟩
  · rfl
  · have hsquare : ∀ {z : Float32}, (z == 0) = true → z * z = 0 := by
      intro z hz
      obtain ⟨s, hs⟩ := isZero_iff.mp hz
      show (⟨Float32.Model.pack (UnpackedFloat.mul Format.binary32 z.toModel.unpack
        z.toModel.unpack)⟩ : Float32) = 0
      rw [hs]
      cases s <;> rfl
    rw [hsquare hx, hsquare hy]

/-- Adding a zero changes nothing but the sign of a zero. -/
theorem alike_add_zero (hx : x.isFinite = true) (hy : (y == 0) = true) : Alike (x + y) x := by
  obtain ⟨s, hs⟩ := isZero_iff.mp hy
  have hsum : x + y = ⟨Float32.Model.pack (UnpackedFloat.add Format.binary32 x.toModel.unpack
      (.zero s))⟩ := by
    rw [← hs]
    rfl
  have hstored := stored_unpack hx
  cases hunpack : x.toModel.unpack with
  | notANumber => rw [hunpack] at hstored; cases hstored
  | infinity s' => rw [hunpack] at hstored; cases hstored
  | zero s' =>
      refine .inr ⟨isZero_iff.mpr ?_, isZero_iff.mpr ⟨s', hunpack⟩⟩
      rw [hsum, hunpack]
      cases s <;> cases s' <;> exact ⟨_, rfl⟩
  | finite s' m e hm =>
      refine .inl ?_
      have hvalid : UnpackedFloat.pack Format.binary32 (UnpackedFloat.unpack Format.binary32
          x.toModel.toBits.toBitVec) = x.toModel.toBits.toBitVec :=
        pack_unpack_of_valid (by decide) x.toModel.valid
      have hpack : Float32.Model.pack x.toModel.unpack = x.toModel := by
        unfold Float32.Model.pack Float32.Model.unpack
        congr 1
        rw [hvalid]
      rw [hsum, hunpack]
      show (⟨Float32.Model.pack (.finite s' m e hm)⟩ : Float32) = x
      rw [← hunpack, hpack]

/-! ## Signs of products -/

/-- A product has the sign of the exact one, whether it is rounded to zero or overflows. -/
theorem value_mul_signs (hx : x.isFinite = true) (hy : y.isFinite = true) :
    (0 ≤ value x * value y → 0 ≤ value (x * y))
      ∧ (value x * value y ≤ 0 → value (x * y) ≤ 0) := by
  have hproduct : x * y = ⟨Float32.Model.pack (UnpackedFloat.mul Format.binary32
    x.toModel.unpack y.toModel.unpack)⟩ := rfl
  by_cases hzero : (x == 0) = true ∨ (y == 0) = true
  · rw [value_of_isZero (isZero_mul hx hy hzero)]
    exact ⟨fun _ => le_rfl, fun _ => le_rfl⟩
  · have hu := stored_unpack hx
    have hv := stored_unpack hy
    rw [isZero_iff, isZero_iff] at hzero
    unfold value at *
    generalize x.toModel.unpack = u at *
    generalize y.toModel.unpack = v at *
    cases hu with
    | zero s => exact absurd (.inl ⟨s, rfl⟩) hzero
    | @finite s m e h =>
        cases hv with
        | zero s' => exact absurd (.inr ⟨s', rfl⟩) hzero
        | @finite s' m' e' h' =>
            have hsign : sign? (x * y) = some (s * s') := by
              rw [hproduct]
              exact (sign_unpack_pack _).trans (sign_roundWithAccuracy _ _ _ _)
            have hm : (0 : ℚ) < m * 2 ^ e := by
              have := h.pos
              positivity
            have hm' : (0 : ℚ) < m' * 2 ^ e' := by
              have := h'.pos
              positivity
            have hpos := mul_pos hm hm'
            cases s <;> cases s' <;>
              simp only [unpackedValue_positive, unpackedValue_negative, neg_mul, mul_neg,
                neg_neg]
            · exact ⟨fun _ => value_nonneg (positive_iff.mpr hsign), fun hle => by linarith⟩
            · exact ⟨fun hle => by linarith, fun _ => value_nonpos hsign rfl⟩
            · exact ⟨fun hle => by linarith, fun _ => value_nonpos hsign rfl⟩
            · exact ⟨fun _ => value_nonneg (positive_iff.mpr hsign), fun hle => by linarith⟩

/-- So has a difference. -/
theorem value_sub_nonpos (hx : x.isFinite = true) (hy : y.isFinite = true)
    (hfinite : (x - y).isFinite = true) (h : value x ≤ value y) : value (x - y) ≤ 0 := by
  have hle : (value x : ℝ) ≤ value y := by exact_mod_cast h
  have hnear := (sub_rounds hx hy).near hfinite
  rw [abs_of_nonpos (by linarith : (value x : ℝ) - value y ≤ 0)] at hnear
  have hbound := (abs_le.mp hnear).2
  have hresult : (value (x - y) : ℝ) ≤ 0 := by
    unfold ulp at hbound
    linarith
  exact_mod_cast hresult

end Facet.Scalar

/-! ## Unit vectors -/

namespace Facet.Vec3

open Scalar

variable {a n : Vec3}

/-- No coordinate is NaN. -/
structure Defined (a : Vec3) : Prop where
  x : a.x.isNaN = false
  y : a.y.isNaN = false
  z : a.z.isNaN = false

theorem IsFinite.defined (h : a.IsFinite) : a.Defined :=
  ⟨isNaN_eq_false h.x, isNaN_eq_false h.y, isNaN_eq_false h.z⟩

theorem sub_defined {b : Vec3} (ha : a.IsFinite) (hb : b.IsFinite) : (a - b).Defined :=
  ⟨not_nan_sub ha.x hb.x, not_nan_sub ha.y hb.y, not_nan_sub ha.z hb.z⟩

theorem mul_defined {k : Float32} (ha : a.IsFinite) (hk : k.isFinite = true) : (a * k).Defined :=
  ⟨not_nan_mul ha.x (isNaN_eq_false hk) (.inr hk), not_nan_mul ha.y (isNaN_eq_false hk) (.inr hk),
    not_nan_mul ha.z (isNaN_eq_false hk) (.inr hk)⟩

theorem positive_dot_self (h : a.Defined) : Positive (a.dot a).toModel.unpack :=
  positive_add (positive_add (positive_mul_self h.x) (positive_mul_self h.y))
    (positive_mul_self h.z)

theorem positive_length (h : a.Defined) : Positive a.length.toModel.unpack :=
  positive_sqrt (positive_dot_self h)

theorem not_nan_length (h : a.Defined) : a.length.isNaN = false :=
  not_nan_of_sign (positive_iff.mp (positive_length h))

theorem isInf_length (h : a.Defined) (hy : a.y.isInf = true) : a.length.isInf = true := by
  have hx := positive_mul_self h.x
  have hy' := positive_mul_self h.y
  have hz := positive_mul_self h.z
  have hsum := isInf_add hx hy' (.inr (isInf_mul_self hy))
  exact isInf_sqrt (positive_dot_self h)
    (isInf_add (positive_add hx hy') hz (.inl hsum))

/-- The coordinates of a vector are not much larger than its length. -/
theorem coordinates_le_length (hlength : a.length.isFinite = true) (hpos : 0 < value a.length) :
    a.IsFinite ∧ 1 / 2 ^ 76 ≤ (value a.length : ℝ) ∧ (value a.length : ℝ) ≤ 2 ^ 65
      ∧ |(value a.x : ℝ)| ≤ 4 * value a.length ∧ |(value a.y : ℝ)| ≤ 4 * value a.length
      ∧ |(value a.z : ℝ)| ≤ 4 * value a.length := by
  have hq : (a.dot a).isFinite = true := isFinite_of_sqrt hlength
  obtain ⟨hxy, hzz⟩ := isFinite_of_add hq
  obtain ⟨hxx, hyy⟩ := isFinite_of_add hxy
  have ha : a.IsFinite :=
    ⟨(isFinite_of_mul hxx).1, (isFinite_of_mul hyy).1, (isFinite_of_mul hzz).1⟩
  -- the length is positive, so the sum of the squares is at least the least scalar
  have hpositive := positive_dot_self ha.defined
  have hroot := (sqrt_near hq (value_nonneg hpositive)).2
  change |(value a.length : ℝ) - √(value (a.dot a))| ≤ _ at hroot
  have hlength₀ : (0 : ℝ) < value a.length := by exact_mod_cast hpos
  have hqpos : 0 < value (a.dot a) := by
    refine lt_of_le_of_ne (value_nonneg hpositive) fun hzero => ?_
    rw [← hzero, Rat.cast_zero, Real.sqrt_zero, mul_zero, sub_zero, abs_of_pos hlength₀] at hroot
    linarith
  have htiny := tiny_le_value hq hqpos
  obtain ⟨hroot₁, hroot₂⟩ := abs_le.mp hroot
  have hlo : 1 / 2 ^ 75 ≤ √(value (a.dot a) : ℝ) := by
    refine Real.le_sqrt_of_sq_le (le_trans ?_ htiny)
    unfold tiny
    norm_num
  have hhi : √(value (a.dot a) : ℝ) ≤ 2 ^ 64 := by
    refine Real.sqrt_le_iff.mpr ⟨by positivity, ?_⟩
    have := (abs_le.mp (abs_value_le hq)).2
    norm_num at this ⊢
    linarith
  -- no square exceeds a few times the sum of all three
  have hx₀ := positive_mul_self ha.defined.x
  have hy₀ := positive_mul_self ha.defined.y
  have hz₀ := positive_mul_self ha.defined.z
  have hsum := add_value_le (positive_add hx₀ hy₀) hz₀ hq
  have hsum' := add_value_le hx₀ hy₀ hxy
  change _ ≤ (value (a.dot a) : ℝ) at hsum
  have hx := sq_value_le hxx
  have hy := sq_value_le hyy
  have hz := sq_value_le hzz
  have hx₁ : (0 : ℝ) ≤ value (a.x * a.x) := by exact_mod_cast value_nonneg hx₀
  have hy₁ : (0 : ℝ) ≤ value (a.y * a.y) := by exact_mod_cast value_nonneg hy₀
  have hz₁ : (0 : ℝ) ≤ value (a.z * a.z) := by exact_mod_cast value_nonneg hz₀
  have hcoordinate : ∀ {t : ℝ}, t ^ 2 ≤ 3 ^ 2 * value (a.dot a) → |t| ≤ 4 * value a.length := by
    intro t ht
    have h := Real.abs_le_sqrt ht
    rw [Real.sqrt_mul (by positivity), Real.sqrt_sq (by positivity)] at h
    unfold ulp at hroot₁
    linarith
  unfold ulp at hroot₁ hroot₂ hsum hsum'
  exact ⟨ha, by linarith, by linarith, hcoordinate (by linarith), hcoordinate (by linarith),
    hcoordinate (by linarith)⟩

theorem normalized?_eq_some : a.normalized? = some n ↔
    (1 / a.length).isFinite = true ∧ 0 < 1 / a.length ∧ a * (1 / a.length) = n := by
  unfold normalized?
  dsimp only
  rw [Option.ite_none_right_eq_some, Bool.and_eq_true, decide_eq_true_iff, Option.some.injEq,
    and_assoc]

/-- Every coordinate is finite and at most nine. -/
structure Small (a : Vec3) : Prop extends a.IsFinite where
  size_x : |value a.x| ≤ 9
  size_y : |value a.y| ≤ 9
  size_z : |value a.z| ≤ 9

instance (a : Vec3) : Decidable a.Small :=
  decidable_of_iff (a.IsFinite ∧ |value a.x| ≤ 9 ∧ |value a.y| ≤ 9 ∧ |value a.z| ≤ 9)
    ⟨fun ⟨h, hx, hy, hz⟩ => ⟨h, hx, hy, hz⟩, fun ⟨h, hx, hy, hz⟩ => ⟨h, hx, hy, hz⟩⟩

/-- **The coordinates of a unit vector are small**, whatever vector it is along. -/
theorem normalized?_small (h : a.normalized? = some n) : a.IsFinite ∧ n.Small := by
  obtain ⟨hr, hrpos, rfl⟩ := normalized?_eq_some.mp h
  obtain ⟨hlength, hpos⟩ := of_reciprocal hr hrpos
  obtain ⟨ha, hlo, hhi, hx, hy, hz⟩ := coordinates_le_length hlength hpos
  have hproduct := mul_reciprocal_le hlength hlo hhi
  have hr₀ : (0 : ℝ) ≤ value (1 / a.length) := by
    have hvalue := (zero_lt_iff hr).mp hrpos
    exact_mod_cast hvalue.le
  have hcoordinate : ∀ {s : Float32}, s.isFinite = true → |(value s : ℝ)| ≤ 4 * value a.length →
      (s * (1 / a.length)).isFinite = true ∧ |value (s * (1 / a.length))| ≤ 9 := by
    intro s hs hle
    have hsize : |(value s : ℝ) * value (1 / a.length)| ≤ 8 := by
      rw [abs_mul, abs_of_nonneg hr₀]
      have hscaled := mul_le_mul_of_nonneg_right hle hr₀
      linarith
    obtain ⟨hfinite, hle⟩ := mul_le_size hs hr hsize (by norm_num)
    have hle' : |(value (s * (1 / a.length)) : ℝ)| ≤ 9 := by
      unfold ulp tiny at hle
      linarith
    exact ⟨hfinite, by exact_mod_cast hle'⟩
  obtain ⟨hx, hx'⟩ := hcoordinate ha.x hx
  obtain ⟨hy, hy'⟩ := hcoordinate ha.y hy
  obtain ⟨hz, hz'⟩ := hcoordinate ha.z hz
  exact ⟨ha, ⟨hx, hy, hz⟩, hx', hy', hz'⟩

theorem normalizedOr_small {fallback : Vec3} (h : fallback.Small) :
    (a.normalizedOr fallback).Small := by
  unfold normalizedOr
  cases hunit : a.normalized? with
  | none => exact h
  | some n => exact (normalized?_small hunit).2

theorem Small.neg (h : a.Small) : (-a).Small := by
  obtain ⟨hx, hx'⟩ := neg_value h.x
  obtain ⟨hy, hy'⟩ := neg_value h.y
  obtain ⟨hz, hz'⟩ := neg_value h.z
  refine ⟨⟨hx, hy, hz⟩, ?_, ?_, ?_⟩
  · show |value (-a.x)| ≤ 9
    rw [hx', abs_neg]
    exact h.size_x
  · show |value (-a.y)| ≤ 9
    rw [hy', abs_neg]
    exact h.size_y
  · show |value (-a.z)| ≤ 9
    rw [hz', abs_neg]
    exact h.size_z

end Facet.Vec3
