import Facet.Scalar

/-!
# Little-endian bytes

The byte image of words and scalars as device memory holds it, and the way back. A scalar is its
bit pattern, so a zero keeps its sign.

NaN is the exception. `Float32` has one NaN, the pattern `7fc00000`, while a device keeps the
payload of whichever NaN it is given. So wherever bytes of scalars are compared or read back, NaNs
of different payloads are one value here.
-/

namespace Facet.Bytes

/-- The four bytes of a word, the lowest first. -/
def ofWord (w : UInt32) : List UInt8 :=
  [w.toUInt8, (w >>> 8).toUInt8, (w >>> 16).toUInt8, (w >>> 24).toUInt8]

/-- The word whose bytes, from the lowest, are given. -/
def word (b₀ b₁ b₂ b₃ : UInt8) : UInt32 :=
  UInt32.ofNat (b₀.toNat + 0x100 * b₁.toNat + 0x10000 * b₂.toNat + 0x1000000 * b₃.toNat)

/-- The four bytes of a scalar. -/
def ofScalar (x : Float32) : List UInt8 := ofWord x.toBits

/-- The bytes of a row of scalars, packed without gaps. -/
def ofScalars (xs : List Float32) : List UInt8 := xs.flatMap ofScalar

/-- The words of a byte row; up to three bytes left over at the end are ignored. -/
def words : List UInt8 → List UInt32
  | b₀ :: b₁ :: b₂ :: b₃ :: rest => word b₀ b₁ b₂ b₃ :: words rest
  | _ => []

/-- The scalars of a byte row. -/
def scalars (bytes : List UInt8) : List Float32 := (words bytes).map Float32.ofBits

/-! ## Round trips -/

theorem word_ofWord (w : UInt32) :
    word w.toUInt8 (w >>> 8).toUInt8 (w >>> 16).toUInt8 (w >>> 24).toUInt8 = w := by
  have h := w.toNat_lt
  apply UInt32.toNat_inj.mp
  simp only [word, UInt32.toNat_ofNat', UInt32.toNat_toUInt8, UInt32.toNat_shiftRight,
    Nat.shiftRight_eq_div_pow, UInt32.reduceToNat, Nat.reduceMod, Nat.reducePow]
  omega

@[simp] theorem words_ofWord_append (w : UInt32) (rest : List UInt8) :
    words (ofWord w ++ rest) = w :: words rest := by
  simp [ofWord, words, word_ofWord]

theorem words_ofScalars (xs : List Float32) : words (ofScalars xs) = xs.map Float32.toBits := by
  induction xs with
  | nil => rfl
  | cons x xs ih =>
    rw [ofScalars, List.flatMap_cons, ofScalar, words_ofWord_append, List.map_cons]
    exact congrArg (x.toBits :: ·) ih

@[simp] theorem length_ofWord (w : UInt32) : (ofWord w).length = 4 := rfl

@[simp] theorem length_ofScalars (xs : List Float32) : (ofScalars xs).length = 4 * xs.length := by
  induction xs with
  | nil => rfl
  | cons x xs ih =>
    simp only [ofScalars, List.flatMap_cons, List.length_append, List.length_cons] at ih ⊢
    rw [ih]
    simp only [ofScalar, length_ofWord]
    omega

end Facet.Bytes
