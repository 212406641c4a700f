import ChainScript.Proofs.Floats

/-!
# The order of numbers

Two floating-point numbers can be compared just when both are numbers, and comparing them the other
way round turns the answer round. So of two numbers one is at most the other, which is all that is
needed of the order to keep a number within bounds. An absolute value is never below zero.
-/

namespace ChainScript

open Float.Model

namespace Comparison

open UnpackedFloat (packComponents unpackSign)

lemma compare_magnitudes_swap (e e' : Int) (m m' : Nat) :
    (compare e' e).then (compare m' m) = ((compare e e').then (compare m m')).swap := by
  rw [Ordering.swap_then, ← Std.OrientedCmp.eq_swap, ← Std.OrientedCmp.eq_swap]

lemma compare_swap (x y : UnpackedFloat) : y.compare x = (x.compare y).map Ordering.swap := by
  cases x with
  | notANumber => cases y <;> rfl
  | infinity s =>
    cases y with
    | infinity t => cases s <;> cases t <;> rfl
    | _ => cases s <;> rfl
  | zero s =>
    cases y with
    | infinity t | finite t _ _ _ => cases t <;> rfl
    | _ => rfl
  | finite s m e hm =>
    cases y with
    | finite t m' e' hm' =>
      -- only numbers of the same sign are compared by their magnitudes
      cases s <;> cases t
      · exact congrArg (some ∘ Ordering.swap) (compare_magnitudes_swap e e' m m')
      · rfl
      · rfl
      · exact congrArg some (compare_magnitudes_swap e e' m m')
    | infinity t => cases t <;> rfl
    | _ => cases s <;> rfl

lemma compare_self {x : UnpackedFloat} (h : x.isNaN = false) : x.compare x = some .eq := by
  cases x with
  | notANumber => cases h
  | infinity s => cases s <;> rfl
  | zero s => rfl
  | finite s m e hm =>
    have hmagnitudes : (compare e e).then (compare m m) = .eq := by simp
    cases s
    · exact congrArg (some ∘ Ordering.swap) hmagnitudes
    · exact congrArg some hmagnitudes

lemma compare_eq_none_iff {x y : UnpackedFloat} :
    x.compare y = none ↔ x.isNaN = true ∨ y.isNaN = true := by
  cases x with
  | notANumber => exact iff_of_true rfl (Or.inl rfl)
  | infinity s | zero s | finite s m e hm =>
    cases y with
    | notANumber => exact iff_of_true (by cases s <;> rfl) (Or.inr rfl)
    | infinity t | zero t | finite t m' e' hm' =>
      refine iff_of_false ?_ fun h => h.elim Bool.false_ne_true Bool.false_ne_true
      cases s <;> cases t <;> exact Option.some_ne_none _

variable {x y : Float}

lemma lt_iff : x < y ↔ x.toModel.compare y.toModel = some .lt := by
  have h : (x < y) = (decide (x.toModel < y.toModel) = true) := rfl
  rw [h, decide_eq_true_iff]
  exact beq_iff_eq

lemma le_iff : x ≤ y ↔ (x.toModel.compare y.toModel).any Ordering.isLE = true := by
  have h : (x ≤ y) = (decide (x.toModel ≤ y.toModel) = true) := rfl
  rw [h, decide_eq_true_iff]
  rfl

lemma le_refl (h : x.isNaN = false) : x ≤ x := by
  rw [le_iff, Float.Model.compare, compare_self h]
  rfl

/-- Only numbers are at most one another. -/
lemma isNaN_of_le (h : x ≤ y) : x.isNaN = false ∧ y.isNaN = false := by
  rw [le_iff] at h
  have hcompare : x.toModel.compare y.toModel ≠ none := fun hnone => by
    rw [hnone] at h
    cases h
  rw [Ne, Float.Model.compare, compare_eq_none_iff, not_or] at hcompare
  exact ⟨Bool.of_not_eq_true hcompare.1, Bool.of_not_eq_true hcompare.2⟩

lemma le_of_not_lt (hx : x.isNaN = false) (hy : y.isNaN = false) (h : ¬ x < y) : y ≤ x := by
  have hne : x.toModel.compare y.toModel ≠ none := fun hnone => by
    rcases compare_eq_none_iff.mp hnone with hnan | hnan
    · exact Bool.false_ne_true (hx.symm.trans hnan)
    · exact Bool.false_ne_true (hy.symm.trans hnan)
  rw [lt_iff] at h
  have hswap : y.toModel.compare x.toModel = (x.toModel.compare y.toModel).map Ordering.swap :=
    compare_swap _ _
  rw [le_iff, hswap]
  cases hcompare : x.toModel.compare y.toModel with
  | none => exact absurd hcompare hne
  | some o =>
    cases o with
    | lt => exact absurd hcompare h
    | eq => rfl
    | gt => rfl

/-! ### Absolute values -/

/-- The number has no minus sign, or is zero. -/
def isNonnegative : UnpackedFloat → Bool
  | .infinity .negative | .finite .negative _ _ _ => false
  | .notANumber | .zero _ | .infinity .positive | .finite .positive _ _ _ => true

section

variable {spec : Format}

/-- The foremost bit of a number is that of its sign. -/
lemma unpackSign_positive (exponent : BitVec spec.exponentBits)
    (mantissa : BitVec spec.mantissaBitsWithoutImplicit) :
    unpackSign (packComponents spec .positive exponent mantissa) = 0#1 := by
  delta unpackSign packComponents
  ext i hi
  simp +arith [BitVec.extractLsb, BitVec.getLsbD_append, UnpackedFloat.Sign.toBitVec]

lemma isNonnegative_unpack {b : BitVec spec.numBits} (h : unpackSign b = 0#1) :
    isNonnegative (UnpackedFloat.unpack spec b) = true := by
  rcases Decimal.unpack_cases b with ⟨-, -, hunpack⟩ | hunpack | hunpack | ⟨m, e, hm, hunpack⟩
  · rw [hunpack]
    rfl
  · rw [hunpack, h]
    rfl
  · rw [hunpack, h]
    rfl
  · rw [hunpack, h]
    rfl

lemma exists_pack_abs (spec : Format) (u : UnpackedFloat) :
    ∃ exponent mantissa, UnpackedFloat.pack spec u.abs =
      packComponents spec .positive exponent mantissa := by
  cases u with
  | notANumber => exact ⟨_, _, rfl⟩
  | infinity s => exact ⟨_, _, rfl⟩
  | zero s => exact ⟨_, _, rfl⟩
  | finite s m e hm =>
    have habs : (UnpackedFloat.finite s m e hm).abs = .finite .positive m e hm := rfl
    rw [habs]
    delta UnpackedFloat.pack
    dsimp only
    split_ifs <;> exact ⟨_, _, rfl⟩

end

lemma isNonnegative_abs (x : Float) : isNonnegative x.abs.toModel.unpack = true := by
  obtain ⟨exponent, mantissa, hpack⟩ := exists_pack_abs Format.binary64 x.toModel.unpack
  have hunpack : x.abs.toModel.unpack =
      UnpackedFloat.unpack _ (UnpackedFloat.pack Format.binary64 x.toModel.unpack.abs) := rfl
  rw [hunpack, hpack]
  exact isNonnegative_unpack (unpackSign_positive _ _)

/-- What is above a number that is not negative is above zero. -/
lemma zero_lt_of_lt {u v : UnpackedFloat} (hu : isNonnegative u = true)
    (h : u.compare v = some .lt) : (UnpackedFloat.zero .positive).compare v = some .lt := by
  cases u with
  | notANumber => cases h
  | zero s =>
    cases v with
    | infinity t | finite t m e hm => cases t <;> exact h
    | _ => exact h
  | infinity s | finite s m e hm =>
    cases s with
    | negative => cases hu
    | positive =>
      cases v with
      | infinity t | finite t m' e' hm' =>
        cases t with
        | negative => cases h
        | positive => rfl
      | _ => cases h

lemma zero_lt_of_abs_lt (h : x.abs < y) : 0 < y := by
  rw [lt_iff] at h ⊢
  exact zero_lt_of_lt (isNonnegative_abs x) h

end Comparison

end ChainScript
