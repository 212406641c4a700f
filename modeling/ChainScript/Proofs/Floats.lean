import ChainScript.Proofs.Numerals

/-!
# Numbers that are read are numbers

The only text that reads as no number is the word for it, and the lexer takes no word for a number.
What is read from digits is a product or a quotient of two floating-point numbers of which the
second, a power of ten, is neither zero nor infinite. Then the result is a number before it is
rounded, and neither rounding nor packing it into bits changes that.
-/

namespace ChainScript

namespace Decimal

open Float.Model
open Float.Model.UnpackedFloat (Sign packComponents roundWithAccuracy)

variable {spec : Format}

/-! ### Packing -/

/-- What is unpacked is no number only if it has the largest exponent with a mantissa beside it, and
otherwise it has the sign of the foremost bit. -/
lemma unpack_cases (b : BitVec spec.numBits) :
    let sign := Sign.ofBitVec (UnpackedFloat.unpackSign b)
    (UnpackedFloat.unpackExponent b = -1#_ ∧ UnpackedFloat.unpackMantissa b ≠ 0#_ ∧
        UnpackedFloat.unpack spec b = .notANumber) ∨
      UnpackedFloat.unpack spec b = .infinity sign ∨ UnpackedFloat.unpack spec b = .zero sign ∨
      ∃ m e hm, UnpackedFloat.unpack spec b = .finite sign m e hm := by
  delta UnpackedFloat.unpack
  dsimp only
  by_cases hones : UnpackedFloat.unpackExponent b = -1#_
  · rw [if_pos hones]
    by_cases hmantissa : UnpackedFloat.unpackMantissa b = 0#_
    · rw [if_pos hmantissa]
      exact Or.inr (Or.inl rfl)
    · rw [if_neg hmantissa]
      exact Or.inl ⟨hones, hmantissa, rfl⟩
  · rw [if_neg hones]
    by_cases hzeros : UnpackedFloat.unpackExponent b = 0#_
    · rw [if_pos hzeros]
      by_cases hmantissa : UnpackedFloat.unpackMantissa b = 0#_
      · rw [dif_pos hmantissa]
        exact Or.inr (Or.inr (Or.inl rfl))
      · rw [dif_neg hmantissa]
        exact Or.inr (Or.inr (Or.inr ⟨_, _, _, rfl⟩))
    · rw [if_neg hzeros]
      exact Or.inr (Or.inr (Or.inr ⟨_, _, _, rfl⟩))

lemma isNaN_unpack {b : BitVec spec.numBits}
    (h : UnpackedFloat.unpackExponent b = -1#_ → UnpackedFloat.unpackMantissa b = 0#_) :
    (UnpackedFloat.unpack spec b).isNaN = false := by
  rcases unpack_cases b with ⟨hones, hmantissa, -⟩ | hunpack | hunpack | ⟨m, e, hm, hunpack⟩
  · exact absurd (h hones) hmantissa
  · rw [hunpack]
    rfl
  · rw [hunpack]
    rfl
  · rw [hunpack]
    rfl

lemma isNaN_unpack_packComponents {sign : Sign} {exponent : BitVec spec.exponentBits}
    {mantissa : BitVec spec.mantissaBitsWithoutImplicit} (h : exponent = -1#_ → mantissa = 0#_) :
    (UnpackedFloat.unpack spec (packComponents spec sign exponent mantissa)).isNaN = false := by
  apply isNaN_unpack
  rwa [UnpackedFloat.unpackExponent_packComponents, UnpackedFloat.unpackMantissa_packComponents]

/-- What is a number before it is packed is one after that. -/
lemma isNaN_unpack_pack {f : UnpackedFloat} (h : f.isNaN = false) :
    (UnpackedFloat.unpack spec (UnpackedFloat.pack spec f)).isNaN = false := by
  fun_cases UnpackedFloat.pack spec f with
  | case1 => cases h
  | case2 s => exact isNaN_unpack_packComponents fun _ => rfl
  | case3 s => exact isNaN_unpack_packComponents fun _ => rfl
  | case4 => exact isNaN_unpack_packComponents fun _ => rfl
  | case5 s m e hm actualMantissaBits biasedExponent hsmall hnormal =>
    refine isNaN_unpack_packComponents fun hones => ?_
    have hlt : biasedExponent < 2 ^ spec.exponentBits := by omega
    have htoNat := congrArg BitVec.toNat hones
    rw [BitVec.toNat_ofNat, Nat.mod_eq_of_lt hlt, BitVec.neg_one_eq_allOnes,
      BitVec.toNat_allOnes] at htoNat
    omega
  | case6 =>
    refine isNaN_unpack_packComponents fun hones => ?_
    have htoNat := congrArg BitVec.toNat hones
    rw [BitVec.toNat_zero, BitVec.neg_one_eq_allOnes, BitVec.toNat_allOnes] at htoNat
    have := Nat.one_lt_two_pow (Nat.ne_of_gt spec.he)
    omega

lemma isNaN_ofModel_pack {f : UnpackedFloat} (h : f.isNaN = false) :
    (Float.ofModel (pack f)).isNaN = false :=
  isNaN_unpack_pack h

/-! ### Operations -/

lemma isNaN_finite_or_zero (sign : Sign) (mantissa : Nat) (exponent : Int) :
    (if h : mantissa = 0 then UnpackedFloat.zero sign
      else .finite sign mantissa exponent (Nat.pos_of_ne_zero h)).isNaN = false := by
  by_cases h : mantissa = 0
  · rw [dif_pos h]
    rfl
  · rw [dif_neg h]
    rfl

lemma isNaN_roundWithAccuracy (spec : Format) (sign : Sign) (mantissa : Nat) (exponent : Int)
    (accuracy : UnpackedFloat.Accuracy) :
    (roundWithAccuracy spec sign mantissa exponent accuracy).isNaN = false :=
  isNaN_finite_or_zero sign _ _

/-- The number is neither zero nor infinite. -/
def isProper : UnpackedFloat → Bool
  | .finite .. => true
  | _ => false

variable {x y : UnpackedFloat}

lemma isNaN_mul (hx : x.isNaN = false) (hy : isProper y = true) :
    (UnpackedFloat.mul spec x y).isNaN = false := by
  cases y with
  | finite sign mantissa exponent hpos =>
    cases x with
    | finite => exact isNaN_roundWithAccuracy spec _ _ _ _
    | notANumber => cases hx
    | infinity | zero => rfl
  | _ => cases hy

lemma isNaN_div (hx : x.isNaN = false) (hy : isProper y = true) :
    (UnpackedFloat.div spec x y).isNaN = false := by
  cases y with
  | finite sign mantissa exponent hpos =>
    cases x with
    | finite => exact isNaN_roundWithAccuracy spec _ _ _ _
    | notANumber => cases hx
    | infinity | zero => rfl
  | _ => cases hy

lemma isNaN_ofNat (spec : Format) (n : Nat) : (UnpackedFloat.ofNat spec n).isNaN = false := by
  rw [UnpackedFloat.ofNat, UnpackedFloat.ofInt, UnpackedFloat.normalize]
  split
  · exact isNaN_roundWithAccuracy spec _ _ _ _
  · rfl
  · exact isNaN_roundWithAccuracy spec _ _ _ _

lemma isNaN_ofScientific_unpacked (spec : Format) (mantissa : Nat) (exponent : Int) :
    (UnpackedFloat.ofScientific spec mantissa exponent).isNaN = false := by
  rw [UnpackedFloat.ofScientific]
  by_cases hzero : mantissa = 0
  · rw [dif_pos hzero]
    rfl
  rw [dif_neg hzero]
  by_cases hlarge : exponent > 2 ^ spec.exponentBits
  · rw [if_pos hlarge]
    rfl
  rw [if_neg hlarge]
  by_cases hsmall : exponent < -((2 ^ spec.exponentBits : Int) + mantissa.log2)
  · rw [if_pos hsmall]
    rfl
  rw [if_neg hsmall]
  -- what is left is a product or a quotient with a power of ten
  by_cases hexponent : 0 ≤ exponent
  · rw [if_pos hexponent]
    exact isNaN_mul rfl rfl
  · rw [if_neg hexponent]
    exact isNaN_div rfl rfl

lemma isProper_powerOfTen : ∀ x ∈ Float.exactlyRepresentablePowersOfTen.toList,
    isProper x.toModel.unpack = true := by
  decide +kernel

lemma isNaN_ofScientific (mantissa : Nat) (negative : Bool) (exponent : Nat) :
    (Float.ofScientific mantissa negative exponent).isNaN = false := by
  have hmantissa : mantissa.toUInt64.toFloat.isNaN = false :=
    isNaN_ofModel_pack (isNaN_ofNat Format.binary64 _)
  rw [Float.ofScientific]
  split_ifs with hexact hnegative
  · refine isNaN_ofModel_pack (isNaN_div hmantissa ?_)
    exact isProper_powerOfTen _ (Array.getElem_mem_toList _)
  · refine isNaN_ofModel_pack (isNaN_mul hmantissa ?_)
    exact isProper_powerOfTen _ (Array.getElem_mem_toList _)
  · exact isNaN_ofModel_pack (isNaN_ofScientific_unpacked _ _ _)
  · exact isNaN_ofModel_pack (isNaN_ofScientific_unpacked _ _ _)

lemma isNaN_scientific (mantissa : Nat) (exponent : Int) :
    (scientific mantissa exponent).isNaN = false := by
  rw [scientific]
  dsimp only
  split_ifs
  · decide +kernel
  · decide +kernel
  · decide +kernel
  · exact isNaN_ofScientific _ _ _

lemma isNaN_neg {x : Float} (hx : x.isNaN = false) : x.neg.isNaN = false := by
  refine isNaN_ofModel_pack ?_
  rw [Float.isNaN, Float.Model.isNaN] at hx
  cases hunpacked : x.toModel.unpack with
  | notANumber => rw [hunpacked] at hx; cases hx
  | _ => rfl

end Decimal

/-! ### Numerals -/

/-- A text that the lexer takes for a number does not read as the value that is no number. -/
theorem Lexeme.isNaN_of_isNumeral {t : List Char} {x : Float} (h : isNumeral t = true)
    (hx : Decimal.readFloat? t = some x) : x.isNaN = false := by
  obtain ⟨sign, u, hsign, hu, rfl⟩ := isWritten_of_isNumeral h
  obtain ⟨n, hn⟩ := Decimal.exists_readUnsigned?_of_isWritten hu
  have hnumber : n.toFloat.isNaN = false := Decimal.isNaN_scientific _ _
  rcases hsign with rfl | rfl | rfl
  · rw [List.nil_append, Decimal.readFloat?_of_isWritten hu, hn] at hx
    cases hx
    exact hnumber
  · have hplus : some n.toFloat = some x := hn.symm.trans hx
    cases hplus
    exact hnumber
  · have hminus : some n.toFloat.neg = some x :=
      (congrArg (Option.map Float.neg) hn).symm.trans hx
    cases hminus
    exact Decimal.isNaN_neg hnumber

end ChainScript
