import Mathlib
import Toolpath.Proofs.Number.Nearest

/-!
Doubles as bits. `exact` reads the same number as the unpacked form that arithmetic works on, and packing a
number that fits gives it back.
-/

namespace Toolpath.Number

open Float.Model Float.Model.UnpackedFloat

def isNegative : Sign → Bool
  | .negative => true
  | .positive => false

def ofUnpacked : UnpackedFloat → Exact
  | .notANumber => .nan
  | .infinity s => .infinite (isNegative s)
  | .zero s => .finite ⟨isNegative s, 0, -1074⟩
  | .finite s m e _ => .finite ⟨isNegative s, m, e⟩

section Fields

variable (b : BitVec 64)

lemma toNat_unpackMantissa : (@unpackMantissa .binary64 b).toNat = b.toNat % 2 ^ 52 := by
  simp [unpackMantissa, BitVec.extractLsb, BitVec.extractLsb']

lemma toNat_unpackExponent : (@unpackExponent .binary64 b).toNat = b.toNat / 2 ^ 52 % 2 ^ 11 := by
  simp [unpackExponent, BitVec.extractLsb, BitVec.extractLsb', Nat.shiftRight_eq_div_pow]

lemma isNegative_unpackSign :
    isNegative (Sign.ofBitVec (@unpackSign .binary64 b)) = decide (b.toNat / 2 ^ 63 = 1) := by
  have hb : b.toNat < 2 ^ 64 := b.isLt
  have hs : (@unpackSign .binary64 b).toNat = b.toNat / 2 ^ 63 % 2 := by
    simp [unpackSign, BitVec.extractLsb, BitVec.extractLsb', Nat.shiftRight_eq_div_pow]
  have hz : @unpackSign .binary64 b = 0#1 ↔ b.toNat / 2 ^ 63 ≠ 1 := by
    rw [← BitVec.toNat_inj, hs]
    simp only [BitVec.toNat_ofNat]
    omega
  rw [Sign.ofBitVec]
  split
  · rename_i h
    simpa [isNegative] using hz.mp h
  · rename_i h
    simpa [isNegative] using mt hz.mpr h

lemma toNat_append_implicit (m : BitVec 52) : (1#1 ++ m).toNat = m.toNat + 2 ^ 52 := by
  rw [BitVec.toNat_append, ← Nat.shiftLeft_add_eq_or_of_lt m.isLt]
  simp [Nat.shiftLeft_eq, Nat.add_comm]

end Fields

def exactBits (bits : ℕ) : Exact :=
  let negative := bits / 2 ^ 63 = 1
  let e : ℕ := bits / 2 ^ 52 % 2 ^ 11
  let m := bits % 2 ^ 52
  if e = 2047 then if m = 0 then .infinite negative else .nan
  else if e = 0 then .finite ⟨negative, m, -1074⟩
  else .finite ⟨negative, m + 2 ^ 52, (e : ℤ) - 1075⟩

theorem ofUnpacked_unpack (b : BitVec 64) : ofUnpacked (UnpackedFloat.unpack .binary64 b) = exactBits b.toNat := by
  have he : @unpackExponent .binary64 b = -1#_ ↔ b.toNat / 2 ^ 52 % 2 ^ 11 = 2047 := by
    rw [← BitVec.toNat_inj, toNat_unpackExponent]
    rfl
  have he₀ : @unpackExponent .binary64 b = 0#_ ↔ b.toNat / 2 ^ 52 % 2 ^ 11 = 0 := by
    rw [← BitVec.toNat_inj, toNat_unpackExponent]
    rfl
  have hm₀ : @unpackMantissa .binary64 b = 0#_ ↔ b.toNat % 2 ^ 52 = 0 := by
    rw [← BitVec.toNat_inj, toNat_unpackMantissa]
    rfl
  have hbias : (Format.binary64.exponentBias : ℤ) = 1023 := rfl
  simp only [UnpackedFloat.unpack, he, he₀, hm₀, hbias, exactBits]
  by_cases h₁ : b.toNat / 2 ^ 52 % 2 ^ 11 = 2047
  · rw [if_pos h₁, if_pos h₁]
    split_ifs
    · rw [ofUnpacked, isNegative_unpackSign]
    · rfl
  rw [if_neg h₁, if_neg h₁]
  by_cases h₂ : b.toNat / 2 ^ 52 % 2 ^ 11 = 0
  · rw [if_pos h₂, if_pos h₂]
    split_ifs with h₃
    · rw [ofUnpacked, isNegative_unpackSign, h₃]
    · rw [ofUnpacked, isNegative_unpackSign, toNat_unpackExponent, toNat_unpackMantissa, h₂]
      rfl
  · rw [if_neg h₂, if_neg h₂, ofUnpacked, isNegative_unpackSign, toNat_append_implicit, toNat_unpackExponent,
      toNat_unpackMantissa]
    rfl

lemma exact_eq (x : Float) : exact x = ofUnpacked x.toModel.unpack := (ofUnpacked_unpack _).symm

structure Canonical (m : ℕ) (e : ℤ) : Prop where
  lt : m < 2 ^ 53
  le : -1074 ≤ e
  full : -1074 < e → 2 ^ 52 ≤ m

lemma canonical_of_exactBits {bits : ℕ} {d : Dyadic} (h : exactBits bits = .finite d) :
    Canonical d.mantissa d.exponent ∧ d.exponent ≤ 971 := by
  simp only [exactBits] at h
  have hm : bits % 2 ^ 52 < 2 ^ 52 := Nat.mod_lt _ (by norm_num)
  have he : bits / 2 ^ 52 % 2 ^ 11 < 2048 := Nat.mod_lt _ (by norm_num)
  split_ifs at h with h₁ _ h₂
  · cases h
    refine ⟨⟨?_, le_rfl, ?_⟩, ?_⟩ <;> dsimp only <;> omega
  · cases h
    refine ⟨⟨?_, ?_, ?_⟩, ?_⟩ <;> dsimp only <;> omega

lemma unpack_packComponents (s : Sign) (e : BitVec 11) (m : BitVec 52) :
    UnpackedFloat.unpack .binary64 (packComponents .binary64 s e m) =
      if e = -1#_ then if m = 0#_ then .infinity s else .notANumber
      else if e = 0#_ then
        if h : m = 0#_ then .zero s
        else .finite s m.toNat (-1074) (by simpa [BitVec.toNat_pos, BitVec.pos_iff_ne_zero])
      else .finite s (1#1 ++ m).toNat (e.toNat - 1075) (by rw [toNat_append_implicit]; positivity) := by
  have hbias : (Format.binary64.exponentBias : ℤ) = 1023 := rfl
  simp only [UnpackedFloat.unpack, unpackMantissa_packComponents, unpackExponent_packComponents,
    unpackSign_packComponents, Sign.ofBitVec_toBitVec, hbias]
  split_ifs with h₁ h₂ h₃ h₄
  · rfl
  · rfl
  · rfl
  · congr 1
    rw [h₃]
    rfl
  · rfl

lemma unpack_packedInfinity (s : Sign) :
    UnpackedFloat.unpack .binary64 (packedInfinity .binary64 s) = .infinity s := by
  rw [packedInfinity, unpack_packComponents, if_pos rfl]
  rfl

lemma unpack_pack_overflow (s : Sign) {m : ℕ} {e : ℤ} (hm : 0 < m) (he : 972 ≤ e) :
    UnpackedFloat.unpack .binary64 (UnpackedFloat.pack .binary64 (.finite s m e hm)) = .infinity s := by
  have hbias : (Format.binary64.exponentBias : ℤ) = 1023 := rfl
  have hbig : 2 ^ Format.binary64.exponentBits ≤
      (e + Format.binary64.exponentBias + (Format.binary64.mantissaBitsWithoutImplicit : ℕ)).toNat + 1 := by
    rw [hbias]
    norm_num
    omega
  rw [UnpackedFloat.pack]
  dsimp only
  rw [if_pos hbig, unpack_packedInfinity]

lemma unpack_pack_full (s : Sign) {m : ℕ} {e : ℤ} (hm : 0 < m) (hlow : 2 ^ 52 ≤ m) (hlt : m < 2 ^ 53)
    (hle : -1074 ≤ e) (he : e ≤ 971) :
    UnpackedFloat.unpack .binary64 (UnpackedFloat.pack .binary64 (.finite s m e hm)) = .finite s m e hm := by
  have hbias : (Format.binary64.exponentBias : ℤ) = 1023 := rfl
  have hbits : Format.binary64.mantissaBits = 53 := rfl
  have hlog : m.log2 + 1 = 53 := by
    have h₁ := (Nat.le_log2 hm.ne').mpr hlow
    have h₂ := (Nat.log2_lt hm.ne').mpr hlt
    omega
  have hexp : (BitVec.ofNat 11 (e + 1023 + (52 : ℕ)).toNat).toNat = (e + 1075).toNat := by
    rw [BitVec.toNat_ofNat, Nat.mod_eq_of_lt (by omega)]
    congr 1
    omega
  have hones : BitVec.ofNat 11 (e + 1023 + (52 : ℕ)).toNat ≠ -1#_ := by
    rw [ne_eq, ← BitVec.toNat_inj, hexp]
    simp only [BitVec.neg_one_eq_allOnes, BitVec.toNat_allOnes]
    omega
  have hzero : BitVec.ofNat 11 (e + 1023 + (52 : ℕ)).toNat ≠ 0#_ := by
    rw [ne_eq, ← BitVec.toNat_inj, hexp]
    simp only [BitVec.toNat_ofNat]
    omega
  have hmant : (1#1 ++ BitVec.ofNat 52 m).toNat = m := by
    rw [toNat_append_implicit, BitVec.toNat_ofNat]
    omega
  rw [UnpackedFloat.pack]
  dsimp only
  rw [hbias, if_neg (by norm_num; omega), hbits, if_pos hlog, unpack_packComponents, if_neg hones, if_neg hzero]
  congr 1
  rw [hexp]
  omega

lemma unpack_pack_subnormal (s : Sign) {m : ℕ} (hm : 0 < m) (hlt : m < 2 ^ 52) :
    UnpackedFloat.unpack .binary64 (UnpackedFloat.pack .binary64 (.finite s m (-1074) hm)) =
      .finite s m (-1074) hm := by
  have hbias : (Format.binary64.exponentBias : ℤ) = 1023 := rfl
  have hbits : Format.binary64.mantissaBits = 53 := rfl
  have hlog : m.log2 + 1 ≠ 53 := by
    have := (Nat.log2_lt hm.ne').mpr hlt
    omega
  have hmant : (BitVec.ofNat 52 m).toNat = m := by
    rw [BitVec.toNat_ofNat, Nat.mod_eq_of_lt hlt]
  have hmz : BitVec.ofNat 52 m ≠ 0#_ := by
    rw [ne_eq, ← BitVec.toNat_inj, hmant]
    simp only [BitVec.toNat_ofNat]
    omega
  rw [UnpackedFloat.pack]
  dsimp only
  rw [hbias, if_neg (by norm_num), hbits, if_neg hlog, unpack_packComponents, if_neg (by decide), if_pos rfl,
    dif_neg hmz]
  congr 1

theorem unpack_pack_finite (s : Sign) {m : ℕ} {e : ℤ} (hm : 0 < m) (hc : Canonical m e) (he : e ≤ 971) :
    UnpackedFloat.unpack .binary64 (UnpackedFloat.pack .binary64 (.finite s m e hm)) = .finite s m e hm := by
  rcases lt_or_ge m (2 ^ 52) with hlt | hlow
  · obtain rfl : e = -1074 := by
      by_contra hne
      exact not_le.mpr hlt (hc.full (lt_of_le_of_ne hc.le (Ne.symm hne)))
    exact unpack_pack_subnormal s hm hlt
  · exact unpack_pack_full s hm hlow hc.lt hc.le he

lemma unpack_pack_unpack (b : BitVec 64) :
    UnpackedFloat.unpack .binary64 (UnpackedFloat.pack .binary64 (UnpackedFloat.unpack .binary64 b)) =
      UnpackedFloat.unpack .binary64 b := by
  rw [@pack_unpack .binary64 b (by decide)]
  split
  · rename_i h
    simp only [isNaNBits, decide_eq_true_eq] at h
    rw [unpack_packedNaN, UnpackedFloat.unpack]
    simp [h]
  · rfl

lemma exact_pack (f : UnpackedFloat) : exact (.ofModel (.pack f)) =
    ofUnpacked (UnpackedFloat.unpack .binary64 (UnpackedFloat.pack .binary64 f)) := exact_eq _

lemma exact_ofBits (b : UInt64) : exact (Float.ofBits b) = exactBits b.toNat := by
  rw [Float.ofBits, Float.Model.ofBits, exact_pack, unpack_pack_unpack, ofUnpacked_unpack]
  rfl

/-- A finite double: its sign, also that of a zero, and its magnitude. -/
def Denotes (x : Float) (s : Bool) (q : ℚ) : Prop := ∃ m e, exact x = .finite ⟨s, m, e⟩ ∧ (m : ℚ) * 2 ^ e = q

/-- The double that an operation with the exact result `q` gives. -/
def Rounds (x : Float) (s : Bool) (q : ℚ) : Prop :=
  if rounded q < top then Denotes x s (rounded q) else exact x = .infinite s

def signOf (s : Bool) : Sign := if s then .negative else .positive

@[simp] lemma isNegative_signOf (s : Bool) : isNegative (signOf s) = s := by cases s <;> rfl

lemma signOf_isNegative (s : Sign) : signOf (isNegative s) = s := by cases s <;> rfl

variable {x : Float} {s : Bool} {q : ℚ}

lemma unpack_of_infinite (h : exact x = .infinite s) : x.toModel.unpack = .infinity (signOf s) := by
  rw [exact_eq] at h
  cases hu : x.toModel.unpack with
  | infinity s' =>
    rw [hu] at h
    cases h
    rw [signOf_isNegative]
  | notANumber => rw [hu] at h; cases h
  | zero => rw [hu] at h; cases h
  | finite => rw [hu] at h; cases h

lemma unpack_of_nan (h : exact x = .nan) : x.toModel.unpack = .notANumber := by
  rw [exact_eq] at h
  cases hu : x.toModel.unpack with
  | notANumber => rfl
  | infinity => rw [hu] at h; cases h
  | zero => rw [hu] at h; cases h
  | finite => rw [hu] at h; cases h

lemma Denotes.unpack (h : Denotes x s q) : (q = 0 ∧ x.toModel.unpack = .zero (signOf s)) ∨
    ∃ m e hm, x.toModel.unpack = .finite (signOf s) m e hm ∧ Canonical m e ∧ e ≤ 971 ∧ (m : ℚ) * 2 ^ e = q := by
  obtain ⟨m, e, hx, hq⟩ := h
  obtain ⟨hc, he⟩ := canonical_of_exactBits hx
  rw [exact_eq] at hx
  cases hu : x.toModel.unpack with
  | notANumber => rw [hu] at hx; cases hx
  | infinity => rw [hu] at hx; cases hx
  | zero s' =>
    rw [hu] at hx
    cases hx
    exact .inl ⟨by simpa using hq.symm, by rw [signOf_isNegative]⟩
  | finite s' _ _ hm =>
    rw [hu] at hx
    cases hx
    exact .inr ⟨m, e, hm, by rw [signOf_isNegative], hc, he, hq⟩

lemma exact_pack_infinity (s : Bool) : exact (.ofModel (.pack (.infinity (signOf s)))) = .infinite s := by
  rw [exact_pack, UnpackedFloat.pack, unpack_packedInfinity, ofUnpacked, isNegative_signOf]

lemma exact_pack_nan : exact (.ofModel (.pack .notANumber)) = .nan := by
  rw [exact_pack, UnpackedFloat.pack, unpack_packedNaN, ofUnpacked]

lemma denotes_pack_zero (s : Bool) : Denotes (.ofModel (.pack (.zero (signOf s)))) s 0 := by
  refine ⟨0, -1074, ?_, by simp⟩
  rw [exact_pack, UnpackedFloat.pack, unpack_packedZero, ofUnpacked, isNegative_signOf]

lemma denotes_pack_finite (s : Bool) {m : ℕ} {e : ℤ} (hm : 0 < m) (hc : Canonical m e) (he : e ≤ 971) :
    Denotes (.ofModel (.pack (.finite (signOf s) m e hm))) s (m * 2 ^ e) := by
  refine ⟨m, e, ?_, rfl⟩
  rw [exact_pack, unpack_pack_finite _ hm hc he, ofUnpacked, isNegative_signOf]

lemma Denotes.neg (h : Denotes x s q) : Denotes (-x) (!s) q := by
  have hsign : -signOf s = signOf (!s) := by cases s <;> rfl
  have hneg : -x = .ofModel (.pack x.toModel.unpack.neg) := rfl
  rw [hneg]
  rcases h.unpack with ⟨rfl, hx⟩ | ⟨m, e, hm, hx, hc, he, rfl⟩
  · rw [hx, UnpackedFloat.neg, hsign]
    exact denotes_pack_zero _
  · rw [hx, UnpackedFloat.neg, hsign]
    exact denotes_pack_finite _ hm hc he

lemma Denotes.isFinite (h : Denotes x s q) : x.isFinite := by
  have hx : x.isFinite = x.toModel.unpack.isFinite := rfl
  rcases h.unpack with ⟨-, hu⟩ | ⟨m, e, hm, hu, -⟩ <;> rw [hx, hu] <;> rfl

lemma not_isFinite_of_infinite (h : exact x = .infinite s) : x.isFinite = false := by
  have hx : x.isFinite = x.toModel.unpack.isFinite := rfl
  rw [hx, unpack_of_infinite h]
  rfl

lemma not_isFinite_of_nan (h : exact x = .nan) : x.isFinite = false := by
  have hx : x.isFinite = x.toModel.unpack.isFinite := rfl
  rw [hx, unpack_of_nan h]
  rfl

lemma Denotes.representable (h : Denotes x s q) : Representable q := by
  obtain ⟨m, e, hx, rfl⟩ := h
  obtain ⟨hc, -⟩ := canonical_of_exactBits hx
  exact ⟨m, e, hc.lt, hc.le, rfl⟩

lemma Denotes.lt_top (h : Denotes x s q) : q < top := by
  obtain ⟨m, e, hx, rfl⟩ := h
  obtain ⟨hc, he⟩ := canonical_of_exactBits hx
  have hm : (m : ℚ) < 2 ^ 53 := by exact_mod_cast hc.lt
  calc (m : ℚ) * 2 ^ e < 2 ^ 53 * 2 ^ e := mul_lt_mul_of_pos_right hm (two_zpow_pos e)
    _ ≤ 2 ^ 53 * 2 ^ (971 : ℤ) := mul_le_mul_of_nonneg_left (zpow_le_zpow_right₀ (by norm_num) he) (by norm_num)
    _ = top := pow_mul_zpow_eq_top (by norm_num)

end Toolpath.Number
