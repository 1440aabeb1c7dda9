import Mathlib.Algebra.Group.Nat.Defs
import Mathlib.Logic.Basic

/-! IEEE comparison of binary64 values: on finite values it is an equivalence and a total
order, and away from the two zeros it tells all values apart. Binary32 values are widened. -/
namespace Float.Model.UnpackedFloat

/-- Finite values are comparable, and the comparison is antisymmetric. -/
theorem compare_swap {a b : UnpackedFloat} (ha : a.isFinite = true) (hb : b.isFinite = true) :
    ∃ o, a.compare b = some o ∧ b.compare a = some o.swap := by
  cases a with
  | infinity s | notANumber => cases ha
  | zero s =>
    cases b with
    | infinity s | notANumber => cases hb
    | zero t => exact ⟨_, rfl, rfl⟩
    | finite t m e hm => cases t <;> exact ⟨_, rfl, rfl⟩
  | finite s m e hm =>
    cases b with
    | infinity s | notANumber => cases hb
    | zero t => cases s <;> exact ⟨_, rfl, rfl⟩
    | finite t n f hn =>
      have he : compare f e = (compare e f).swap := (Int.compare_swap ..).symm
      have hm : compare n m = (compare m n).swap := (Nat.compare_swap ..).symm
      cases s <;> cases t
      · refine ⟨_, rfl, ?_⟩
        change some ((compare f e).then (compare n m)).swap = _
        rw [he, hm, ← Ordering.swap_then]
      · exact ⟨_, rfl, rfl⟩
      · exact ⟨_, rfl, rfl⟩
      · refine ⟨_, rfl, ?_⟩
        change some ((compare f e).then (compare n m)) = _
        rw [he, hm, ← Ordering.swap_then]

/-- What compares equal to a value other than zero is that value. -/
theorem eq_of_compare {a b : UnpackedFloat} (ha : a.isFinite = true) (hb : b.isFinite = true)
    (hzero : ∀ s, a ≠ .zero s) (h : a.compare b = some .eq) : a = b := by
  cases a with
  | infinity s | notANumber => cases ha
  | zero s => exact absurd rfl (hzero s)
  | finite s m e hm =>
    cases b with
    | infinity s | notANumber => cases hb
    | zero t => cases s <;> cases h
    | finite t n f hn =>
      cases s <;> cases t
      · change some ((compare e f).then (compare m n)).swap = _ at h
        have hswap := Ordering.swap_eq_eq.mp (Option.some.inj h)
        obtain ⟨he, hm⟩ := Ordering.then_eq_eq.mp hswap
        cases Std.LawfulEqCmp.eq_of_compare he
        cases Std.LawfulEqCmp.eq_of_compare hm
        rfl
      · cases h
      · cases h
      · change some ((compare e f).then (compare m n)) = _ at h
        obtain ⟨he, hm⟩ := Ordering.then_eq_eq.mp (Option.some.inj h)
        cases Std.LawfulEqCmp.eq_of_compare he
        cases Std.LawfulEqCmp.eq_of_compare hm
        rfl

/-- The three fields of a packed value are all of its bits. -/
theorem fields_toNat (b : BitVec 64) :
    b.toNat = (@unpackSign Format.binary64 b).toNat * 2 ^ 63 +
      (@unpackExponent Format.binary64 b).toNat * 2 ^ 52 +
      (@unpackMantissa Format.binary64 b).toNat := by
  have hb := b.isLt
  have hsign : (@unpackSign Format.binary64 b).toNat = b.toNat >>> 63 % 2 := by
    change (BitVec.extractLsb 63 63 b).toNat = _
    exact BitVec.extractLsb_toNat ..
  simp [unpackMantissa, unpackExponent, hsign, Nat.shiftRight_eq_div_pow]
  omega

/-- Where the parts of a finite value come from; only the exponent tells whether the leading
bit of the mantissa is stored. -/
theorem fields_of_unpack {b : BitVec 64} {s : Sign} {m : Nat} {e : Int} {h : 0 < m}
    (hb : unpack Format.binary64 b = .finite s m e h) :
    Sign.ofBitVec (@unpackSign Format.binary64 b) = s ∧
    ((@unpackExponent Format.binary64 b).toNat = 0 ∧
        m = (@unpackMantissa Format.binary64 b).toNat ∧ e = 1 - 1075 ∨
      m = 2 ^ 52 + (@unpackMantissa Format.binary64 b).toNat ∧
        e = (@unpackExponent Format.binary64 b).toNat - 1075) := by
  have hbias : Format.binary64.exponentBias = 1023 := by rfl
  unfold unpack at hb
  dsimp only at hb
  by_cases hspecial : @unpackExponent Format.binary64 b = -BitVec.ofNat _ 1
  · rw [if_pos hspecial] at hb
    by_cases hinf : @unpackMantissa Format.binary64 b = BitVec.ofNat _ 0
    · rw [if_pos hinf] at hb
      cases hb
    · rw [if_neg hinf] at hb
      cases hb
  rw [if_neg hspecial] at hb
  by_cases hzero : @unpackExponent Format.binary64 b = BitVec.ofNat _ 0
  · rw [if_pos hzero] at hb
    by_cases hempty : @unpackMantissa Format.binary64 b = BitVec.ofNat _ 0
    · rw [dif_pos hempty] at hb
      cases hb
    rw [dif_neg hempty] at hb
    injection hb with hs hm he
    rw [hzero] at he ⊢
    rw [hbias] at he
    exact ⟨hs, .inl ⟨rfl, hm.symm, by rw [← he]; rfl⟩⟩
  · rw [if_neg hzero] at hb
    injection hb with hs hm he
    rw [hbias] at he
    have hm' := (@unpackMantissa Format.binary64 b).isLt
    refine ⟨hs, .inr ⟨?_, he.symm⟩⟩
    rw [← hm, BitVec.toNat_append, ← Nat.shiftLeft_add_eq_or_of_lt hm', Nat.shiftLeft_eq]
    rfl

/-- A finite value other than zero has one packed form. -/
theorem unpack_finite_inj {b c : BitVec 64} {s : Sign} {m : Nat} {e : Int} {h : 0 < m}
    (hb : unpack Format.binary64 b = .finite s m e h)
    (hc : unpack Format.binary64 c = .finite s m e h) : b = c := by
  have hsign : ∀ v w : BitVec 1, Sign.ofBitVec v = Sign.ofBitVec w → v = w := by
    intro v w h
    rcases BitVec.eq_zero_or_eq_one v with rfl | rfl <;>
      rcases BitVec.eq_zero_or_eq_one w with rfl | rfl <;> first | rfl | cases h
  obtain ⟨hsb, hb⟩ := fields_of_unpack hb
  obtain ⟨hsc, hc⟩ := fields_of_unpack hc
  have hsigns := hsign _ _ (hsb.trans hsc.symm)
  have hmb := (@unpackMantissa Format.binary64 b).isLt
  have hmc := (@unpackMantissa Format.binary64 c).isLt
  apply BitVec.eq_of_toNat_eq
  rw [fields_toNat b, fields_toNat c, hsigns]
  omega

end Float.Model.UnpackedFloat

namespace Float
variable {x y : Float}

theorem beq_iff : (x == y) = true ↔ x.toModel.unpack.compare y.toModel.unpack = some .eq := by
  change (x.toModel.unpack.compare y.toModel.unpack == some .eq) = true ↔ _
  exact beq_iff_eq

/-- IEEE equality is reflexive on finite values. -/
theorem beq_self_of_isFinite (h : x.isFinite = true) : (x == x) = true := by
  rw [beq_iff]
  change x.toModel.unpack.isFinite = true at h
  cases hx : x.toModel.unpack with
  | infinity s | notANumber =>
    rw [hx] at h
    cases h
  | zero s => rfl
  | finite s m e hm =>
    have hm : compare m m = .eq := Std.ReflCmp.compare_self
    have he : compare e e = .eq := Std.ReflCmp.compare_self
    cases s with
    | negative =>
      change some ((compare e e).then (compare m m)).swap = some .eq
      rw [hm, he]
      rfl
    | positive =>
      change some ((compare e e).then (compare m m)) = some .eq
      rw [hm, he]
      rfl

/-- The order of finite values is total. -/
theorem not_lt_of_isFinite (hx : x.isFinite = true) (hy : y.isFinite = true) :
    ¬ x < y ↔ y ≤ x := by
  obtain ⟨o, hxy, hyx⟩ := Model.UnpackedFloat.compare_swap
    (a := x.toModel.unpack) (b := y.toModel.unpack) hx hy
  have hlt : x < y ↔ x.toModel.unpack.compare y.toModel.unpack = some .lt := by
    change decide ((x.toModel.unpack.compare y.toModel.unpack == some .lt) = true) = true ↔ _
    simp
  have hle : y ≤ x ↔ (y.toModel.unpack.compare x.toModel.unpack).any (·.isLE) = true := by
    change decide ((y.toModel.unpack.compare x.toModel.unpack).any (·.isLE) = true) = true ↔ _
    simp
  rw [hlt, hle, hxy, hyx]
  cases o <;> decide

/-- On positive finite values IEEE equality is equality. -/
theorem eq_of_beq_of_pos (hx : x.isFinite = true ∧ ¬ x ≤ 0) (hy : y.isFinite = true)
    (h : (x == y) = true) : x = y := by
  have hcompare := beq_iff.mp h
  have hzero : ∀ s, x.toModel.unpack ≠ .zero s := by
    intro s hs
    apply hx.2
    change decide ((x.toModel.unpack.compare (0 : Float).toModel.unpack).any (·.isLE) = true) = true
    rw [hs]
    cases s <;> decide +kernel
  have hunpack := Model.UnpackedFloat.eq_of_compare hx.1 hy hzero hcompare
  cases hx' : x.toModel.unpack with
  | infinity s | notANumber =>
    have hfinite := hx.1
    change x.toModel.unpack.isFinite = true at hfinite
    rw [hx'] at hfinite
    cases hfinite
  | zero s => exact absurd hx' (hzero s)
  | finite s m e hm =>
    have hbits := Model.UnpackedFloat.unpack_finite_inj (b := x.toModel.toBits.toBitVec)
      (c := y.toModel.toBits.toBitVec) hx' (hunpack.symm.trans hx')
    obtain ⟨⟨xbits, xvalid⟩⟩ := x
    obtain ⟨⟨ybits, yvalid⟩⟩ := y
    cases UInt64.eq_of_toBitVec_eq hbits
    rfl

/-- A binary32 value as a binary64 value, which holds it exactly. -/
def ofFloat32 (x : Float32) : Float :=
  match x.toModel.unpack with
  | .finite sign mantissa exponent _ => ⟨.pack (.round .binary64 sign mantissa exponent)⟩
  | special => ⟨.pack special⟩

end Float
