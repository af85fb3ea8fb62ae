import Mathlib.Algebra.Field.Rat
import Mathlib.Algebra.Order.Field.Power
import Mathlib.Algebra.Order.Ring.Rat
import Mathlib.Tactic.Linarith
import Mathlib.Tactic.Ring

namespace LineComment

/-- A finite number in double precision. Its significand has 53 bits, and unless the exponent is the
lowest one it fills them, so that no number is written in two ways. -/
structure Double where
  significand : ℤ
  exponent : ℤ
  bits : |significand| < 2 ^ 53
  lowest : -1074 ≤ exponent
  highest : exponent ≤ 971
  full : exponent = -1074 ∨ 2 ^ 52 ≤ |significand|

namespace Double

def value (d : Double) : ℚ :=
  d.significand * 2 ^ d.exponent

/-- The double to which a number is rounded is the nearest one. Of two that are as near it is the one
with the even significand. Numbers from halfway between the largest double and `2 ^ 1024` on are
rounded to none. -/
structure Rounds (x : ℚ) (d : Double) : Prop where
  finite : |x| < 2 ^ 1024 - 2 ^ 970
  nearest : ∀ d' : Double, |x - d.value| ≤ |x - d'.value|
  even : ∀ d' : Double, d'.value ≠ d.value → |x - d'.value| = |x - d.value| → Even d.significand

variable {d d' : Double} {x : ℚ} {m a e : ℤ}

theorem two_zpow_pos (e : ℤ) : (0 : ℚ) < 2 ^ e :=
  zpow_pos two_pos e

theorem two_zpow_mono (h : a ≤ e) : (2 : ℚ) ^ a ≤ 2 ^ e :=
  zpow_le_zpow_right₀ one_le_two h

theorem abs_value (d : Double) : |d.value| = |d.significand| * 2 ^ d.exponent := by
  rw [value, abs_mul, abs_of_pos (two_zpow_pos d.exponent), Int.cast_abs]

theorem abs_value_lt (d : Double) (h : d.exponent < e) : |d.value| < 2 ^ 52 * 2 ^ e := by
  have hbits : ((|d.significand| : ℤ) : ℚ) < 2 ^ 53 := mod_cast d.bits
  calc |d.value| = (|d.significand| : ℤ) * 2 ^ d.exponent := d.abs_value
    _ < 2 ^ 53 * 2 ^ d.exponent := mul_lt_mul_of_pos_right hbits (two_zpow_pos _)
    _ = 2 ^ 52 * 2 ^ (d.exponent + 1) := by rw [zpow_add_one₀ two_ne_zero]; ring
    _ ≤ 2 ^ 52 * 2 ^ e := mul_le_mul_of_nonneg_left (two_zpow_mono (by omega)) (by positivity)

theorem le_abs_value (d : Double) (h : -1074 < d.exponent) : 2 ^ 52 * 2 ^ d.exponent ≤ |d.value| := by
  have hfull : (2 ^ 52 : ℚ) ≤ (|d.significand| : ℤ) := mod_cast d.full.resolve_left h.ne'
  rw [abs_value]
  exact mul_le_mul_of_nonneg_right hfull (two_zpow_pos _).le

theorem exponent_le_of_value_eq (h : d.value = d'.value) : d.exponent ≤ d'.exponent := by
  by_contra hlt
  have hsmall := d'.abs_value_lt (not_le.1 hlt)
  have hlowest := d'.lowest
  have hlarge := d.le_abs_value (by omega)
  rw [h] at hlarge
  exact absurd hsmall (not_lt.2 hlarge)

theorem value_injective (h : d.value = d'.value) : d = d' := by
  have hexponent : d.exponent = d'.exponent :=
    le_antisymm (exponent_le_of_value_eq h) (exponent_le_of_value_eq h.symm)
  have hsignificand : (d.significand : ℚ) = d'.significand := by
    rw [value, value, hexponent] at h
    exact mul_right_cancel₀ (two_zpow_pos _).ne' h
  cases d
  cases d'
  congr
  exact mod_cast hsignificand

theorem exists_multiple_or_lt (d : Double) (e : ℤ) :
    (∃ a : ℤ, d.value = a * 2 ^ e) ∨ -1074 < e ∧ |d.value| < 2 ^ 52 * 2 ^ e := by
  by_cases h : d.exponent < e
  · have hlowest := d.lowest
    exact .inr ⟨by omega, d.abs_value_lt h⟩
  · refine .inl ⟨d.significand * 2 ^ (d.exponent - e).toNat, ?_⟩
    have hsplit : d.exponent = ((d.exponent - e).toNat : ℤ) + e := by omega
    rw [value]
    conv_lhs => rw [hsplit, zpow_add₀ two_ne_zero, zpow_natCast]
    push_cast
    ring

theorem two_pow_eq : (2 : ℚ) ^ 1024 = 2 ^ 53 * 2 ^ (971 : ℤ) := by
  rw [show (971 : ℤ) = ((971 : ℕ) : ℤ) from rfl, zpow_natCast, ← pow_add]

theorem limit_eq : (2 : ℚ) ^ 1024 - 2 ^ 970 = 2 ^ 53 * 2 ^ (971 : ℤ) - 2 ^ (971 : ℤ) / 2 := by
  have hhalf : (2 : ℚ) ^ 970 = 2 ^ (971 : ℤ) / 2 := by
    rw [show (971 : ℤ) = ((970 : ℕ) : ℤ) + 1 from rfl, zpow_add_one₀ two_ne_zero, zpow_natCast,
      mul_div_cancel_right₀ _ two_ne_zero]
  rw [two_pow_eq, hhalf]

theorem abs_value_lt_limit (d : Double) : |d.value| < 2 ^ 1024 - 2 ^ 970 := by
  have hbits : ((|d.significand| : ℤ) : ℚ) ≤ 2 ^ 53 - 1 := mod_cast Int.le_sub_one_of_lt d.bits
  have hpos := two_zpow_pos 971
  calc |d.value| = (|d.significand| : ℤ) * 2 ^ d.exponent := d.abs_value
    _ ≤ (2 ^ 53 - 1) * 2 ^ (971 : ℤ) :=
      mul_le_mul hbits (two_zpow_mono d.highest) (two_zpow_pos _).le (by norm_num)
    _ < 2 ^ 53 * 2 ^ (971 : ℤ) - 2 ^ (971 : ℤ) / 2 := by
      generalize (2 : ℚ) ^ (971 : ℤ) = unit at hpos
      linarith
    _ = 2 ^ 1024 - 2 ^ 970 := limit_eq.symm

theorem rounds_value (d : Double) : d.Rounds d.value := by
  constructor
  case finite => exact d.abs_value_lt_limit
  case nearest =>
    intro d'
    rw [sub_self, abs_zero]
    exact abs_nonneg _
  case even =>
    intro d' hother hsame
    rw [sub_self, abs_zero, abs_eq_zero, sub_eq_zero] at hsame
    exact absurd hsame.symm hother

def zero : Double where
  significand := 0
  exponent := -1074
  bits := by decide
  lowest := by decide
  highest := by decide
  full := .inl rfl

@[simp] theorem value_zero : zero.value = 0 := by
  simp [value, zero]

def neg (d : Double) : Double where
  significand := -d.significand
  exponent := d.exponent
  bits := by rw [abs_neg]; exact d.bits
  lowest := d.lowest
  highest := d.highest
  full := by rw [abs_neg]; exact d.full

@[simp] theorem value_neg (d : Double) : d.neg.value = -d.value := by
  simp [value, neg]

theorem Rounds.neg (h : d.Rounds x) : d.neg.Rounds (-x) := by
  have hdistance (y : ℚ) : |-x - y| = |x - -y| := by
    rw [← abs_neg]
    congr 1
    ring
  have hself : |-x - d.neg.value| = |x - d.value| := by rw [hdistance, value_neg, neg_neg]
  constructor
  case finite => rw [abs_neg]; exact h.finite
  case nearest =>
    intro d'
    rw [hself, hdistance, ← value_neg]
    exact h.nearest d'.neg
  case even =>
    intro d' hother hsame
    rw [hself, hdistance, ← value_neg] at hsame
    refine (h.even d'.neg ?_ hsame).neg
    intro hvalue
    rw [value_neg, neg_eq_iff_eq_neg] at hvalue
    exact hother (by rw [hvalue, value_neg])

theorem Rounds.value_nonneg (h : d.Rounds x) (hx : 0 ≤ x) : 0 ≤ d.value := by
  have hnearest := h.nearest zero
  by_contra hneg
  rw [value_zero, sub_zero, abs_of_nonneg hx] at hnearest
  have hdistance := le_abs_self (x - d.value)
  linarith

/-- In units of `2 ^ e` the number has 53 bits in front of its point, or this is the smallest unit. It
is no further than half a unit from the multiple. -/
structure Near (x : ℚ) (m e : ℤ) : Prop where
  lowest : -1074 ≤ e
  nonneg : 0 ≤ x
  bits : x < 2 ^ 53 * 2 ^ e
  full : e = -1074 ∨ 2 ^ 52 * 2 ^ e ≤ x
  near : 2 * |x - m * 2 ^ e| ≤ 2 ^ e

namespace Near

variable {u : ℚ}

theorem le_two_mul_abs (hu : 0 < u) (h : 2 * |x - m * u| ≤ u) (hne : a ≠ m) : u ≤ 2 * |x - a * u| := by
  have hdistance : (1 : ℚ) ≤ |(a - m : ℚ)| := by
    have hint : (1 : ℤ) ≤ |a - m| := Int.one_le_abs (sub_ne_zero.2 hne)
    exact_mod_cast hint
  have hapart : u ≤ |(a * u - m * u : ℚ)| := by
    rw [← sub_mul, abs_mul, abs_of_pos hu]
    exact le_mul_of_one_le_left hu.le hdistance
  have htriangle := abs_sub_le (a * u) x (m * u)
  rw [abs_sub_comm (a * u) x] at htriangle
  linarith

theorem le_abs (h : Near x m e) (a : ℤ) : |x - m * 2 ^ e| ≤ |x - a * 2 ^ e| := by
  by_cases hne : a = m
  · rw [hne]
  · have hapart := le_two_mul_abs (two_zpow_pos e) h.near hne
    have hnear := h.near
    linarith

theorem abs_lt_or_eq (h : Near x m e) (d : Double) :
    |x - m * 2 ^ e| < |x - d.value| ∨ d.value = m * 2 ^ e ∨
      ∃ a : ℤ, a ≠ m ∧ d.value = a * 2 ^ e ∧ 2 ^ e ≤ 2 * |x - a * 2 ^ e| := by
  obtain ⟨a, ha⟩ | ⟨hlowest, hsmall⟩ := d.exists_multiple_or_lt e
  · by_cases hne : a = m
    · exact .inr (.inl (hne ▸ ha))
    · exact .inr (.inr ⟨a, hne, ha, le_two_mul_abs (two_zpow_pos e) h.near hne⟩)
  · -- The double is behind the number that just fills the bits, which is a multiple.
    have hfull := h.full.resolve_left hlowest.ne'
    have hmultiple : |x - m * 2 ^ e| ≤ x - 2 ^ 52 * 2 ^ e := by
      calc |x - m * 2 ^ e| ≤ |x - ((2 ^ 52 : ℤ) : ℚ) * 2 ^ e| := h.le_abs _
        _ = x - 2 ^ 52 * 2 ^ e := by
          rw [Int.cast_pow, Int.cast_ofNat, abs_of_nonneg (sub_nonneg.2 hfull)]
    have hvalue := le_abs_self d.value
    have hdistance := le_abs_self (x - d.value)
    left
    linarith

theorem le_of_mul_le (h : Near x m e) (hle : a * 2 ^ e ≤ x) : a ≤ m := by
  by_contra hlt
  have hstep : ((m + 1 : ℤ) : ℚ) * 2 ^ e ≤ a * 2 ^ e :=
    mul_le_mul_of_nonneg_right (mod_cast not_le.1 hlt) (two_zpow_pos e).le
  have hnear := h.near
  have hdistance := le_abs_self (x - m * 2 ^ e)
  have hpos := two_zpow_pos e
  push_cast at hstep
  linarith

theorem le_of_lt_mul (h : Near x m e) (hlt : x < a * 2 ^ e) : m ≤ a := by
  by_contra hle
  have hstep : ((a + 1 : ℤ) : ℚ) * 2 ^ e ≤ m * 2 ^ e :=
    mul_le_mul_of_nonneg_right (mod_cast not_le.1 hle) (two_zpow_pos e).le
  have hnear := h.near
  have hdistance := neg_abs_le (x - m * 2 ^ e)
  have hpos := two_zpow_pos e
  push_cast at hstep
  linarith

theorem multiple_nonneg (h : Near x m e) : 0 ≤ m :=
  h.le_of_mul_le (by simpa using h.nonneg)

theorem multiple_le (h : Near x m e) : m ≤ 2 ^ 53 :=
  h.le_of_lt_mul (by exact_mod_cast h.bits)

theorem le_multiple (h : Near x m e) (hlowest : e ≠ -1074) : 2 ^ 52 ≤ m :=
  h.le_of_mul_le (by exact_mod_cast h.full.resolve_left hlowest)

theorem exponent_le (h : Near x m e) (hx : x < 2 ^ 1024 - 2 ^ 970) : e ≤ 971 := by
  by_contra hlt
  have hfull := h.full.resolve_left (by omega)
  have hmono : (2 : ℚ) ^ (971 + 1 : ℤ) ≤ 2 ^ e := two_zpow_mono (by omega)
  have hpos := two_zpow_pos 971
  rw [zpow_add_one₀ two_ne_zero] at hmono
  rw [limit_eq] at hx
  generalize (2 : ℚ) ^ (971 : ℤ) = unit at hx hmono hpos
  linarith

theorem exists_double (h : Near x m e) (hx : x < 2 ^ 1024 - 2 ^ 970) :
    ∃ d : Double, d.value = m * 2 ^ e ∧ (Even d.significand ↔ Even m) := by
  have hexponent := h.exponent_le hx
  have hm := h.multiple_nonneg
  by_cases hbits : m < 2 ^ 53
  · refine ⟨⟨m, e, by rwa [abs_of_nonneg hm], h.lowest, hexponent, ?_⟩, rfl, Iff.rfl⟩
    rw [abs_of_nonneg hm]
    exact or_iff_not_imp_left.2 h.le_multiple
  · obtain rfl : m = 2 ^ 53 := le_antisymm h.multiple_le (not_lt.1 hbits)
    -- The last of the largest units reaches the limit.
    have hlast : e ≠ 971 := by
      rintro rfl
      have hnear := h.near
      have hdistance := neg_abs_le (x - (2 ^ 53 : ℤ) * 2 ^ (971 : ℤ))
      rw [limit_eq] at hx
      generalize (2 : ℚ) ^ (971 : ℤ) = unit at hx hnear hdistance
      push_cast at hnear hdistance
      linarith
    have hlowest := h.lowest
    refine ⟨⟨2 ^ 52, e + 1, by decide, by omega, by omega, .inr (by decide)⟩, ?_, ?_⟩
    · rw [Double.value, zpow_add_one₀ two_ne_zero]
      push_cast
      ring
    · exact iff_of_true (show Even (2 ^ 52 : ℤ) by decide) (by decide)

theorem abs_sub_le_one (h : Near x m e) (ha : Near x a e) : |a - m| ≤ 1 := by
  have hpos := two_zpow_pos e
  have hapart : |(a * 2 ^ e - m * 2 ^ e : ℚ)| ≤ 1 * 2 ^ e := by
    have htriangle := abs_sub_le ((a : ℚ) * 2 ^ e) x (m * 2 ^ e)
    rw [abs_sub_comm ((a : ℚ) * 2 ^ e) x] at htriangle
    have hnear := h.near
    have hnear' := ha.near
    linarith
  rw [← sub_mul, abs_mul, abs_of_pos hpos] at hapart
  exact_mod_cast le_of_mul_le_mul_right hapart hpos

end Near

structure Nearest (x : ℚ) (m e : ℤ) : Prop extends Near x m e where
  even : 2 * |x - m * 2 ^ e| = 2 ^ e → Even m

namespace Nearest

theorem eq_value_of_rounds (h : Nearest x m e) (hx : x < 2 ^ 1024 - 2 ^ 970) (hd : d.Rounds x) :
    d.value = m * 2 ^ e := by
  obtain ⟨d₀, hd₀, -⟩ := h.exists_double hx
  have hle := hd.nearest d₀
  rw [hd₀] at hle
  obtain hlt | heq | ⟨a, hne, ha, hfar⟩ := h.abs_lt_or_eq d
  · exact absurd hle (not_le.2 hlt)
  · exact heq
  · -- There is a tie between two multiples, of which one is odd.
    exfalso
    have hnear := h.near
    rw [ha] at hle
    have heven : Even m := h.even (by linarith)
    have hnear' : Near x a e := { h with near := by linarith }
    obtain ⟨d₁, hd₁, hparity⟩ := hnear'.exists_double hx
    obtain rfl : d = d₁ := value_injective (ha.trans hd₁.symm)
    have hother : d₀.value ≠ d.value := by
      rw [hd₀, ha]
      intro hsame
      exact hne (mod_cast (mul_right_cancel₀ (two_zpow_pos e).ne' hsame).symm)
    have heven' : Even a := hparity.1 (hd.even d₀ hother (by rw [hd₀, ha]; linarith))
    have hclose := h.abs_sub_le_one hnear'
    grind

theorem rounds_of_value_eq (h : Nearest x m e) (hx : x < 2 ^ 1024 - 2 ^ 970)
    (hd : d.value = m * 2 ^ e) : d.Rounds x := by
  have hnear := h.near
  constructor
  case finite => rwa [abs_of_nonneg h.nonneg]
  case nearest =>
    intro d'
    rw [hd]
    obtain hlt | heq | ⟨a, -, ha, hfar⟩ := h.abs_lt_or_eq d'
    · exact hlt.le
    · rw [heq]
    · rw [ha]
      linarith
  case even =>
    intro d' hother hsame
    obtain ⟨d₀, hd₀, hparity⟩ := h.exists_double hx
    obtain rfl : d = d₀ := value_injective (hd.trans hd₀.symm)
    rw [hd] at hother hsame
    obtain hlt | heq | ⟨a, -, ha, hfar⟩ := h.abs_lt_or_eq d'
    · exact absurd hsame hlt.ne'
    · exact absurd heq hother
    · rw [ha] at hsame
      exact hparity.2 (h.even (by linarith))

theorem lt_limit_of_multiple_lt (h : Nearest x m e) (hlt : (m * 2 ^ e : ℚ) < 2 ^ 1024) :
    x < 2 ^ 1024 - 2 ^ 970 := by
  by_contra hx
  have hbits := h.bits
  have hpos := two_zpow_pos 971
  rw [not_lt, limit_eq] at hx
  rw [two_pow_eq] at hlt
  obtain hsmall | rfl | hlarge := lt_trichotomy e 971
  · have hmono : (2 : ℚ) ^ (e + 1) ≤ 2 ^ (971 : ℤ) := two_zpow_mono (by omega)
    rw [zpow_add_one₀ two_ne_zero] at hmono
    generalize (2 : ℚ) ^ (971 : ℤ) = unit at hx hmono hpos
    linarith
  · -- The multiple is the largest double, which is odd, and the number is no nearer than half a unit.
    have hlow : 2 ^ 53 - 1 ≤ m := by
      apply h.le_of_mul_le
      generalize (2 : ℚ) ^ (971 : ℤ) = unit at hx hpos ⊢
      push_cast
      linarith
    have hhigh : (m : ℚ) < 2 ^ 53 := lt_of_mul_lt_mul_right hlt hpos.le
    obtain rfl : m = 2 ^ 53 - 1 := le_antisymm (Int.le_sub_one_of_lt (mod_cast hhigh)) hlow
    have heven : Even (2 ^ 53 - 1 : ℤ) := by
      refine h.even (le_antisymm h.near ?_)
      have hdistance := le_abs_self (x - (2 ^ 53 - 1 : ℤ) * 2 ^ (971 : ℤ))
      generalize (2 : ℚ) ^ (971 : ℤ) = unit at hx hdistance ⊢
      push_cast at hdistance ⊢
      linarith
    exact absurd heven (by decide)
  · have hm : (2 ^ 52 : ℚ) ≤ m := mod_cast h.le_multiple (by omega)
    have hmono : (2 : ℚ) ^ (971 + 1 : ℤ) ≤ 2 ^ e := two_zpow_mono (by omega)
    have hmultiple := mul_le_mul hm hmono (two_zpow_pos _).le (hm.trans' (by positivity))
    rw [zpow_add_one₀ two_ne_zero] at hmultiple
    generalize (2 : ℚ) ^ (971 : ℤ) = unit at hlt hmultiple hpos
    linarith

theorem lt_limit_iff (h : Nearest x m e) :
    x < 2 ^ 1024 - 2 ^ 970 ↔ (m * 2 ^ e : ℚ) < 2 ^ 1024 := by
  refine ⟨fun hx => ?_, h.lt_limit_of_multiple_lt⟩
  obtain ⟨d, hd, -⟩ := h.exists_double hx
  calc (m * 2 ^ e : ℚ) = d.value := hd.symm
    _ ≤ |d.value| := le_abs_self _
    _ < 2 ^ 1024 - 2 ^ 970 := d.abs_value_lt_limit
    _ < 2 ^ 1024 := sub_lt_self _ (pow_pos two_pos 970)

theorem exists_rounds_iff (h : Nearest x m e) (k : ℚ) :
    (∃ d : Double, d.Rounds x ∧ d.value = k) ↔ m * 2 ^ e = k ∧ k < 2 ^ 1024 := by
  constructor
  · rintro ⟨d, hd, rfl⟩
    have hx : x < 2 ^ 1024 - 2 ^ 970 := (le_abs_self x).trans_lt hd.finite
    have hvalue := h.eq_value_of_rounds hx hd
    exact ⟨hvalue.symm, hvalue ▸ h.lt_limit_iff.1 hx⟩
  · rintro ⟨rfl, hlt⟩
    have hx := h.lt_limit_iff.2 hlt
    obtain ⟨d, hd, -⟩ := h.exists_double hx
    exact ⟨d, h.rounds_of_value_eq hx hd, hd⟩

end Nearest

end Double

end LineComment
