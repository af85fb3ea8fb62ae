import LineComment.Number.Decimal
import LineComment.Proofs.Doubles

namespace LineComment

section RoundDiv

variable {n d : Nat}

theorem roundDiv_nearest (hd : 0 < d) :
    2 * |(n : ℤ) - roundDiv n d * d| ≤ d ∧
      (2 * |(n : ℤ) - roundDiv n d * d| = d → Even (roundDiv n d)) := by
  unfold roundDiv
  extract_lets q r
  have hdiv : (n : ℤ) = q * d + r := mod_cast (Nat.div_add_mod' n d).symm
  have hmod : r < d := Nat.mod_lt n hd
  split
  next h =>
    have hrest : (n : ℤ) - q * d = r := by omega
    rw [hrest, abs_of_nonneg (by omega)]
    exact ⟨by omega, fun htie => Nat.even_iff.2 (by omega)⟩
  next h =>
    have hrest : (n : ℤ) - (q + 1 : ℕ) * d = r - d := by
      rw [Nat.cast_add_one, add_mul]
      omega
    rw [hrest, abs_of_nonpos (by omega)]
    exact ⟨by omega, fun htie => Nat.even_add_one.2 fun heven => by grind⟩

end RoundDiv

namespace Decimal

variable {n d : Nat} {e : ℤ}

theorem zpow_mul_toNat {b : ℚ} (hb : b ≠ 0) (e : ℤ) : b ^ e * b ^ (-e).toNat = b ^ e.toNat := by
  rw [← zpow_natCast, ← zpow_natCast, ← zpow_add₀ hb]
  congr 1
  omega

theorem shiftLeft_le_shiftLeft_iff (hd : 0 < d) :
    d <<< e.toNat ≤ n <<< (-e).toNat ↔ (2 : ℚ) ^ e ≤ n / d := by
  have hd' : (0 : ℚ) < d := mod_cast hd
  have hpow : (0 : ℚ) < 2 ^ (-e).toNat := by positivity
  rw [Nat.shiftLeft_eq, Nat.shiftLeft_eq, le_div_iff₀ hd', ← mul_le_mul_iff_left₀ hpow,
    mul_right_comm, zpow_mul_toNat two_ne_zero, mul_comm, ← Nat.cast_le (α := ℚ)]
  push_cast
  rfl

theorem log2_lt_iff {b : Nat} (hb : 0 < b) : n.log2 < b ↔ n < 2 ^ b := by
  by_cases hn : n = 0
  · subst hn
    exact iff_of_true hb (Nat.two_pow_pos b)
  · exact Nat.log2_lt hn

theorem log2_bounds (hn : n ≠ 0) : (2 : ℚ) ^ (n.log2 : ℤ) ≤ n ∧ (n : ℚ) < 2 ^ ((n.log2 : ℤ) + 1) := by
  have hlow : 2 ^ n.log2 ≤ n := Nat.log2_self_le hn
  have hhigh : n < 2 ^ (n.log2 + 1) := Nat.lt_log2_self
  constructor
  · rw [zpow_natCast]
    exact_mod_cast hlow
  · rw [← Nat.cast_add_one, zpow_natCast]
    exact_mod_cast hhigh

theorem log_bounds (hn : n ≠ 0) (hd : d ≠ 0) :
    (2 : ℚ) ^ ((n.log2 : ℤ) - d.log2 - 1) ≤ n / d ∧ (n / d : ℚ) < 2 ^ ((n.log2 : ℤ) - d.log2 + 1) := by
  obtain ⟨hnlow, hnhigh⟩ := log2_bounds hn
  obtain ⟨hdlow, hdhigh⟩ := log2_bounds hd
  have hpos : (0 : ℚ) < d := mod_cast Nat.pos_of_ne_zero hd
  constructor
  · rw [le_div_iff₀ hpos]
    calc (2 : ℚ) ^ ((n.log2 : ℤ) - d.log2 - 1) * d
        ≤ 2 ^ ((n.log2 : ℤ) - d.log2 - 1) * 2 ^ ((d.log2 : ℤ) + 1) :=
          mul_le_mul_of_nonneg_left hdhigh.le (Double.two_zpow_pos _).le
      _ = 2 ^ (n.log2 : ℤ) := by rw [← zpow_add₀ two_ne_zero]; congr 1; ring
      _ ≤ n := hnlow
  · rw [div_lt_iff₀ hpos]
    calc (n : ℚ) < 2 ^ ((n.log2 : ℤ) + 1) := hnhigh
      _ = 2 ^ ((n.log2 : ℤ) - d.log2 + 1) * 2 ^ (d.log2 : ℤ) := by
        rw [← zpow_add₀ two_ne_zero]; congr 1; ring
      _ ≤ 2 ^ ((n.log2 : ℤ) - d.log2 + 1) * d :=
          mul_le_mul_of_nonneg_left hdlow (Double.two_zpow_pos _).le

theorem exists_scale (n : Nat) (hd : d ≠ 0) (e : ℤ) :
    ∃ c : ℚ, 0 < c ∧ ((n <<< (-e).toNat : ℕ) : ℚ) = c * (n / d) ∧
      ((d <<< e.toNat : ℕ) : ℚ) = c * 2 ^ e := by
  have hpos : (0 : ℚ) < d := mod_cast Nat.pos_of_ne_zero hd
  refine ⟨d * 2 ^ (-e).toNat, by positivity, ?_, ?_⟩
  · rw [Nat.shiftLeft_eq, mul_right_comm, mul_div_cancel₀ _ hpos.ne']
    push_cast
    rfl
  · rw [Nat.shiftLeft_eq, mul_assoc, mul_comm ((2 : ℚ) ^ (-e).toNat), zpow_mul_toNat two_ne_zero]
    push_cast
    rfl

theorem nearest_roundDiv (hd : d ≠ 0) (hlowest : -1074 ≤ e) (hbits : (n / d : ℚ) < 2 ^ 53 * 2 ^ e)
    (hfull : e = -1074 ∨ 2 ^ 52 * 2 ^ e ≤ (n / d : ℚ)) :
    Double.Nearest (n / d) (roundDiv (n <<< (-e).toNat) (d <<< e.toNat)) e := by
  obtain ⟨c, hc, hn, hd'⟩ := exists_scale n hd e
  have hpos : 0 < d <<< e.toNat := by
    rw [Nat.shiftLeft_eq]
    exact Nat.mul_pos (Nat.pos_of_ne_zero hd) (Nat.two_pow_pos _)
  obtain ⟨hnear, heven⟩ := roundDiv_nearest (n := n <<< (-e).toNat) hpos
  generalize roundDiv (n <<< (-e).toNat) (d <<< e.toNat) = m at hnear heven ⊢
  have hscale : ((|((n <<< (-e).toNat : ℕ) : ℤ) - m * (d <<< e.toNat : ℕ)| : ℤ) : ℚ) =
      c * |(n / d : ℚ) - (m : ℤ) * 2 ^ e| := by
    rw [Int.cast_abs, Int.cast_sub, Int.cast_mul, Int.cast_natCast, Int.cast_natCast, Int.cast_natCast,
      hn, hd', mul_left_comm, ← mul_sub, abs_mul, abs_of_pos hc]
  generalize |((n <<< (-e).toNat : ℕ) : ℤ) - m * (d <<< e.toNat : ℕ)| = gap at hnear heven hscale
  constructor
  case toNear =>
    refine ⟨hlowest, div_nonneg (Nat.cast_nonneg n) (Nat.cast_nonneg d), hbits, hfull, ?_⟩
    refine le_of_mul_le_mul_left ?_ hc
    have hscaled := (Int.cast_le (R := ℚ)).2 hnear
    rwa [Int.cast_mul, Int.cast_ofNat, Int.cast_natCast, hscale, hd', mul_left_comm] at hscaled
  case even =>
    intro htie
    refine (Int.even_coe_nat m).2 (heven ((Int.cast_inj (α := ℚ)).1 ?_))
    rw [Int.cast_mul, Int.cast_ofNat, Int.cast_natCast, hscale, mul_left_comm, htie, hd']

theorem exists_nearest (hn : n ≠ 0) (hd : d ≠ 0) :
    ∃ m e, Double.Nearest (n / d) m e ∧ ∀ k : Nat, wholeQuotient? n d = some k ↔
      (m * 2 ^ e : ℚ) = k ∧ (k : ℚ) < 2 ^ 1024 := by
  unfold wholeQuotient?
  extract_lets estimate floorLog e m value
  have hlog : (2 : ℚ) ^ floorLog ≤ n / d ∧ (n / d : ℚ) < 2 ^ (floorLog + 1) := by
    obtain ⟨hlow, hhigh⟩ := log_bounds hn hd
    by_cases hestimate : d <<< estimate.toNat ≤ n <<< (-estimate).toNat
    · have hfloor : floorLog = estimate := if_pos hestimate
      rw [hfloor]
      exact ⟨(shiftLeft_le_shiftLeft_iff (Nat.pos_of_ne_zero hd)).1 hestimate, hhigh⟩
    · have hfloor : floorLog = estimate - 1 := if_neg hestimate
      rw [shiftLeft_le_shiftLeft_iff (Nat.pos_of_ne_zero hd), not_le] at hestimate
      rw [hfloor, sub_add_cancel]
      exact ⟨hlow, hestimate⟩
  have hbits : (n / d : ℚ) < 2 ^ 53 * 2 ^ e := by
    calc (n / d : ℚ) < 2 ^ (floorLog + 1) := hlog.2
      _ ≤ 2 ^ (53 + e) := Double.two_zpow_mono (by omega)
      _ = 2 ^ 53 * 2 ^ e := zpow_add₀ two_ne_zero 53 e
  have hfull : e = -1074 ∨ 2 ^ 52 * 2 ^ e ≤ (n / d : ℚ) := by
    by_cases hlowest : e = -1074
    · exact .inl hlowest
    · right
      calc (2 ^ 52 * 2 ^ e : ℚ) = 2 ^ (52 + e) := (zpow_add₀ two_ne_zero 52 e).symm
        _ ≤ 2 ^ floorLog := Double.two_zpow_mono (by omega)
        _ ≤ n / d := hlog.1
  refine ⟨m, e, nearest_roundDiv hd (le_max_right _ _) hbits hfull, fun k => ?_⟩
  have hvalue : ((m : ℤ) * 2 ^ e : ℚ) = k ↔ k <<< (-e).toNat = m <<< e.toNat := by
    have hpow : (2 : ℚ) ^ (-e).toNat ≠ 0 := by positivity
    rw [Int.cast_natCast, Nat.shiftLeft_eq, Nat.shiftLeft_eq, ← mul_left_inj' hpow, mul_assoc,
      zpow_mul_toNat two_ne_zero, ← Nat.cast_inj (R := ℚ)]
    push_cast
    exact eq_comm
  have hsize : k.log2 < 1024 ↔ (k : ℚ) < 2 ^ 1024 := by
    rw [log2_lt_iff (by decide), ← Nat.cast_lt (α := ℚ), Nat.cast_pow, Nat.cast_ofNat]
  rw [hvalue, ← hsize]
  constructor
  · intro h
    obtain ⟨hexact, hvalue⟩ := Option.ite_some_none_eq_some.1 h
    exact hvalue ▸ hexact
  · rintro ⟨hexact, hlog⟩
    have hback : value = k := by
      rw [← Nat.shiftLeft_shiftRight k (-e).toNat, hexact]
    rw [hback, if_pos ⟨hexact, hlog⟩]

def magnitude (x : Decimal) : ℚ :=
  x.digits * 10 ^ x.exponent

def value (x : Decimal) : ℚ :=
  if x.negative then -x.magnitude else x.magnitude

theorem magnitude_nonneg (x : Decimal) : 0 ≤ x.magnitude :=
  mul_nonneg (Nat.cast_nonneg _) (zpow_nonneg (by norm_num) _)

theorem exists_rounds_iff_of_small {y k : ℚ} (hy : 0 ≤ y) (hsmall : 2 * y ≤ 2 ^ (-1074 : ℤ)) :
    (∃ d : Double, d.Rounds y ∧ d.value = k) ↔ k = 0 := by
  have hpos := Double.two_zpow_pos (-1074)
  have h : Double.Nearest y 0 (-1074) := by
    constructor
    case toNear =>
      refine ⟨le_rfl, hy, by linarith, .inl rfl, ?_⟩
      rwa [Int.cast_zero, zero_mul, sub_zero, abs_of_nonneg hy]
    case even => exact fun _ => Even.zero
  rw [h.exists_rounds_iff, Int.cast_zero, zero_mul, eq_comm, and_iff_left_iff_imp]
  rintro rfl
  exact pow_pos two_pos _

theorem not_rounds_of_large {y : ℚ} {d : Double} (h : 10 ^ 401 ≤ y) : ¬d.Rounds y := by
  intro hd
  have hlimit : (2 : ℚ) ^ 1024 ≤ 10 ^ 401 := by
    calc (2 : ℚ) ^ 1024 ≤ 2 ^ (3 * 401) := pow_le_pow_right₀ one_le_two (by decide)
      _ = 8 ^ 401 := by rw [pow_mul]; norm_num
      _ ≤ 10 ^ 401 := pow_le_pow_left₀ (by norm_num) (by norm_num) 401
  have hpos : (0 : ℚ) < 2 ^ 970 := pow_pos two_pos 970
  have hfinite : y < 2 ^ 1024 := by
    calc y ≤ |y| := le_abs_self y
      _ < 2 ^ 1024 - 2 ^ 970 := hd.finite
      _ < 2 ^ 1024 := sub_lt_self _ hpos
  exact absurd (hlimit.trans h) (not_le.2 hfinite)

variable {x : Decimal}

theorem le_magnitude (hdigits : x.digits ≠ 0) (h : 400 < x.exponent) : 10 ^ 401 ≤ x.magnitude := by
  have hone : (1 : ℚ) ≤ x.digits := mod_cast Nat.one_le_iff_ne_zero.2 hdigits
  calc (10 : ℚ) ^ 401 = 1 * 10 ^ (401 : ℤ) := by rw [one_mul]; rfl
    _ ≤ x.digits * 10 ^ x.exponent :=
      mul_le_mul hone (zpow_le_zpow_right₀ (by norm_num) (by omega)) (by positivity) (by positivity)

theorem two_mul_magnitude_le (h : (x.digits.log2 : ℤ) + 1101 + 3 * x.exponent < 0) :
    2 * x.magnitude ≤ 2 ^ (-1074 : ℤ) := by
  have hdigits : (x.digits : ℚ) ≤ 2 ^ ((x.digits.log2 : ℤ) + 1) := by
    rw [← Nat.cast_add_one, zpow_natCast]
    exact_mod_cast (Nat.lt_log2_self (n := x.digits)).le
  have hpower : (10 : ℚ) ^ x.exponent ≤ 2 ^ (3 * x.exponent) := by
    obtain ⟨n, hn⟩ : ∃ n : ℕ, x.exponent = -n := ⟨(-x.exponent).toNat, by omega⟩
    rw [hn, mul_neg, zpow_neg, zpow_neg, zpow_mul, zpow_natCast, zpow_natCast]
    exact inv_anti₀ (by positivity) (pow_le_pow_left₀ (by norm_num) (by norm_num) n)
  calc 2 * x.magnitude
      ≤ 2 * (2 ^ ((x.digits.log2 : ℤ) + 1) * 2 ^ (3 * x.exponent)) := by
        refine mul_le_mul_of_nonneg_left ?_ two_pos.le
        exact mul_le_mul hdigits hpower (by positivity) (by positivity)
    _ = 2 ^ ((x.digits.log2 : ℤ) + 1 + 3 * x.exponent + 1) := by
        rw [← zpow_add₀ two_ne_zero, zpow_add_one₀ two_ne_zero, mul_comm]
    _ ≤ 2 ^ (-1074 : ℤ) := Double.two_zpow_mono (by omega)

theorem magnitude_eq_div (x : Decimal) : x.magnitude =
    ((x.digits * Nat.pow 10 x.exponent.toNat : ℕ) : ℚ) / (Nat.pow 10 (-x.exponent).toNat : ℕ) := by
  have hpos : (10 : ℚ) ^ (-x.exponent).toNat ≠ 0 := by positivity
  rw [Nat.pow_eq, Nat.pow_eq, Nat.cast_mul, Nat.cast_pow, Nat.cast_pow, Nat.cast_ofNat, eq_div_iff hpos,
    magnitude, mul_assoc, zpow_mul_toNat (by norm_num)]

theorem toWhole?_negative (digits : Nat) (exponent : ℤ) :
    toWhole? ⟨true, digits, exponent⟩ = (toWhole? ⟨false, digits, exponent⟩).filter (· = 0) := by
  simp only [toWhole?, ↓reduceIte, Bool.false_eq_true]
  split_ifs <;> rfl

theorem toWhole?_positive (digits : Nat) (exponent : ℤ) (k : Nat) :
    toWhole? ⟨false, digits, exponent⟩ = some k ↔
      ∃ d : Double, d.Rounds (magnitude ⟨false, digits, exponent⟩) ∧ d.value = k := by
  have hnonneg := magnitude_nonneg ⟨false, digits, exponent⟩
  simp only [toWhole?, Bool.false_eq_true, ↓reduceIte]
  split_ifs with hdigits hlarge hsmall
  · have hzero : magnitude ⟨false, digits, exponent⟩ = 0 := by simp [magnitude, hdigits]
    rw [exists_rounds_iff_of_small hnonneg (by rw [hzero, mul_zero]; exact (Double.two_zpow_pos _).le)]
    simp [eq_comm]
  · have hlimit := le_magnitude (x := ⟨false, digits, exponent⟩) hdigits hlarge
    have hnone (d : Double) := not_rounds_of_large (d := d) hlimit
    simp [hnone]
  · rw [exists_rounds_iff_of_small hnonneg (two_mul_magnitude_le hsmall)]
    simp [eq_comm]
  · have hn : digits * Nat.pow 10 exponent.toNat ≠ 0 :=
      Nat.mul_ne_zero hdigits (Nat.pow_pos (by decide)).ne'
    have hd : Nat.pow 10 (-exponent).toNat ≠ 0 := (Nat.pow_pos (by decide)).ne'
    obtain ⟨m, e, hnearest, hvalue⟩ := exists_nearest hn hd
    rw [magnitude_eq_div, hvalue, hnearest.exists_rounds_iff]

/-- The whole number that a decimal stands for is the double nearest to it. -/
theorem toWhole?_eq_some_iff (x : Decimal) (k : Nat) :
    x.toWhole? = some k ↔ ∃ d : Double, d.Rounds x.value ∧ d.value = k := by
  obtain ⟨negative, digits, exponent⟩ := x
  cases negative with
  | false => exact toWhole?_positive digits exponent k
  | true =>
    have hnonneg := magnitude_nonneg ⟨false, digits, exponent⟩
    rw [toWhole?_negative, Option.filter_eq_some_iff, toWhole?_positive, decide_eq_true_eq]
    constructor
    · rintro ⟨⟨d, hd, hvalue⟩, rfl⟩
      exact ⟨d.neg, hd.neg, by simpa using hvalue⟩
    · rintro ⟨d, hd, hvalue⟩
      have hrounds : d.neg.Rounds (magnitude ⟨false, digits, exponent⟩) := by
        have hneg := hd.neg
        rwa [value, if_pos rfl, neg_neg] at hneg
      have hzero := hrounds.value_nonneg hnonneg
      rw [Double.value_neg, hvalue, neg_nonneg] at hzero
      obtain rfl : k = 0 := Nat.cast_eq_zero.1 (le_antisymm hzero (Nat.cast_nonneg k))
      exact ⟨⟨d.neg, hrounds, by simpa using hvalue⟩, rfl⟩

theorem toWhole?_of_toWhole? {k : Nat} (h : x.toWhole? = some k) :
    toWhole? ⟨false, k, 0⟩ = some k := by
  obtain ⟨d, -, hd⟩ := (toWhole?_eq_some_iff x k).1 h
  have hvalue : value ⟨false, k, 0⟩ = d.value := by simp [value, magnitude, hd]
  exact (toWhole?_eq_some_iff _ k).2 ⟨d, hvalue ▸ d.rounds_value, hd⟩

end Decimal

end LineComment
