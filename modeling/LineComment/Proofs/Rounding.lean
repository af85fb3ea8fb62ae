import LineComment.Number.Decimal
import Mathlib.Algebra.Order.BigOperators.Group.List
import Mathlib.Algebra.Order.Ring.Int

namespace LineComment

variable {n : Nat}

theorem div_le_roundDiv (n d : Nat) : n / d ≤ roundDiv n d := by
  unfold roundDiv
  dsimp only
  split <;> omega

theorem roundDouble_eq (n : Nat) :
    roundDouble n = roundDiv n (2 ^ (n.log2 - 52)) * 2 ^ (n.log2 - 52) := rfl

theorem le_roundDouble (h : 2 ^ 53 ≤ n) : 2 ^ 53 ≤ roundDouble n := by
  have hpos : n ≠ 0 := by omega
  have hlog : 53 ≤ n.log2 := (Nat.le_log2 hpos).2 h
  have hquotient : 2 ^ 52 ≤ n / 2 ^ (n.log2 - 52) := by
    rw [Nat.le_div_iff_mul_le (Nat.two_pow_pos _), ← Nat.pow_add, show 52 + (n.log2 - 52) = n.log2 by omega]
    exact Nat.log2_self_le hpos
  calc
    2 ^ 53 ≤ 2 ^ n.log2 := Nat.pow_le_pow_right (by omega) hlog
    _ = 2 ^ 52 * 2 ^ (n.log2 - 52) := by rw [← Nat.pow_add, show 52 + (n.log2 - 52) = n.log2 by omega]
    _ ≤ roundDiv n (2 ^ (n.log2 - 52)) * 2 ^ (n.log2 - 52) :=
      Nat.mul_le_mul_right _ (hquotient.trans (div_le_roundDiv _ _))
    _ = roundDouble n := (roundDouble_eq n).symm

section Sums

variable {count total : Int} {counts : List Int}

def roundedSum (total : Int) (counts : List Int) : Int :=
  counts.foldl (fun total count => roundWhole (total + count)) total

theorem roundWhole_of_nonneg (nonneg : 0 ≤ count) (h : count < 2 ^ 53) :
    roundWhole count = count := by
  have habs : count.natAbs < 2 ^ 53 := by omega
  exact roundWhole_of_lt habs

theorem le_roundWhole (h : 2 ^ 53 ≤ count) : 2 ^ 53 ≤ roundWhole count := by
  have hround : 2 ^ 53 ≤ roundDouble count.natAbs := le_roundDouble (by omega)
  rw [roundWhole, if_pos (by omega)]
  omega

theorem le_roundedSum (nonneg : ∀ count ∈ counts, 0 ≤ count) (h : 2 ^ 53 ≤ total) :
    2 ^ 53 ≤ roundedSum total counts := by
  induction counts generalizing total with
  | nil => exact h
  | cons count counts ih =>
    obtain ⟨hcount, hcounts⟩ := List.forall_mem_cons.1 nonneg
    exact ih hcounts (le_roundWhole (by omega))

/-- The sum is exact, or else both it and the exact one have reached `2 ^ 53`. -/
theorem roundedSum_cases (nonneg : ∀ count ∈ counts, 0 ≤ count) (start : 0 ≤ total) :
    roundedSum total counts = total + counts.sum ∨
      2 ^ 53 ≤ total + counts.sum ∧ 2 ^ 53 ≤ roundedSum total counts := by
  induction counts generalizing total with
  | nil => simp [roundedSum]
  | cons count counts ih =>
    obtain ⟨hcount, hcounts⟩ := List.forall_mem_cons.1 nonneg
    have hrest : 0 ≤ counts.sum := List.sum_nonneg hcounts
    have hstep : roundedSum total (count :: counts) =
        roundedSum (roundWhole (total + count)) counts := rfl
    rw [hstep, List.sum_cons, ← Int.add_assoc]
    by_cases hsmall : total + count < 2 ^ 53
    · rw [roundWhole_of_nonneg (by omega) hsmall]
      exact ih hcounts (by omega)
    · exact .inr ⟨by omega, le_roundedSum hcounts (le_roundWhole (by omega))⟩

theorem roundedSum_of_lt (nonneg : ∀ count ∈ counts, 0 ≤ count)
    (h : roundedSum 0 counts < 2 ^ 53) : roundedSum 0 counts = counts.sum := by
  obtain hexact | ⟨-, hlarge⟩ := roundedSum_cases nonneg (Int.le_refl 0) <;> omega

theorem roundedSum_perm {counts' : List Int} (nonneg : ∀ count ∈ counts, 0 ≤ count)
    (h : roundedSum 0 counts < 2 ^ 53) (hperm : counts.Perm counts') :
    roundedSum 0 counts' = roundedSum 0 counts := by
  have hexact := roundedSum_of_lt nonneg h
  have hsum := hperm.sum_eq
  have nonneg' : ∀ count ∈ counts', 0 ≤ count := fun count hcount =>
    nonneg count (hperm.mem_iff.2 hcount)
  obtain hexact' | ⟨hlarge, -⟩ := roundedSum_cases nonneg' (Int.le_refl 0) <;> omega

end Sums

end LineComment
