namespace LineComment

structure Decimal where
  negative : Bool
  digits : Nat
  exponent : Int
  deriving DecidableEq

def digitsValue (digits : List Char) : Nat :=
  digits.foldl (fun value c => 10 * value + (c.toNat - '0'.toNat)) 0

/-- A quotient rounded to the nearest whole number, halves to the even one. -/
def roundDiv (n d : Nat) : Nat :=
  let q := n / d
  let r := n % d
  if 2 * r < d ∨ 2 * r = d ∧ q % 2 = 0 then q else q + 1

def roundDouble (n : Nat) : Nat :=
  let unit := Nat.pow 2 (n.log2 - 52)
  roundDiv n unit * unit

def roundWhole (n : Int) : Int :=
  if 0 ≤ n then roundDouble n.natAbs else -roundDouble n.natAbs

namespace Decimal

/-- The quotient of positive numbers in double precision, if that is whole and finite. It is a
multiple of `2 ^ e`, where `e` leaves 53 significant bits and is at least -1074. -/
def wholeQuotient? (n d : Nat) : Option Nat :=
  let estimate : Int := n.log2 - d.log2
  let floorLog : Int :=
    if d <<< estimate.toNat ≤ n <<< (-estimate).toNat then estimate else estimate - 1
  let e : Int := max (floorLog - 52) (-1074)
  let m := roundDiv (n <<< (-e).toNat) (d <<< e.toNat)
  let value := m <<< e.toNat >>> (-e).toNat
  if value <<< (-e).toNat = m <<< e.toNat ∧ value.log2 < 1024 then some value else none

/-- The nearest value in double precision, if that is a whole number and not negative. Numbers
from `10 ^ 400` on exceed the largest double, and ones below `2 ^ -1100` vanish, a negative one
too. -/
def toWhole? (x : Decimal) : Option Nat :=
  if x.digits = 0 then some 0
  else if 400 < x.exponent then none
  else if x.digits.log2 + 1101 + 3 * x.exponent < 0 then some 0
  else
    let value :=
      wholeQuotient? (x.digits * Nat.pow 10 x.exponent.toNat) (Nat.pow 10 (-x.exponent).toNat)
    if x.negative then value.filter (· = 0) else value

end Decimal

@[simp] theorem roundDiv_one (n : Nat) : roundDiv n 1 = n := by
  simp [roundDiv, Nat.mod_one]

theorem roundDouble_of_lt {n : Nat} (h : n < Nat.pow 2 53) : roundDouble n = n := by
  have hlog : n.log2 - 52 = 0 := by
    by_cases hn : n = 0
    · simp [hn]
    · have := (Nat.log2_lt hn).2 h
      omega
  simp [roundDouble, hlog]

theorem roundWhole_of_lt {n : Int} (h : n.natAbs < Nat.pow 2 53) : roundWhole n = n := by
  unfold roundWhole
  rw [roundDouble_of_lt h]
  split <;> omega

end LineComment
