import LineComment.Number.Decimal

/-! The text of a whole number in double precision: the fewest digits that read back as it. -/

namespace LineComment

/-- The multiple of `unit` that reads back as the double `n`, if one does. Of two it is the nearer,
of two as near the one whose last digit is even. -/
def multiple? (n unit : Nat) : Option Nat :=
  let low := n / unit * unit
  let high := low + unit
  if roundDouble low = n then
    if roundDouble high = n ∧
        (high - n < n - low ∨ high - n = n - low ∧ (high / unit) % 2 = 0) then
      some high
    else
      some low
  else if roundDouble high = n then some high
  else none

def shortestFrom (n : Nat) : Nat → Nat
  | 0 => n
  | places + 1 => (multiple? n (Nat.pow 10 (places + 1))).getD (shortestFrom n places)

def shortest (n : Nat) : Nat :=
  if n < Nat.pow 2 53 then n else shortestFrom (roundDouble n) 308

def natText (n : Nat) : String :=
  let text := Nat.repr (shortest n)
  if text.length ≤ 21 then text
  else
    let digits := (text.toList.reverse.dropWhile (· = '0')).reverse
    let mantissa := match digits with
      | d :: rest => d :: (if rest.isEmpty then [] else '.' :: rest)
      | [] => []
    String.ofList mantissa ++ "e+" ++ Nat.repr (text.length - 1)

def intText : Int → String
  | .ofNat n => natText n
  | .negSucc n => "-" ++ natText (n + 1)

end LineComment
