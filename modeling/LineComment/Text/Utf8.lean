/-! Decoding UTF-8 that may hold errors. A longest beginning of a character that is not completed,
and a byte that begins none, become a replacement character each. -/

namespace LineComment.Text.Utf8

structure Pending where
  value : Nat
  more : Nat
  low : Nat
  high : Nat
  deriving DecidableEq

def begins (b : Nat) : List Char × Option Pending :=
  if b < 0x80 then ([.ofNat b], none)
  else if b < 0xC2 then (['\uFFFD'], none)
  else if b < 0xE0 then ([], some ⟨b - 0xC0, 0, 0x80, 0xBF⟩)
  else if b = 0xE0 then ([], some ⟨0, 1, 0xA0, 0xBF⟩)
  else if b = 0xED then ([], some ⟨0xD, 1, 0x80, 0x9F⟩)
  else if b < 0xF0 then ([], some ⟨b - 0xE0, 1, 0x80, 0xBF⟩)
  else if b = 0xF0 then ([], some ⟨0, 2, 0x90, 0xBF⟩)
  else if b < 0xF4 then ([], some ⟨b - 0xF0, 2, 0x80, 0xBF⟩)
  else if b = 0xF4 then ([], some ⟨4, 2, 0x80, 0x8F⟩)
  else (['\uFFFD'], none)

def step (pending : Option Pending) (b : Nat) : List Char × Option Pending :=
  match pending with
  | none => begins b
  | some p =>
    if p.low ≤ b ∧ b ≤ p.high then
      let value := p.value * 0x40 + (b - 0x80)
      match p.more with
      | 0 => ([.ofNat value], none)
      | more + 1 => ([], some ⟨value, more, 0x80, 0xBF⟩)
    else
      let (out, next) := begins b
      ('\uFFFD' :: out, next)

def decodeFrom (pending : Option Pending) : List UInt8 → List Char
  | [] => if pending.isSome then ['\uFFFD'] else []
  | b :: bytes =>
    let (out, next) := step pending b.toNat
    out ++ decodeFrom next bytes

def decode (bytes : List UInt8) : List Char :=
  decodeFrom none bytes

end LineComment.Text.Utf8
