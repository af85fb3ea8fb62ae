import LineComment.Text.Units

namespace LineComment.Text.Quoted

def opensHole : List Char → Bool
  | '$' :: c :: s => c = '\x7b' || opensHole (c :: s)
  | _ :: s => opensHole s
  | [] => false

/-- The quote around a text: the first of the single, the double and the back quote that it does not
hold, or else the single one. No text with a hole goes in back quotes. -/
def quoteFor (s : List Char) : Char :=
  if '\'' ∉ s then '\''
  else if '"' ∉ s then '"'
  else if '\x60' ∉ s ∧ !opensHole s then '\x60'
  else '\''

def hexDigit (n : Nat) : Char :=
  (Nat.digitChar (n % 16)).toUpper

def escape (quote : Char) : Char → List Char
  | '\\' => ['\\', '\\']
  | '\x08' => ['\\', 'b']
  | '\t' => ['\\', 't']
  | '\n' => ['\\', 'n']
  | '\x0c' => ['\\', 'f']
  | '\r' => ['\\', 'r']
  | '\'' => if quote = '\'' then ['\\', '\''] else ['\'']
  | c =>
    if c.toNat < 0x20 ∨ 0x7F ≤ c.toNat ∧ c.toNat ≤ 0x9F then
      ['\\', 'x', hexDigit (c.toNat / 16), hexDigit c.toNat]
    else
      [c]

def quote (s : List Char) : List Char :=
  let mark := quoteFor s
  mark :: s.flatMap (escape mark) ++ [mark]

def lines : List Char → List (List Char)
  | [] => []
  | '\n' :: s => ['\n'] :: lines s
  | c :: s =>
    match lines s with
    | [] => [[c]]
    | line :: rest => (c :: line) :: rest

/-- A text as messages show it. One of more than 124 units is quoted line by line, and after 128
units of the result the rest is left out. -/
def display (s : List Char) : List Char :=
  let parts := if 124 < width s then lines s else [s]
  let text := " +\n  ".toList.intercalate (parts.map quote)
  if 128 < width text then ofUnits ((units text).take 128) ++ "...".toList else text

end LineComment.Text.Quoted
