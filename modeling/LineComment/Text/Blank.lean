namespace LineComment.Text

/-- The blank code points, as ranges: tabs and line breaks, the Unicode spaces and separators,
and the byte order mark. -/
def blankRanges : List (Nat × Nat) :=
  [(0x9, 0xD), (0x20, 0x20), (0xA0, 0xA0), (0x1680, 0x1680), (0x2000, 0x200A),
    (0x2028, 0x2029), (0x202F, 0x202F), (0x205F, 0x205F), (0x3000, 0x3000), (0xFEFF, 0xFEFF)]

def inRanges (ranges : List (Nat × Nat)) (n : Nat) : Bool :=
  ranges.any fun range => range.1 ≤ n && n ≤ range.2

def isBlankPoint (n : Nat) : Bool :=
  inRanges blankRanges n

def isBlank (c : Char) : Bool :=
  isBlankPoint c.toNat

def trimStart (s : List Char) : List Char :=
  s.dropWhile isBlank

def trimEnd (s : List Char) : List Char :=
  (s.reverse.dropWhile isBlank).reverse

def trim (s : List Char) : List Char :=
  trimEnd (trimStart s)

@[simp] theorem trimStart_nil : trimStart [] = [] := rfl

theorem trimStart_cons (c : Char) (s : List Char) :
    trimStart (c :: s) = if isBlank c then trimStart s else c :: s := by
  by_cases h : isBlank c <;> simp [trimStart, h]

@[simp] theorem trimEnd_nil : trimEnd [] = [] := rfl

theorem trimEnd_reverse (s : List Char) : trimEnd s.reverse = (trimStart s).reverse := by
  simp [trimEnd, trimStart]

theorem trimEnd_append_blank {s t : List Char} (h : ∀ c ∈ t, isBlank c = true) :
    trimEnd (s ++ t) = trimEnd s := by
  rw [trimEnd, trimEnd, List.reverse_append,
    List.dropWhile_append_of_pos fun c hc => h c (List.mem_reverse.1 hc)]

end LineComment.Text
