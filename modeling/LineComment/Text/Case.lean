import LineComment.Text.Case.Table
import LineComment.Text.Units

/-! Two ways to read a text without regard to case: units that fold to one another, and the lower
case of a whole text. -/

namespace LineComment.Text

/-- The unit that stands for `u` when case does not matter. An ASCII letter folds to its capital.
A unit outside ASCII folds to its simple upper case where that is a single unit outside ASCII, and
to itself otherwise, so it never equals an ASCII one. -/
def fold (u : Nat) : Nat :=
  if u < 0x80 then (Char.ofNat u).toUpper.toNat else Case.move Case.foldRuns u

def leads : List Nat → List Nat → Bool
  | [], _ => true
  | _ :: _, [] => false
  | a :: p, u :: us => fold a == fold u && leads p us

def occurs (p : List Nat) : List Nat → Bool
  | [] => p.isEmpty
  | u :: us => p.isPrefixOf (u :: us) || occurs p us

namespace Case

def isIgnorable (n : Nat) : Bool :=
  if n < 0x80 then Char.ofNat n ∈ ['\'', '.', ':', '^', '\x60']
  else inRanges ignorableRanges n

def isCased (n : Nat) : Bool :=
  if n < 0x80 then (Char.ofNat n).isAlpha else inRanges casedRanges n

def beginsCased (ns : List Nat) : Bool :=
  (ns.dropWhile isIgnorable).head?.any isCased

/-- The lower case of a code point by itself. The dotted capital I keeps its dot as a mark. -/
def lowerPoint (n : Nat) : List Nat :=
  if n < 0x80 then [(Char.ofNat n).toLower.toNat]
  else if n = 'İ'.toNat then ['i'.toNat, 0x307]
  else [move lowerRuns n]

def lowerFrom (inWord : Bool) : List Nat → List Nat
  | [] => []
  | n :: ns =>
    let lowered := if n = 'Σ'.toNat ∧ inWord ∧ !beginsCased ns then ['ς'.toNat] else lowerPoint n
    lowered ++ lowerFrom (if isIgnorable n then inWord else isCased n) ns

end Case

/-- The lower case of a text. A capital sigma at the end of a word becomes a final sigma. -/
def lower (us : List Nat) : List Nat :=
  (Case.lowerFrom false (points us)).flatMap pointUnits

@[simp] theorem lower_nil : lower [] = [] := rfl

@[simp] theorem leads_nil (us : List Nat) : leads [] us = true := by
  simp [leads]

theorem occurs_iff {p us : List Nat} : occurs p us = true ↔ p <:+: us := by
  induction us with
  | nil => simp [occurs, List.isEmpty_iff]
  | cons u us ih => simp [occurs, ih, List.infix_cons_iff, List.isPrefixOf_iff_prefix]

end LineComment.Text
