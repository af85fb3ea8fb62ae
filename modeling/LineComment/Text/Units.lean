/-! Lengths, positions and the order of texts count 16-bit units: a character of the first plane
is one unit, any other a pair of surrogates. -/

namespace LineComment.Text

/-- The units that encode a code point. Half of a pair is a code point of its own and encodes
itself. -/
def pointUnits (n : Nat) : List Nat :=
  if n < 0x10000 then [n]
  else [0xD800 + (n - 0x10000) / 0x400, 0xDC00 + (n - 0x10000) % 0x400]

def unitsOf (c : Char) : List Nat :=
  pointUnits c.toNat

def units (s : List Char) : List Nat :=
  s.flatMap unitsOf

def points : List Nat → List Nat
  | [] => []
  | [u] => [u]
  | u :: v :: us =>
    if 0xD800 ≤ u ∧ u < 0xDC00 ∧ 0xDC00 ≤ v ∧ v < 0xE000 then
      (0x10000 + (u - 0xD800) * 0x400 + (v - 0xDC00)) :: points us
    else
      u :: points (v :: us)

def ofPoint (n : Nat) : Char :=
  if 0xD800 ≤ n ∧ n < 0xE000 then '\uFFFD' else .ofNat n

def ofUnits (us : List Nat) : List Char :=
  (points us).map ofPoint

def width (s : List Char) : Nat :=
  (units s).length

def dictionaryLe : List Nat → List Nat → Bool
  | [], _ => true
  | _ :: _, [] => false
  | u :: us, v :: vs => u < v || u == v && dictionaryLe us vs

def unitsLe (a b : String) : Bool :=
  dictionaryLe (units a.toList) (units b.toList)

theorem units_cons (c : Char) (s : List Char) : units (c :: s) = unitsOf c ++ units s :=
  List.flatMap_cons

theorem units_append (s t : List Char) : units (s ++ t) = units s ++ units t :=
  List.flatMap_append

@[simp] theorem width_nil : width [] = 0 := rfl

@[simp] theorem width_append (s t : List Char) : width (s ++ t) = width s + width t := by
  simp [width, units_append]

theorem width_cons (c : Char) (s : List Char) : width (c :: s) = (unitsOf c).length + width s := by
  simp [width, units_cons]

theorem points_pair (u v : Nat) (us : List Nat)
    (h : 0xD800 ≤ u ∧ u < 0xDC00 ∧ 0xDC00 ≤ v ∧ v < 0xE000) :
    points (u :: v :: us) = (0x10000 + (u - 0xD800) * 0x400 + (v - 0xDC00)) :: points us := by
  rw [points, if_pos h]

theorem points_single (u : Nat) (us : List Nat) (h : u < 0xD800 ∨ 0xE000 ≤ u) :
    points (u :: us) = u :: points us := by
  cases us with
  | nil => rfl
  | cons v us =>
    rw [points, if_neg]
    omega

theorem points_pointUnits (n : Nat) (us : List Nat) (small : n < 0x110000)
    (whole : n < 0xD800 ∨ 0xE000 ≤ n) : points (pointUnits n ++ us) = n :: points us := by
  by_cases plane : n < 0x10000
  · rw [pointUnits, if_pos plane]
    exact points_single n us whole
  · have back : 0x10000 + (0xD800 + (n - 0x10000) / 0x400 - 0xD800) * 0x400
        + (0xDC00 + (n - 0x10000) % 0x400 - 0xDC00) = n := by omega
    rw [pointUnits, if_neg plane, List.cons_append, List.cons_append, List.nil_append,
      points_pair _ _ _ (by omega), back]

theorem points_units (s : List Char) : points (units s) = s.map Char.toNat := by
  induction s with
  | nil => rfl
  | cons c s ih =>
    have valid : c.toNat < 0xD800 ∨ 0xDFFF < c.toNat ∧ c.toNat < 0x110000 := c.valid
    rw [List.map_cons, ← ih]
    exact points_pointUnits c.toNat (units s) (by omega) (by omega)

theorem ofPoint_toNat (c : Char) : ofPoint c.toNat = c := by
  have valid : c.toNat < 0xD800 ∨ 0xDFFF < c.toNat ∧ c.toNat < 0x110000 := c.valid
  rw [ofPoint, if_neg (by omega)]
  simp

@[simp] theorem ofUnits_units (s : List Char) : ofUnits (units s) = s := by
  have h : ofPoint ∘ Char.toNat = id := by
    funext c
    exact ofPoint_toNat c
  simp [ofUnits, points_units, h]

theorem dictionaryLe_total (us vs : List Nat) :
    (dictionaryLe us vs || dictionaryLe vs us) = true := by
  induction us generalizing vs with
  | nil => simp [dictionaryLe]
  | cons u us ih =>
    cases vs with
    | nil => simp [dictionaryLe]
    | cons v vs => grind [dictionaryLe]

theorem dictionaryLe_trans {us vs ws : List Nat} (huv : dictionaryLe us vs = true)
    (hvw : dictionaryLe vs ws = true) : dictionaryLe us ws = true := by
  induction us generalizing vs ws with
  | nil => simp [dictionaryLe]
  | cons u us ih =>
    cases vs with
    | nil => simp [dictionaryLe] at huv
    | cons v vs =>
      cases ws with
      | nil => simp [dictionaryLe] at hvw
      | cons w ws => grind [dictionaryLe]

theorem unitsLe_total (a b : String) : (unitsLe a b || unitsLe b a) = true :=
  dictionaryLe_total _ _

theorem unitsLe_trans {a b c : String} (hab : unitsLe a b = true) (hbc : unitsLe b c = true) :
    unitsLe a c = true :=
  dictionaryLe_trans hab hbc

end LineComment.Text
