import LineComment.Text.Blank
import LineComment.Text.Units
import Mathlib.Data.List.DropRight

namespace LineComment.Text

variable {b : Char} {s t : List Char}

def Blank (s : List Char) : Prop :=
  ∀ c ∈ s, isBlank c = true

theorem all_isBlank_iff : s.all isBlank = true ↔ Blank s :=
  List.all_eq_true

instance (s : List Char) : Decidable (Blank s) :=
  decidable_of_iff (s.all isBlank = true) all_isBlank_iff

@[simp] theorem blank_nil : Blank [] := by
  intro c hc
  simp at hc

@[simp] theorem blank_cons : Blank (b :: s) ↔ isBlank b = true ∧ Blank s :=
  List.forall_mem_cons

theorem trimEnd_eq_rdropWhile (s : List Char) : trimEnd s = s.rdropWhile isBlank := rfl

theorem trimEnd_eq_nil_iff : trimEnd s = [] ↔ Blank s :=
  List.rdropWhile_eq_nil_iff

theorem trimStart_eq_nil_iff : trimStart s = [] ↔ Blank s :=
  List.dropWhile_eq_nil_iff

theorem exists_blank_trimEnd (s : List Char) : ∃ t, s = trimEnd s ++ t ∧ Blank t := by
  refine ⟨s.rtakeWhile isBlank, (List.rdropWhile_append_rtakeWhile ..).symm, ?_⟩
  intro c hc
  exact List.mem_rtakeWhile_imp hc

theorem trimEnd_prefix (s : List Char) : trimEnd s <+: s :=
  s.rdropWhile_prefix isBlank

theorem isBlank_getLast?_trimEnd {c : Char} (h : (trimEnd s).getLast? = some c) :
    isBlank c = false := by
  obtain ⟨u, hu⟩ := List.getLast?_eq_some_iff.1 h
  have hne : trimEnd s ≠ [] := by simp [hu]
  have hlast := List.rdropWhile_last_not isBlank s hne
  simpa [← trimEnd_eq_rdropWhile, hu] using hlast

theorem trimEnd_cons (h : ¬Blank s) : trimEnd (b :: s) = b :: trimEnd s := by
  have hs : s.reverse.dropWhile isBlank ≠ [] := by
    intro hnil
    exact h fun c hc => List.dropWhile_eq_nil_iff.1 hnil c (List.mem_reverse.2 hc)
  rw [trimEnd, List.reverse_cons, List.dropWhile_append, if_neg (by simpa using hs),
    List.reverse_append, List.reverse_singleton, List.singleton_append, trimEnd]

theorem blank_trimStart_iff : Blank (trimStart s) ↔ Blank s := by
  induction s with
  | nil => rfl
  | cons c s ih => by_cases hc : isBlank c = true <;> simp [trimStart_cons, hc, ih]

theorem trim_cons_blank (h : isBlank b = true) : trim (b :: s) = trim s := by
  rw [trim, trimStart_cons, if_pos h, trim]

theorem trim_append_blank (h : Blank t) : trim (s ++ t) = trim s := by
  induction s with
  | nil =>
    rw [List.nil_append, trim, trimStart_eq_nil_iff.2 h]
    rfl
  | cons c s ih =>
    by_cases hc : isBlank c = true
    · rw [List.cons_append, trim_cons_blank hc, trim_cons_blank hc, ih]
    · rw [List.cons_append, trim, trimStart_cons, if_neg hc, ← List.cons_append,
        trimEnd_append_blank h, trim, trimStart_cons, if_neg hc]

@[simp] theorem trim_trimEnd (s : List Char) : trim (trimEnd s) = trim s := by
  obtain ⟨t, ht, blank⟩ := exists_blank_trimEnd s
  calc
    trim (trimEnd s) = trim (trimEnd s ++ t) := (trim_append_blank blank).symm
    _ = trim s := by rw [← ht]

theorem trim_eq_nil_iff : trim s = [] ↔ Blank s := by
  rw [trim, trimEnd_eq_nil_iff, blank_trimStart_iff]

theorem isBlankPoint_lt {u : Nat} (h : isBlankPoint u = true) :
    u < 0xD800 ∨ 0xE000 ≤ u ∧ u < 0x10000 := by
  simp [isBlankPoint, inRanges, blankRanges] at h
  omega

theorem unitsOf_cases (c : Char) :
    unitsOf c = [c.toNat] ∨ isBlank c = false ∧ ∃ high low, unitsOf c = [high, low] ∧
      isBlankPoint high = false ∧ isBlankPoint low = false := by
  by_cases plane : c.toNat < 0x10000
  · exact .inl (if_pos plane)
  · have valid : c.toNat < 0xD800 ∨ 0xDFFF < c.toNat ∧ c.toNat < 0x110000 := c.valid
    have hblank {u : Nat} (hu : 0xD800 ≤ u ∧ u < 0xE000 ∨ 0x10000 ≤ u) :
        isBlankPoint u = false := by
      by_contra h
      have hlt := isBlankPoint_lt (Bool.not_eq_false _ ▸ h)
      omega
    exact .inr ⟨hblank (by omega), _, _, if_neg plane, hblank (by omega), hblank (by omega)⟩

theorem blank_units_iff : (∀ u ∈ units s, isBlankPoint u = true) ↔ Blank s := by
  induction s with
  | nil => simp [units]
  | cons c s ih =>
    have hc : (∀ u ∈ unitsOf c, isBlankPoint u = true) ↔ isBlank c = true := by
      obtain hone | ⟨hc, high, low, htwo, hhigh, -⟩ := unitsOf_cases c
      · simp [hone, isBlank]
      · simp [hc, htwo, hhigh]
    rw [units_cons, List.forall_mem_append, hc, ih, blank_cons]

end LineComment.Text
