import LineComment.Proofs.Rewording

/-! Lines that are cut off at their comment, or at the blanks in front of it. No token goes across the
cut, so the reader comes out of what is left as it comes out of the whole line. -/

namespace LineComment

namespace Text

variable {s : List Char} {k : Nat}

def slice (s : List Char) (i j : Nat) : List Nat :=
  ((units s).take j).drop i

theorem slice_width_append (s t : List Char) (k : Nat) :
    slice (s ++ t) k (width s) = (units s).drop k := by
  rw [slice, units_append, width, List.take_left]

theorem slice_zero_append (h : k ≤ width s) (t : List Char) :
    slice (s ++ t) 0 k = (units s).take k := by
  rw [slice, List.drop_zero, units_append, List.take_append_of_le_length h]

theorem exists_blank_of_drop (h : ∀ u ∈ (units s).drop k, isBlankPoint u = true) :
    ∃ kept blanks, s = kept ++ blanks ∧ units kept = (units s).take k ∧ Blank blanks := by
  induction s generalizing k with
  | nil => exact ⟨[], [], rfl, by simp [units], blank_nil⟩
  | cons c s ih =>
    by_cases hk : (unitsOf c).length ≤ k
    · rw [units_cons, List.drop_append, List.drop_of_length_le hk, List.nil_append] at h
      obtain ⟨kept, blanks, rfl, hkept, blank⟩ := ih h
      refine ⟨c :: kept, blanks, rfl, ?_, blank⟩
      rw [units_cons, units_cons, List.take_append, List.take_of_length_le hk, hkept]
    · -- The position is in front of the character. In it, half of a pair would be blank.
      obtain hone | ⟨-, high, low, htwo, -, hlow⟩ := unitsOf_cases c
      · obtain rfl : k = 0 := by simpa [hone] using hk
        exact ⟨[], c :: s, rfl, rfl, blank_units_iff.1 h⟩
      · have hmem : low ∈ (units (c :: s)).drop k := by
          have hk : k = 0 ∨ k = 1 := by
            rw [htwo, List.length_cons, List.length_singleton] at hk
            omega
          obtain rfl | rfl := hk <;> simp [units_cons, htwo]
        rw [h low hmem] at hlow
        contradiction

theorem exists_slice_trimEnd (s t : List Char) :
    ∃ k ≤ width s, units (trimEnd s) = slice (s ++ t) 0 k ∧
      ∀ u ∈ slice (s ++ t) k (width s), isBlankPoint u = true := by
  obtain ⟨blanks, hs, blank⟩ := exists_blank_trimEnd s
  have hunits : units s = units (trimEnd s) ++ units blanks := by rw [← units_append, ← hs]
  have hk : width (trimEnd s) ≤ width s := by
    rw [width, width, hunits, List.length_append]
    exact Nat.le_add_right _ _
  refine ⟨width (trimEnd s), hk, ?_, ?_⟩
  · rw [slice_zero_append hk, hunits, width, List.take_left]
  · rw [slice_width_append, hunits, width, List.drop_left]
    exact blank_units_iff.2 blank

end Text

variable {mode : Mode} {line : List Char} {c : Nat}

theorem read_of_position? (h : (read mode line).position? = some c) :
    ∃ code body, read mode line = .comment code body ∧ line = code ++ '/' :: '/' :: body ∧
      Text.width code = c := by
  cases hread : read mode line with
  | bare => simp [hread, Reading.position?] at h
  | comment code body =>
    rw [hread] at h
    exact ⟨code, body, rfl, eq_append_of_read hread, Option.some.inj h⟩

theorem Policy.exists_trimEnd_of_cut {p : Policy} {ctx : Context} {text : List Char}
    (h : p.judge ctx line = .cut text) :
    ∃ code body, read ctx.mode line = .comment code body ∧ text = Text.trimEnd code := by
  have hjudged := p.judged ctx line
  rw [h] at hjudged
  cases hjudged with
  | @cut code body hline =>
    rw [Context.mode_of_not_inBlock hline.outside]
    exact ⟨code, body, hline.reading, rfl⟩

/-- A line that is cut off at its comment, or at the blanks in front of it, holds no comment and leaves
nothing open. With its two slashes and any other words it is read as before. What a verdict leaves of
a cut line is such a text, and hands on what the line does. -/
theorem read_slice (h : (read mode line).position? = some c) :
    (∀ k ≤ c, (∀ u ∈ Text.slice line k c, Text.isBlankPoint u = true) →
      ∃ kept, Text.units kept = Text.slice line 0 k ∧ read mode kept = .bare .code) ∧
    (∃ code, Text.units code = Text.slice line 0 c ∧ ∀ words : List Char,
      read mode (code ++ '/' :: '/' :: words) = .comment code words ∧
      (read mode (code ++ '/' :: '/' :: words)).position? = (read mode line).position? ∧
      (read mode (code ++ '/' :: '/' :: words)).mode = (read mode line).mode) ∧
    ∀ (p : Policy) (ctx : Context) (text : List Char),
      ctx.mode = mode → p.judge ctx line = .cut text →
      (∃ k ≤ c, Text.units text = Text.slice line 0 k ∧
        ∀ u ∈ Text.slice line k c, Text.isBlankPoint u = true) ∧
      read mode text = .bare .code ∧
      (ctx.next p.headerLines text).inBlock = (ctx.next p.headerLines line).inBlock := by
  obtain ⟨code, body, hread, rfl, rfl⟩ := read_of_position? h
  refine ⟨fun k hk blank => ?_, ⟨code, ?_, fun words => ?_⟩, fun p ctx text hmode hcut => ?_⟩
  · rw [Text.slice_width_append] at blank
    obtain ⟨kept, blanks, rfl, hkept, hblanks⟩ := Text.exists_blank_of_drop blank
    refine ⟨kept, by rw [Text.slice_zero_append hk, hkept], ?_⟩
    exact read_of_append_blank hblanks (read_front hread)
  · rw [Text.slice_zero_append le_rfl, Text.width, List.take_length]
  · have hwords := read_reword hread words
    exact ⟨hwords, by rw [hwords, hread]; rfl, by rw [hwords, hread]; rfl⟩
  · subst hmode
    obtain ⟨front, rest, hfront, rfl⟩ := Policy.exists_trimEnd_of_cut hcut
    obtain ⟨rfl, rfl⟩ : code = front ∧ body = rest := by simpa [hread] using hfront
    have hbare := read_trimEnd_front hread
    refine ⟨Text.exists_slice_trimEnd code _, hbare, ?_⟩
    simp only [Context.next, hbare, hread, Reading.mode]

theorem read_slice_pair :
    let line := "/**/ f('//') 𝒳\u3000 // set".toList
    (read .code line).position? = some 17 ∧
      (∃ kept, Text.units kept = Text.slice line 0 15 ∧ read .code kept = .bare .code) ∧
      ∃ k ≤ 17, Text.units "/**/ f('//') 𝒳".toList = Text.slice line 0 k ∧
        ∀ u ∈ Text.slice line k 17, Text.isBlankPoint u = true := by
  intro line
  have hposition : (read .code line).position? = some 17 := by decide
  obtain ⟨hfront, -, hcut⟩ := read_slice hposition
  have hverdict : ({} : Policy).judge ⟨false, true, 0⟩ line = .cut "/**/ f('//') 𝒳".toList := by
    decide
  exact ⟨hposition, hfront 15 (by decide) (by decide), (hcut {} ⟨false, true, 0⟩ _ rfl hverdict).1⟩

end LineComment
