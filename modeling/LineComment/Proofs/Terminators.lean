import LineComment.Proofs.LineEndings

namespace LineComment

namespace Text

variable {c : Char} {s t : List Char}

def EndsLine (s : List Char) : Prop :=
  s.getLast? = some '\n'

instance (s : List Char) : Decidable (EndsLine s) :=
  inferInstanceAs (Decidable (s.getLast? = some '\n'))

def Returned (s : List Char) : Prop :=
  ∀ front rest, s = front ++ '\n' :: rest → front.getLast? = some '\r'

theorem getLast?_cons_eq_return_iff (hc : c ≠ '\r') :
    (c :: s).getLast? = some '\r' ↔ s.getLast? = some '\r' := by
  cases h : s.getLast? <;> simp [List.getLast?_cons, h, hc]

theorem returned_of_feed_not_mem (h : '\n' ∉ s) : Returned s := by
  rintro front rest rfl
  simp at h

theorem returned_cons_iff (hfeed : c ≠ '\n') (hreturn : c ≠ '\r') :
    Returned (c :: s) ↔ Returned s := by
  constructor
  · rintro h front rest rfl
    exact (getLast?_cons_eq_return_iff hreturn).1 (h (c :: front) rest rfl)
  · intro h front rest hs
    cases front with
    | nil => exact absurd (List.cons.inj hs).1 hfeed
    | cons d front =>
      obtain ⟨rfl, rfl⟩ := List.cons.inj hs
      exact (getLast?_cons_eq_return_iff hreturn).2 (h front rest rfl)

theorem returned_append_feed_iff (hs : '\n' ∉ s) :
    Returned (s ++ '\n' :: t) ↔ s.getLast? = some '\r' ∧ Returned t := by
  have hlast (front : List Char) :
      (s ++ '\n' :: front).getLast? = some '\r' ↔ front.getLast? = some '\r' := by
    rw [List.getLast?_append_of_ne_nil s (List.cons_ne_nil _ _)]
    exact getLast?_cons_eq_return_iff (by decide)
  constructor
  · intro h
    refine ⟨h s t rfl, fun front rest ht => ?_⟩
    exact (hlast front).1 (h (s ++ '\n' :: front) rest (by simp [ht]))
  · rintro ⟨hreturn, h⟩ front rest heq
    -- The line feed is the one behind `s`, or one of `t`.
    obtain ⟨u, rfl, hu⟩ | ⟨u, rfl, hu⟩ := List.append_eq_append_iff.1 heq
    · cases u with
      | nil => rwa [List.append_nil]
      | cons d u =>
        obtain ⟨rfl, rfl⟩ := List.cons.inj hu
        exact (hlast u).2 (h u rest rfl)
    · cases u with
      | nil => rwa [List.append_nil] at hreturn
      | cons d u =>
        obtain ⟨rfl, -⟩ := List.cons.inj hu
        simp at hs

end Text

theorem Line.Proper.getLast?_chars_iff {line : Line} (h : line.Proper) :
    line.chars.getLast? = some '\r' ↔ line.carriageReturn = true := by
  obtain ⟨text, carriageReturn⟩ := line
  cases carriageReturn with
  | true => simp [chars]
  | false => exact iff_of_false (h.noReturn rfl) Bool.false_ne_true

namespace Source

variable {mark : Bool} {lines before : List Line} {last : Line}

theorem endsLine_chars_iff (h : last.Proper) :
    Text.EndsLine (chars ⟨mark, before ++ [last]⟩) ↔ before ≠ [] ∧ last = ⟨[], false⟩ := by
  have hempty : last.chars = [] ↔ last = ⟨[], false⟩ := by
    obtain ⟨text, carriageReturn⟩ := last
    cases carriageReturn <;> simp [Line.chars]
  have hfeed : last.chars.getLast? ≠ some '\n' :=
    fun hlast => h.feed_not_mem_chars (List.mem_of_getLast? hlast)
  rw [← hempty, Text.EndsLine]
  by_cases hne : before = []
  · subst hne
    refine iff_of_false (fun hlast => ?_) (fun hfirst => hfirst.1 rfl)
    have hmem := List.mem_of_getLast? hlast
    cases mark <;> simp [chars, h.feed_not_mem_chars] at hmem
  · rw [chars_append_singleton hne, List.getLast?_append_cons, List.getLast?_cons]
    cases hlast : last.chars.getLast? with
    | none => simp [hne, List.getLast?_eq_none_iff.1 hlast]
    | some c =>
      have hc : c ≠ '\n' := fun hc => hfeed (hc ▸ hlast)
      have hchars : last.chars ≠ [] := fun hnil => by simp [hnil] at hlast
      simp [hc, hchars]

theorem returned_lines_iff (h : ∀ line ∈ lines, line.Proper) :
    Text.Returned (chars ⟨false, lines⟩) ↔
      ∀ line ∈ lines.dropLast, line.carriageReturn = true := by
  induction lines with
  | nil => exact iff_of_true (Text.returned_of_feed_not_mem (by simp [chars])) (by simp)
  | cons line lines ih =>
    obtain ⟨hline, hlines⟩ := List.forall_mem_cons.1 h
    cases lines with
    | nil =>
      refine iff_of_true (Text.returned_of_feed_not_mem ?_) (by simp)
      simpa [chars] using hline.feed_not_mem_chars
    | cons next lines =>
      rw [chars_cons_of_ne_nil line (List.cons_ne_nil next lines),
        Text.returned_append_feed_iff hline.feed_not_mem_chars, hline.getLast?_chars_iff, ih hlines,
        List.dropLast_cons_cons, List.forall_mem_cons]

theorem returned_chars_iff {source : Source} (h : ∀ line ∈ source.lines, line.Proper) :
    Text.Returned source.chars ↔ ∀ line ∈ source.lines.dropLast, line.carriageReturn = true := by
  rw [← returned_lines_iff h]
  obtain ⟨mark, lines⟩ := source
  cases mark with
  | false => rfl
  | true => exact Text.returned_cons_iff (by decide) (by decide)

theorem returned_iff (content : List Char) :
    Text.Returned content ↔
      ∀ line ∈ (ofChars content).lines.dropLast, line.carriageReturn = true := by
  rw [← returned_chars_iff fun _ => proper_of_mem_ofChars, chars_ofChars]

end Source

instance (s : List Char) : Decidable (Text.Returned s) :=
  decidable_of_iff _ (Source.returned_iff s).symm

namespace Policy

variable {p : Policy} {before : List Line} {last line left : Line} {content : List Char}

theorem mem_survivors_of_mem_dropLast (h : line ∈ (p.leave (before ++ [last])).dropLast) :
    line ∈ p.survivors .initial before := by
  cases happly : (p.judge (p.after .initial before) last.text).apply last with
  | none =>
    rw [leave_append_of_drop (apply_eq_none_iff.1 happly)] at h
    exact (collapseTail_sublist _).subset (List.dropLast_subset _ h)
  | some left =>
    rw [leave_append_of_apply happly, List.dropLast_concat] at h
    split at h
    next => exact (List.rdropWhile_prefix _ _).subset h
    next => exact h

theorem returned_content_strip (h : Text.Returned content) :
    Text.Returned (p.strip content).content := by
  obtain ⟨before, last, hlines⟩ := Source.exists_lines_eq_concat content
  have hproper : ∀ line ∈ (Source.ofChars content).lines, line.Proper :=
    fun _ => Source.proper_of_mem_ofChars
  rw [Source.returned_iff, hlines, List.dropLast_concat] at h
  refine (Source.returned_chars_iff (proper_leave hproper)).2 fun line hline => ?_
  simp only [hlines] at hline
  obtain ⟨origin, hmem, hreturn, -⟩ :=
    exists_mem_of_mem_survivors (mem_survivors_of_mem_dropLast hline)
  exact hreturn.trans (h origin hmem)

theorem leave_append_empty (p : Policy) (before : List Line) :
    ∃ kept, p.leave (before ++ [⟨[], false⟩]) = kept ++ [⟨[], false⟩] :=
  ⟨_, leave_append_of_apply (by rw [judge_nil]; rfl)⟩

/-- A text that ends in a line feed is left with one at its end, or with no line at all, and a text
whose line feeds come after carriage returns is left as such a text. -/
theorem strip_terminators (p : Policy) (content : List Char) :
    (Text.EndsLine content →
      (p.strip content).content = [] ∨
        (p.strip content).content = ['\uFEFF'] ∧ content.head? = some '\uFEFF' ∨
        Text.EndsLine (p.strip content).content) ∧
      (Text.Returned content → Text.Returned (p.strip content).content) := by
  refine ⟨fun hend => ?_, returned_content_strip⟩
  obtain ⟨before, last, hlines⟩ := Source.exists_lines_eq_concat content
  have hlast : last.Proper := Source.proper_of_mem_ofChars (s := content) (by simp [hlines])
  have hcontent : content = Source.chars ⟨(Source.ofChars content).mark, before ++ [last]⟩ := by
    rw [← hlines, Source.chars_ofChars]
  rw [hcontent, Source.endsLine_chars_iff hlast] at hend
  obtain ⟨-, rfl⟩ := hend
  obtain ⟨kept, hleave⟩ := p.leave_append_empty before
  have hleft : (p.strip content).content =
      Source.chars ⟨(Source.ofChars content).mark, kept ++ [⟨[], false⟩]⟩ := by
    rw [← hleave, ← hlines]
    rfl
  rw [hleft, Source.endsLine_chars_iff hlast]
  by_cases hkept : kept = []
  · subst hkept
    cases hmark : (Source.ofChars content).mark with
    | false => exact .inl rfl
    | true => exact .inr (.inl ⟨rfl, Source.mark_ofChars_eq_true_iff.1 hmark⟩)
  · exact .inr (.inr ⟨hkept, rfl⟩)

theorem strip_terminators_returns :
    let content := "a // b\r\r\n// get\r\n\rc\r\n\r\n\r\n".toList
    Text.EndsLine content ∧ Text.Returned content ∧
      (Policy.strip {} content).content = "a\r\n\rc\r\n".toList ∧
      Text.EndsLine (Policy.strip {} content).content ∧
      Text.Returned (Policy.strip {} content).content := by
  intro content
  have hend : Text.EndsLine content := by decide
  have hreturned : Text.Returned content := by decide
  obtain ⟨hends, hreturns⟩ := strip_terminators {} content
  obtain hempty | ⟨hmark, -⟩ | hleft := hends hend
  · exact absurd hempty (by decide)
  · exact absurd hmark (by decide)
  · exact ⟨hend, hreturned, rfl, hleft, hreturns hreturned⟩

end Policy

end LineComment
