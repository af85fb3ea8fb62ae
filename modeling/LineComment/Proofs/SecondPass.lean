import LineComment.Proofs.Survivors

namespace LineComment

variable {p : Policy} {ctx ctx' : Context} {line code body : List Char} {lines : List Line}

namespace Context

/-- What a second pass knows at a line, beside what the first pass knew there. Lines that the first
pass took out may have ended the header, so it may last longer in the second pass. -/
def Trails (ctx ctx' : Context) : Prop :=
  ctx' = ctx ∨ ctx.pastHeader = true ∧ ctx'.inBlock = ctx.inBlock

theorem Trails.inBlock_eq (h : ctx.Trails ctx') : ctx'.inBlock = ctx.inBlock := by
  obtain rfl | ⟨-, same⟩ := h
  · rfl
  · exact same

theorem isHeader_of_pastHeader (h : ctx.pastHeader = true) (headerLines : Int)
    (line : List Char) : ctx.isHeader headerLines line = false := by
  simp [isHeader, h]

theorem Trails.next (h : ctx.Trails ctx') (headerLines : Int) (line : List Char) :
    (ctx.next headerLines line).Trails (ctx'.next headerLines line) := by
  obtain rfl | ⟨past, same⟩ := h
  · exact .inl rfl
  · refine .inr ⟨pastHeader_next ctx headerLines line past, ?_⟩
    have hmode : ctx'.mode = ctx.mode := by rw [mode, same, mode]
    rw [Context.next, Context.next, hmode]

end Context

namespace Policy

theorem Unprotected.of_trails (h : ctx.Trails ctx') (hline : p.Unprotected ctx' line code body) :
    p.Unprotected ctx line code body := by
  obtain rfl | ⟨past, same⟩ := h
  · exact hline
  · exact ⟨same ▸ hline.outside, Context.isHeader_of_pastHeader past _ _, hline.reading,
      hline.plain, hline.unmarked⟩

theorem judge_eq_keep_of_trails (h : ctx.Trails ctx') (hkeep : p.judge ctx line = .keep) :
    p.judge ctx' line = .keep := by
  have hjudged := p.judged ctx' line
  generalize p.judge ctx' line = verdict at hjudged ⊢
  cases hjudged with
  | keep => rfl
  | cut unprotected hcode =>
    have hcut := (unprotected.of_trails h).judge_eq_cut hcode
    rw [hkeep] at hcut
    cases hcut
  | drop unprotected hcode trivial =>
    have hdrop := (unprotected.of_trails h).judge_eq_drop hcode trivial
    rw [hkeep] at hdrop
    cases hdrop

theorem judge_eq_keep_of_bare {mode : Mode} (h : read .code line = .bare mode) :
    p.judge ctx line = .keep := by
  obtain hkeep | ⟨code, body, unprotected⟩ := judge_eq_keep_or_unprotected p ctx line
  · exact hkeep
  · rw [unprotected.reading] at h
    cases h

theorem Unprotected.trails_next_trimEnd (h : ctx.Trails ctx')
    (hline : p.Unprotected ctx line code body) :
    (ctx.next p.headerLines line).Trails (ctx'.next p.headerLines (Text.trimEnd code)) := by
  refine .inr ⟨hline.next_pastHeader, ?_⟩
  have outside : ctx'.inBlock = false := h.inBlock_eq.trans hline.outside
  have hread := read_trimEnd_front hline.reading
  rw [hline.next_inBlock]
  simp [Context.next, Context.mode_of_not_inBlock outside, hread, Reading.mode]

theorem Unprotected.trails_next (h : ctx.Trails ctx') (hline : p.Unprotected ctx line code body) :
    (ctx.next p.headerLines line).Trails ctx' := by
  refine .inr ⟨hline.next_pastHeader, ?_⟩
  rw [hline.next_inBlock, h.inBlock_eq, hline.outside]

theorem settled_survivors (h : ctx.Trails ctx') : p.Settled ctx' (p.survivors ctx lines) := by
  induction lines generalizing ctx ctx' with
  | nil => exact settled_nil
  | cons line lines ih =>
    -- Each outcome leads to contexts of which the second trails the first again.
    rw [survivors_cons]
    have hjudged := p.judged ctx line.text
    generalize hverdict : p.judge ctx line.text = verdict at hjudged
    cases hjudged with
    | keep =>
      refine settled_cons.2 ⟨judge_eq_keep_of_trails h hverdict, ?_⟩
      exact ih (h.next p.headerLines line.text)
    | cut unprotected =>
      refine settled_cons.2 ⟨judge_eq_keep_of_bare (read_trimEnd_front unprotected.reading), ?_⟩
      exact ih (unprotected.trails_next_trimEnd h)
    | drop unprotected => exact ih (unprotected.trails_next h)

theorem settled_leave (p : Policy) (lines : List Line) : p.Settled .initial (p.leave lines) :=
  (settled_survivors (.inl rfl)).collapseTail

theorem settled_reread {source : Source} (h : p.Settled .initial source.lines) :
    p.Settled .initial source.reread.lines := by
  unfold Source.reread
  split
  next => exact settled_empty rfl
  next s r lines =>
    have hmark : Text.isBlank '\uFEFF' = true := by decide
    rw [settled_cons, judge_cons_blank hmark, Verdict.cons_eq_keep_iff,
      Context.next_cons_blank hmark] at h
    exact settled_cons.2 h
  next => exact h

theorem ofChars_content_strip (p : Policy) (content : List Char) :
    Source.ofChars (p.strip content).content =
      Source.reread ⟨(Source.ofChars content).mark, p.leave (Source.ofChars content).lines⟩ :=
  Source.ofChars_chars (proper_leave fun _ => Source.proper_of_mem_ofChars)

theorem settled_ofChars_content_strip (p : Policy) (content : List Char) :
    p.Settled .initial (Source.ofChars (p.strip content).content).lines := by
  rw [ofChars_content_strip]
  exact settled_reread (p.settled_leave _)

/-- A second pass finds no comment to remove. -/
theorem removedComments_strip_strip (p : Policy) (content : List Char) :
    (p.strip (p.strip content).content).removedComments = 0 ∧
      (p.strip (p.strip content).content).changed = false := by
  have settled := p.settled_ofChars_content_strip content
  have hcount : (p.strip (p.strip content).content).removedComments = 0 := settled.countP_removes
  exact ⟨hcount, by simp [Stripped.changed, hcount]⟩

theorem leave_ofChars_content_strip (p : Policy) (content : List Char) :
    p.leave (Source.ofChars (p.strip content).content).lines =
      collapseTail (Source.ofChars (p.strip content).content).lines := by
  rw [leave_eq, (p.settled_ofChars_content_strip content).survivors]

theorem strip_strip_eq_iff_collapseTail (p : Policy) (content : List Char) :
    (p.strip (p.strip content).content).content = (p.strip content).content ∧
        (p.strip (p.strip content).content).removedLines = 0 ↔
      collapseTail (Source.ofChars (p.strip content).content).lines =
        (Source.ofChars (p.strip content).content).lines := by
  have hleave := p.leave_ofChars_content_strip content
  generalize (p.strip content).content = left at hleave ⊢
  constructor
  · rintro ⟨-, hlines⟩
    apply (collapseTail_sublist _).eq_of_length_le
    simp only [strip, hleave] at hlines
    exact Nat.sub_eq_zero_iff_le.1 hlines
  · intro hcollapse
    rw [hcollapse] at hleave
    refine ⟨?_, by simp [strip, hleave]⟩
    simp only [strip, hleave]
    exact Source.chars_ofChars left

def LoneMark (text : List Char) : Prop :=
  ∃ first last : Line, first.text = [] ∧ last.text = [] ∧
    text = Source.chars ⟨true, [first, last]⟩

def Uncovers (p : Policy) (content : List Char) : Prop :=
  content.head? ≠ some '\uFEFF' ∧ LoneMark (p.strip content).content

theorem ofChars_loneMark {first last : Line} (hfirst : first.text = []) (hlast : last.text = []) :
    Source.ofChars (Source.chars ⟨true, [first, last]⟩) = ⟨true, [first, last]⟩ := by
  apply Source.Proper.ofChars_chars
  refine ⟨by simp, ?_, by simp⟩
  simp [Line.proper_of_text_eq_nil hfirst, Line.proper_of_text_eq_nil hlast]

theorem collapseTail_reread {source : Source} (hcollapse : collapseTail source.lines = source.lines)
    (h : source.mark = false → ¬LoneMark source.chars) :
    collapseTail source.reread.lines = source.reread.lines := by
  unfold Source.reread
  split
  next => rfl
  next s r lines =>
    rw [collapseTail_eq_self_iff] at hcollapse ⊢
    intro before a b hlines ha hb
    cases before with
    | nil =>
      apply h rfl
      obtain ⟨rfl, rfl⟩ : ⟨s, r⟩ = a ∧ lines = [b] := by simpa using hlines
      obtain rfl : s = [] := ha
      exact ⟨⟨[], r⟩, b, rfl, hb, (Source.chars_reread _).symm⟩
    | cons line before =>
      obtain ⟨-, rfl⟩ := List.cons.inj hlines
      exact hcollapse (⟨'\uFEFF' :: s, r⟩ :: before) a b rfl ha hb
  next => exact hcollapse

/-- A second pass leaves a text as it is unless the first has uncovered a byte order mark with
nothing but empty lines behind it. -/
theorem strip_strip_eq_iff (p : Policy) (content : List Char) :
    (p.strip (p.strip content).content).content = (p.strip content).content ∧
        (p.strip (p.strip content).content).removedLines = 0 ↔ ¬p.Uncovers content := by
  rw [strip_strip_eq_iff_collapseTail]
  constructor
  · rintro hcollapse ⟨-, first, last, hfirst, hlast, hleft⟩
    rw [hleft, ofChars_loneMark hfirst hlast, collapseTail_eq_self_iff] at hcollapse
    exact hcollapse [] first last rfl hfirst hlast
  · intro h
    rw [ofChars_content_strip]
    apply collapseTail_reread
    · exact collapseTail_collapseTail _
    · intro hmark hlone
      refine h ⟨?_, hlone⟩
      rw [Ne, ← Source.mark_ofChars_eq_true_iff, hmark]
      exact Bool.false_ne_true

/-- A comment in front of a byte order mark that an empty line follows. -/
theorem strip_strip_uncovered :
    (Policy.strip {} "// get\n\uFEFF\n".toList).content = "\uFEFF\n".toList ∧
      (Policy.strip {} "\uFEFF\n".toList).content = "\uFEFF".toList ∧
      (Policy.strip {} "\uFEFF\n".toList).removedLines = 1 ∧
      (Policy.strip {} (Policy.strip {} "// get\n\uFEFF\n".toList).content).content ≠
        (Policy.strip {} "// get\n\uFEFF\n".toList).content := by
  exact ⟨rfl, rfl, rfl, by decide⟩

end Policy

end LineComment
