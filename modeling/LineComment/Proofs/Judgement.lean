import LineComment.Proofs.Reading
import LineComment.Verdict

namespace LineComment

variable {p : Policy} {ctx : Context} {b : Char} {line code body s : List Char}

theorem leadingBody?_cons_blank (h : Text.isBlank b = true) (s : List Char) :
    leadingBody? (b :: s) = leadingBody? s := by
  rw [leadingBody?, Text.trimStart_cons, if_pos h, leadingBody?]

theorem read_of_leadingBody? (h : leadingBody? line = some body) :
    ∃ code, Text.Blank code ∧ read .code line = .comment code body := by
  induction line with
  | nil => cases h
  | cons c s ih =>
    by_cases hc : Text.isBlank c = true
    · rw [leadingBody?_cons_blank hc] at h
      obtain ⟨code, blank, hread⟩ := ih h
      refine ⟨c :: code, Text.blank_cons.2 ⟨hc, blank⟩, ?_⟩
      rw [read_cons_blank hc, hread, Reading.cons_comment]
    · rw [leadingBody?, Text.trimStart_cons, if_neg hc] at h
      split at h
      next u hu =>
        cases h
        rw [hu]
        exact ⟨[], Text.blank_nil, by rw [read]⟩
      next => cases h

namespace Context

theorem mode_of_not_inBlock (h : ctx.inBlock = false) : ctx.mode = .code := by
  simp [mode, h]

theorem next_cons_blank (h : Text.isBlank b = true) (headerLines : Int) (s : List Char) :
    ctx.next headerLines (b :: s) = ctx.next headerLines s := by
  simp [next, looksHeader, read_cons_blank h, Text.trim_cons_blank h]

theorem isHeader_iff {headerLines : Int} :
    ctx.isHeader headerLines line = true ↔
      ctx.pastHeader = false ∧ ctx.inBlock = false ∧ ctx.looksHeader headerLines line = true := by
  simp [isHeader, and_assoc]

theorem isHeader_cons_blank (h : Text.isBlank b = true) (headerLines : Int) (s : List Char) :
    ctx.isHeader headerLines (b :: s) = ctx.isHeader headerLines s := by
  simp [isHeader, looksHeader, Text.trim_cons_blank h]

end Context

def Verdict.cons (c : Char) : Verdict → Verdict
  | .cut code => .cut (c :: code)
  | v => v

theorem Verdict.cons_eq_keep_iff {c : Char} {v : Verdict} : v.cons c = .keep ↔ v = .keep := by
  cases v <;> simp [cons]

namespace Policy

theorem judgeComment_eq (p : Policy) (code body : List Char) :
    p.judgeComment code body =
      if isDocBody body = true ∨ p.marks body = true then .keep
      else if Text.Blank code then if p.isTrivial body then .drop else .keep
      else .cut (Text.trimEnd code) := by
  simp only [judgeComment, Bool.or_eq_true, Bool.not_eq_true', ← Bool.not_eq_true,
    Text.all_isBlank_iff, ite_not]

theorem judgeComment_of_protected (h : isDocBody body = true ∨ p.marks body = true) :
    p.judgeComment code body = .keep := by
  rw [judgeComment_eq, if_pos h]

/-- The look of a line from its first character on decides nothing of its own. -/
theorem judge_eq_judgeReading (p : Policy) (ctx : Context) (line : List Char) :
    p.judge ctx line = p.judgeReading ctx line := by
  unfold judge
  split
  next h =>
    obtain ⟨body, hbody, protect⟩ := (Option.any_eq_true ..).1 h
    obtain ⟨code, -, hread⟩ := read_of_leadingBody? hbody
    unfold judgeReading
    split
    next => rfl
    next hout =>
      have outside : ctx.inBlock = false := by simp_all
      rw [Context.mode_of_not_inBlock outside, hread]
      exact (judgeComment_of_protected (by simpa using protect)).symm
  next => rfl

structure Unprotected (p : Policy) (ctx : Context) (line code body : List Char) : Prop where
  outside : ctx.inBlock = false
  pastHeader : ctx.isHeader p.headerLines line = false
  reading : read .code line = .comment code body
  plain : isDocBody body = false
  unmarked : p.marks body = false

theorem judge_eq_keep_or_unprotected (p : Policy) (ctx : Context) (line : List Char) :
    p.judge ctx line = .keep ∨ ∃ code body, p.Unprotected ctx line code body := by
  rw [judge_eq_judgeReading, judgeReading]
  split
  next => exact .inl rfl
  next hout =>
    simp only [Bool.or_eq_true, not_or, Bool.not_eq_true] at hout
    rw [Context.mode_of_not_inBlock hout.1]
    split
    next code body hread =>
      by_cases protect : isDocBody body = true ∨ p.marks body = true
      · exact .inl (judgeComment_of_protected protect)
      · simp only [not_or, Bool.not_eq_true] at protect
        exact .inr ⟨code, body, hout.1, hout.2, hread, protect.1, protect.2⟩
    next => exact .inl rfl

theorem Unprotected.judge_eq (h : p.Unprotected ctx line code body) :
    p.judge ctx line =
      if Text.Blank code then if p.isTrivial body then .drop else .keep
      else .cut (Text.trimEnd code) := by
  rw [judge_eq_judgeReading, judgeReading, if_neg (by simp [h.outside, h.pastHeader]),
    Context.mode_of_not_inBlock h.outside, h.reading]
  change p.judgeComment code body = _
  rw [judgeComment_eq, if_neg (by simp [h.plain, h.unmarked])]

theorem Unprotected.judge_eq_cut (h : p.Unprotected ctx line code body) (hcode : ¬Text.Blank code) :
    p.judge ctx line = .cut (Text.trimEnd code) := by
  rw [h.judge_eq, if_neg hcode]

theorem Unprotected.judge_eq_drop (h : p.Unprotected ctx line code body) (hcode : Text.Blank code)
    (trivial : p.isTrivial body = true) : p.judge ctx line = .drop := by
  rw [h.judge_eq, if_pos hcode, if_pos trivial]

inductive Judged (p : Policy) (ctx : Context) (line : List Char) : Verdict → Prop
  | keep : Judged p ctx line .keep
  | cut {front rest : List Char} : p.Unprotected ctx line front rest → ¬Text.Blank front →
      Judged p ctx line (.cut (Text.trimEnd front))
  | drop {front rest : List Char} : p.Unprotected ctx line front rest → Text.Blank front →
      p.isTrivial rest = true → Judged p ctx line .drop

theorem judged (p : Policy) (ctx : Context) (line : List Char) :
    Judged p ctx line (p.judge ctx line) := by
  obtain hkeep | ⟨code, body, h⟩ := judge_eq_keep_or_unprotected p ctx line
  · rw [hkeep]
    exact .keep
  · by_cases hcode : Text.Blank code
    · by_cases trivial : p.isTrivial body = true
      · rw [h.judge_eq_drop hcode trivial]
        exact .drop h hcode trivial
      · rw [h.judge_eq, if_pos hcode, if_neg trivial]
        exact .keep
    · rw [h.judge_eq_cut hcode]
      exact .cut h hcode

theorem Unprotected.next_inBlock (h : p.Unprotected ctx line code body) :
    (ctx.next p.headerLines line).inBlock = false := by
  simp [Context.next, Context.mode_of_not_inBlock h.outside, h.reading, Reading.mode]

theorem Unprotected.next_pastHeader (h : p.Unprotected ctx line code body) :
    (ctx.next p.headerLines line).pastHeader = true := by
  have hlook := h.pastHeader
  simp only [Context.isHeader, h.outside, Bool.not_false, Bool.and_true] at hlook
  simp only [Context.next, h.outside, Bool.not_false, Bool.true_and]
  cases hpast : ctx.pastHeader with
  | true => rfl
  | false => simpa [hpast] using hlook

theorem judgeComment_cons_blank (h : Text.isBlank b = true) (p : Policy) (code body : List Char) :
    p.judgeComment (b :: code) body = (p.judgeComment code body).cons b := by
  have hall : Text.Blank (b :: code) ↔ Text.Blank code := by simp [h]
  rw [judgeComment_eq, judgeComment_eq]
  simp only [hall]
  split
  next => rfl
  next =>
    split
    next => split <;> rfl
    next hcode =>
      rw [Text.trimEnd_cons hcode]
      rfl

theorem judge_cons_blank (h : Text.isBlank b = true) (p : Policy) (ctx : Context) (s : List Char) :
    p.judge ctx (b :: s) = (p.judge ctx s).cons b := by
  rw [judge_eq_judgeReading, judge_eq_judgeReading, judgeReading, judgeReading,
    Context.isHeader_cons_blank h, read_cons_blank h]
  split
  next => rfl
  next =>
    cases read ctx.mode s with
    | comment code body => exact judgeComment_cons_blank h p code body
    | bare => rfl

end Policy

end LineComment
