import LineComment.Proofs.Judgement
import LineComment.Proofs.Lines

namespace LineComment

section Tail

variable {lines before : List Line} {a b : Line}

theorem Line.isEmpty_iff {line : Line} : line.isEmpty = true ↔ line.text = [] :=
  List.isEmpty_iff

theorem collapseTail_cases (lines : List Line) :
    collapseTail lines = lines ∨
      ∃ before gone last, lines = before ++ gone ++ [last] ∧ collapseTail lines = before ++ [last] ∧
        last.text = [] ∧ ∀ line ∈ gone, line.text = [] := by
  unfold collapseTail
  split
  next h => exact .inl (by simpa using h.symm)
  next last rest h =>
    have hlines : lines = rest.reverse ++ [last] := by simpa using congrArg List.reverse h
    split
    next hlast =>
      refine .inr ⟨(rest.dropWhile Line.isEmpty).reverse, (rest.takeWhile Line.isEmpty).reverse,
        last, ?_, by simp, Line.isEmpty_iff.1 hlast, ?_⟩
      · rw [hlines, ← List.reverse_append, List.takeWhile_append_dropWhile]
      · intro line hline
        exact Line.isEmpty_iff.1 (List.mem_takeWhile_imp (List.mem_reverse.1 hline))
    next => exact .inl rfl

theorem collapseTail_sublist (lines : List Line) : (collapseTail lines).Sublist lines := by
  obtain same | ⟨before, gone, last, rfl, collapsed, -, -⟩ := collapseTail_cases lines
  · rw [same]
  · rw [collapsed, List.append_assoc]
    exact (List.sublist_append_right gone [last]).append_left before

theorem collapseTail_concat (before : List Line) (a b : Line) :
    collapseTail (before ++ [a, b]) =
      if a.isEmpty && b.isEmpty then collapseTail (before ++ [b]) else before ++ [a, b] := by
  cases ha : a.isEmpty <;> cases hb : b.isEmpty <;> simp [collapseTail, ha, hb]

theorem collapseTail_append_singleton (before : List Line) (last : Line) :
    collapseTail (before ++ [last]) =
      (if last.isEmpty then before.rdropWhile Line.isEmpty else before) ++ [last] := by
  cases h : last.isEmpty <;> simp [collapseTail, h, List.rdropWhile]

theorem rdropWhile_map_isEmpty {f : Line → Line} (h : ∀ line, (f line).isEmpty = line.isEmpty)
    (lines : List Line) :
    (lines.map f).rdropWhile Line.isEmpty = (lines.rdropWhile Line.isEmpty).map f := by
  have hempty : Line.isEmpty ∘ f = Line.isEmpty := funext h
  simp only [List.rdropWhile, ← List.map_reverse, List.dropWhile_map, hempty]

theorem collapseTail_map {f : Line → Line} (h : ∀ line, (f line).isEmpty = line.isEmpty)
    (lines : List Line) : collapseTail (lines.map f) = (collapseTail lines).map f := by
  obtain rfl | ⟨before, last, rfl⟩ := List.eq_nil_or_concat lines
  · rfl
  · rw [List.concat_eq_append, List.map_append, List.map_singleton, collapseTail_append_singleton,
      collapseTail_append_singleton, List.map_append, h, rdropWhile_map_isEmpty h]
    split <;> rfl

theorem collapseTail_ne_nil (h : lines ≠ []) : collapseTail lines ≠ [] := by
  obtain rfl | ⟨before, last, rfl⟩ := List.eq_nil_or_concat lines
  · exact absurd rfl h
  · rw [List.concat_eq_append, collapseTail_append_singleton]
    simp

theorem collapseTail_eq_self_iff :
    collapseTail lines = lines ↔
      ∀ before a b, lines = before ++ [a, b] → a.text = [] → b.text ≠ [] := by
  constructor
  · rintro h before a b rfl ha hb
    rw [collapseTail_concat, if_pos (by simp [Line.isEmpty, ha, hb])] at h
    have hle := length_collapseTail_le (before ++ [b])
    simp [h] at hle
  · intro h
    obtain rfl | ⟨rest, b, rfl⟩ := List.eq_nil_or_concat lines
    · rfl
    · obtain rfl | ⟨before, a, rfl⟩ := List.eq_nil_or_concat rest
      · simp [collapseTail]
      · have hab := h before a b (by simp)
        simp only [List.concat_eq_append, List.append_assoc, List.singleton_append]
        rw [collapseTail_concat, if_neg]
        simpa [Line.isEmpty] using hab

theorem collapseTail_collapseTail (lines : List Line) :
    collapseTail (collapseTail lines) = collapseTail lines := by
  rw [collapseTail.eq_def lines]
  split
  next => rfl
  next last rest h =>
    split
    next hlast =>
      rw [collapseTail, List.reverse_reverse]
      simp only [hlast, if_true, List.dropWhile_idempotent]
    next hlast => simp [collapseTail, h, hlast]

end Tail

namespace Policy

variable {p : Policy} {ctx : Context} {lines : List Line}

def after (p : Policy) (ctx : Context) (lines : List Line) : Context :=
  lines.foldl (fun ctx line => ctx.next p.headerLines line.text) ctx

@[simp] theorem after_nil (p : Policy) (ctx : Context) : p.after ctx [] = ctx := rfl

@[simp] theorem after_cons (p : Policy) (ctx : Context) (line : Line) (lines : List Line) :
    p.after ctx (line :: lines) = p.after (ctx.next p.headerLines line.text) lines := rfl

theorem judgeLines_append (p : Policy) (ctx : Context) (lines rest : List Line) :
    p.judgeLines ctx (lines ++ rest) =
      p.judgeLines ctx lines ++ p.judgeLines (p.after ctx lines) rest := by
  induction lines generalizing ctx with
  | nil => rfl
  | cons line lines ih => simp [judgeLines, ih]

theorem apply_eq_none_iff {line : Line} {verdict : Verdict} :
    verdict.apply line = none ↔ verdict = .drop := by
  cases verdict <;> simp [Verdict.apply]

def survivors (p : Policy) (ctx : Context) (lines : List Line) : List Line :=
  (p.judgeLines ctx lines).filterMap fun (line, verdict) => verdict.apply line

theorem leave_eq (p : Policy) (lines : List Line) :
    p.leave lines = collapseTail (p.survivors .initial lines) := rfl

@[simp] theorem survivors_nil (p : Policy) (ctx : Context) : p.survivors ctx [] = [] := rfl

theorem survivors_cons (p : Policy) (ctx : Context) (line : Line) (lines : List Line) :
    p.survivors ctx (line :: lines) =
      ((p.judge ctx line.text).apply line).toList ++
        p.survivors (ctx.next p.headerLines line.text) lines := by
  cases h : (p.judge ctx line.text).apply line <;> simp [survivors, judgeLines, h]

theorem survivors_append (p : Policy) (ctx : Context) (lines rest : List Line) :
    p.survivors ctx (lines ++ rest) =
      p.survivors ctx lines ++ p.survivors (p.after ctx lines) rest := by
  rw [survivors, judgeLines_append, List.filterMap_append, survivors, survivors]

theorem survivors_singleton (p : Policy) (ctx : Context) (line : Line) :
    p.survivors ctx [line] = ((p.judge ctx line.text).apply line).toList := by
  rw [survivors_cons, survivors_nil, List.append_nil]

theorem survivors_map {f : Line → Line}
    (hleft : ∀ ctx line, (p.judge ctx (f line).text).apply (f line) =
      ((p.judge ctx line.text).apply line).map f)
    (hnext : ∀ (ctx : Context) (line : Line),
      ctx.next p.headerLines (f line).text = ctx.next p.headerLines line.text) :
    p.survivors ctx (lines.map f) = (p.survivors ctx lines).map f := by
  induction lines generalizing ctx with
  | nil => rfl
  | cons line lines ih =>
    rw [List.map_cons, survivors_cons, survivors_cons, hleft, hnext, ih, List.map_append]
    cases (p.judge ctx line.text).apply line <;> rfl

theorem proper_survivors (h : ∀ line ∈ lines, line.Proper) :
    ∀ line ∈ p.survivors ctx lines, line.Proper := by
  induction lines generalizing ctx with
  | nil => simp
  | cons line lines ih =>
    obtain ⟨hline, hlines⟩ := List.forall_mem_cons.1 h
    rw [survivors_cons]
    refine List.forall_mem_append.2 ⟨?_, ih hlines⟩
    have hjudged := p.judged ctx line.text
    generalize p.judge ctx line.text = verdict at hjudged
    cases hjudged with
    | keep => simpa [Verdict.apply] using hline
    | cut unprotected =>
      have hcode := eq_append_of_read unprotected.reading
      simpa [Verdict.apply] using hline.cut ⟨_, hcode.symm⟩
    | drop => simp [Verdict.apply]

theorem proper_leave (h : ∀ line ∈ lines, line.Proper) : ∀ line ∈ p.leave lines, line.Proper :=
  fun line hline => proper_survivors h line ((collapseTail_sublist _).subset hline)

def Settled (p : Policy) (ctx : Context) (lines : List Line) : Prop :=
  ∀ judged ∈ p.judgeLines ctx lines, judged.2 = .keep

@[simp] theorem settled_nil : p.Settled ctx [] := by
  simp [Settled]

theorem settled_cons {line : Line} :
    p.Settled ctx (line :: lines) ↔
      p.judge ctx line.text = .keep ∧ p.Settled (ctx.next p.headerLines line.text) lines := by
  simp [Settled, judgeLines]

theorem settled_append {rest : List Line} :
    p.Settled ctx (lines ++ rest) ↔ p.Settled ctx lines ∧ p.Settled (p.after ctx lines) rest := by
  simp only [Settled, judgeLines_append, List.forall_mem_append]

theorem Settled.survivors (h : p.Settled ctx lines) : p.survivors ctx lines = lines := by
  induction lines generalizing ctx with
  | nil => rfl
  | cons line lines ih =>
    obtain ⟨hline, hlines⟩ := settled_cons.1 h
    rw [survivors_cons, hline, ih hlines]
    rfl

theorem Settled.countP_removes (h : p.Settled ctx lines) :
    (p.judgeLines ctx lines).countP (fun (_, verdict) => verdict.removes) = 0 := by
  rw [List.countP_eq_zero]
  rintro ⟨line, verdict⟩ hmem
  obtain rfl : verdict = .keep := h _ hmem
  simp [Verdict.removes]

@[simp] theorem judge_nil (p : Policy) (ctx : Context) : p.judge ctx [] = .keep := by
  have hjudged := p.judged ctx []
  generalize p.judge ctx [] = verdict at hjudged ⊢
  cases hjudged with
  | keep => rfl
  | cut unprotected => exact absurd unprotected.reading (by simp)
  | drop unprotected => exact absurd unprotected.reading (by simp)

theorem settled_empty {line : Line} (h : line.text = []) : p.Settled ctx [line] := by
  rw [settled_cons, h]
  exact ⟨p.judge_nil ctx, settled_nil⟩

theorem Settled.collapseTail (h : p.Settled ctx lines) : p.Settled ctx (collapseTail lines) := by
  obtain same | ⟨before, gone, last, rfl, collapsed, hlast, -⟩ := collapseTail_cases lines
  · rwa [same]
  · rw [List.append_assoc] at h
    rw [collapsed, settled_append]
    exact ⟨(settled_append.1 h).1, settled_empty hlast⟩

end Policy

end LineComment
