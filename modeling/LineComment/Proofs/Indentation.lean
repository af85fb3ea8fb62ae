import LineComment.Proofs.Decisions
import LineComment.Proofs.Outline

namespace LineComment

def Decision.unindented (d : Decision) : Decision where
  verdict := d.verdict.map Text.trimStart
  text := Text.trimStart d.text
  next := d.next

variable {p : Policy} {ctx : Context} {b : Char} {line line' : List Char}
  {lines lines' : List (List Char)} {content content' : List Char}

theorem Verdict.map_trimStart_cons (h : Text.isBlank b = true) (v : Verdict) :
    (v.cons b).map Text.trimStart = v.map Text.trimStart := by
  cases v with
  | cut code => simp [Verdict.cons, Verdict.map, Text.trimStart_cons, h]
  | keep | drop => rfl

theorem Verdict.trimStart_text (v : Verdict) (line : List Char) :
    Text.trimStart (v.text line) = (v.map Text.trimStart).text (Text.trimStart line) := by
  cases v <;> rfl

theorem Context.next_trimStart (ctx : Context) (headerLines : Int) (line : List Char) :
    ctx.next headerLines (Text.trimStart line) = ctx.next headerLines line := by
  induction line with
  | nil => rfl
  | cons c line ih =>
    rw [Text.trimStart_cons]
    split
    next hc => rw [ih, next_cons_blank hc]
    next => rfl

theorem Context.next_congr_trimStart (h : Text.trimStart line' = Text.trimStart line)
    (ctx : Context) (headerLines : Int) :
    ctx.next headerLines line' = ctx.next headerLines line := by
  rw [← next_trimStart, h, next_trimStart]

namespace Policy

theorem map_judge_trimStart (p : Policy) (ctx : Context) (line : List Char) :
    (p.judge ctx (Text.trimStart line)).map Text.trimStart =
      (p.judge ctx line).map Text.trimStart := by
  induction line with
  | nil => rfl
  | cons c line ih =>
    rw [Text.trimStart_cons]
    split
    next hc => rw [ih, judge_cons_blank hc, Verdict.map_trimStart_cons hc]
    next => rfl

theorem unindented_decision (h : Text.trimStart line' = Text.trimStart line) :
    (p.decision ctx line').unindented = (p.decision ctx line).unindented := by
  have hverdict :
      (p.judge ctx line').map Text.trimStart = (p.judge ctx line).map Text.trimStart := by
    rw [← map_judge_trimStart, h, map_judge_trimStart]
  have hnext := Context.next_congr_trimStart h ctx p.headerLines
  simp only [decision, Decision.unindented, Verdict.trimStart_text, hverdict, hnext, h]

theorem unindented_decisions (h : lines'.map Text.trimStart = lines.map Text.trimStart) :
    (p.decisions ctx lines').map Decision.unindented =
      (p.decisions ctx lines).map Decision.unindented := by
  induction lines generalizing ctx lines' with
  | nil => rw [List.map_eq_nil_iff.1 h]
  | cons line lines ih =>
    obtain ⟨line', lines', rfl, hline, hlines⟩ := List.map_eq_cons_iff.1 h
    have hnext : (p.decision ctx line').next = (p.decision ctx line).next :=
      Context.next_congr_trimStart hline ctx p.headerLines
    rw [decisions, decisions, List.map_cons, List.map_cons, unindented_decision hline, hnext,
      ih hlines]

theorem removals_eq_countP (p : Policy) (ctx : Context) (lines : List Line) :
    p.removals ctx lines =
      (p.decisions ctx (lines.map Line.text)).countP fun d => d.verdict.removes := by
  induction lines generalizing ctx with
  | nil => rfl
  | cons line lines ih =>
    rw [removals_cons, ih, List.map_cons, decisions, List.countP_cons]
    rfl

theorem removals_congr {lines lines' : List Line}
    (h : lines'.map (fun line => Text.trimStart line.text) =
      lines.map fun line => Text.trimStart line.text) :
    p.removals ctx lines' = p.removals ctx lines := by
  have hcount (texts : List (List Char)) :
      (p.decisions ctx texts).countP (fun d => d.verdict.removes) =
        ((p.decisions ctx texts).map Decision.unindented).countP fun d => d.verdict.removes := by
    rw [List.countP_map]
    simp [Function.comp_def, Decision.unindented]
  rw [removals_eq_countP, removals_eq_countP, hcount, hcount, unindented_decisions]
  simpa only [List.map_map, Function.comp_def] using h

end Policy

theorem Line.text_ofChars_cons {s : List Char} (h : s = [] → b ≠ '\r') :
    (ofChars (b :: s)).text = b :: (ofChars s).text := by
  cases s with
  | nil => simp [ofChars, h rfl]
  | cons c s =>
    rw [ofChars, ofChars, List.getLast?_cons_cons]
    split <;> rfl

theorem Line.trimStart_text_ofChars (s : List Char) :
    Text.trimStart (ofChars s).text = (ofChars (Text.trimStart s)).text := by
  induction s with
  | nil => rfl
  | cons c s ih =>
    by_cases hc : Text.isBlank c = true
    · rw [Text.trimStart_cons, if_pos hc, ← ih]
      by_cases hs : s = [] ∧ c = '\r'
      · obtain ⟨rfl, rfl⟩ := hs
        rfl
      · rw [text_ofChars_cons fun hnil hreturn => hs ⟨hnil, hreturn⟩, Text.trimStart_cons, if_pos hc]
    · have hreturn : c ≠ '\r' := by
        rintro rfl
        exact hc (by decide)
      rw [Text.trimStart_cons, if_neg hc, text_ofChars_cons fun _ => hreturn, Text.trimStart_cons,
        if_neg hc]

theorem Source.trimStart_text_lines (content : List Char) :
    (ofChars content).lines.map (fun line => Text.trimStart line.text) =
      (content.splitOn '\n').map fun s => (Line.ofChars (Text.trimStart s)).text := by
  have hpieces (s : List Char) :
      ((s.splitOn '\n').map Line.ofChars).map (fun line => Text.trimStart line.text) =
        (s.splitOn '\n').map fun s => (Line.ofChars (Text.trimStart s)).text := by
    rw [List.map_map]
    exact List.map_congr_left fun s _ => Line.trimStart_text_ofChars s
  unfold ofChars
  split
  next s =>
    -- The byte order mark is a blank in front of the first line.
    have hmark (t : List Char) : Text.trimStart ('\uFEFF' :: t) = Text.trimStart t := by
      rw [Text.trimStart_cons, if_pos (by decide)]
    obtain ⟨t, rest, ht⟩ := List.exists_cons_of_ne_nil (List.splitOn_ne_nil '\n' s)
    rw [hpieces, List.splitOn_cons_eq_if_modifyHead, if_neg (by decide), ht, List.modifyHead_cons,
      List.map_cons, List.map_cons, hmark]
  next => exact hpieces content

/-- Other blanks in front of lines change what is decided about them only by these blanks, and
nothing in what is known in front of each line. So a text loses as many comments however its lines
are indented. -/
theorem decisions_reindent (p : Policy) :
    (∀ (ctx : Context) (lines lines' : List (List Char)),
      lines'.map Text.trimStart = lines.map Text.trimStart →
        (p.decisions ctx lines').map Decision.unindented =
          (p.decisions ctx lines).map Decision.unindented) ∧
      ∀ content content' : List Char,
        (content'.splitOn '\n').map Text.trimStart = (content.splitOn '\n').map Text.trimStart →
          (p.strip content').removedComments = (p.strip content).removedComments := by
  refine ⟨fun ctx lines lines' => Policy.unindented_decisions, fun content content' h => ?_⟩
  apply Policy.removals_congr
  have hpieces := congrArg (List.map fun s => (Line.ofChars s).text) h
  simpa only [Source.trimStart_text_lines, List.map_map, Function.comp_def] using hpieces

theorem decisions_reindent_block :
    let content := "/* a\n\tb */ c // d\n\te // f\n  // get\r\n".toList
    let content' := "\uFEFF\u3000/* a\nb */ c // d\n e // f\n// get\r\n ".toList
    (content'.splitOn '\n').map Text.trimStart = (content.splitOn '\n').map Text.trimStart ∧
      (Policy.decisions {} ⟨true, false, -1⟩ (content'.splitOn '\n')).map Decision.unindented =
        (Policy.decisions {} ⟨true, false, -1⟩ (content.splitOn '\n')).map Decision.unindented ∧
      (Policy.strip {} content').removedComments = 2 := by
  intro content content'
  have hsame : (content'.splitOn '\n').map Text.trimStart =
      (content.splitOn '\n').map Text.trimStart := by decide
  have hcount : (Policy.strip {} content).removedComments = 2 := by decide
  obtain ⟨hdecisions, hstrip⟩ := decisions_reindent {}
  exact ⟨hsame, hdecisions _ _ _ hsame, (hstrip content content' hsame).trans hcount⟩

end LineComment
