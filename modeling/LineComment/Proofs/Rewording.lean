import LineComment.Proofs.RemovalPolicy

namespace LineComment

variable {p : Policy} {ctx : Context} {mode : Mode} {line front body words : List Char}

theorem not_leads_reword {d : Char} {s : List Char} (hs : s = front ++ '/' :: '/' :: body)
    (h : ∀ u, s = d :: u → False) (words : List Char) :
    ∀ u, front ++ '/' :: '/' :: words = d :: u → False := by
  subst hs
  cases front with
  | nil =>
    rintro u hu
    exact h _ (congrArg (· :: _) (List.cons.inj hu).1)
  | cons c front =>
    rintro u hu
    exact h _ (congrArg (· :: _) (List.cons.inj hu).1)

theorem read_reword (h : read mode line = .comment front body) (words : List Char) :
    read mode (front ++ '/' :: '/' :: words) = .comment front words := by
  fun_induction read mode line generalizing front with
  | case1 => simp at h
  | case2 s ih =>
    obtain ⟨_, rfl, h₁⟩ := Reading.cons_eq_comment h
    obtain ⟨rest, rfl, h₂⟩ := Reading.cons_eq_comment h₁
    simp [read, ih h₂]
  | case3 c s noClose ih =>
    obtain ⟨rest, rfl, h₁⟩ := Reading.cons_eq_comment h
    have hs := eq_append_of_read h₁
    rw [List.cons_append, read, ih h₁, Reading.cons_comment]
    exact fun u hc => not_leads_reword hs (fun v => noClose v hc) words u
  | case4 => simp at h
  | case5 q c s ih =>
    obtain ⟨_, rfl, h₁⟩ := Reading.cons_eq_comment h
    obtain ⟨rest, rfl, h₂⟩ := Reading.cons_eq_comment h₁
    simp [read, ih h₂]
  | case6 q c s last more ih =>
    obtain ⟨rest, rfl, h₁⟩ := Reading.cons_eq_comment h
    have escape := ne_escape last more
    simp [read, escape, ih h₁]
  | case7 s =>
    obtain ⟨rfl, -⟩ : [] = front ∧ s = body := by simpa using h
    simp [read]
  | case8 s ih =>
    obtain ⟨_, rfl, h₁⟩ := Reading.cons_eq_comment h
    obtain ⟨rest, rfl, h₂⟩ := Reading.cons_eq_comment h₁
    simp [read, ih h₂]
  | case9 c s noLine noBlock ih =>
    obtain ⟨rest, rfl, h₁⟩ := Reading.cons_eq_comment h
    have hs := eq_append_of_read h₁
    rw [List.cons_append, read, ih h₁, Reading.cons_comment]
    · exact fun u hc => not_leads_reword hs (fun v => noLine v hc) words u
    · exact fun u hc => not_leads_reword hs (fun v => noBlock v hc) words u

theorem Text.trimStart_append_comment (front body : List Char) :
    trimStart (front ++ '/' :: '/' :: body) = trimStart front ++ '/' :: '/' :: body := by
  induction front with
  | nil => rfl
  | cons c front ih =>
    rw [List.cons_append, trimStart_cons, trimStart_cons]
    split
    next => exact ih
    next => rfl

theorem Text.trimEnd_append {s t : List Char} (h : ¬Blank t) :
    trimEnd (s ++ t) = s ++ trimEnd t := by
  induction s with
  | nil => rfl
  | cons c s ih =>
    have hs : ¬Blank (s ++ t) := fun hblank => h fun d hd => hblank d (List.mem_append_right s hd)
    rw [List.cons_append, trimEnd_cons hs, ih, List.cons_append]

theorem Text.exists_trim_comment (front body : List Char) :
    ∃ rest, trim (front ++ '/' :: '/' :: body) = trimStart front ++ '/' :: '/' :: rest := by
  have hslash (s : List Char) : ¬Blank ('/' :: s) := fun h => absurd (blank_cons.1 h).1 (by decide)
  rw [trim, trimStart_append_comment, trimEnd_append (hslash _), trimEnd_cons (hslash body)]
  by_cases hbody : Blank body
  · have hend : trimEnd (['/'] ++ body) = trimEnd ['/'] := trimEnd_append_blank hbody
    exact ⟨[], congrArg (trimStart front ++ '/' :: ·) hend⟩
  · exact ⟨trimEnd body, by rw [trimEnd_cons hbody]⟩

namespace Context

theorem looksHeader_reword (ctx : Context) (headerLines : Int) (front body words : List Char) :
    ctx.looksHeader headerLines (front ++ '/' :: '/' :: words) =
      ctx.looksHeader headerLines (front ++ '/' :: '/' :: body) := by
  obtain ⟨rest, hbody⟩ := Text.exists_trim_comment front body
  obtain ⟨rest', hwords⟩ := Text.exists_trim_comment front words
  rw [looksHeader, looksHeader, hbody, hwords]
  -- Two characters decide, and both come before the words.
  obtain _ | ⟨c, _ | ⟨d, s⟩⟩ := Text.trimStart front
  · rfl
  · grind
  · grind

theorem next_reword (h : read ctx.mode line = .comment front body) (headerLines : Int)
    (words : List Char) :
    ctx.next headerLines (front ++ '/' :: '/' :: words) = ctx.next headerLines line := by
  obtain rfl := eq_append_of_read h
  rw [next, next, read_reword h, h, looksHeader_reword ctx headerLines front body]
  rfl

end Context

namespace Source

variable {source : Source} {wording : Nat → Option (List Char)} {i : Nat} {line : Line}
  {content : List Char}

def rewordLine (source : Source) (wording : Nat → Option (List Char)) (i : Nat) (line : Line) :
    Line :=
  match source.pieces[i]?, wording i with
  | some ⟨_, front, some _⟩, some words => { line with text := front ++ '/' :: '/' :: words }
  | _, _ => line

def reword (source : Source) (wording : Nat → Option (List Char)) : Source where
  mark := source.mark
  lines := source.lines.mapIdx (source.rewordLine wording)

def Rewords (source : Source) (wording : Nat → Option (List Char)) (i : Nat) : Prop :=
  (∃ front body, source.Comments i front body) ∧ ∃ words, wording i = some words

theorem rewordLine_of_comments (hcomments : source.Comments i front body)
    (hwords : wording i = some words) (line : Line) :
    source.rewordLine wording i line = { line with text := front ++ '/' :: '/' :: words } := by
  obtain ⟨⟨inBlock, _, _⟩, hpiece, rfl, rfl⟩ := hcomments
  rw [rewordLine, hpiece, hwords]

theorem rewordLine_eq_self (h : ¬source.Rewords wording i) (line : Line) :
    source.rewordLine wording i line = line := by
  rw [rewordLine]
  split
  next hpiece hwords => exact absurd ⟨⟨_, _, _, hpiece, rfl, rfl⟩, _, hwords⟩ h
  next => rfl

theorem getElem?_reword (source : Source) (wording : Nat → Option (List Char)) (i : Nat) :
    (source.reword wording).lines[i]? = source.lines[i]?.map (source.rewordLine wording i) :=
  List.getElem?_mapIdx

theorem Comments.text_eq (hsource : ∀ line ∈ source.lines, line.Proper)
    (h : source.lines[i]? = some line) (hcomments : source.Comments i front body) :
    line.text = front ++ '/' :: '/' :: body :=
  eq_append_of_read ((({} : Policy).comments_iff hsource h).1 hcomments)

def Inline (wording : Nat → Option (List Char)) : Prop :=
  ∀ i words, wording i = some words → '\n' ∉ words ∧ '\r' ∉ words

theorem proper_rewordLine (hsource : ∀ line ∈ source.lines, line.Proper) (hwording : Inline wording)
    (h : source.lines[i]? = some line) : (source.rewordLine wording i line).Proper := by
  have hline := hsource line (List.mem_of_getElem? h)
  by_cases hrewords : source.Rewords wording i
  · obtain ⟨⟨front, body, hcomments⟩, words, hwords⟩ := hrewords
    obtain ⟨noFeed, noReturn⟩ := hwording i words hwords
    have htext := hcomments.text_eq hsource h
    have hfront : '\n' ∉ front := fun hmem => hline.noFeed (by simp [htext, hmem])
    rw [rewordLine_of_comments hcomments hwords]
    refine ⟨by simp [hfront, noFeed], fun _ hlast => ?_⟩
    -- The last character is the second slash or one of the words.
    have hmem : '\r' ∈ '/' :: words := by
      rw [List.append_cons, List.getLast?_append_cons] at hlast
      exact List.mem_of_getLast? hlast
    simp [noReturn] at hmem
  · rwa [rewordLine_eq_self hrewords]

theorem head?_rewordLine (hsource : ∀ line ∈ source.lines, line.Proper)
    (h : source.lines[i]? = some line)
    (hmark : (source.rewordLine wording i line).text.head? = some '\uFEFF') :
    line.text.head? = some '\uFEFF' := by
  by_cases hrewords : source.Rewords wording i
  · obtain ⟨⟨front, body, hcomments⟩, words, hwords⟩ := hrewords
    rw [rewordLine_of_comments hcomments hwords] at hmark
    rw [hcomments.text_eq hsource h]
    cases front with
    | nil => simp at hmark
    | cons c front => exact hmark
  · rwa [rewordLine_eq_self hrewords] at hmark

theorem head?_chars_eq_mark_iff (line : Line) (lines : List Line) :
    (chars ⟨false, line :: lines⟩).head? = some '\uFEFF' ↔ line.text.head? = some '\uFEFF' := by
  obtain ⟨text, carriageReturn⟩ := line
  cases text with
  | nil => exact iff_of_false head?_chars_ne (by simp)
  | cons c s =>
    rw [chars_cons]
    exact Iff.rfl

theorem Proper.reword (hsource : source.Proper) (hwording : Inline wording) :
    (source.reword wording).Proper := by
  obtain ⟨hne, hlines, hhead⟩ := hsource
  refine ⟨by simpa [Source.reword] using hne, ?_, fun hmark => ?_⟩
  · intro line hline
    obtain ⟨i, hi⟩ := List.getElem?_of_mem hline
    rw [getElem?_reword, Option.map_eq_some_iff] at hi
    obtain ⟨line, hi, rfl⟩ := hi
    exact proper_rewordLine hlines hwording hi
  · obtain ⟨mark, lines⟩ := source
    obtain rfl : mark = false := hmark
    cases lines with
    | nil => exact absurd rfl hne
    | cons line lines =>
      have hfirst := mt (head?_chars_eq_mark_iff line lines).2 (hhead rfl)
      simp only [Source.reword, List.mapIdx_cons]
      rw [Ne, head?_chars_eq_mark_iff]
      exact mt (head?_rewordLine hlines rfl) hfirst

theorem ofChars_reword (content : List Char) (hwording : Inline wording) :
    ofChars ((ofChars content).reword wording).chars = (ofChars content).reword wording :=
  ((proper_ofChars content).reword hwording).ofChars_chars

end Source

namespace Policy

variable {source : Source} {wording : Nat → Option (List Char)} {i : Nat} {line : Line}
  {content content' : List Char}

theorem contextAt_reword (p : Policy) (hsource : ∀ line ∈ source.lines, line.Proper)
    (wording : Nat → Option (List Char)) (h : i ≤ source.lines.length) :
    p.contextAt (source.reword wording) i = p.contextAt source i := by
  induction i with
  | zero => rfl
  | succ i ih =>
    have hline : source.lines[i]? = some source.lines[i] := List.getElem?_eq_getElem h
    have hreworded := source.getElem?_reword wording i
    rw [hline, Option.map_some] at hreworded
    rw [contextAt_succ hreworded, contextAt_succ hline, ih (Nat.le_of_succ_le h)]
    by_cases hrewords : source.Rewords wording i
    · obtain ⟨⟨front, body, hcomments⟩, words, hwords⟩ := hrewords
      rw [Source.rewordLine_of_comments hcomments hwords]
      exact Context.next_reword ((p.comments_iff hsource hline).1 hcomments) p.headerLines words
    · rw [Source.rewordLine_eq_self hrewords]

theorem getElem?_judgeLines_reword (p : Policy) (hsource : ∀ line ∈ source.lines, line.Proper)
    (wording : Nat → Option (List Char)) (h : source.lines[i]? = some line) :
    (p.judgeLines .initial (source.reword wording).lines)[i]? =
      some (source.rewordLine wording i line,
        p.judge (p.contextAt source i) (source.rewordLine wording i line).text) := by
  have hi : i ≤ source.lines.length := (List.getElem?_eq_some_iff.1 h).1.le
  rw [← p.contextAt_reword hsource wording hi, getElem?_judgeLines, source.getElem?_reword, h]
  rfl

theorem exists_unprotected_of_removes {text : List Char}
    (h : (p.judge ctx text).removes = true) :
    ∃ front body, p.Unprotected ctx text front body ∧
      (¬Text.Blank front ∨ p.isTrivial body = true) := by
  have hjudged := p.judged ctx text
  generalize p.judge ctx text = verdict at hjudged h
  cases hjudged with
  | keep => cases h
  | cut unprotected hcode => exact ⟨_, _, unprotected, .inl hcode⟩
  | drop unprotected _ trivial => exact ⟨_, _, unprotected, .inr trivial⟩

theorem apply_judge_of_removes (hread : read ctx.mode line.text = .comment front body)
    (h : (p.judge ctx line.text).removes = true) :
    (p.judge ctx line.text).apply line =
      if Text.Blank front then none else some { line with text := Text.trimEnd front } := by
  obtain ⟨front', body', unprotected, hgoes⟩ := exists_unprotected_of_removes h
  rw [Context.mode_of_not_inBlock unprotected.outside, unprotected.reading] at hread
  obtain ⟨rfl, rfl⟩ := Reading.comment.inj hread
  exact unprotected.apply_judge hgoes

def outcome (judged : Line × Verdict) : Option Line × Bool :=
  (judged.2.apply judged.1, judged.2.removes)

theorem strip_eq_outcomes (p : Policy) (content : List Char) :
    p.strip content =
      let outcomes := (p.judgeLines .initial (Source.ofChars content).lines).map outcome
      let left := collapseTail (outcomes.filterMap Prod.fst)
      ⟨Source.chars ⟨(Source.ofChars content).mark, left⟩, outcomes.countP Prod.snd,
        outcomes.length - left.length⟩ := by
  simp only [strip, leave, List.filterMap_map, List.countP_map, List.length_map, length_judgeLines]
  rfl

def Loses (p : Policy) (source : Source) (i : Nat) : Prop :=
  ∃ judged, (p.judgeLines .initial source.lines)[i]? = some judged ∧ judged.2.removes = true

theorem Loses.removes_judge (h : p.Loses source i) (hline : source.lines[i]? = some line) :
    (p.judge (p.contextAt source i) line.text).removes = true := by
  obtain ⟨judged, hjudged, hremoves⟩ := h
  rw [getElem?_judgeLines, hline] at hjudged
  obtain rfl := Option.some.inj hjudged
  exact hremoves

theorem getElem?_judgeLines_of_not_rewords (p : Policy)
    (hsource : ∀ line ∈ source.lines, line.Proper) (hother : ¬source.Rewords wording i) :
    (p.judgeLines .initial (source.reword wording).lines)[i]? =
      (p.judgeLines .initial source.lines)[i]? := by
  cases h : source.lines[i]? with
  | none => simp [getElem?_judgeLines, Source.getElem?_reword, h]
  | some line =>
    rw [p.getElem?_judgeLines_reword hsource wording h, Source.rewordLine_eq_self hother,
      getElem?_judgeLines, h]
    rfl

theorem outcomes_reword (hsource : ∀ line ∈ source.lines, line.Proper)
    (hgone : ∀ i, source.Rewords wording i →
      p.Loses source i ∧ p.Loses (source.reword wording) i) :
    (p.judgeLines .initial (source.reword wording).lines).map outcome =
      (p.judgeLines .initial source.lines).map outcome := by
  apply List.ext_getElem?
  intro i
  rw [List.getElem?_map, List.getElem?_map]
  by_cases hrewords : source.Rewords wording i
  · obtain ⟨hbefore, hafter⟩ := hgone i hrewords
    obtain ⟨⟨front, body, hcomments⟩, words, hwords⟩ := hrewords
    cases h : source.lines[i]? with
    | none => simp [getElem?_judgeLines, Source.getElem?_reword, h]
    | some line =>
      have hread := (p.comments_iff hsource h).1 hcomments
      have hi : i ≤ source.lines.length := (List.getElem?_eq_some_iff.1 h).1.le
      have hreworded : (source.reword wording).lines[i]? = some _ :=
        (source.getElem?_reword wording i).trans (congrArg _ h)
      have hremoves := hbefore.removes_judge h
      have hremoves' := hafter.removes_judge hreworded
      rw [p.contextAt_reword hsource wording hi, Source.rewordLine_of_comments hcomments hwords]
        at hremoves'
      have happly := apply_judge_of_removes hread hremoves
      have happly' := apply_judge_of_removes (read_reword hread words) hremoves'
      rw [p.getElem?_judgeLines_reword hsource wording h, getElem?_judgeLines, h,
        Source.rewordLine_of_comments hcomments hwords]
      exact congrArg some (Prod.ext (happly'.trans happly.symm) (hremoves'.trans hremoves.symm))
  · rw [p.getElem?_judgeLines_of_not_rewords hsource hrewords]

/-- Other words in comments, in any number of them, change neither what is known in front of a line
nor what becomes of any other line. If the comments with other words go before and after, all that
is left is the same. -/
theorem strip_reword (p : Policy) (content : List Char) (hwording : Source.Inline wording) :
    let source := Source.ofChars content
    let reworded := source.reword wording
    Source.ofChars reworded.chars = reworded ∧
      (∀ i ≤ source.lines.length, p.contextAt reworded i = p.contextAt source i) ∧
      (∀ i, ¬source.Rewords wording i →
        (p.judgeLines .initial reworded.lines)[i]? = (p.judgeLines .initial source.lines)[i]?) ∧
      ((∀ i, source.Rewords wording i → p.Loses source i ∧ p.Loses reworded i) →
        p.strip reworded.chars = p.strip content) := by
  have hsource := (Source.proper_ofChars content).lines
  have hreworded := Source.ofChars_reword content hwording
  refine ⟨hreworded, fun i => p.contextAt_reword hsource wording,
    fun i => p.getElem?_judgeLines_of_not_rewords hsource, fun hgone => ?_⟩
  rw [strip_eq_outcomes, strip_eq_outcomes p content, hreworded]
  simp only [outcomes_reword hsource hgone]
  rfl

theorem strip_reword_quotes :
    let wording : Nat → Option (List Char)
      | 0 => some "set \" /*".toList
      | 1 => some "load '".toList
      | _ => none
    ((Source.ofChars "a // b\r\n// get\n'//' c\n".toList).reword wording).chars =
        "a //set \" /*\r\n//load '\n'//' c\n".toList ∧
      Policy.strip {} "a //set \" /*\r\n//load '\n'//' c\n".toList =
        Policy.strip {} "a // b\r\n// get\n'//' c\n".toList := by
  intro wording
  have hwording : Source.Inline wording
    | 0, _, rfl => by decide
    | 1, _, rfl => by decide
  obtain ⟨-, -, -, hstrip⟩ := strip_reword {} "a // b\r\n// get\n'//' c\n".toList hwording
  refine ⟨rfl, hstrip fun i => ?_⟩
  rintro ⟨-, words, hwords⟩
  match i with
  | 0 => exact ⟨⟨_, rfl, rfl⟩, _, rfl, rfl⟩
  | 1 => exact ⟨⟨_, rfl, rfl⟩, _, rfl, rfl⟩
  | _ + 2 => cases hwords

end Policy

end LineComment
