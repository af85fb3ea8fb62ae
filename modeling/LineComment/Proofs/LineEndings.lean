import LineComment.Proofs.Survivors

namespace LineComment

namespace Text

variable {c : Char} {s : List Char} {parts : List (List Char)}

def crlf (s : List Char) : List Char :=
  s.flatMap fun c => if c = '\n' then ['\r', '\n'] else [c]

@[simp] theorem crlf_nil : crlf [] = [] := rfl

theorem crlf_cons (c : Char) (s : List Char) :
    crlf (c :: s) = (if c = '\n' then ['\r', '\n'] else [c]) ++ crlf s := rfl

@[simp] theorem crlf_append (s t : List Char) : crlf (s ++ t) = crlf s ++ crlf t :=
  List.flatMap_append

theorem crlf_of_feed_not_mem (h : '\n' ∉ s) : crlf s = s := by
  induction s with
  | nil => rfl
  | cons c s ih =>
    rw [crlf_cons, if_neg (List.ne_of_not_mem_cons h).symm, ih (List.not_mem_of_not_mem_cons h)]
    rfl

theorem head?_crlf (hc : c ≠ '\r') (h : (crlf s).head? = some c) : s.head? = some c := by
  cases s with
  | nil => exact h
  | cons d s =>
    by_cases hd : d = '\n'
    · subst hd
      exact absurd (Option.some.inj h).symm hc
    · rw [crlf_cons, if_neg hd] at h
      exact h

def LoneReturn (s : List Char) : Prop :=
  ∃ front rest, s = front ++ '\r' :: rest ∧ rest.head? ≠ some '\n'

theorem LoneReturn.tail (hc : c ≠ '\r') (h : LoneReturn (c :: s)) : LoneReturn s := by
  obtain ⟨front, rest, hs, hrest⟩ := h
  cases front with
  | nil => exact absurd (List.cons.inj hs).1 hc
  | cons d front => exact ⟨front, rest, (List.cons.inj hs).2, hrest⟩

theorem LoneReturn.of_crlf_cons (h : LoneReturn ('\r' :: '\n' :: s)) : LoneReturn s := by
  obtain ⟨front, rest, hs, hrest⟩ := h
  cases front with
  | nil =>
    obtain rfl : '\n' :: s = rest := (List.cons.inj hs).2
    exact absurd rfl hrest
  | cons d front =>
    have htail : LoneReturn ('\n' :: s) := ⟨front, rest, (List.cons.inj hs).2, hrest⟩
    exact htail.tail (by decide)

theorem not_loneReturn_crlf (h : '\r' ∉ s) : ¬LoneReturn (crlf s) := by
  induction s with
  | nil =>
    rintro ⟨front, rest, hs, -⟩
    simp at hs
  | cons c s ih =>
    intro hlone
    apply ih (List.not_mem_of_not_mem_cons h)
    by_cases hfeed : c = '\n'
    · subst hfeed
      exact hlone.of_crlf_cons
    · rw [crlf_cons, if_neg hfeed] at hlone
      exact hlone.tail (List.ne_of_not_mem_cons h).symm

theorem loneReturn_append_return (s : List Char) : LoneReturn (s ++ ['\r']) :=
  ⟨s, [], rfl, by simp⟩

theorem mem_intercalate_of_mem {separator part : List Char} (hpart : part ∈ parts) (hc : c ∈ part) :
    c ∈ separator.intercalate parts := by
  induction parts with
  | nil => cases hpart
  | cons first parts ih =>
    cases parts with
    | nil =>
      obtain rfl := List.mem_singleton.1 hpart
      simpa using hc
    | cons second parts =>
      rw [List.intercalate_cons_cons]
      obtain rfl | hmem := List.mem_cons.1 hpart
      · simp [hc]
      · exact List.mem_append_right _ (ih hmem)

theorem mem_of_mem_intercalate {separator : List Char} (hc : c ∈ separator.intercalate parts) :
    c ∈ separator ∨ ∃ part ∈ parts, c ∈ part := by
  induction parts with
  | nil => cases hc
  | cons first parts ih =>
    cases parts with
    | nil => exact .inr ⟨first, List.mem_cons_self, by simpa using hc⟩
    | cons second parts =>
      rw [List.intercalate_cons_cons, List.mem_append, List.mem_append] at hc
      obtain (hfirst | hsep) | hrest := hc
      · exact .inr ⟨first, List.mem_cons_self, hfirst⟩
      · exact .inl hsep
      · exact (ih hrest).imp_right fun ⟨part, hpart, hmem⟩ =>
          ⟨part, List.mem_cons_of_mem _ hpart, hmem⟩

end Text

namespace Line

variable {line : Line}

structure Plain (line : Line) : Prop where
  unended : line.carriageReturn = false
  noReturn : '\r' ∉ line.text

def withReturn (line : Line) : Line :=
  { line with carriageReturn := true }

@[simp] theorem text_withReturn (line : Line) : line.withReturn.text = line.text := rfl

@[simp] theorem isEmpty_withReturn (line : Line) : line.withReturn.isEmpty = line.isEmpty := rfl

theorem plain_iff : line.Plain ↔ '\r' ∉ line.chars := by
  obtain ⟨text, carriageReturn⟩ := line
  cases carriageReturn with
  | true => exact iff_of_false (fun h => nomatch h.unended) (by simp [chars])
  | false => exact ⟨fun h => h.noReturn, fun h => ⟨rfl, h⟩⟩

theorem Plain.chars_withReturn (h : line.Plain) : line.withReturn.chars = line.chars ++ ['\r'] := by
  simp [chars, withReturn, h.unended]

theorem Proper.withReturn (h : line.Proper) : line.withReturn.Proper :=
  ⟨h.noFeed, fun hr => nomatch hr⟩

end Line

namespace Source

variable {mark : Bool} {lines before : List Line} {last : Line} {content : List Char} {c : Char}

theorem mem_chars_of_mem {source : Source} {line : Line} (hline : line ∈ source.lines)
    (hc : c ∈ line.chars) : c ∈ source.chars :=
  List.mem_append_right _ (Text.mem_intercalate_of_mem (List.mem_map_of_mem hline) hc)

theorem plain_of_mem_ofChars {line : Line} (h : '\r' ∉ content)
    (hline : line ∈ (ofChars content).lines) : line.Plain := by
  rw [Line.plain_iff]
  intro hreturn
  apply h
  rw [← chars_ofChars content]
  exact mem_chars_of_mem hline hreturn

theorem return_not_mem_chars (h : ∀ line ∈ lines, line.Plain) : '\r' ∉ chars ⟨mark, lines⟩ := by
  intro hreturn
  obtain hmark | hlines := List.mem_append.1 hreturn
  · cases mark <;> simp at hmark
  · obtain hfeed | ⟨part, hpart, hmem⟩ := Text.mem_of_mem_intercalate hlines
    · simp at hfeed
    · obtain ⟨line, hline, rfl⟩ := List.mem_map.1 hpart
      exact Line.plain_iff.1 (h line hline) hmem

theorem chars_map_withReturn (hplain : ∀ line ∈ before ++ [last], line.Plain)
    (hproper : ∀ line ∈ before ++ [last], line.Proper) :
    chars ⟨mark, before.map Line.withReturn ++ [last]⟩ =
      Text.crlf (chars ⟨mark, before ++ [last]⟩) := by
  have hmark : Text.crlf (if mark then ['\uFEFF'] else []) = if mark then ['\uFEFF'] else [] := by
    cases mark <;> rfl
  rw [chars, chars, Text.crlf_append, hmark]
  congr 1
  induction before with
  | nil =>
    have hfeed := (hproper last List.mem_cons_self).feed_not_mem_chars
    simpa using (Text.crlf_of_feed_not_mem hfeed).symm
  | cons line before ih =>
    obtain ⟨plain, hplain⟩ := List.forall_mem_cons.1 hplain
    obtain ⟨proper, hproper⟩ := List.forall_mem_cons.1 hproper
    have hfeed := Text.crlf_of_feed_not_mem proper.feed_not_mem_chars
    simp only [List.cons_append, List.map_cons]
    rw [List.intercalate_cons_of_ne_nil (by simp), List.intercalate_cons_of_ne_nil (by simp),
      ih hplain hproper, plain.chars_withReturn, Text.crlf_append, Text.crlf_append, hfeed]
    simp [Text.crlf_cons]

theorem chars_append_withReturn (h : last.Plain) :
    chars ⟨mark, before ++ [last.withReturn]⟩ = chars ⟨mark, before ++ [last]⟩ ++ ['\r'] := by
  by_cases hne : before = []
  · simp [hne, chars, h.chars_withReturn]
  · rw [chars_append_singleton hne, chars_append_singleton hne, h.chars_withReturn,
      List.append_assoc, List.cons_append]

theorem exists_lines_eq_concat (content : List Char) :
    ∃ before last, (ofChars content).lines = before ++ [last] := by
  obtain hnil | ⟨before, last, h⟩ := List.eq_nil_or_concat (ofChars content).lines
  · exact absurd hnil (proper_ofChars content).nonempty
  · exact ⟨before, last, by simpa using h⟩

theorem ofChars_crlf (h : '\r' ∉ content) (hlines : (ofChars content).lines = before ++ [last]) :
    ofChars (Text.crlf content) =
      ⟨(ofChars content).mark, before.map Line.withReturn ++ [last]⟩ := by
  have hplain : ∀ line ∈ before ++ [last], line.Plain := by
    rw [← hlines]
    exact fun _ => plain_of_mem_ofChars h
  have hproper : ∀ line ∈ before ++ [last], line.Proper := by
    rw [← hlines]
    exact fun _ => proper_of_mem_ofChars
  have hchars : chars ⟨(ofChars content).mark, before.map Line.withReturn ++ [last]⟩ =
      Text.crlf content := by
    rw [chars_map_withReturn hplain hproper, ← hlines, chars_ofChars]
  rw [← hchars]
  apply Proper.ofChars_chars
  refine ⟨by simp, ?_, fun hmark hhead => ?_⟩
  · obtain ⟨hbefore, hlast⟩ := List.forall_mem_append.1 hproper
    refine List.forall_mem_append.2 ⟨?_, hlast⟩
    intro line hline
    obtain ⟨line, hmem, rfl⟩ := List.mem_map.1 hline
    exact (hbefore line hmem).withReturn
  · rw [hchars] at hhead
    rw [mark_ofChars_eq_true_iff.2 (Text.head?_crlf (by decide) hhead)] at hmark
    cases hmark

end Source

namespace Policy

variable {p : Policy} {ctx : Context} {content : List Char} {line last left : Line}
  {lines before : List Line}

theorem verdicts_congr {lines' : List Line} (h : lines.map Line.text = lines'.map Line.text) :
    (p.judgeLines ctx lines).map Prod.snd = (p.judgeLines ctx lines').map Prod.snd := by
  induction lines generalizing ctx lines' with
  | nil => rw [List.map_eq_nil_iff.1 h.symm]
  | cons line lines ih =>
    obtain ⟨line', lines', rfl, htext, hlines⟩ := List.map_eq_cons_iff.1 h.symm
    simp only [judgeLines, List.map_cons, htext]
    rw [ih hlines.symm]

theorem after_map_withReturn (p : Policy) (ctx : Context) (lines : List Line) :
    p.after ctx (lines.map Line.withReturn) = p.after ctx lines := by
  induction lines generalizing ctx with
  | nil => rfl
  | cons line lines ih => simp [ih]

theorem survivors_map_withReturn (p : Policy) (ctx : Context) (lines : List Line) :
    p.survivors ctx (lines.map Line.withReturn) = (p.survivors ctx lines).map Line.withReturn := by
  apply survivors_map
  · intro ctx line
    rw [Line.text_withReturn]
    cases p.judge ctx line.text <;> rfl
  · intro ctx line
    rw [Line.text_withReturn]

theorem exists_mem_of_mem_survivors (h : left ∈ p.survivors ctx lines) :
    ∃ line ∈ lines, left.carriageReturn = line.carriageReturn ∧ left.text <+: line.text := by
  induction lines generalizing ctx with
  | nil => cases h
  | cons line lines ih =>
    rw [survivors_cons, List.mem_append] at h
    obtain hline | hlines := h
    · refine ⟨line, List.mem_cons_self, ?_⟩
      have hjudged := p.judged ctx line.text
      generalize p.judge ctx line.text = verdict at hjudged hline
      cases hjudged with
      | keep =>
        obtain rfl : left = line := by simpa [Verdict.apply] using hline
        exact ⟨rfl, List.prefix_rfl⟩
      | @cut front rest unprotected =>
        obtain rfl : left = { line with text := Text.trimEnd front } := by
          simpa [Verdict.apply] using hline
        have hfront : front <+: line.text := ⟨_, (eq_append_of_read unprotected.reading).symm⟩
        exact ⟨rfl, (Text.trimEnd_prefix front).trans hfront⟩
      | drop => simp [Verdict.apply] at hline
    · obtain ⟨line', hmem, hleft⟩ := ih hlines
      exact ⟨line', List.mem_cons_of_mem line hmem, hleft⟩

theorem plain_leave (h : ∀ line ∈ lines, line.Plain) : ∀ line ∈ p.leave lines, line.Plain := by
  intro left hleft
  obtain ⟨line, hline, hreturn, htext⟩ :=
    exists_mem_of_mem_survivors ((collapseTail_sublist _).subset hleft)
  exact ⟨hreturn.trans (h line hline).unended, fun hr => (h line hline).noReturn (htext.subset hr)⟩

theorem leave_append_of_apply
    (h : (p.judge (p.after .initial before) last.text).apply last = some left) :
    p.leave (before ++ [last]) =
      (if left.isEmpty then (p.survivors .initial before).rdropWhile Line.isEmpty
        else p.survivors .initial before) ++ [left] := by
  rw [leave_eq, survivors_append, survivors_singleton, h]
  exact collapseTail_append_singleton _ left

theorem leave_append_of_drop (h : p.judge (p.after .initial before) last.text = .drop) :
    p.leave (before ++ [last]) = collapseTail (p.survivors .initial before) := by
  rw [leave_eq, survivors_append, survivors_singleton, h]
  exact congrArg collapseTail (List.append_nil _)

theorem exists_leave_of_apply
    (h : (p.judge (p.after .initial before) last.text).apply last = some left) :
    ∃ kept, p.leave (before ++ [last]) = kept ++ [left] ∧
      p.leave (before.map Line.withReturn ++ [last]) = kept.map Line.withReturn ++ [left] := by
  refine ⟨_, leave_append_of_apply h, ?_⟩
  rw [← after_map_withReturn] at h
  rw [leave_append_of_apply h, survivors_map_withReturn,
    rdropWhile_map_isEmpty Line.isEmpty_withReturn]
  split <;> rfl

theorem leave_map_withReturn_of_drop (h : p.judge (p.after .initial before) last.text = .drop) :
    p.leave (before.map Line.withReturn ++ [last]) =
      (p.leave (before ++ [last])).map Line.withReturn := by
  rw [leave_append_of_drop h, ← collapseTail_map Line.isEmpty_withReturn,
    ← survivors_map_withReturn]
  rw [← after_map_withReturn] at h
  exact leave_append_of_drop h

theorem length_leave_map_withReturn (p : Policy) (before : List Line) (last : Line) :
    (p.leave (before.map Line.withReturn ++ [last])).length =
      (p.leave (before ++ [last])).length := by
  cases h : (p.judge (p.after .initial before) last.text).apply last with
  | none =>
    have hdrop : p.judge (p.after .initial before) last.text = .drop := apply_eq_none_iff.1 h
    rw [leave_map_withReturn_of_drop hdrop, List.length_map]
  | some left =>
    obtain ⟨kept, hleave, hreturn⟩ := exists_leave_of_apply h
    rw [hleave, hreturn]
    simp

def DropsEnd (p : Policy) (content : List Char) : Prop :=
  ∃ before last, (Source.ofChars content).lines = before ++ [last] ∧
    p.judge (p.after .initial before) last.text = .drop ∧ p.survivors .initial before ≠ []

theorem dropsEnd_iff (hlines : (Source.ofChars content).lines = before ++ [last]) :
    p.DropsEnd content ↔
      p.judge (p.after .initial before) last.text = .drop ∧ p.survivors .initial before ≠ [] := by
  constructor
  · rintro ⟨before', last', hlines', h⟩
    obtain ⟨rfl, rfl⟩ : before = before' ∧ last = last' := by simpa [hlines] using hlines'
    exact h
  · exact fun h => ⟨before, last, hlines, h⟩

theorem content_strip_crlf_of_dropsEnd (hreturn : '\r' ∉ content) (h : p.DropsEnd content) :
    (p.strip (Text.crlf content)).content = Text.crlf (p.strip content).content ++ ['\r'] := by
  obtain ⟨before, last, hlines, hdrop, hleft⟩ := h
  -- The line that now comes last has lost the line feed behind its carriage return.
  obtain hnil | ⟨kept, final, hleave⟩ := List.eq_nil_or_concat (p.leave (before ++ [last]))
  · rw [leave_append_of_drop hdrop] at hnil
    exact absurd hnil (collapseTail_ne_nil hleft)
  · rw [List.concat_eq_append] at hleave
    have hplain := plain_leave (p := p) fun _ => Source.plain_of_mem_ofChars hreturn
    have hproper := proper_leave (p := p) fun _ => Source.proper_of_mem_ofChars (s := content)
    rw [hlines, hleave] at hplain hproper
    have hfinal := hplain final (by simp)
    simp only [strip, Source.ofChars_crlf hreturn hlines, hlines]
    rw [leave_map_withReturn_of_drop hdrop, hleave, List.map_append, List.map_singleton,
      Source.chars_append_withReturn hfinal, Source.chars_map_withReturn hplain hproper]

theorem content_strip_crlf_of_not_dropsEnd (hreturn : '\r' ∉ content) (h : ¬p.DropsEnd content) :
    (p.strip (Text.crlf content)).content = Text.crlf (p.strip content).content := by
  obtain ⟨before, last, hlines⟩ := Source.exists_lines_eq_concat content
  simp only [strip, Source.ofChars_crlf hreturn hlines, hlines]
  cases happly : (p.judge (p.after .initial before) last.text).apply last with
  | none =>
    have hdrop : p.judge (p.after .initial before) last.text = .drop := apply_eq_none_iff.1 happly
    have hnil : p.leave (before ++ [last]) = [] := by
      rw [dropsEnd_iff hlines, not_and, not_not] at h
      rw [leave_append_of_drop hdrop, h hdrop]
      rfl
    rw [leave_map_withReturn_of_drop hdrop, hnil]
    cases (Source.ofChars content).mark <;> rfl
  | some left =>
    obtain ⟨kept, hleave, hreturned⟩ := exists_leave_of_apply happly
    have hplain := plain_leave (p := p) fun _ => Source.plain_of_mem_ofChars hreturn
    have hproper := proper_leave (p := p) fun _ => Source.proper_of_mem_ofChars (s := content)
    rw [hlines, hleave] at hplain hproper
    rw [hreturned, hleave, Source.chars_map_withReturn hplain hproper]

theorem removedComments_strip_crlf (hreturn : '\r' ∉ content) :
    (p.strip (Text.crlf content)).removedComments = (p.strip content).removedComments := by
  obtain ⟨before, last, hlines⟩ := Source.exists_lines_eq_concat content
  have hverdicts :
      (p.judgeLines .initial (before.map Line.withReturn ++ [last])).map Prod.snd =
        (p.judgeLines .initial (before ++ [last])).map Prod.snd :=
    verdicts_congr (by simp)
  simp only [strip, Source.ofChars_crlf hreturn hlines, hlines]
  simpa only [List.countP_map, Function.comp_def] using
    congrArg (List.countP Verdict.removes) hverdicts

theorem removedLines_strip_crlf (hreturn : '\r' ∉ content) :
    (p.strip (Text.crlf content)).removedLines = (p.strip content).removedLines := by
  obtain ⟨before, last, hlines⟩ := Source.exists_lines_eq_concat content
  simp only [strip, Source.ofChars_crlf hreturn hlines, hlines, length_leave_map_withReturn]
  simp

theorem return_not_mem_content_strip (hreturn : '\r' ∉ content) :
    '\r' ∉ (p.strip content).content :=
  Source.return_not_mem_chars (plain_leave fun _ => Source.plain_of_mem_ofChars hreturn)

/-- A text and the same text with carriage returns lose the same comments and lines. What is left of
the one is what is left of the other with carriage returns, and no carriage return stands alone,
unless the last line is dropped: then the carriage return of the line in front of it stays. -/
theorem strip_crlf (p : Policy) (content : List Char) (hreturn : '\r' ∉ content) :
    (p.strip (Text.crlf content)).removedComments = (p.strip content).removedComments ∧
      (p.strip (Text.crlf content)).removedLines = (p.strip content).removedLines ∧
      (p.strip (Text.crlf content)).changed = (p.strip content).changed ∧
      ((p.strip (Text.crlf content)).content = Text.crlf (p.strip content).content ↔
        ¬p.DropsEnd content) ∧
      (Text.LoneReturn (p.strip (Text.crlf content)).content ↔ p.DropsEnd content) ∧
      (p.DropsEnd content →
        (p.strip (Text.crlf content)).content = Text.crlf (p.strip content).content ++ ['\r']) := by
  have hcomments := removedComments_strip_crlf (p := p) hreturn
  have hchanged : (p.strip (Text.crlf content)).changed = (p.strip content).changed := by
    rw [Stripped.changed, hcomments, Stripped.changed]
  have hlone := Text.not_loneReturn_crlf (return_not_mem_content_strip (p := p) hreturn)
  refine ⟨hcomments, removedLines_strip_crlf hreturn, hchanged, ?_, ?_,
    content_strip_crlf_of_dropsEnd hreturn⟩
  · refine ⟨fun hsame hdrops => ?_, content_strip_crlf_of_not_dropsEnd hreturn⟩
    rw [content_strip_crlf_of_dropsEnd hreturn hdrops] at hsame
    simp at hsame
  · constructor
    · intro h
      by_contra hdrops
      rw [content_strip_crlf_of_not_dropsEnd hreturn hdrops] at h
      exact hlone h
    · intro hdrops
      rw [content_strip_crlf_of_dropsEnd hreturn hdrops]
      exact Text.loneReturn_append_return _

theorem strip_crlf_dropped_end :
    '\r' ∉ "a\n// get".toList ∧ DropsEnd {} "a\n// get".toList ∧
      Text.LoneReturn (Policy.strip {} (Text.crlf "a\n// get".toList)).content :=
  have hreturn : '\r' ∉ "a\n// get".toList := by decide
  have hdrops : DropsEnd {} "a\n// get".toList :=
    ⟨[⟨"a".toList, false⟩], ⟨"// get".toList, false⟩, rfl, rfl, by decide⟩
  ⟨hreturn, hdrops, (strip_crlf {} _ hreturn).2.2.2.2.1.2 hdrops⟩

/-- A comment on the last line, behind a line that ends in a carriage return and a line feed. -/
theorem strip_crlf_lone_return :
    Text.crlf "a\n// get".toList = "a\r\n// get".toList ∧
      (Policy.strip {} "a\n// get".toList).content = "a".toList ∧
      (Policy.strip {} "a\r\n// get".toList).content = "a\r".toList ∧
      (Policy.strip {} (Text.crlf "a\n// get".toList)).content ≠
        Text.crlf (Policy.strip {} "a\n// get".toList).content := by
  exact ⟨rfl, rfl, rfl, by decide⟩

end Policy

end LineComment
