import LineComment.Proofs.Outline
import LineComment.Proofs.Sparing
import Mathlib.Algebra.GroupWithZero.Nat

namespace LineComment

open Lexer

def commentCount (text : List Char) : Nat :=
  (lex .code text).countP fun piece => piece.body?.isSome

theorem commentCount_eq (text : List Char) :
    commentCount text = (outlines text).countP Outline.commented := by
  rw [outlines, List.countP_map]
  rfl

theorem commentCount_chars {source : Source} (h : ∀ line ∈ source.lines, line.Proper) :
    commentCount source.chars = (outlineLines false source.lines).countP Outline.commented := by
  rw [commentCount_eq]
  obtain ⟨mark, lines⟩ := source
  cases lines with
  | nil =>
    rw [outlines_chars_nil]
    rfl
  | cons line lines => rw [outlines_chars (List.cons_ne_nil line lines) h]

namespace Text

variable {s t : List Char} {parts : List (List Char)}

theorem width_le_of_sublist (h : s.Sublist t) : width s ≤ width t := by
  induction h with
  | slnil => rfl
  | cons c _ ih =>
    rw [width_cons]
    exact Nat.le_add_left_of_le ih
  | cons_cons c _ ih =>
    rw [width_cons, width_cons]
    exact Nat.add_le_add_left ih _

theorem additive_intercalate {f : List Char → Nat} (hnil : f [] = 0)
    (happend : ∀ s t, f (s ++ t) = f s + f t) (separator : List Char) (parts : List (List Char)) :
    f (separator.intercalate parts) = (parts.map f).sum + (parts.length - 1) * f separator := by
  induction parts with
  | nil => simpa using hnil
  | cons part parts ih =>
    cases parts with
    | nil => simp
    | cons next parts =>
      rw [List.intercalate_cons_cons, happend, happend, ih]
      simp only [List.map_cons, List.sum_cons, List.length_cons, Nat.add_sub_cancel, Nat.succ_mul]
      omega

theorem width_intercalate (parts : List (List Char)) :
    width (['\n'].intercalate parts) = (parts.map width).sum + (parts.length - 1) := by
  have hfeed : width ['\n'] = 1 := rfl
  rw [additive_intercalate width_nil width_append, hfeed, Nat.mul_one]

theorem count_intercalate (h : ∀ part ∈ parts, '\n' ∉ part) :
    (['\n'].intercalate parts).count '\n' = parts.length - 1 := by
  have hpart (part : List Char) (hmem : part ∈ parts) : part.count '\n' = 0 :=
    List.count_eq_zero.2 (h part hmem)
  have hsum : (parts.map (List.count '\n')).sum = 0 := by
    rw [List.map_congr_left hpart]
    simp
  rw [additive_intercalate (f := List.count '\n') rfl fun _ _ => List.count_append, hsum,
    List.count_singleton_self, Nat.zero_add, Nat.mul_one]

def lineCount (s : List Char) : Nat :=
  (s.splitOn '\n').length

theorem lineCount_eq (s : List Char) : lineCount s = s.count '\n' + 1 := by
  rw [lineCount]
  induction s with
  | nil => rfl
  | cons c s ih =>
    rw [List.splitOn_cons_eq_if_modifyHead, List.count_cons]
    split <;> simp [ih]

end Text

def Line.width (line : Line) : Nat :=
  Text.width line.chars

theorem Source.width_chars (mark : Bool) (lines : List Line) :
    Text.width (chars ⟨mark, lines⟩) =
      (if mark then 1 else 0) + ((lines.map Line.width).sum + (lines.length - 1)) := by
  have hmark : Text.width (if mark then ['\uFEFF'] else []) = if mark then 1 else 0 := by
    cases mark <;> rfl
  rw [chars, Text.width_append, hmark, Text.width_intercalate, List.map_map, List.length_map]
  rfl

theorem Source.count_chars {source : Source} (h : ∀ line ∈ source.lines, line.Proper) :
    source.chars.count '\n' = source.lines.length - 1 := by
  have hmark : (if source.mark then ['\uFEFF'] else []).count '\n' = 0 := by
    cases source.mark <;> rfl
  have hfeed : ∀ part ∈ source.lines.map Line.chars, '\n' ∉ part := by
    intro part hpart
    obtain ⟨line, hline, rfl⟩ := List.mem_map.1 hpart
    exact (h line hline).feed_not_mem_chars
  rw [chars, List.count_append, hmark, Text.count_intercalate hfeed, List.length_map, Nat.zero_add]

namespace Policy

variable {p : Policy} {ctx : Context} {lines : List Line}

theorem Unprotected.width_add_two_le {line : Line} {front body left : List Char}
    (h : p.Unprotected ctx line.text front body) (hleft : left <+: front) :
    Line.width { line with text := left } + 2 ≤ line.width := by
  obtain ⟨text, carriageReturn⟩ := line
  obtain rfl : text = front ++ '/' :: '/' :: body := eq_append_of_read h.reading
  have hle := Text.width_le_of_sublist hleft.sublist
  have hslash (s : List Char) : Text.width ('/' :: s) = 1 + Text.width s := Text.width_cons '/' s
  cases carriageReturn <;>
  · simp only [Line.width, Line.chars, Text.width_append, hslash, Bool.false_eq_true, if_true,
      if_false]
    omega

theorem width_survivors (p : Policy) (ctx : Context) (lines : List Line) :
    ((p.survivors ctx lines).map Line.width).sum + 2 * p.removals ctx lines ≤
      (lines.map Line.width).sum := by
  induction lines generalizing ctx with
  | nil => exact Nat.le_refl 0
  | cons line lines ih =>
    have hrest := ih (ctx.next p.headerLines line.text)
    have hjudged := p.judged ctx line.text
    rw [survivors_cons, removals_cons]
    generalize p.judge ctx line.text = verdict at hjudged ⊢
    cases hjudged with
    | keep =>
      simp only [Verdict.apply, Verdict.removes, Option.toList_some, List.singleton_append,
        List.map_cons, List.sum_cons, Bool.false_eq_true, if_false]
      omega
    | @cut front body unprotected =>
      have hline := unprotected.width_add_two_le (Text.trimEnd_prefix front)
      simp only [Verdict.apply, Verdict.removes, Option.toList_some, List.singleton_append,
        List.map_cons, List.sum_cons, if_true]
      omega
    | @drop front body unprotected =>
      have hline := unprotected.width_add_two_le (List.nil_prefix (l := front))
      simp only [Verdict.apply, Verdict.removes, Option.toList_none, List.nil_append,
        List.map_cons, List.sum_cons, if_true]
      omega

theorem length_survivors_le (p : Policy) (ctx : Context) (lines : List Line) :
    (p.survivors ctx lines).length ≤ lines.length := by
  calc
    (p.survivors ctx lines).length ≤ (p.judgeLines ctx lines).length := List.length_filterMap_le _ _
    _ = lines.length := p.length_judgeLines ctx lines

theorem thinned_survivors (p : Policy) (ctx : Context) (lines : List Line) :
    Thinned (p.survivors ctx lines) lines := by
  induction lines generalizing ctx with
  | nil => exact .nil
  | cons line lines ih =>
    rw [survivors_cons]
    exact (p.thinned_apply ctx line).append (ih _)

theorem sublist_content_strip (p : Policy) (content : List Char) :
    (p.strip content).content.Sublist content := by
  have hcollapse := collapseTail_sublist (p.survivors .initial (Source.ofChars content).lines)
  have hwithin : List.SublistForall₂ Line.Within (p.leave (Source.ofChars content).lines)
      (Source.ofChars content).lines :=
    IsTrans.trans _ _ _ hcollapse.sublistForall₂ (p.thinned_survivors .initial _).within
  calc
    (p.strip content).content.Sublist (Source.ofChars content).chars :=
      Source.sublist_chars hwithin
    _ = content := Source.chars_ofChars content

theorem commentCount_strip (p : Policy) (content : List Char) :
    (p.strip content).removedComments + commentCount (p.strip content).content =
      commentCount content := by
  have hproper : ∀ line ∈ (Source.ofChars content).lines, line.Proper :=
    fun _ => Source.proper_of_mem_ofChars
  have hsurvivors := (pared_survivors p .initial (Source.ofChars content).lines).countP_commented
  have hcollapse := (pared_collapseTail false
    (p.survivors .initial (Source.ofChars content).lines)).countP_commented
  calc
    (p.strip content).removedComments + commentCount (p.strip content).content =
        (p.strip content).removedComments +
          (outlineLines false (p.leave (Source.ofChars content).lines)).countP
            Outline.commented :=
      congrArg _ (commentCount_chars (proper_leave hproper))
    _ = (p.strip content).removedComments +
          (outlineLines false (p.survivors .initial (Source.ofChars content).lines)).countP
            Outline.commented := by
      rw [leave_eq, ← hcollapse, Nat.zero_add]
    _ = (outlineLines false (Source.ofChars content).lines).countP Outline.commented := hsurvivors
    _ = commentCount (Source.ofChars content).chars := (commentCount_chars hproper).symm
    _ = commentCount content := by rw [Source.chars_ofChars]

theorem width_content_strip (p : Policy) (content : List Char) :
    Text.width (p.strip content).content + 2 * (p.strip content).removedComments ≤
      Text.width content := by
  have hsum := p.width_survivors .initial (Source.ofChars content).lines
  have hlength := p.length_survivors_le .initial (Source.ofChars content).lines
  have hleave : Text.width (p.strip content).content ≤ Text.width
      (Source.chars ⟨(Source.ofChars content).mark,
        p.survivors .initial (Source.ofChars content).lines⟩) :=
    Text.width_le_of_sublist (Source.sublist_chars (collapseTail_sublist _).sublistForall₂)
  have hcontent : Text.width content = Text.width (Source.ofChars content).chars := by
    rw [Source.chars_ofChars]
  rw [Source.width_chars] at hleave
  rw [hcontent, Source.width_chars, removedComments_strip]
  omega

/-- The comments that a pass removes are those of the text that are not in what is left. What is
left is part of the text, character by character, and each comment takes two units with it at least,
so a changed text is a shorter one. -/
theorem strip_account (p : Policy) (content : List Char) :
    (p.strip content).removedComments + commentCount (p.strip content).content =
        commentCount content ∧
      (p.strip content).content.Sublist content ∧
      Text.width (p.strip content).content + 2 * (p.strip content).removedComments ≤
        Text.width content ∧
      ((p.strip content).changed = true →
        (p.strip content).content ≠ content ∧
          Text.width (p.strip content).content < Text.width content) := by
  have hwidth := p.width_content_strip content
  refine ⟨p.commentCount_strip content, p.sublist_content_strip content, hwidth, fun hchanged => ?_⟩
  have hpos : 0 < (p.strip content).removedComments := of_decide_eq_true hchanged
  have hlt : Text.width (p.strip content).content < Text.width content := by omega
  exact ⟨fun hsame => Nat.lt_irrefl _ (hsame ▸ hlt), hlt⟩

theorem strip_account_three :
    (Policy.strip {} "a // b\n/* // */ c\n// get".toList).changed = true ∧
      (Policy.strip {} "a // b\n/* // */ c\n// get".toList).content = "a\n/* // */ c".toList ∧
      Text.width "a\n/* // */ c".toList < Text.width "a // b\n/* // */ c\n// get".toList := by
  have hchanged : (Policy.strip {} "a // b\n/* // */ c\n// get".toList).changed = true := rfl
  exact ⟨hchanged, rfl, ((strip_account {} _).2.2.2 hchanged).2⟩

def DropsAll (p : Policy) (content : List Char) : Prop :=
  ∀ judged ∈ p.judgeLines .initial (Source.ofChars content).lines, judged.2 = .drop

instance (p : Policy) (content : List Char) : Decidable (p.DropsAll content) :=
  inferInstanceAs (Decidable (∀ judged ∈ p.judgeLines .initial (Source.ofChars content).lines,
    judged.2 = .drop))

theorem leave_eq_nil_iff : p.leave lines = [] ↔
    ∀ judged ∈ p.judgeLines .initial lines, judged.2 = .drop := by
  have hcollapse : p.leave lines = [] ↔ p.survivors .initial lines = [] := by
    refine ⟨fun h => ?_, fun h => ?_⟩
    · by_contra hne
      exact collapseTail_ne_nil hne h
    · rw [leave_eq, h]
      rfl
  rw [hcollapse, survivors, List.filterMap_eq_nil_iff]
  simp only [apply_eq_none_iff]

/-- The lines that a pass counts as removed are the line feeds that are gone, and one more if it
drops all lines: what is left is then a text of one empty line, which the count takes for no
line. -/
theorem removedLines_strip (p : Policy) (content : List Char) :
    Text.lineCount (p.strip content).content ≤ Text.lineCount content ∧
      (p.strip content).removedLines =
        Text.lineCount content - Text.lineCount (p.strip content).content +
          (if p.DropsAll content then 1 else 0) ∧
      (p.strip content).removedLines =
        content.count '\n' - (p.strip content).content.count '\n' +
          (if p.DropsAll content then 1 else 0) := by
  have hproper : ∀ line ∈ (Source.ofChars content).lines, line.Proper :=
    fun _ => Source.proper_of_mem_ofChars
  have hwhole : content.count '\n' = (Source.ofChars content).lines.length - 1 := by
    rw [← Source.count_chars hproper, Source.chars_ofChars]
  have hleft : (p.strip content).content.count '\n' =
      (p.leave (Source.ofChars content).lines).length - 1 :=
    Source.count_chars (proper_leave hproper)
  have hremoved : (p.strip content).removedLines =
      (Source.ofChars content).lines.length - (p.leave (Source.ofChars content).lines).length := rfl
  have hle := p.length_leave_le (Source.ofChars content).lines
  have hpos := List.length_pos_iff.2 (Source.proper_ofChars content).nonempty
  have hall : p.DropsAll content ↔ p.leave (Source.ofChars content).lines = [] :=
    leave_eq_nil_iff.symm
  rw [← List.length_eq_zero_iff] at hall
  rw [Text.lineCount_eq, Text.lineCount_eq, hwhole, hleft, hremoved]
  split
  next hdrops =>
    have hnone := hall.1 hdrops
    omega
  next hdrops =>
    have hsome := mt hall.2 hdrops
    omega

/-- A text of one line that is dropped: one line is counted as removed, but no line feed is gone,
and what is left is read as one line again. -/
theorem removedLines_strip_only_line :
    (Policy.strip {} "// get".toList).content = [] ∧
      (Policy.strip {} "// get".toList).removedLines = 1 ∧
      Text.lineCount "// get".toList -
        Text.lineCount (Policy.strip {} "// get".toList).content = 0 ∧
      "// get".toList.count '\n' - (Policy.strip {} "// get".toList).content.count '\n' = 0 ∧
      (Source.ofChars (Policy.strip {} "// get".toList).content).lines.length = 1 := by
  decide

end Policy

end LineComment
