import LineComment.Proofs.Lexer
import LineComment.Proofs.Survivors
import LineComment.Proofs.Wording

namespace LineComment

open Lexer

namespace Source

variable {source : Source} {i : Nat}

def pieces (source : Source) : List Piece :=
  lex .code (['\n'].intercalate (source.lines.map Line.text))

def Outside (source : Source) (i : Nat) : Prop :=
  ∃ piece, source.pieces[i]? = some piece ∧ piece.inBlock = false

def Comments (source : Source) (i : Nat) (front body : List Char) : Prop :=
  ∃ piece, source.pieces[i]? = some piece ∧ piece.front = front ∧ piece.body? = some body

end Source

theorem Context.pastHeader_next_eq_false_iff {ctx : Context} {headerLines : Int}
    {line : List Char} :
    (ctx.next headerLines line).pastHeader = false ↔
      ctx.pastHeader = false ∧ (ctx.inBlock = true ∨ ctx.looksHeader headerLines line = true) := by
  simp only [next, Bool.or_eq_false_iff]
  cases ctx.inBlock <;> simp

namespace Policy

variable {p : Policy} {source : Source} {ctx : Context} {lines : List Line} {line : Line} {i : Nat}
  {front body : List Char}

/-- A line looks like the edge or the body of a block comment, or like a blank line among the first
ones. Lines are counted in double precision, where the count stops at `2 ^ 53`. -/
def LooksHeader (p : Policy) (i : Nat) (line : List Char) : Prop :=
  ['/', '*'] <+: Text.trim line ∨ ['*'] <+: Text.trim line ∨
    Text.trim line = [] ∧ (min i (Nat.pow 2 53) : Nat) < p.headerLines

/-- The lines of the file header: from the start of the text on, all that start outside block
comments look like one. -/
inductive HeaderLine (p : Policy) (source : Source) : Nat → Prop
  | intro {i : Nat} {line : Line} :
      source.lines[i]? = some line → source.Outside i →
      (∀ j < i, source.Outside j → HeaderLine p source j) → p.LooksHeader i line.text →
      HeaderLine p source i

structure Removable (p : Policy) (source : Source) (i : Nat) (front body : List Char) : Prop where
  outside : source.Outside i
  noHeader : ¬p.HeaderLine source i
  comments : source.Comments i front body
  noDoc : ∀ c ∈ body.head?, c ≠ '/' ∧ c ≠ '!'
  unmarked : ¬p.Marked body
  trailingOrTrivial : ¬Text.Blank front ∨ p.Trivial body

def fates (p : Policy) (source : Source) : List (Option Line) :=
  (p.judgeLines .initial source.lines).map fun (line, verdict) => verdict.apply line

theorem survivors_eq_fates (p : Policy) (source : Source) :
    p.survivors .initial source.lines = (p.fates source).filterMap id := by
  rw [survivors, fates, List.filterMap_map]
  rfl

theorem after_take_succ (ctx : Context) (h : lines[i]? = some line) :
    p.after ctx (lines.take (i + 1)) =
      (p.after ctx (lines.take i)).next p.headerLines line.text := by
  rw [List.take_add_one, h, after, List.foldl_append]
  rfl

theorem getElem?_judgeLines (p : Policy) (ctx : Context) (lines : List Line) (i : Nat) :
    (p.judgeLines ctx lines)[i]? =
      lines[i]?.map fun line => (line, p.judge (p.after ctx (lines.take i)) line.text) := by
  induction lines generalizing ctx i with
  | nil => rfl
  | cons line lines ih =>
    cases i with
    | zero => rfl
    | succ i => simp [judgeLines, ih]

theorem getElem?_readLines (p : Policy) (ctx : Context) (lines : List Line) (i : Nat) :
    (readLines ctx.inBlock (lines.map Line.text))[i]? =
      lines[i]?.map fun line =>
        .ofReading (p.after ctx (lines.take i)).inBlock line.text
          (read (p.after ctx (lines.take i)).mode line.text) := by
  induction lines generalizing ctx i with
  | nil => rfl
  | cons line lines ih =>
    cases i with
    | zero => rfl
    | succ i => exact ih (ctx.next p.headerLines line.text) i

def contextAt (p : Policy) (source : Source) (i : Nat) : Context :=
  p.after .initial (source.lines.take i)

theorem contextAt_succ (h : source.lines[i]? = some line) :
    p.contextAt source (i + 1) = (p.contextAt source i).next p.headerLines line.text :=
  after_take_succ .initial h

theorem getElem?_fates (h : source.lines[i]? = some line) :
    (p.fates source)[i]? = some ((p.judge (p.contextAt source i) line.text).apply line) := by
  rw [fates, List.getElem?_map, getElem?_judgeLines, h]
  rfl

theorem getElem?_pieces (p : Policy) (hsource : ∀ line ∈ source.lines, line.Proper)
    (h : source.lines[i]? = some line) :
    source.pieces[i]? = some (.ofReading (p.contextAt source i).inBlock line.text
      (read (p.contextAt source i).mode line.text)) := by
  have hfeed : ∀ l ∈ source.lines.map Line.text, '\n' ∉ l := by
    intro l hl
    obtain ⟨line, hline, rfl⟩ := List.mem_map.1 hl
    exact (hsource line hline).noFeed
  have hread := p.getElem?_readLines .initial source.lines i
  rw [h] at hread
  rw [Source.pieces]
  -- The lexer always finds a line, so the lines must be known not to be none.
  generalize hlines : source.lines.map Line.text = lines at hfeed hread
  cases lines with
  | nil => simp [List.map_eq_nil_iff.1 hlines] at h
  | cons l lines =>
    exact (congrArg (·[i]?) (lex_intercalate false hfeed)).trans hread

theorem outside_iff (p : Policy) (hsource : ∀ line ∈ source.lines, line.Proper)
    (h : source.lines[i]? = some line) :
    source.Outside i ↔ (p.contextAt source i).inBlock = false := by
  rw [Source.Outside, p.getElem?_pieces hsource h]
  cases read (p.contextAt source i).mode line.text <;> simp [Piece.ofReading]

theorem comments_iff (p : Policy) (hsource : ∀ line ∈ source.lines, line.Proper)
    (h : source.lines[i]? = some line) :
    source.Comments i front body ↔
      read (p.contextAt source i).mode line.text = .comment front body := by
  rw [Source.Comments, p.getElem?_pieces hsource h]
  cases read (p.contextAt source i).mode line.text <;> simp [Piece.ofReading]

theorem roundWhole_succ (i : Nat) :
    roundWhole ((min i (Nat.pow 2 53) : Nat) + 1) = (min (i + 1) (Nat.pow 2 53) : Nat) := by
  obtain hlt | heq | hgt := Nat.lt_trichotomy (i + 1) (Nat.pow 2 53)
  · rw [Nat.min_eq_left (Nat.le_of_succ_le hlt.le), Nat.min_eq_left hlt.le]
    exact roundWhole_of_lt hlt
  · obtain rfl : i = Nat.pow 2 53 - 1 := Nat.eq_sub_of_add_eq heq
    decide
  · rw [Nat.min_eq_right (Nat.le_of_lt_succ hgt), Nat.min_eq_right hgt.le]
    decide

theorem after_concat (p : Policy) (ctx : Context) (lines : List Line) (line : Line) :
    p.after ctx (lines ++ [line]) = (p.after ctx lines).next p.headerLines line.text :=
  List.foldl_append

theorem index_after (p : Policy) (lines : List Line) :
    (p.after .initial lines).index = (min lines.length (Nat.pow 2 53) : Nat) := by
  induction lines using List.reverseRecOn with
  | nil => rfl
  | append_singleton lines line ih =>
    rw [after_concat, Context.next_index, ih, roundWhole_succ, List.length_append,
      List.length_singleton]

theorem looksHeader_iff_of_index {text : List Char}
    (hindex : ctx.index = (min i (Nat.pow 2 53) : Nat)) :
    ctx.looksHeader p.headerLines text = true ↔ p.LooksHeader i text := by
  rw [Context.looksHeader, LooksHeader, hindex]
  split
  next htrim => simp [htrim]
  next htrim => simp [htrim]
  next htrim => simp [htrim]
  next noBlank noEdge noBody =>
    refine iff_of_false Bool.false_ne_true ?_
    rintro (⟨u, hu⟩ | ⟨u, hu⟩ | ⟨hblank, -⟩)
    · exact noEdge u hu.symm
    · exact noBody u hu.symm
    · exact noBlank hblank

theorem looksHeader_iff (h : source.lines[i]? = some line) :
    (p.contextAt source i).looksHeader p.headerLines line.text = true ↔
      p.LooksHeader i line.text := by
  have hi : i ≤ source.lines.length := (List.getElem?_eq_some_iff.1 h).1.le
  refine looksHeader_iff_of_index ?_
  rw [contextAt, index_after, List.length_take_of_le hi]

theorem pastHeader_after_eq_false_iff :
    (p.after .initial lines).pastHeader = false ↔
      ∀ i line, lines[i]? = some line →
        (p.after .initial (lines.take i)).inBlock = true ∨ p.LooksHeader i line.text := by
  induction lines using List.reverseRecOn with
  | nil => exact iff_of_true rfl (by simp)
  | append_singleton lines line ih =>
    rw [after_concat, Context.pastHeader_next_eq_false_iff, ih,
      looksHeader_iff_of_index (p.index_after lines)]
    constructor
    · rintro ⟨hlines, hline⟩ i line' hline'
      obtain hlt | hge := Nat.lt_or_ge i lines.length
      · rw [List.getElem?_append_left hlt] at hline'
        rw [List.take_append_of_le_length hlt.le]
        exact hlines i line' hline'
      · obtain ⟨rfl, rfl⟩ : i = lines.length ∧ line' = line := by
          rw [List.getElem?_append_right hge, List.getElem?_singleton] at hline'
          split at hline'
          next hlast => exact ⟨by omega, (Option.some.inj hline').symm⟩
          next => cases hline'
        simpa using hline
    · intro hall
      refine ⟨fun i line' hline' => ?_, ?_⟩
      · have hlt := (List.getElem?_eq_some_iff.1 hline').1
        have hi := hall i line' (by rw [List.getElem?_append_left hlt, hline'])
        rwa [List.take_append_of_le_length hlt.le] at hi
      · simpa using hall lines.length line (by simp)

theorem pastHeader_contextAt_eq_false_iff :
    (p.contextAt source i).pastHeader = false ↔
      ∀ j < i, ∀ line, source.lines[j]? = some line → (p.contextAt source j).inBlock = false →
        p.LooksHeader j line.text := by
  have hbefore {j : Nat} (hj : j < i) : (source.lines.take i).take j = source.lines.take j := by
    rw [List.take_take, Nat.min_eq_left hj.le]
  rw [contextAt, pastHeader_after_eq_false_iff]
  constructor
  · intro hall j hj line hline houtside
    have hlast := hall j line (by rw [List.getElem?_take_of_lt hj, hline])
    rw [hbefore hj, ← contextAt, houtside] at hlast
    exact hlast.resolve_left Bool.false_ne_true
  · intro hall j line hline
    rw [List.getElem?_take] at hline
    split at hline
    next hj =>
      rw [hbefore hj, ← contextAt, or_iff_not_imp_left, Bool.not_eq_true]
      exact hall j hj line hline
    next => cases hline

theorem headerLine_iff (hsource : ∀ line ∈ source.lines, line.Proper)
    (h : source.lines[i]? = some line) :
    p.HeaderLine source i ↔ (p.contextAt source i).isHeader p.headerLines line.text = true := by
  constructor
  · intro hheader
    -- The derivation says of each earlier line that it looks like the header, so the header lasts.
    induction hheader generalizing line with
    | @intro i line' hline' outside earlier looks ih =>
      obtain rfl : line' = line := Option.some.inj (hline'.symm.trans h)
      refine Context.isHeader_iff.2
        ⟨pastHeader_contextAt_eq_false_iff.2 ?_, (p.outside_iff hsource h).1 outside,
          (looksHeader_iff h).2 looks⟩
      intro j hj line hline hout
      have hheader := ih j hj ((p.outside_iff hsource hline).2 hout) hline
      exact (looksHeader_iff hline).1 (Context.isHeader_iff.1 hheader).2.2
  · intro hheader
    induction i using Nat.strong_induction_on generalizing line with
    | h i ih =>
      have hi : i ≤ source.lines.length := (List.getElem?_eq_some_iff.1 h).1.le
      obtain ⟨hpast, hout, hlooks⟩ := Context.isHeader_iff.1 hheader
      have hbefore := pastHeader_contextAt_eq_false_iff.1 hpast
      refine .intro h ((p.outside_iff hsource h).2 hout) ?_ ((looksHeader_iff h).1 hlooks)
      intro j hj houtside
      have hjlt : j < source.lines.length := Nat.lt_of_lt_of_le hj hi
      have hline : source.lines[j]? = some source.lines[j] := List.getElem?_eq_getElem hjlt
      have hjout := (p.outside_iff hsource hline).1 houtside
      have hjlooks := (looksHeader_iff hline).2 (hbefore j hj _ hline hjout)
      refine ih j hj hline (Context.isHeader_iff.2 ⟨?_, hjout, hjlooks⟩)
      refine pastHeader_contextAt_eq_false_iff.2 fun k hk => ?_
      exact hbefore k (Nat.lt_trans hk hj)

theorem removable_iff (hsource : ∀ line ∈ source.lines, line.Proper)
    (h : source.lines[i]? = some line) :
    p.Removable source i front body ↔
      p.Unprotected (p.contextAt source i) line.text front body ∧
        (¬Text.Blank front ∨ p.isTrivial body = true) := by
  have houtside := p.outside_iff hsource h
  have hheader := headerLine_iff (p := p) hsource h
  have hcomments : source.Comments i front body ↔ _ := p.comments_iff hsource h
  constructor
  · rintro ⟨outside, noHeader, comments, noDoc, unmarked, goes⟩
    have hout := houtside.1 outside
    rw [hcomments, Context.mode_of_not_inBlock hout] at comments
    rw [hheader, Bool.not_eq_true] at noHeader
    rw [← marks_iff, Bool.not_eq_true] at unmarked
    exact ⟨⟨hout, noHeader, comments, isDocBody_eq_false_iff.2 noDoc, unmarked⟩,
      goes.imp_right isTrivial_iff.2⟩
  · rintro ⟨⟨hout, noHeader, reading, plain, unmarked⟩, goes⟩
    refine ⟨houtside.2 hout, ?_, ?_, isDocBody_eq_false_iff.1 plain, ?_,
      goes.imp_right isTrivial_iff.1⟩
    · rw [hheader, noHeader]
      exact Bool.false_ne_true
    · rw [hcomments, Context.mode_of_not_inBlock hout]
      exact reading
    · rw [← marks_iff, unmarked]
      exact Bool.false_ne_true

theorem Unprotected.apply_judge (hline : p.Unprotected ctx line.text front body)
    (h : ¬Text.Blank front ∨ p.isTrivial body = true) :
    (p.judge ctx line.text).apply line =
      if Text.Blank front then none else some { line with text := Text.trimEnd front } := by
  split
  next blank =>
    rw [hline.judge_eq_drop blank (h.resolve_left (not_not_intro blank))]
    rfl
  next code =>
    rw [hline.judge_eq_cut code]
    rfl

theorem apply_judge_ne_iff :
    (p.judge ctx line.text).apply line ≠ some line ↔
      ∃ front body, p.Unprotected ctx line.text front body ∧
        (¬Text.Blank front ∨ p.isTrivial body = true) := by
  constructor
  · intro hne
    have hjudged := p.judged ctx line.text
    generalize p.judge ctx line.text = verdict at hjudged hne
    cases hjudged with
    | keep => exact absurd rfl hne
    | cut unprotected code => exact ⟨_, _, unprotected, .inl code⟩
    | drop unprotected _ trivial => exact ⟨_, _, unprotected, .inr trivial⟩
  · rintro ⟨front, body, unprotected, h⟩
    rw [unprotected.apply_judge h]
    split
    next => simp
    next =>
      -- The two slashes are gone.
      intro hsame
      have htext : Text.trimEnd front = line.text := congrArg Line.text (Option.some.inj hsame)
      have hle := (Text.trimEnd_prefix front).length_le
      rw [htext, eq_append_of_read unprotected.reading, List.length_append, List.length_cons] at hle
      exact absurd hle (by simp)

/-- A line of a text is altered exactly if the policy asks so, said of the whole text in front of
it. Then its code stays without the blanks at its end, or nothing at all if there is no code. What
the text is left as is what all its lines are left as, up to empty lines at the end. -/
theorem fates_spec (p : Policy) (content : List Char) :
    (p.strip content).content =
        Source.chars ⟨(Source.ofChars content).mark,
          collapseTail ((p.fates (Source.ofChars content)).filterMap id)⟩ ∧
      (p.fates (Source.ofChars content)).length = (Source.ofChars content).lines.length ∧
      ∀ i line, (Source.ofChars content).lines[i]? = some line →
        ((p.fates (Source.ofChars content))[i]? ≠ some (some line) ↔
          ∃ front body, p.Removable (Source.ofChars content) i front body) ∧
        ∀ front body, p.Removable (Source.ofChars content) i front body →
          line.text = front ++ '/' :: '/' :: body ∧
          (p.fates (Source.ofChars content))[i]? =
            some (if Text.Blank front then none
              else some { line with text := Text.trimEnd front }) := by
  refine ⟨?_, by simp [fates], fun i line h => ?_⟩
  · rw [← survivors_eq_fates]
    rfl
  · have hsource : ∀ line ∈ (Source.ofChars content).lines, line.Proper :=
      fun _ => Source.proper_of_mem_ofChars
    have hfate := p.getElem?_fates h
    have hremovable (front body : List Char) :
        p.Removable (Source.ofChars content) i front body ↔ _ := removable_iff hsource h
    simp only [hfate, hremovable, Ne, Option.some.injEq]
    refine ⟨apply_judge_ne_iff, fun front body hrem => ?_⟩
    exact ⟨eq_append_of_read hrem.1.reading, hrem.1.apply_judge hrem.2⟩

end Policy

end LineComment
