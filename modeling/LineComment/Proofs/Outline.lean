import LineComment.Proofs.Lexer
import LineComment.Proofs.Survivors

namespace LineComment

open Lexer

structure Outline where
  code : List Char
  commented : Bool
  deriving DecidableEq

def Lexer.Piece.outline (piece : Piece) : Outline where
  code := Text.trim piece.front
  commented := piece.body?.isSome

def outlines (text : List Char) : List Outline :=
  (lex .code text).map Piece.outline

def outlineLines (inBlock : Bool) (lines : List Line) : List Outline :=
  (readLines inBlock (lines.map Line.text)).map Piece.outline

variable {p : Policy} {ctx : Context} {line : Line} {lines : List Line} {code body : List Char}

theorem outlines_cons_blank {b : Char} (hb : Text.isBlank b = true) (hfeed : b ≠ '\n')
    (text : List Char) : outlines (b :: text) = outlines text := by
  obtain ⟨slash, -, -, -, -⟩ := ne_of_isBlank hb
  have hlex : lex .code (b :: text) = consume .code b (lex .code text) := by
    simp [lex, slash, Quote.ofChar?_of_isBlank hb]
  rw [outlines, hlex, outlines]
  cases lex .code text with
  | nil => rfl
  | cons piece pieces => simp [consume, Piece.outline, Text.trim_cons_blank hb]

theorem outline_readLines_chars (inBlock : Bool) (lines : List Line) :
    (readLines inBlock (lines.map Line.chars)).map Piece.outline = outlineLines inBlock lines := by
  induction lines generalizing inBlock with
  | nil => rfl
  | cons line lines ih =>
    obtain ⟨text, carriageReturn⟩ := line
    cases carriageReturn with
    | false => exact congrArg (_ :: ·) (ih _)
    | true =>
      have hreturn : Text.Blank ['\r'] := by decide
      have hread := read_append_blank hreturn (startMode inBlock) text
      have hchars : Line.chars ⟨text, true⟩ = text ++ ['\r'] := rfl
      simp only [outlineLines, List.map_cons, hchars, readLines, hread, Reading.mode_extend]
      refine congr (congrArg List.cons ?_) (ih _)
      cases read (startMode inBlock) text with
      | comment code body => rfl
      | bare =>
        simp [Reading.extend, Piece.ofReading, Piece.outline, Text.trim_append_blank hreturn]

theorem outlines_intercalate (hne : lines ≠ []) (h : ∀ line ∈ lines, line.Proper) :
    outlines (['\n'].intercalate (lines.map Line.chars)) = outlineLines false lines := by
  rw [← outline_readLines_chars]
  obtain ⟨line, lines, rfl⟩ := List.exists_cons_of_ne_nil hne
  have hfeed : ∀ l ∈ line.chars :: lines.map Line.chars, '\n' ∉ l := by
    intro l hl
    obtain ⟨line', hline', rfl⟩ := List.mem_map.1 (List.map_cons ▸ hl)
    exact (h line' hline').feed_not_mem_chars
  exact congrArg (List.map Piece.outline) (lex_intercalate false hfeed)

theorem outlines_chars {source : Source} (hne : source.lines ≠ [])
    (h : ∀ line ∈ source.lines, line.Proper) :
    outlines source.chars = outlineLines false source.lines := by
  rw [← outlines_intercalate hne h, Source.chars]
  cases source.mark with
  | false => rfl
  | true => exact outlines_cons_blank (by decide) (by decide) _

theorem outlines_chars_nil (mark : Bool) : outlines (Source.chars ⟨mark, []⟩) = [⟨[], false⟩] := by
  cases mark <;> decide

theorem outlineLines_cons (ctx : Context) (headerLines : Int) (line : Line) (lines : List Line) :
    outlineLines ctx.inBlock (line :: lines) =
      (Piece.ofReading ctx.inBlock line.text (read ctx.mode line.text)).outline ::
        outlineLines (ctx.next headerLines line.text).inBlock lines := rfl

theorem outlineLines_comment (h : read .code line.text = .comment code body) (lines : List Line) :
    outlineLines false (line :: lines) = ⟨Text.trim code, true⟩ :: outlineLines false lines := by
  have hcons := outlineLines_cons {} 0 line lines
  rw [Context.next, Context.mode_of_not_inBlock rfl, h] at hcons
  exact hcons

theorem outlineLines_bare (h : read .code line.text = .bare .code) (lines : List Line) :
    outlineLines false (line :: lines) =
      ⟨Text.trim line.text, false⟩ :: outlineLines false lines := by
  have hcons := outlineLines_cons {} 0 line lines
  rw [Context.next, Context.mode_of_not_inBlock rfl, h] at hcons
  exact hcons

theorem outlineLines_empty (inBlock : Bool) (h : line.text = []) (lines : List Line) :
    outlineLines inBlock (line :: lines) = ⟨[], false⟩ :: outlineLines inBlock lines := by
  cases inBlock <;> simp [outlineLines, readLines, h, startMode, Piece.ofReading, Piece.outline,
    Reading.mode, Text.trim]

/-- The outlines of lines, and those of what is left once some comments are taken away, as many as
the number says. A line without code may go altogether. -/
inductive Pared : List Outline → List Outline → Nat → Prop
  | nil : Pared [] [] 0
  | kept {outline : Outline} {whole left : List Outline} {n : Nat} :
      Pared whole left n → Pared (outline :: whole) (outline :: left) n
  | cut {code : List Char} {whole left : List Outline} {n : Nat} :
      Pared whole left n → Pared (⟨code, true⟩ :: whole) (⟨code, false⟩ :: left) (n + 1)
  | dropped {whole left : List Outline} {n : Nat} :
      Pared whole left n → Pared (⟨[], true⟩ :: whole) left (n + 1)
  | collapsed {whole left : List Outline} {n : Nat} :
      Pared whole left n → Pared (⟨[], false⟩ :: whole) left n

namespace Pared

variable {whole left : List Outline} {n : Nat}

theorem refl (whole : List Outline) : Pared whole whole 0 := by
  induction whole with
  | nil => exact .nil
  | cons outline whole ih => exact .kept ih

theorem codes_eq (h : Pared whole left n) :
    (left.map Outline.code).filter (fun code => !code.isEmpty) =
      (whole.map Outline.code).filter fun code => !code.isEmpty := by
  induction h with
  | nil => rfl
  | kept _ ih | cut _ ih => simp only [List.map_cons, List.filter_cons, ih]
  | dropped _ ih | collapsed _ ih => exact ih

theorem countP_commented (h : Pared whole left n) :
    n + left.countP Outline.commented = whole.countP Outline.commented := by
  induction h with
  | nil => rfl
  | kept _ ih => simp only [List.countP_cons, ← ih, Nat.add_assoc]
  | cut _ ih | dropped _ ih => simp [← ih, Nat.add_right_comm]
  | collapsed _ ih => simpa using ih

end Pared

namespace Policy

def removals (p : Policy) (ctx : Context) (lines : List Line) : Nat :=
  (p.judgeLines ctx lines).countP fun (_, verdict) => verdict.removes

theorem removedComments_strip (p : Policy) (content : List Char) :
    (p.strip content).removedComments = p.removals .initial (Source.ofChars content).lines := rfl

theorem removals_cons (p : Policy) (ctx : Context) (line : Line) (lines : List Line) :
    p.removals ctx (line :: lines) =
      p.removals (ctx.next p.headerLines line.text) lines +
        if (p.judge ctx line.text).removes then 1 else 0 :=
  List.countP_cons

end Policy

theorem pared_survivors (p : Policy) (ctx : Context) (lines : List Line) :
    Pared (outlineLines ctx.inBlock lines) (outlineLines ctx.inBlock (p.survivors ctx lines))
      (p.removals ctx lines) := by
  induction lines generalizing ctx with
  | nil => exact .nil
  | cons line lines ih =>
    have hnext := ih (ctx.next p.headerLines line.text)
    have hjudged := p.judged ctx line.text
    rw [Policy.survivors_cons, Policy.removals_cons]
    generalize p.judge ctx line.text = verdict at hjudged ⊢
    cases hjudged with
    | keep => exact .kept hnext
    | @cut code body unprotected =>
      have hleft (rest : List Line) :
          outlineLines false ({ line with text := Text.trimEnd code } :: rest) =
            ⟨Text.trim code, false⟩ :: outlineLines false rest := by
        rw [outlineLines_bare (read_trimEnd_front unprotected.reading), Text.trim_trimEnd]
      rw [unprotected.next_inBlock] at hnext
      rw [unprotected.outside, outlineLines_comment unprotected.reading, Verdict.apply,
        Option.toList_some, List.singleton_append, hleft]
      exact .cut hnext
    | drop unprotected blank =>
      rw [unprotected.next_inBlock] at hnext
      rw [unprotected.outside, outlineLines_comment unprotected.reading,
        Text.trim_eq_nil_iff.2 blank]
      exact .dropped hnext

theorem pared_append_empty (inBlock : Bool) (before : List Line) {gone : List Line}
    (h : ∀ line ∈ gone, line.text = []) (rest : List Line) :
    Pared (outlineLines inBlock (before ++ gone ++ rest)) (outlineLines inBlock (before ++ rest))
      0 := by
  induction before generalizing inBlock with
  | nil =>
    induction gone with
    | nil => exact .refl _
    | cons line gone ih =>
      obtain ⟨hline, hgone⟩ := List.forall_mem_cons.1 h
      have hempty := outlineLines_empty inBlock hline (gone ++ rest)
      exact hempty ▸ .collapsed (ih hgone)
  | cons line before ih => exact .kept (ih _)

theorem pared_collapseTail (inBlock : Bool) (lines : List Line) :
    Pared (outlineLines inBlock lines) (outlineLines inBlock (collapseTail lines)) 0 := by
  obtain same | ⟨before, gone, last, rfl, collapsed, -, hgone⟩ := collapseTail_cases lines
  · rw [same]
    exact .refl _
  · rw [collapsed]
    exact pared_append_empty inBlock before hgone [last]

end LineComment
