import LineComment.Proofs.Outline

namespace LineComment

open Lexer

def codes (pieces : List Piece) : List (List Char) :=
  (pieces.map fun piece => Text.trim piece.front).filter fun code => !code.isEmpty

def skeleton (text : List Char) : List (List Char) :=
  codes (lex .code text)

theorem codes_eq (pieces : List Piece) :
    codes pieces =
      ((pieces.map Piece.outline).map Outline.code).filter fun code => !code.isEmpty := by
  rw [codes, List.map_map]
  rfl

theorem skeleton_chars {source : Source} (h : ∀ line ∈ source.lines, line.Proper) :
    skeleton source.chars = codes (readLines false (source.lines.map Line.text)) := by
  rw [skeleton, codes_eq, codes_eq, ← outlines, ← outlineLines]
  obtain ⟨mark, lines⟩ := source
  cases lines with
  | nil =>
    rw [outlines_chars_nil]
    rfl
  | cons line lines => rw [outlines_chars (List.cons_ne_nil line lines) h]

theorem codes_readLines_survivors (p : Policy) (ctx : Context) (lines : List Line) :
    codes (readLines ctx.inBlock ((p.survivors ctx lines).map Line.text)) =
      codes (readLines ctx.inBlock (lines.map Line.text)) := by
  rw [codes_eq, codes_eq]
  exact (pared_survivors p ctx lines).codes_eq

theorem codes_readLines_collapseTail (inBlock : Bool) (lines : List Line) :
    codes (readLines inBlock ((collapseTail lines).map Line.text)) =
      codes (readLines inBlock (lines.map Line.text)) := by
  rw [codes_eq, codes_eq]
  exact (pared_collapseTail inBlock lines).codes_eq

/-- The code of a text is the code of what a pass leaves of it. -/
theorem skeleton_strip (p : Policy) (content : List Char) :
    skeleton (p.strip content).content = skeleton content := by
  have hproper : ∀ line ∈ (Source.ofChars content).lines, line.Proper :=
    fun _ => Source.proper_of_mem_ofChars
  calc
    skeleton (p.strip content).content =
        codes (readLines false ((p.leave (Source.ofChars content).lines).map Line.text)) :=
      skeleton_chars (Policy.proper_leave hproper)
    _ = codes (readLines false
          ((p.survivors .initial (Source.ofChars content).lines).map Line.text)) :=
      codes_readLines_collapseTail _ _
    _ = codes (readLines false ((Source.ofChars content).lines.map Line.text)) :=
      codes_readLines_survivors p .initial _
    _ = skeleton (Source.ofChars content).chars := (skeleton_chars hproper).symm
    _ = skeleton content := by rw [Source.chars_ofChars]

end LineComment
