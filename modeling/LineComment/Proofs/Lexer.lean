import LineComment.Proofs.Lines
import LineComment.Proofs.Reading
import LineComment.Context

/-! A lexer that reads a whole text from one end to the other, and what it has to do with reading
the text line by line. -/

namespace LineComment.Lexer

inductive Spot
  | code
  | block
  | literal (quote : Quote)
  | lineComment
  deriving DecidableEq

def Spot.newLine : Spot → Spot
  | .block => .block
  | _ => .code

structure Piece where
  inBlock : Bool
  front : List Char
  body? : Option (List Char)
  deriving DecidableEq

def Piece.begin (spot : Spot) : Piece where
  inBlock := spot = .block
  front := []
  body? := if spot = .lineComment then some [] else none

def consume (spot : Spot) (c : Char) : List Piece → List Piece
  | [] => []
  | piece :: pieces =>
    (if spot = .lineComment then { piece with body? := piece.body?.map (c :: ·) }
      else { piece with inBlock := spot = .block, front := c :: piece.front }) :: pieces

def lex : Spot → List Char → List Piece
  | spot, [] => [.begin spot]
  | spot, '\n' :: s => .begin spot :: lex spot.newLine s
  | .lineComment, c :: s => consume .lineComment c (lex .lineComment s)
  | .block, '*' :: '/' :: s => consume .block '*' (consume .block '/' (lex .code s))
  | .block, c :: s => consume .block c (lex .block s)
  | .literal q, '\\' :: c :: s =>
    if c = '\n' then consume (.literal q) '\\' (lex (.literal q) (c :: s))
    else consume (.literal q) '\\' (consume (.literal q) c (lex (.literal q) s))
  | .literal q, c :: s =>
    consume (.literal q) c (lex (if c = q.char then .code else .literal q) s)
  | .code, '/' :: '/' :: s => lex .lineComment s
  | .code, '/' :: '*' :: s => consume .code '/' (consume .code '*' (lex .block s))
  | .code, c :: s =>
    consume .code c
      (lex (match Quote.ofChar? c with | some q => .literal q | none => .code) s)

variable {spot : Spot} {mode : Mode} {line rest s : List Char} {c : Char}

theorem tail_lex (h : ∀ c ∈ rest.head?, c = '\n') (spot : Spot) :
    lex spot rest = .begin spot :: (lex spot rest).tail := by
  cases rest with
  | nil => cases spot <;> rfl
  | cons c t =>
    obtain rfl : c = '\n' := h c rfl
    cases spot <;> rfl

def spotOf : Mode → Spot
  | .code => .code
  | .block => .block
  | .literal q => .literal q

def Piece.ofReading (inBlock : Bool) (line : List Char) : Reading → Piece
  | .comment code body => ⟨inBlock, code, some body⟩
  | .bare _ => ⟨inBlock, line, none⟩

theorem begin_spotOf (mode : Mode) :
    Piece.begin (spotOf mode) = .ofReading (mode = .block) [] (.bare mode) := by
  cases mode <;> rfl

theorem consume_ofReading {mode' : Mode} {r : Reading} {pieces tail : List Piece}
    (h : pieces = .ofReading (mode' = .block) line r :: tail) (mode : Mode) (c : Char) :
    consume (spotOf mode) c pieces = .ofReading (mode = .block) (c :: line) (r.cons c) :: tail := by
  rw [h]
  cases mode <;> cases r <;> rfl

theorem lex_lineComment (hs : '\n' ∉ s) (h : ∀ c ∈ rest.head?, c = '\n') :
    lex .lineComment (s ++ rest) = ⟨false, [], some s⟩ :: (lex .code rest).tail := by
  induction s with
  | nil =>
    cases rest with
    | nil => rfl
    | cons c t =>
      obtain rfl : c = '\n' := h c rfl
      rfl
  | cons c s ih =>
    rw [List.cons_append, lex, ih (List.not_mem_of_not_mem_cons hs)]
    · rfl
    · exact fun hc => List.ne_of_not_mem_cons hs hc.symm

/-- Up to the end of a line, the lexer finds what the reader of the line does. -/
theorem lex_line (mode : Mode) (hline : '\n' ∉ line) (h : ∀ c ∈ rest.head?, c = '\n') :
    lex (spotOf mode) (line ++ rest) =
      .ofReading (mode = .block) line (read mode line) ::
        (lex (spotOf (read mode line).mode) rest).tail := by
  -- No pair of characters begins on the line and ends behind it.
  have hhead {d : Char} (hd : d ≠ '\n') : d ∉ rest.head? := fun hmem => hd (h d hmem)
  fun_induction read mode line with
  | case1 mode =>
    rw [List.nil_append, tail_lex h, begin_spotOf]
    rfl
  | case2 s ih =>
    have hs : '\n' ∉ s := fun hs => hline (by simp [hs])
    have hlex : lex .block ('*' :: '/' :: (s ++ rest)) =
        consume .block '*' (consume .block '/' (lex .code (s ++ rest))) := by rw [lex]
    rw [spotOf, List.cons_append, List.cons_append, hlex, Reading.mode_cons, Reading.mode_cons]
    exact consume_ofReading (consume_ofReading (ih hs) .block '/') .block '*'
  | case3 c s noClose ih =>
    have hs : '\n' ∉ s := List.not_mem_of_not_mem_cons hline
    have hlex : lex .block (c :: (s ++ rest)) = consume .block c (lex .block (s ++ rest)) := by
      rw [lex]
      · exact fun hc => List.ne_of_not_mem_cons hline hc.symm
      · exact fun u hc => not_leads_append (hhead (by decide)) (fun v => noClose v hc) u
    rw [spotOf, List.cons_append, hlex, Reading.mode_cons]
    exact consume_ofReading (ih hs) .block c
  | case4 q =>
    have hlex : lex (.literal q) ('\\' :: rest) =
        consume (.literal q) '\\' (lex (.literal q) rest) := by
      cases rest with
      | nil => cases q <;> rfl
      | cons c t =>
        obtain rfl : c = '\n' := h c rfl
        simp [lex]
    have hend := tail_lex h (spotOf (.literal q))
    rw [begin_spotOf] at hend
    rw [spotOf, List.singleton_append, hlex]
    exact consume_ofReading hend (.literal q) '\\'
  | case5 q c s ih =>
    have hs : '\n' ∉ s := fun hs => hline (by simp [hs])
    have hc : c ≠ '\n' := fun hc => hline (by simp [hc])
    have hlex : lex (.literal q) ('\\' :: c :: (s ++ rest)) =
        consume (.literal q) '\\' (consume (.literal q) c (lex (.literal q) (s ++ rest))) := by
      rw [lex, if_neg hc]
    rw [spotOf, List.cons_append, List.cons_append, hlex, Reading.mode_cons, Reading.mode_cons]
    exact consume_ofReading (consume_ofReading (ih hs) (.literal q) c) (.literal q) '\\'
  | case6 q c s last more ih =>
    have hs : '\n' ∉ s := List.not_mem_of_not_mem_cons hline
    have escape := ne_escape last more
    have hlex : lex (.literal q) (c :: (s ++ rest)) = consume (.literal q) c
        (lex (if c = q.char then .code else .literal q) (s ++ rest)) := by
      rw [lex]
      · exact fun hc => List.ne_of_not_mem_cons hline hc.symm
      · exact fun _ _ hc => (escape hc).elim
    have hspot : (if c = q.char then Spot.code else .literal q) =
        spotOf (if c = q.char then .code else .literal q) := by split <;> rfl
    rw [spotOf, List.cons_append, hlex, Reading.mode_cons, hspot]
    exact consume_ofReading (ih hs) (.literal q) c
  | case7 s =>
    have hs : '\n' ∉ s := fun hs => hline (by simp [hs])
    have hlex : lex .code ('/' :: '/' :: (s ++ rest)) = lex .lineComment (s ++ rest) := by rw [lex]
    rw [spotOf, List.cons_append, List.cons_append, hlex, lex_lineComment hs h]
    rfl
  | case8 s ih =>
    have hs : '\n' ∉ s := fun hs => hline (by simp [hs])
    have hlex : lex .code ('/' :: '*' :: (s ++ rest)) =
        consume .code '/' (consume .code '*' (lex .block (s ++ rest))) := by rw [lex]
    rw [spotOf, List.cons_append, List.cons_append, hlex, Reading.mode_cons, Reading.mode_cons]
    exact consume_ofReading (consume_ofReading (ih hs) .code '*') .code '/'
  | case9 c s noLine noBlock ih =>
    have hs : '\n' ∉ s := List.not_mem_of_not_mem_cons hline
    have hlex : lex .code (c :: (s ++ rest)) = consume .code c
        (lex (match Quote.ofChar? c with | some q => .literal q | none => .code)
          (s ++ rest)) := by
      rw [lex]
      · exact fun hc => List.ne_of_not_mem_cons hline hc.symm
      · exact fun u hc => not_leads_append (hhead (by decide)) (fun v => noLine v hc) u
      · exact fun u hc => not_leads_append (hhead (by decide)) (fun v => noBlock v hc) u
    have hspot : (match Quote.ofChar? c with | some q => Spot.literal q | none => .code) =
        spotOf (match Quote.ofChar? c with | some q => .literal q | none => .code) := by
      split <;> rfl
    rw [spotOf, List.cons_append, hlex, Reading.mode_cons, hspot]
    exact consume_ofReading (ih hs) .code c

def startMode (inBlock : Bool) : Mode :=
  if inBlock then .block else .code

@[simp] theorem startMode_eq_block (inBlock : Bool) :
    decide (startMode inBlock = .block) = inBlock := by
  cases inBlock <;> rfl

theorem spotOf_newLine (mode : Mode) :
    (spotOf mode).newLine = spotOf (startMode (mode = .block)) := by
  cases mode <;> rfl

def readLines : Bool → List (List Char) → List Piece
  | _, [] => []
  | inBlock, line :: lines =>
    let reading := read (startMode inBlock) line
    .ofReading inBlock line reading :: readLines (reading.mode = .block) lines

theorem lex_intercalate {lines : List (List Char)} (inBlock : Bool)
    (h : ∀ l ∈ line :: lines, '\n' ∉ l) :
    lex (spotOf (startMode inBlock)) (['\n'].intercalate (line :: lines)) =
      readLines inBlock (line :: lines) := by
  induction lines generalizing line inBlock with
  | nil =>
    have hline := h line List.mem_cons_self
    have hend : ∀ c ∈ ([] : List Char).head?, c = '\n' := by simp
    have hlex := lex_line (startMode inBlock) hline hend
    rw [List.append_nil, startMode_eq_block] at hlex
    rw [List.intercalate_singleton, hlex, readLines, readLines]
    cases (spotOf (read (startMode inBlock) line).mode) <;> rfl
  | cons next lines ih =>
    obtain ⟨hline, hlines⟩ := List.forall_mem_cons.1 h
    have hend : ∀ c ∈ ('\n' :: ['\n'].intercalate (next :: lines)).head?, c = '\n' := by simp
    have hlex := lex_line (startMode inBlock) hline hend
    have htail (spot : Spot) (s : List Char) :
        (lex spot ('\n' :: s)).tail = lex spot.newLine s := by
      cases spot <;> rfl
    rw [startMode_eq_block, htail, spotOf_newLine, ih _ hlines] at hlex
    rw [List.intercalate_cons_cons, List.append_assoc, List.singleton_append, hlex]
    rfl

end LineComment.Lexer
