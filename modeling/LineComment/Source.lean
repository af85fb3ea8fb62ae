import LineComment.Verdict

namespace LineComment

structure Line where
  text : List Char
  carriageReturn : Bool
  deriving DecidableEq

namespace Line

def ofChars (s : List Char) : Line :=
  if s.getLast? = some '\r' then ⟨s.dropLast, true⟩ else ⟨s, false⟩

def chars (line : Line) : List Char :=
  if line.carriageReturn then line.text ++ ['\r'] else line.text

def isEmpty (line : Line) : Bool :=
  line.text.isEmpty

@[simp] theorem chars_ofChars (s : List Char) : (ofChars s).chars = s := by
  unfold ofChars
  split
  next h =>
    obtain ⟨t, rfl⟩ := List.getLast?_eq_some_iff.1 h
    simp [chars]
  next => simp [chars]

end Line

structure Source where
  mark : Bool
  lines : List Line
  deriving DecidableEq

namespace Source

def ofChars : List Char → Source
  | '\uFEFF' :: s => ⟨true, (s.splitOn '\n').map Line.ofChars⟩
  | s => ⟨false, (s.splitOn '\n').map Line.ofChars⟩

def chars (source : Source) : List Char :=
  (if source.mark then ['\uFEFF'] else []) ++ ['\n'].intercalate (source.lines.map Line.chars)

@[simp] theorem chars_ofChars (s : List Char) : (ofChars s).chars = s := by
  have h : Line.chars ∘ Line.ofChars = id := by
    funext t
    exact Line.chars_ofChars t
  unfold ofChars
  split <;> simp [chars, h, List.intercalate_splitOn]

end Source

def Verdict.apply (line : Line) : Verdict → Option Line
  | .keep => some line
  | .cut code => some { line with text := code }
  | .drop => none

def collapseTail (lines : List Line) : List Line :=
  match lines.reverse with
  | [] => []
  | last :: before =>
    if last.isEmpty then (last :: before.dropWhile Line.isEmpty).reverse else lines

structure Stripped where
  content : List Char
  removedComments : Nat
  removedLines : Nat
  deriving DecidableEq

def Stripped.changed (stripped : Stripped) : Bool :=
  0 < stripped.removedComments

namespace Policy

def judgeLines (p : Policy) : Context → List Line → List (Line × Verdict)
  | _, [] => []
  | ctx, line :: lines =>
    (line, p.judge ctx line.text) :: p.judgeLines (ctx.next p.headerLines line.text) lines

def leave (p : Policy) (lines : List Line) : List Line :=
  collapseTail ((p.judgeLines .initial lines).filterMap fun (line, verdict) => verdict.apply line)

def strip (p : Policy) (content : List Char) : Stripped :=
  let source := Source.ofChars content
  let left := p.leave source.lines
  { content := { source with lines := left }.chars
    removedComments :=
      (p.judgeLines .initial source.lines).countP fun (_, verdict) => verdict.removes
    removedLines := source.lines.length - left.length }

@[simp] theorem judgeLines_nil (p : Policy) (ctx : Context) : p.judgeLines ctx [] = [] := rfl

@[simp] theorem length_judgeLines (p : Policy) (ctx : Context) (lines : List Line) :
    (p.judgeLines ctx lines).length = lines.length := by
  induction lines generalizing ctx with
  | nil => rfl
  | cons line lines ih => simp [judgeLines, ih]

end Policy

theorem length_collapseTail_le (lines : List Line) :
    (collapseTail lines).length ≤ lines.length := by
  unfold collapseTail
  split
  next => simp
  next last before h =>
    have hl : lines.length = before.length + 1 := by simpa using congrArg List.length h
    split
    next =>
      have := (List.dropWhile_sublist Line.isEmpty (l := before)).length_le
      simp only [List.length_reverse, List.length_cons]
      omega
    next => exact Nat.le_refl _

theorem Policy.length_leave_le (p : Policy) (lines : List Line) :
    (p.leave lines).length ≤ lines.length := by
  calc
    (p.leave lines).length ≤ _ := length_collapseTail_le _
    _ ≤ (p.judgeLines .initial lines).length := List.length_filterMap_le _ _
    _ = lines.length := p.length_judgeLines .initial lines

end LineComment
