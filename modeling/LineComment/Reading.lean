import LineComment.Text.Units

namespace LineComment

inductive Quote
  | single
  | double
  deriving DecidableEq

def Quote.ofChar? : Char → Option Quote
  | '\'' => some .single
  | '"' => some .double
  | _ => none

def Quote.char : Quote → Char
  | .single => '\''
  | .double => '"'

inductive Mode
  | code
  | block
  | literal (quote : Quote)
  deriving DecidableEq

inductive Reading
  | comment (code body : List Char)
  | bare (mode : Mode)
  deriving DecidableEq

namespace Reading

def cons (c : Char) : Reading → Reading
  | .comment code body => .comment (c :: code) body
  | .bare mode => .bare mode

def mode : Reading → Mode
  | .comment _ _ => .code
  | .bare mode => mode

def position? : Reading → Option Nat
  | .comment code _ => some (Text.width code)
  | .bare _ => none

end Reading

/-- Reads a line in a mode. A block comment ends at its first closing token. A literal ends at its
own quote, where a backslash takes the next character with it. In code, two slashes end the
reading. -/
def read : Mode → List Char → Reading
  | mode, [] => .bare mode
  | .block, '*' :: '/' :: s => ((read .code s).cons '/').cons '*'
  | .block, c :: s => (read .block s).cons c
  | .literal q, ['\\'] => .bare (.literal q)
  | .literal q, '\\' :: c :: s => ((read (.literal q) s).cons c).cons '\\'
  | .literal q, c :: s => (read (if c = q.char then .code else .literal q) s).cons c
  | .code, '/' :: '/' :: s => .comment [] s
  | .code, '/' :: '*' :: s => ((read .block s).cons '*').cons '/'
  | .code, c :: s =>
    (read (match Quote.ofChar? c with | some q => .literal q | none => .code) s).cons c

@[simp] theorem read_nil (mode : Mode) : read mode [] = .bare mode := by
  cases mode <;> rfl

@[simp] theorem Reading.cons_comment (c : Char) (code body : List Char) :
    (Reading.comment code body).cons c = .comment (c :: code) body := rfl

@[simp] theorem Reading.cons_bare (c : Char) (mode : Mode) :
    (Reading.bare mode).cons c = .bare mode := rfl

@[simp] theorem Reading.mode_cons (c : Char) (r : Reading) : (r.cons c).mode = r.mode := by
  cases r <;> rfl

theorem Reading.cons_eq_comment {c : Char} {r : Reading} {code body : List Char}
    (h : r.cons c = .comment code body) : ∃ rest, code = c :: rest ∧ r = .comment rest body := by
  cases r with
  | comment rest b =>
    obtain ⟨rfl, rfl⟩ : c :: rest = code ∧ b = body := by simpa using h
    exact ⟨rest, rfl, rfl⟩
  | bare mode => simp at h

theorem eq_append_of_read {mode : Mode} {line code body : List Char}
    (h : read mode line = .comment code body) : line = code ++ '/' :: '/' :: body := by
  fun_induction read mode line generalizing code with
  | case1 => simp at h
  | case2 s ih =>
    obtain ⟨_, rfl, h₁⟩ := Reading.cons_eq_comment h
    obtain ⟨_, rfl, h₂⟩ := Reading.cons_eq_comment h₁
    simp [ih h₂]
  | case3 c s _ ih =>
    obtain ⟨_, rfl, h₁⟩ := Reading.cons_eq_comment h
    simp [ih h₁]
  | case4 => simp at h
  | case5 q c s ih =>
    obtain ⟨_, rfl, h₁⟩ := Reading.cons_eq_comment h
    obtain ⟨_, rfl, h₂⟩ := Reading.cons_eq_comment h₁
    simp [ih h₂]
  | case6 q c s _ _ ih =>
    obtain ⟨_, rfl, h₁⟩ := Reading.cons_eq_comment h
    simp [ih h₁]
  | case7 s =>
    obtain ⟨rfl, rfl⟩ : [] = code ∧ s = body := by simpa using h
    rfl
  | case8 s ih =>
    obtain ⟨_, rfl, h₁⟩ := Reading.cons_eq_comment h
    obtain ⟨_, rfl, h₂⟩ := Reading.cons_eq_comment h₁
    simp [ih h₂]
  | case9 c s _ _ ih =>
    obtain ⟨_, rfl, h₁⟩ := Reading.cons_eq_comment h
    simp [ih h₁]

end LineComment
