import LineComment.Proofs.Blank
import LineComment.Reading

namespace LineComment

variable {b : Char} {mode : Mode} {line code body s t : List Char}

theorem ne_of_isBlank (h : Text.isBlank b = true) :
    b ≠ '/' ∧ b ≠ '*' ∧ b ≠ '\\' ∧ b ≠ '\'' ∧ b ≠ '"' := by
  refine ⟨?_, ?_, ?_, ?_, ?_⟩ <;>
  · rintro rfl
    exact absurd h (by decide)

theorem Quote.char_ne_of_isBlank (h : Text.isBlank b = true) (q : Quote) : b ≠ q.char := by
  obtain ⟨-, -, -, single, double⟩ := ne_of_isBlank h
  cases q with
  | single => exact single
  | double => exact double

theorem Quote.ofChar?_of_isBlank (h : Text.isBlank b = true) : ofChar? b = none := by
  obtain ⟨-, -, -, single, double⟩ := ne_of_isBlank h
  unfold ofChar?
  split <;> trivial

theorem read_cons_blank (h : Text.isBlank b = true) (mode : Mode) (s : List Char) :
    read mode (b :: s) = (read mode s).cons b := by
  obtain ⟨slash, star, escape, -, -⟩ := ne_of_isBlank h
  cases mode with
  | code => simp [read, slash, Quote.ofChar?_of_isBlank h]
  | block => simp [read, star]
  | literal q => simp [read, escape, Quote.char_ne_of_isBlank h q]

theorem read_blank (h : Text.Blank s) (mode : Mode) : read mode s = .bare mode := by
  induction s with
  | nil => rw [read_nil]
  | cons c s ih =>
    obtain ⟨hc, hs⟩ := Text.blank_cons.1 h
    rw [read_cons_blank hc, ih hs, Reading.cons_bare]

def Reading.extend (t : List Char) : Reading → Reading
  | .comment code body => .comment code (body ++ t)
  | .bare mode => .bare mode

@[simp] theorem Reading.extend_cons (c : Char) (t : List Char) (r : Reading) :
    (r.cons c).extend t = (r.extend t).cons c := by
  cases r <;> rfl

@[simp] theorem Reading.mode_extend (t : List Char) (r : Reading) : (r.extend t).mode = r.mode := by
  cases r <;> rfl

theorem not_leads_append {d : Char} (ht : d ∉ t.head?) (hs : ∀ u, s = d :: u → False) :
    ∀ u, s ++ t = d :: u → False := by
  intro u hu
  cases s with
  | nil =>
    obtain rfl : t = d :: u := hu
    exact ht rfl
  | cons c s =>
    obtain ⟨rfl, -⟩ := List.cons.inj hu
    exact hs s rfl

theorem ne_escape {c : Char} (last : c = '\\' → s = [] → False)
    (more : ∀ d u, c = '\\' → s = d :: u → False) : c ≠ '\\' := by
  intro hc
  cases s with
  | nil => exact last hc rfl
  | cons d u => exact more d u hc rfl

theorem read_append_blank (h : Text.Blank t) (mode : Mode) (s : List Char) :
    read mode (s ++ t) = (read mode s).extend t := by
  have hhead {d : Char} (hd : Text.isBlank d = false) : d ∉ t.head? := by
    intro hmem
    rw [h d (List.mem_of_mem_head? hmem)] at hd
    contradiction
  fun_induction read mode s with
  | case1 mode => exact read_blank h mode
  | case2 s ih => simp [read, ih]
  | case3 c s noClose ih =>
    have hread : read .block (c :: (s ++ t)) = (read .block (s ++ t)).cons c := by
      rw [read]
      intro u hc
      exact not_leads_append (hhead (by decide)) (fun v => noClose v hc) u
    rw [List.cons_append, hread, ih, Reading.extend_cons]
  | case4 q =>
    cases t with
    | nil => rfl
    | cons c t =>
      have ht := read_blank (Text.blank_cons.1 h).2 (.literal q)
      simp [read, ht, Reading.extend]
  | case5 q c s ih => simp [read, ih]
  | case6 q c s last more ih =>
    have escape := ne_escape last more
    simp [read, escape, ih]
  | case7 s => simp [read, Reading.extend]
  | case8 s ih => simp [read, ih]
  | case9 c s noLine noBlock ih =>
    rw [List.cons_append, read, ih, Reading.extend_cons]
    · intro u hc
      exact not_leads_append (hhead (by decide)) (fun v => noLine v hc) u
    · intro u hc
      exact not_leads_append (hhead (by decide)) (fun v => noBlock v hc) u

theorem read_front (h : read mode line = .comment code body) : read mode code = .bare .code := by
  fun_induction read mode line generalizing code with
  | case1 => simp at h
  | case2 s ih =>
    obtain ⟨_, rfl, h₁⟩ := Reading.cons_eq_comment h
    obtain ⟨rest, rfl, h₂⟩ := Reading.cons_eq_comment h₁
    simp [read, ih h₂]
  | case3 c s noClose ih =>
    obtain ⟨rest, rfl, h₁⟩ := Reading.cons_eq_comment h
    have hs := eq_append_of_read h₁
    rw [read, ih h₁, Reading.cons_bare]
    rintro u hc rfl
    exact noClose _ hc hs
  | case4 => simp at h
  | case5 q c s ih =>
    obtain ⟨_, rfl, h₁⟩ := Reading.cons_eq_comment h
    obtain ⟨rest, rfl, h₂⟩ := Reading.cons_eq_comment h₁
    simp [read, ih h₂]
  | case6 q c s last more ih =>
    obtain ⟨rest, rfl, h₁⟩ := Reading.cons_eq_comment h
    have escape := ne_escape last more
    simp [read, escape, ih h₁]
  | case7 s =>
    obtain ⟨rfl, -⟩ : [] = code ∧ s = body := by simpa using h
    rw [read_nil]
  | case8 s ih =>
    obtain ⟨_, rfl, h₁⟩ := Reading.cons_eq_comment h
    obtain ⟨rest, rfl, h₂⟩ := Reading.cons_eq_comment h₁
    simp [read, ih h₂]
  | case9 c s noLine noBlock ih =>
    obtain ⟨rest, rfl, h₁⟩ := Reading.cons_eq_comment h
    have hs := eq_append_of_read h₁
    rw [read, ih h₁, Reading.cons_bare]
    · rintro u hc rfl
      exact noLine _ hc hs
    · rintro u hc rfl
      exact noBlock _ hc hs

theorem read_of_append_blank {m : Mode} (h : Text.Blank t) (hread : read mode (s ++ t) = .bare m) :
    read mode s = .bare m := by
  rw [read_append_blank h] at hread
  cases hs : read mode s with
  | comment code body =>
    rw [hs] at hread
    cases hread
  | bare m' =>
    rw [hs] at hread
    exact hread

theorem read_trimEnd_front (h : read mode line = .comment code body) :
    read mode (Text.trimEnd code) = .bare .code := by
  obtain ⟨t, ht, blank⟩ := Text.exists_blank_trimEnd code
  exact read_of_append_blank blank (ht ▸ read_front h)

end LineComment
