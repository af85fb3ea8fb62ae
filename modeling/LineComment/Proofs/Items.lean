import LineComment.Reading
import Mathlib.Data.List.Infix

/-! The grammar of a line: block comments, literals and single characters, and what ends it. Each line
is made up of them in one way only, and the reader goes by it. -/

namespace LineComment

inductive Quote.Inside (q : Quote) : List Char → Prop
  | nil : Inside q []
  | escaped {c : Char} {s : List Char} : Inside q s → Inside q ('\\' :: c :: s)
  | plain {c : Char} {s : List Char} : c ≠ '\\' → c ≠ q.char → Inside q s → Inside q (c :: s)

def Unclosing (s : List Char) : Prop :=
  ¬['*', '/'] <:+: s

inductive Item
  | blockComment (inner : List Char)
  | literal (quote : Quote) (inner : List Char)
  | single (c : Char)
  deriving DecidableEq

inductive Ending
  | comment (body : List Char)
  | nothing
  | openBlock (inner : List Char)
  | openLiteral (quote : Quote) (inner : List Char)
  deriving DecidableEq

namespace Item

def chars : Item → List Char
  | .blockComment inner => '/' :: '*' :: (inner ++ ['*', '/'])
  | .literal q inner => q.char :: (inner ++ [q.char])
  | .single c => [c]

/-- The item is one in front of the rest of its line. A block comment ends at the first token that
closes it, and a slash that begins a comment is no single character. -/
def Fits (rest : List Char) : Item → Prop
  | .blockComment inner => Unclosing inner
  | .literal q inner => q.Inside inner
  | .single c => Quote.ofChar? c = none ∧ ¬['/', '/'] <+: c :: rest ∧ ¬['/', '*'] <+: c :: rest

end Item

namespace Ending

def chars : Ending → List Char
  | .comment body => '/' :: '/' :: body
  | .nothing => []
  | .openBlock inner => '/' :: '*' :: inner
  | .openLiteral q inner => q.char :: inner

def Fits : Ending → Prop
  | .comment _ | .nothing => True
  | .openBlock inner => Unclosing inner
  | .openLiteral q inner => q.Inside inner ∨ ∃ s, inner = s ++ ['\\'] ∧ q.Inside s

def reading (code : List Char) : Ending → Reading
  | .comment body => .comment code body
  | .nothing => .bare .code
  | .openBlock _ => .bare .block
  | .openLiteral q _ => .bare (.literal q)

end Ending

def Parses : List Item → Ending → List Char → Prop
  | [], ending, line => line = ending.chars ∧ ending.Fits
  | item :: items, ending, line =>
    ∃ rest, line = item.chars ++ rest ∧ item.Fits rest ∧ Parses items ending rest

def Reading.prepend (s : List Char) : Reading → Reading
  | .comment code body => .comment (s ++ code) body
  | .bare mode => .bare mode

namespace Reading

@[simp] theorem prepend_nil (r : Reading) : r.prepend [] = r := by
  cases r <;> rfl

@[simp] theorem prepend_cons (c : Char) (s : List Char) (r : Reading) :
    r.prepend (c :: s) = (r.prepend s).cons c := by
  cases r <;> rfl

@[simp] theorem prepend_append (s t : List Char) (r : Reading) :
    r.prepend (s ++ t) = (r.prepend t).prepend s := by
  cases r <;> simp [prepend]

@[simp] theorem prepend_bare (s : List Char) (mode : Mode) :
    (Reading.bare mode).prepend s = .bare mode := rfl

end Reading

@[simp] theorem Ending.prepend_reading (s code : List Char) (ending : Ending) :
    (ending.reading code).prepend s = ending.reading (s ++ code) := by
  cases ending <;> rfl

section Quote

variable {q : Quote} {c : Char} {s t u v : List Char}

@[simp] theorem Quote.ofChar?_char (q : Quote) : ofChar? q.char = some q := by
  cases q <;> rfl

theorem Quote.ofChar?_eq_some_iff : ofChar? c = some q ↔ c = q.char := by
  constructor
  · intro h
    unfold ofChar? at h
    split at h <;> cases h <;> rfl
  · rintro rfl
    exact q.ofChar?_char

theorem Quote.char_ne (q : Quote) : q.char ≠ '/' ∧ q.char ≠ '\\' := by
  cases q <;> decide

def Quote.Stops (q : Quote) (s : List Char) : Prop :=
  s = [] ∨ s = ['\\'] ∨ ∃ rest, s = q.char :: rest

theorem Quote.Inside.not_stops_append (h : q.Inside s) (hne : s ≠ []) : ¬q.Stops (s ++ t) := by
  have escape := q.char_ne.2
  cases h with
  | nil => exact absurd rfl hne
  | escaped => simp [Stops, escape.symm]
  | plain hescape hquote => simp [Stops, hescape, hquote]

theorem Quote.Inside.append_inj (h : q.Inside s) (h' : q.Inside t) (hu : q.Stops u)
    (hv : q.Stops v) (heq : s ++ u = t ++ v) : s = t ∧ u = v := by
  induction h generalizing t with
  | nil =>
    by_cases ht : t = []
    · exact ⟨ht.symm, by simpa [ht] using heq⟩
    · have hstops : q.Stops (t ++ v) := by simpa [← heq] using hu
      exact absurd hstops (h'.not_stops_append ht)
  | @escaped c s hs ih =>
    cases h' with
    | nil =>
      have hstops : q.Stops ('\\' :: c :: s ++ u) := by simpa [heq] using hv
      exact absurd hstops ((Inside.escaped hs).not_stops_append (by simp))
    | escaped ht =>
      obtain ⟨rfl, htail⟩ : c = _ ∧ s ++ u = _ ++ v := by simpa using heq
      obtain ⟨rfl, rfl⟩ := ih ht htail
      exact ⟨rfl, rfl⟩
    | plain hescape =>
      obtain ⟨rfl, -⟩ := List.cons.inj heq
      exact absurd rfl hescape
  | @plain c s hescape hquote hs ih =>
    cases h' with
    | nil =>
      have hstops : q.Stops (c :: s ++ u) := by simpa [heq] using hv
      exact absurd hstops ((Inside.plain hescape hquote hs).not_stops_append (by simp))
    | escaped =>
      obtain ⟨rfl, -⟩ := List.cons.inj heq
      exact absurd rfl hescape
    | plain _ _ ht =>
      obtain ⟨rfl, htail⟩ := List.cons.inj heq
      obtain ⟨rfl, rfl⟩ := ih ht htail
      exact ⟨rfl, rfl⟩

theorem Quote.exists_inside (q : Quote) :
    (s : List Char) → ∃ t u, s = t ++ u ∧ q.Inside t ∧ q.Stops u
  | [] => ⟨[], [], rfl, .nil, .inl rfl⟩
  | c :: s => by
    by_cases hquote : c = q.char
    · exact ⟨[], c :: s, rfl, .nil, .inr (.inr ⟨s, by rw [hquote]⟩)⟩
    by_cases hescape : c = '\\'
    · match s with
      | [] => exact ⟨[], [c], rfl, .nil, .inr (.inl (by rw [hescape]))⟩
      | d :: s =>
        obtain ⟨t, u, rfl, ht, hu⟩ := q.exists_inside s
        exact ⟨'\\' :: d :: t, u, by rw [hescape]; rfl, .escaped ht, hu⟩
    · obtain ⟨t, u, rfl, ht, hu⟩ := q.exists_inside s
      exact ⟨c :: t, u, rfl, .plain hescape hquote ht, hu⟩

theorem read_inside (h : q.Inside s) (t : List Char) :
    read (.literal q) (s ++ t) = (read (.literal q) t).prepend s := by
  induction h with
  | nil => simp
  | escaped _ ih => simp [read, ih]
  | plain hescape hquote _ ih => simp [read, hescape, hquote, ih]

theorem read_char (q : Quote) (s : List Char) :
    read (.literal q) (q.char :: s) = (read .code s).cons q.char := by
  simp [read, q.char_ne.2]

end Quote

section Block

variable {s t u v : List Char}

def StopsBlock (s : List Char) : Prop :=
  s = [] ∨ ∃ rest, s = '*' :: '/' :: rest

theorem Unclosing.tail {c : Char} (h : Unclosing (c :: s)) : Unclosing s :=
  fun hs => h (List.infix_cons hs)

theorem Unclosing.not_stops_append (h : Unclosing s) (hne : s ≠ []) (ht : StopsBlock t) :
    ¬StopsBlock (s ++ t) := by
  obtain ⟨c, s, rfl⟩ := List.exists_cons_of_ne_nil hne
  simp [StopsBlock]
  rintro rfl rest heq
  cases s with
  | nil => obtain rfl | ⟨rest', rfl⟩ := ht <;> simp at heq
  | cons d s =>
    obtain ⟨rfl, -⟩ := List.cons.inj heq
    exact h ⟨[], s, rfl⟩

theorem Unclosing.append_inj (h : Unclosing s) (h' : Unclosing t) (hu : StopsBlock u)
    (hv : StopsBlock v) (heq : s ++ u = t ++ v) : s = t ∧ u = v := by
  induction s generalizing t with
  | nil =>
    by_cases ht : t = []
    · exact ⟨ht.symm, by simpa [ht] using heq⟩
    · have hstops : StopsBlock (t ++ v) := by simpa [← heq] using hu
      exact absurd hstops (h'.not_stops_append ht hv)
  | cons c s ih =>
    cases t with
    | nil =>
      have hstops : StopsBlock (c :: s ++ u) := by simpa [heq] using hv
      exact absurd hstops (h.not_stops_append (by simp) hu)
    | cons d t =>
      obtain ⟨rfl, htail⟩ := List.cons.inj heq
      obtain ⟨rfl, rfl⟩ := ih h.tail h'.tail htail
      exact ⟨rfl, rfl⟩

theorem exists_unclosing : (s : List Char) → ∃ t u, s = t ++ u ∧ Unclosing t ∧ StopsBlock u
  | [] => ⟨[], [], rfl, by simp [Unclosing], .inl rfl⟩
  | c :: s => by
    by_cases hclose : ∃ rest, c :: s = '*' :: '/' :: rest
    · exact ⟨[], c :: s, rfl, by simp [Unclosing], .inr hclose⟩
    · obtain ⟨t, u, rfl, ht, hu⟩ := exists_unclosing s
      refine ⟨c :: t, u, rfl, ?_, hu⟩
      rw [Unclosing, List.infix_cons_iff]
      rintro (⟨rest, heq⟩ | hinfix)
      · exact hclose ⟨rest ++ u, by rw [← List.cons_append, ← heq]; rfl⟩
      · exact ht hinfix

theorem read_unclosing (h : Unclosing s) (ht : StopsBlock t) :
    read .block (s ++ t) = (read .block t).prepend s := by
  induction s with
  | nil => simp
  | cons c s ih =>
    rw [List.cons_append, read, ih h.tail, Reading.prepend_cons]
    rintro u rfl heq
    exact h.not_stops_append (by simp) ht (.inr ⟨u, by rw [← heq]; rfl⟩)

end Block

variable {item item' : Item} {items items' : List Item} {ending ending' : Ending}
  {line rest rest' : List Char}

theorem read_item (h : item.Fits rest) :
    read .code (item.chars ++ rest) = (read .code rest).prepend item.chars := by
  cases item with
  | blockComment inner =>
    have hinner := read_unclosing (t := '*' :: '/' :: rest) h (.inr ⟨rest, rfl⟩)
    simp [Item.chars, read, hinner]
  | literal q inner =>
    have hinner := read_inside h (q.char :: rest)
    simp [Item.chars, read, hinner, read_char, q.char_ne.1]
  | single c =>
    obtain ⟨hquote, hline, hblock⟩ := h
    rw [Item.chars, List.singleton_append, read, hquote]
    · simp
    · rintro s rfl rfl
      exact hline ⟨s, rfl⟩
    · rintro s rfl rfl
      exact hblock ⟨s, rfl⟩

theorem read_ending (h : ending.Fits) : read .code ending.chars = ending.reading [] := by
  cases ending with
  | comment body => rfl
  | nothing => rfl
  | openBlock inner =>
    have hinner := read_unclosing (t := []) h (.inl rfl)
    rw [List.append_nil] at hinner
    simp [Ending.chars, Ending.reading, read, hinner]
  | openLiteral q inner =>
    have hinner : read (.literal q) inner = .bare (.literal q) := by
      obtain hinner | ⟨s, rfl, hinner⟩ := h
      · simpa using read_inside hinner []
      · simpa [read] using read_inside hinner ['\\']
    simp [Ending.chars, Ending.reading, read, hinner, q.char_ne.1]

theorem Parses.read_eq (h : Parses items ending line) :
    read .code line = ending.reading (items.flatMap Item.chars) := by
  induction items generalizing line with
  | nil =>
    obtain ⟨rfl, hfits⟩ := h
    exact read_ending hfits
  | cons item items ih =>
    obtain ⟨rest, rfl, hfits, hrest⟩ := h
    rw [read_item hfits, ih hrest, Ending.prepend_reading, List.flatMap_cons]

inductive Lead
  | nothing
  | lineComment
  | blockComment
  | literal (quote : Quote)
  | single (c : Char)

def Lead.of : List Char → Lead
  | [] => .nothing
  | '/' :: '/' :: _ => .lineComment
  | '/' :: '*' :: _ => .blockComment
  | c :: _ => match Quote.ofChar? c with
    | some q => .literal q
    | none => .single c

def Item.lead : Item → Lead
  | .blockComment _ => .blockComment
  | .literal q _ => .literal q
  | .single c => .single c

def Ending.lead : Ending → Lead
  | .comment _ => .lineComment
  | .nothing => .nothing
  | .openBlock _ => .blockComment
  | .openLiteral q _ => .literal q

theorem Lead.of_quote (q : Quote) (s : List Char) : Lead.of (q.char :: s) = .literal q := by
  cases q <;> rfl

theorem Item.Fits.lead_eq (h : item.Fits rest) : Lead.of (item.chars ++ rest) = item.lead := by
  cases item with
  | blockComment inner => rfl
  | literal q inner => exact Lead.of_quote q _
  | single c =>
    obtain ⟨hquote, hline, hblock⟩ := h
    rw [chars, List.singleton_append, Lead.of, hquote]
    · rfl
    · rintro s rfl rfl
      exact hline ⟨s, rfl⟩
    · rintro s rfl rfl
      exact hblock ⟨s, rfl⟩

theorem Ending.lead_eq (ending : Ending) : Lead.of ending.chars = ending.lead := by
  cases ending with
  | comment | nothing | openBlock => rfl
  | openLiteral q inner => exact Lead.of_quote q inner

theorem Item.Fits.unique (h : item.Fits rest) (h' : item'.Fits rest')
    (heq : item.chars ++ rest = item'.chars ++ rest') : item = item' ∧ rest = rest' := by
  have hlead : item.lead = item'.lead := by rw [← h.lead_eq, heq, h'.lead_eq]
  cases item with
  | blockComment inner =>
    cases item' <;> cases hlead
    have hinner := Unclosing.append_inj h h' (.inr ⟨rest, rfl⟩) (.inr ⟨rest', rfl⟩)
      (by simpa [chars] using heq)
    simpa using hinner
  | literal q inner =>
    cases item' <;> cases hlead
    have hinner := Quote.Inside.append_inj h h' (.inr (.inr ⟨rest, rfl⟩))
      (.inr (.inr ⟨rest', rfl⟩)) (by simpa [chars] using heq)
    simpa using hinner
  | single c =>
    cases item' <;> cases hlead
    simpa [chars] using heq

theorem Ending.Fits.exists_inside {q : Quote} {inner : List Char}
    (h : (Ending.openLiteral q inner).Fits) :
    ∃ s u, inner = s ++ u ∧ q.Inside s ∧ q.Stops u ∧ u.head? ≠ some q.char := by
  obtain h | ⟨s, rfl, h⟩ := h
  · exact ⟨inner, [], by simp, h, .inl rfl, by simp⟩
  · exact ⟨s, ['\\'], rfl, h, .inr (.inl rfl), by simp [q.char_ne.2.symm]⟩

theorem Item.Fits.ne_ending (h : item.Fits rest) (h' : ending.Fits) :
    item.chars ++ rest ≠ ending.chars := by
  intro heq
  have hlead : item.lead = ending.lead := by rw [← h.lead_eq, heq, ending.lead_eq]
  cases item with
  | blockComment inner =>
    cases ending <;> cases hlead
    have hinner := Unclosing.append_inj h h' (.inr ⟨rest, rfl⟩) (.inl rfl)
      (by simpa [chars, Ending.chars] using heq)
    simp at hinner
  | literal q inner =>
    cases ending <;> cases hlead
    obtain ⟨s, u, rfl, hs, hstops, hquote⟩ := h'.exists_inside
    obtain ⟨-, rfl⟩ := Quote.Inside.append_inj h hs (.inr (.inr ⟨rest, rfl⟩)) hstops
      (by simpa [chars, Ending.chars] using heq)
    exact hquote rfl
  | single c => cases ending <;> cases hlead

theorem Ending.eq_of_chars (heq : ending.chars = ending'.chars) : ending = ending' := by
  have hlead : ending.lead = ending'.lead := by rw [← ending.lead_eq, heq, ending'.lead_eq]
  cases ending <;> cases ending' <;> cases hlead <;> simp_all [chars]

theorem Parses.unique (h : Parses items ending line) (h' : Parses items' ending' line) :
    items' = items ∧ ending' = ending := by
  induction items generalizing items' line with
  | nil =>
    obtain ⟨rfl, hfits⟩ := h
    cases items' with
    | nil =>
      obtain ⟨heq, -⟩ := h'
      exact ⟨rfl, (Ending.eq_of_chars heq).symm⟩
    | cons item' items' =>
      obtain ⟨rest', heq, hfits', -⟩ := h'
      exact absurd heq.symm (hfits'.ne_ending hfits)
  | cons item items ih =>
    obtain ⟨rest, rfl, hfits, hrest⟩ := h
    cases items' with
    | nil =>
      obtain ⟨heq, hfits'⟩ := h'
      exact absurd heq (hfits.ne_ending hfits')
    | cons item' items' =>
      obtain ⟨rest', heq, hfits', hrest'⟩ := h'
      -- The line fixes its first item, so both go on with the same rest.
      obtain ⟨rfl, rfl⟩ := hfits.unique hfits' heq
      obtain ⟨rfl, rfl⟩ := ih hrest hrest'
      exact ⟨rfl, rfl⟩

theorem ending_or_item (line : List Char) : (∃ ending : Ending, line = ending.chars ∧ ending.Fits) ∨
    ∃ (item : Item) (rest : List Char), line = item.chars ++ rest ∧ item.Fits rest := by
  by_cases hline : ['/', '/'] <+: line
  · obtain ⟨body, rfl⟩ := hline
    exact .inl ⟨.comment body, rfl, trivial⟩
  by_cases hblock : ['/', '*'] <+: line
  · obtain ⟨s, rfl⟩ := hblock
    obtain ⟨inner, u, rfl, hinner, rfl | ⟨rest, rfl⟩⟩ := exists_unclosing s
    · exact .inl ⟨.openBlock inner, by simp [Ending.chars], hinner⟩
    · exact .inr ⟨.blockComment inner, rest, by simp [Item.chars], hinner⟩
  cases line with
  | nil => exact .inl ⟨.nothing, rfl, trivial⟩
  | cons c s =>
    cases hquote : Quote.ofChar? c with
    | none => exact .inr ⟨.single c, s, rfl, hquote, hline, hblock⟩
    | some q =>
      obtain rfl := Quote.ofChar?_eq_some_iff.1 hquote
      obtain ⟨inner, u, rfl, hinner, rfl | rfl | ⟨rest, rfl⟩⟩ := q.exists_inside s
      · exact .inl ⟨.openLiteral q inner, by simp [Ending.chars], .inl hinner⟩
      · exact .inl ⟨.openLiteral q (inner ++ ['\\']), rfl, .inr ⟨inner, rfl, hinner⟩⟩
      · exact .inr ⟨.literal q inner, rest, by simp [Item.chars], hinner⟩

theorem Item.length_chars_pos (item : Item) : 0 < item.chars.length := by
  cases item <;> simp [chars]

theorem exists_parses (line : List Char) : ∃ items ending, Parses items ending line := by
  obtain ⟨ending, hline, hending⟩ | ⟨item, rest, hline, hitem⟩ := ending_or_item line
  · exact ⟨[], ending, hline, hending⟩
  · obtain ⟨items, ending, hrest⟩ := exists_parses rest
    exact ⟨item :: items, ending, rest, hline, hitem, hrest⟩
termination_by line.length
decreasing_by
  have hpos := item.length_chars_pos
  rw [hline, List.length_append]
  omega

/-- A line in code is made up of items and an ending in one way only, and the reader finds what the
ending says behind the characters of the items. A line that starts in a block comment is read as code
from its first closing token on, if there is one. -/
theorem read_line (line : List Char) :
    (∃ items ending, Parses items ending line ∧
      (∀ items' ending', Parses items' ending' line → items' = items ∧ ending' = ending) ∧
      read .code line = ending.reading (items.flatMap Item.chars)) ∧
    (Unclosing line ∧ read .block line = .bare .block ∨
      ∃ inner rest, line = inner ++ '*' :: '/' :: rest ∧ Unclosing inner ∧
        (∀ inner' rest', line = inner' ++ '*' :: '/' :: rest' → Unclosing inner' →
          inner' = inner ∧ rest' = rest) ∧
        read .block line = (read .code rest).prepend (inner ++ ['*', '/'])) := by
  constructor
  · obtain ⟨items, ending, h⟩ := exists_parses line
    exact ⟨items, ending, h, fun _ _ h' => h.unique h', h.read_eq⟩
  · obtain ⟨inner, u, rfl, hinner, rfl | ⟨rest, rfl⟩⟩ := exists_unclosing line
    · refine .inl ⟨by rwa [List.append_nil], ?_⟩
      simpa using read_unclosing hinner (.inl rfl)
    · have hstops (s : List Char) : StopsBlock ('*' :: '/' :: s) := .inr ⟨s, rfl⟩
      refine .inr ⟨inner, rest, rfl, hinner, ?_, ?_⟩
      · intro inner' rest' heq hinner'
        simpa using hinner'.append_inj hinner (hstops rest') (hstops rest) heq.symm
      · simp [read_unclosing hinner (hstops rest), read]

end LineComment
