import LineComment.Proofs.Judgement
import LineComment.Proofs.Wording

/-! The patterns that a line is tried against from its first character on. They find the doc and the
marked comments that the reader finds as well, so trying them first changes nothing. -/

namespace LineComment

namespace Text

variable {c : Char} {s : List Char} {u : Nat} {us : List Nat}

theorem units_cons_of_lt (h : c.toNat < 0x10000) (s : List Char) :
    units (c :: s) = c.toNat :: units s := by
  simp [units, unitsOf, pointUnits, h]

theorem units_cons_of_le (h : 0x10000 ≤ c.toNat) (s : List Char) :
    ∃ us, units (c :: s) = (0xD800 + (c.toNat - 0x10000) / 0x400) :: us := by
  simp [units, unitsOf, pointUnits, Nat.not_lt.2 h]

theorem units_cons_blank (h : isBlank c = true) (s : List Char) :
    units (c :: s) = c.toNat :: units s := by
  apply units_cons_of_lt
  have hlt := isBlankPoint_lt h
  omega

theorem isBlank_of_units_cons (h : units (c :: s) = u :: us) (hu : isBlankPoint u = true) :
    isBlank c = true := by
  obtain hone | ⟨-, high, low, htwo, hhigh, -⟩ := unitsOf_cases c
  · rw [units_cons, hone] at h
    obtain ⟨rfl, -⟩ := List.cons.inj h
    exact hu
  · rw [units_cons, htwo] at h
    obtain ⟨rfl, -⟩ := List.cons.inj h
    rw [hu] at hhigh
    contradiction

theorem units_eq_cons_iff (hc : c.toNat < 0xD800) :
    units s = c.toNat :: us ↔ ∃ t, s = c :: t ∧ us = units t := by
  constructor
  · intro h
    cases s with
    | nil => cases h
    | cons d t =>
      by_cases plane : d.toNat < 0x10000
      · rw [units_cons_of_lt plane] at h
        obtain ⟨hd, rfl⟩ := List.cons.inj h
        exact ⟨t, by rw [Char.toNat_inj.1 hd], rfl⟩
      · obtain ⟨vs, hvs⟩ := units_cons_of_le (Nat.not_lt.1 plane) t
        rw [hvs] at h
        have hd := (List.cons.inj h).1
        omega
  · rintro ⟨t, rfl, rfl⟩
    exact units_cons_of_lt (by omega) t

theorem le_move {runs : List Case.Run} {n : Nat} (h : ∀ run ∈ runs, 0x80 ≤ run.target)
    (hn : 0x80 ≤ n) : 0x80 ≤ Case.move runs n := by
  rw [Case.move]
  cases hfind : runs.findSome? (·.moved? n) with
  | none => exact hn
  | some m =>
    obtain ⟨run, hrun, hmoved⟩ := List.exists_of_findSome?_eq_some hfind
    have htarget := h run hrun
    simp only [Case.Run.moved?, Option.ite_none_right_eq_some, Option.some.injEq] at hmoved
    obtain ⟨-, rfl⟩ := hmoved
    exact Nat.le_add_right_of_le htarget

theorem fold_eq_slash_iff : fold u = fold '/'.toNat ↔ u = '/'.toNat := by
  refine ⟨fun h => ?_, fun h => by rw [h]⟩
  by_cases ascii : u < 0x80
  · have hall : ∀ u < 0x80, fold u = fold '/'.toNat → u = '/'.toNat := by decide
    exact hall u ascii h
  · have hruns : ∀ run ∈ Case.foldRuns, 0x80 ≤ run.target := by decide +kernel
    have hle : 0x80 ≤ fold u := by
      rw [fold, if_neg ascii]
      exact le_move hruns (Nat.not_lt.1 ascii)
    rw [h] at hle
    exact absurd hle (by decide)

end Text

inductive Part
  | blanks
  | word (units : List Nat)
  | oneOf (words : List (List Nat))

structure Pattern where
  ignoreCase : Bool
  parts : List Part

namespace Pattern

variable {ignoreCase : Bool} {part : Part} {parts : List Part} {us : List Nat}

def Copies (ignoreCase : Bool) (word us : List Nat) : Prop :=
  if ignoreCase then us.map Text.fold = word.map Text.fold else us = word

instance (ignoreCase : Bool) (word us : List Nat) : Decidable (Copies ignoreCase word us) :=
  inferInstanceAs (Decidable (if ignoreCase then _ else _))

def Takes (ignoreCase : Bool) (us : List Nat) : Part → Prop
  | .blanks => ∀ u ∈ us, Text.isBlankPoint u = true
  | .word word => Copies ignoreCase word us
  | .oneOf words => ∃ word ∈ words, Copies ignoreCase word us

instance (ignoreCase : Bool) (us : List Nat) : (part : Part) → Decidable (Takes ignoreCase us part)
  | .blanks => inferInstanceAs (Decidable (∀ u ∈ us, Text.isBlankPoint u = true))
  | .word word => inferInstanceAs (Decidable (Copies ignoreCase word us))
  | .oneOf words => inferInstanceAs (Decidable (∃ word ∈ words, Copies ignoreCase word us))

/-- The parts stand for a beginning of the text. Each may take as much of it as helps. -/
def Begins (ignoreCase : Bool) : List Part → List Nat → Prop
  | [], _ => True
  | part :: parts, us =>
    ∃ n ≤ us.length, Takes ignoreCase (us.take n) part ∧ Begins ignoreCase parts (us.drop n)

instance decidableBegins (ignoreCase : Bool) :
    (parts : List Part) → (us : List Nat) → Decidable (Begins ignoreCase parts us)
  | [], _ => inferInstanceAs (Decidable True)
  | _ :: parts, us =>
    have := decidableBegins ignoreCase parts
    inferInstanceAs (Decidable (∃ n ≤ us.length, _ ∧ _))

@[simp] theorem begins_nil (ignoreCase : Bool) (us : List Nat) : Begins ignoreCase [] us := trivial

theorem begins_cons_iff :
    Begins ignoreCase (part :: parts) us ↔ ∃ copy rest, us = copy ++ rest ∧
      Takes ignoreCase copy part ∧ Begins ignoreCase parts rest := by
  constructor
  · rintro ⟨n, -, htakes, hrest⟩
    exact ⟨us.take n, us.drop n, (us.take_append_drop n).symm, htakes, hrest⟩
  · rintro ⟨copy, rest, rfl, htakes, hrest⟩
    exact ⟨copy.length, by simp, by simpa using htakes, by simpa using hrest⟩

def Matches (pattern : Pattern) (us : List Nat) : Prop :=
  Begins pattern.ignoreCase pattern.parts us

instance (pattern : Pattern) (us : List Nat) : Decidable (pattern.Matches us) :=
  inferInstanceAs (Decidable (Begins _ _ us))

def isSpecial (u : Nat) : Bool :=
  u ∈ ['^', '$', '\\', '.', '*', '+', '?', '(', ')', '[', ']', '\x7b', '\x7d', '|'].map Char.toNat

def escape (word : List Nat) : List Nat :=
  word.flatMap fun u => if isSpecial u then ['\\'.toNat, u] else [u]

def alternatives : List Nat → Option (List (List Nat))
  | [] => some [[]]
  | u :: us =>
    if u = '\\'.toNat then
      match us with
      | v :: us => if isSpecial v then (alternatives us).map (List.modifyHead (v :: ·)) else none
      | [] => none
    else if u = '|'.toNat then (alternatives us).map ([] :: ·)
    else if isSpecial u then none
    else (alternatives us).map (List.modifyHead (u :: ·))

theorem alternatives_escaped {u : Nat} (special : isSpecial u = true) (us : List Nat) :
    alternatives ('\\'.toNat :: u :: us) = (alternatives us).map (List.modifyHead (u :: ·)) := by
  rw [alternatives, if_pos rfl, if_pos special]

theorem alternatives_bar (us : List Nat) :
    alternatives ('|'.toNat :: us) = (alternatives us).map ([] :: ·) := by
  rw [alternatives.eq_def]
  rfl

theorem alternatives_plain {u : Nat} (plain : ¬isSpecial u = true) (us : List Nat) :
    alternatives (u :: us) = (alternatives us).map (List.modifyHead (u :: ·)) := by
  have hescape : u ≠ '\\'.toNat := fun h => plain (by rw [h]; decide)
  have hbar : u ≠ '|'.toNat := fun h => plain (by rw [h]; decide)
  rw [alternatives.eq_def]
  dsimp only
  rw [if_neg hescape, if_neg hbar, if_neg plain]

theorem alternatives_escape_append (word us : List Nat) :
    alternatives (escape word ++ us) = (alternatives us).map (List.modifyHead (word ++ ·)) := by
  induction word with
  | nil =>
    have hid : List.modifyHead (fun word : List Nat => word) = id := by
      funext words
      cases words <;> rfl
    simp [escape, hid]
  | cons u word ih =>
    have hcons : List.modifyHead (u :: ·) ∘ List.modifyHead (word ++ ·) =
        List.modifyHead (u :: word ++ ·) := by
      funext words
      cases words <;> rfl
    rw [escape, List.flatMap_cons, List.append_assoc, ← escape]
    split
    next special =>
      rw [List.cons_append, List.singleton_append, alternatives_escaped special, ih, Option.map_map,
        hcons]
    next plain =>
      rw [List.singleton_append, alternatives_plain plain, ih, Option.map_map, hcons]

theorem alternatives_intercalate {words : List (List Nat)} (hne : words ≠ []) :
    alternatives (['|'.toNat].intercalate (words.map escape)) = some words := by
  induction words with
  | nil => exact absurd rfl hne
  | cons word words ih =>
    cases words with
    | nil =>
      have hword := alternatives_escape_append word []
      simpa [alternatives] using hword
    | cons next words =>
      rw [List.map_cons, List.map_cons, List.intercalate_cons_cons, List.append_assoc,
        alternatives_escape_append, List.singleton_append, alternatives_bar, ← List.map_cons,
        ih (List.cons_ne_nil next words)]
      simp

theorem not_begins_oneOf_nil (parts : List Part) :
    ¬Begins ignoreCase (parts ++ [.oneOf []]) us := by
  induction parts generalizing us with
  | nil => simp [Begins, Takes]
  | cons part parts ih =>
    rintro ⟨n, -, -, hrest⟩
    exact ih hrest

end Pattern

def SlashSlash (us : List Nat) (holds : List Nat → Prop) : Prop :=
  ∃ blanks rest, us = blanks ++ '/'.toNat :: '/'.toNat :: rest ∧
    (∀ u ∈ blanks, Text.isBlankPoint u = true) ∧ holds rest

section SlashSlash

variable {u : Nat} {us : List Nat} {holds : List Nat → Prop} {c : Char} {line body : List Char}

theorem slashSlash_cons_blank (hu : Text.isBlankPoint u = true) :
    SlashSlash (u :: us) holds ↔ SlashSlash us holds := by
  have noBlank : Text.isBlankPoint '/'.toNat = false := by decide
  constructor
  · rintro ⟨blanks, rest, heq, hblanks, hrest⟩
    cases blanks with
    | nil =>
      rw [(List.cons.inj heq).1, noBlank] at hu
      cases hu
    | cons v blanks =>
      exact ⟨blanks, rest, (List.cons.inj heq).2, (List.forall_mem_cons.1 hblanks).2, hrest⟩
  · rintro ⟨blanks, rest, rfl, hblanks, hrest⟩
    exact ⟨u :: blanks, rest, rfl, List.forall_mem_cons.2 ⟨hu, hblanks⟩, hrest⟩

theorem slashSlash_iff_of_head (h : ∀ u ∈ us.head?, Text.isBlankPoint u = false) :
    SlashSlash us holds ↔ ∃ rest, us = '/'.toNat :: '/'.toNat :: rest ∧ holds rest := by
  constructor
  · rintro ⟨blanks, rest, rfl, hblanks, hrest⟩
    cases blanks with
    | nil => exact ⟨rest, rfl, hrest⟩
    | cons v blanks =>
      have hv := h v rfl
      rw [(List.forall_mem_cons.1 hblanks).1] at hv
      cases hv
  · rintro ⟨rest, rfl, hrest⟩
    exact ⟨[], rest, rfl, by simp, hrest⟩

theorem leadingBody?_eq_some_iff_of_not_blank (hc : ¬Text.isBlank c = true) :
    leadingBody? (c :: line) = some body ↔ c :: line = '/' :: '/' :: body := by
  rw [leadingBody?, Text.trimStart_cons, if_neg hc]
  split <;> simp_all

theorem slashSlash_units_iff :
    SlashSlash (Text.units line) holds ↔
      ∃ body, leadingBody? line = some body ∧ holds (Text.units body) := by
  have hslash : '/'.toNat < 0xD800 := by decide
  induction line with
  | nil =>
    rw [slashSlash_iff_of_head (by simp [Text.units])]
    simp [Text.units, leadingBody?, Text.trimStart]
  | cons c s ih =>
    by_cases hc : Text.isBlank c = true
    · rw [leadingBody?_cons_blank hc, Text.units_cons_blank hc, slashSlash_cons_blank hc]
      exact ih
    · have hhead : ∀ u ∈ (Text.units (c :: s)).head?, Text.isBlankPoint u = false := by
        intro u hu
        obtain ⟨us, heq⟩ := List.head?_eq_some_iff.1 hu
        exact eq_false_of_ne_true (mt (Text.isBlank_of_units_cons heq) hc)
      rw [slashSlash_iff_of_head hhead]
      simp only [leadingBody?_eq_some_iff_of_not_blank hc]
      constructor
      · rintro ⟨rest, heq, hrest⟩
        obtain ⟨t, hline, ht⟩ := (Text.units_eq_cons_iff hslash).1 heq
        obtain ⟨body, rfl, rfl⟩ := (Text.units_eq_cons_iff hslash).1 ht.symm
        exact ⟨body, hline, hrest⟩
      · rintro ⟨body, hline, hrest⟩
        rw [hline]
        exact ⟨Text.units body, rfl, hrest⟩

end SlashSlash

structure Decision where
  verdict : Verdict
  text : List Char
  next : Context
  deriving DecidableEq

namespace Policy

variable {p : Policy} {ctx : Context} {line body : List Char} {us : List Nat}

open Pattern

def words (p : Policy) : List (List Nat) :=
  (p.markers.filter fun marker => !marker.isEmpty).map Wide.units

def alternation (p : Policy) : List Nat :=
  ['|'.toNat].intercalate (p.words.map escape)

def markerPatterns (p : Policy) (front : List Part) : List Pattern :=
  if p.words = [] then []
  else (alternatives p.alternation).toList.map fun words => ⟨true, front ++ [.blanks, .oneOf words]⟩

def bodyPatterns (p : Policy) : List Pattern :=
  p.markerPatterns []

def linePatterns (p : Policy) : List Pattern :=
  ⟨false, [.blanks, .word (Text.units "//!".toList)]⟩ ::
    ⟨false, [.blanks, .word (Text.units "///".toList)]⟩ ::
      p.markerPatterns [.blanks, .word (Text.units "//".toList)]

theorem exists_markerPatterns_iff (front : List Part) :
    (∃ pattern ∈ p.markerPatterns front, pattern.Matches us) ↔
      Begins true (front ++ [.blanks, .oneOf p.words]) us := by
  rw [markerPatterns]
  split
  next hnone =>
    refine iff_of_false (by simp) ?_
    rw [hnone, List.append_cons]
    exact not_begins_oneOf_nil _
  next hsome =>
    rw [alternation, alternatives_intercalate hsome]
    simp [Matches]

theorem begins_words_iff : Begins true [.blanks, .oneOf p.words] us ↔ p.MarkedUnits us := by
  simp only [begins_cons_iff, begins_nil, and_true]
  constructor
  · rintro ⟨blanks, -, rfl, hblanks, copy, rest, rfl, word, hword, hcopy⟩
    obtain ⟨marker, hmarker, rfl⟩ := List.mem_map.1 hword
    obtain ⟨hmem, hne⟩ := List.mem_filter.1 hmarker
    refine ⟨marker, hmem, ?_, blanks, copy, rest, rfl, hblanks, hcopy⟩
    simpa [Wide.isEmpty] using hne
  · rintro ⟨marker, hmem, hne, blanks, copy, rest, rfl, hblanks, hcopy⟩
    have hmarker : marker ∈ p.markers.filter fun marker => !marker.isEmpty :=
      List.mem_filter.2 ⟨hmem, by simpa [Wide.isEmpty] using hne⟩
    exact ⟨blanks, copy ++ rest, rfl, hblanks, copy, rest, rfl, marker.units,
      List.mem_map_of_mem hmarker, hcopy⟩

theorem exists_bodyPatterns_iff :
    (∃ pattern ∈ p.bodyPatterns, pattern.Matches (Text.units body)) ↔ p.marks body = true := by
  rw [bodyPatterns, exists_markerPatterns_iff, List.nil_append, begins_words_iff, marks_iff, Marked]

theorem begins_doc_iff {c : Char} (hc : c.toNat < 0xD800) :
    Begins false [.blanks, .word (Text.units ['/', '/', c])] (Text.units line) ↔
      ∃ body, leadingBody? line = some body ∧ ∃ rest, body = c :: rest := by
  have hword : Text.units ['/', '/', c] = ['/'.toNat, '/'.toNat, c.toNat] := by
    rw [Text.units_cons_of_lt (by decide), Text.units_cons_of_lt (by decide),
      Text.units_cons_of_lt (by omega)]
    rfl
  have hbody (body : List Char) :
      (∃ us, Text.units body = c.toNat :: us) ↔ ∃ rest, body = c :: rest := by
    simp only [Text.units_eq_cons_iff hc]
    exact ⟨fun ⟨_, t, hbody, _⟩ => ⟨t, hbody⟩, fun ⟨t, hbody⟩ => ⟨_, t, hbody, rfl⟩⟩
  have hread : SlashSlash (Text.units line) (fun us => ∃ rest, us = c.toNat :: rest) ↔
      ∃ body, leadingBody? line = some body ∧ ∃ us, Text.units body = c.toNat :: us :=
    slashSlash_units_iff
  simp only [← hbody]
  rw [← hread, begins_cons_iff, hword]
  simp only [begins_cons_iff, begins_nil, and_true]
  constructor
  · rintro ⟨blanks, -, heq, hblanks, copy, rest, rfl, rfl⟩
    exact ⟨blanks, c.toNat :: rest, heq, hblanks, rest, rfl⟩
  · rintro ⟨blanks, -, heq, hblanks, us, rfl⟩
    exact ⟨blanks, _, heq, hblanks, _, us, rfl, rfl⟩

theorem copies_slash_slash_iff :
    Copies true (Text.units "//".toList) us ↔ us = ['/'.toNat, '/'.toNat] := by
  have hword : Text.units "//".toList = ['/'.toNat, '/'.toNat] := rfl
  rw [hword, Copies, if_pos rfl]
  constructor
  · intro h
    obtain ⟨u, vs, rfl, hu, hvs⟩ := List.map_eq_cons_iff.1 h
    obtain ⟨v, ws, rfl, hv, hws⟩ := List.map_eq_cons_iff.1 hvs
    rw [Text.fold_eq_slash_iff.1 hu, Text.fold_eq_slash_iff.1 hv, List.map_eq_nil_iff.1 hws]
  · rintro rfl
    rfl

theorem begins_marker_iff :
    Begins true [.blanks, .word (Text.units "//".toList), .blanks, .oneOf p.words]
        (Text.units line) ↔
      ∃ body, leadingBody? line = some body ∧ p.marks body = true := by
  simp only [marks_iff, Marked]
  rw [← slashSlash_units_iff, begins_cons_iff]
  constructor
  · rintro ⟨blanks, tail, heq, hblanks, htail⟩
    obtain ⟨copy, rest, rfl, hcopy, hrest⟩ := begins_cons_iff.1 htail
    obtain rfl := copies_slash_slash_iff.1 hcopy
    exact ⟨blanks, rest, heq, hblanks, begins_words_iff.1 hrest⟩
  · rintro ⟨blanks, rest, heq, hblanks, hrest⟩
    refine ⟨blanks, _, heq, hblanks, begins_cons_iff.2 ?_⟩
    exact ⟨['/'.toNat, '/'.toNat], rest, rfl, copies_slash_slash_iff.2 rfl,
      begins_words_iff.2 hrest⟩

theorem isDocBody_iff :
    isDocBody body = true ↔ (∃ rest, body = '!' :: rest) ∨ ∃ rest, body = '/' :: rest := by
  rw [← Bool.not_eq_false, isDocBody_eq_false_iff, ← not_iff_not, not_not]
  cases body <;> simp [and_comm]

theorem exists_linePatterns_iff :
    (∃ pattern ∈ p.linePatterns, pattern.Matches (Text.units line)) ↔
      ∃ body, leadingBody? line = some body ∧ (isDocBody body = true ∨ p.marks body = true) := by
  rw [linePatterns, List.exists_mem_cons_iff, List.exists_mem_cons_iff, exists_markerPatterns_iff]
  have hbang : '!'.toNat < 0xD800 := by decide
  have hslash : '/'.toNat < 0xD800 := by decide
  refine (or_congr (begins_doc_iff hbang) <|
    or_congr (begins_doc_iff hslash) begins_marker_iff).trans ?_
  simp only [isDocBody_iff, and_or_left, exists_or, or_assoc]

/-- The verdict on a line that is kept if one of the patterns finds it, and read otherwise. -/
def judgeWith (p : Policy) (patterns : List Pattern) (ctx : Context) (line : List Char) : Verdict :=
  if ∃ pattern ∈ patterns, pattern.Matches (Text.units line) then .keep
  else p.judgeReading ctx line

def decideWith (p : Policy) (patterns : List Pattern) (ctx : Context) (line : List Char) :
    Decision where
  verdict := p.judgeWith patterns ctx line
  text := (p.judgeWith patterns ctx line).text line
  next := ctx.next p.headerLines line

theorem judgeWith_nil (p : Policy) (ctx : Context) (line : List Char) :
    p.judgeWith [] ctx line = p.judgeReading ctx line :=
  if_neg (by simp)

theorem judgeWith_linePatterns (p : Policy) (ctx : Context) (line : List Char) :
    p.judgeWith p.linePatterns ctx line = p.judge ctx line := by
  have hlook : (∃ pattern ∈ p.linePatterns, pattern.Matches (Text.units line)) ↔
      ((leadingBody? line).any fun body => isDocBody body || p.marks body) = true := by
    rw [exists_linePatterns_iff]
    simp [Option.any_eq_true]
  rw [judgeWith, judge]
  exact if_congr hlook rfl rfl

theorem exists_read_of_leadingBody? (ctx : Context) (h : leadingBody? line = some body) :
    ctx.inBlock = true ∨
      ∃ code, Text.Blank code ∧ read ctx.mode line = .comment code body := by
  cases hblock : ctx.inBlock with
  | true => exact .inl rfl
  | false =>
    rw [Context.mode_of_not_inBlock hblock]
    exact .inr (read_of_leadingBody? h)

/-- Without the patterns the same is decided about each line in each context. A line that one of
them finds starts in a block comment, or belongs to the header, or is read as a doc or marked
comment. -/
theorem decideWith_linePatterns (p : Policy) (ctx : Context) (line : List Char) :
    (p.decideWith p.linePatterns ctx line).verdict = p.judge ctx line ∧
      p.decideWith [] ctx line = p.decideWith p.linePatterns ctx line ∧
      ((∃ pattern ∈ p.linePatterns, pattern.Matches (Text.units line)) →
        p.decideWith [] ctx line = ⟨.keep, line, ctx.next p.headerLines line⟩ ∧
          (ctx.inBlock = true ∨ ctx.isHeader p.headerLines line = true ∨
            ∃ code body, Text.Blank code ∧ read ctx.mode line = .comment code body ∧
              (isDocBody body = true ∨
                ∃ pattern ∈ p.bodyPatterns, pattern.Matches (Text.units body)))) := by
  have hsame : p.judgeWith [] ctx line = p.judgeWith p.linePatterns ctx line := by
    rw [judgeWith_nil, judgeWith_linePatterns, judge_eq_judgeReading]
  refine ⟨p.judgeWith_linePatterns ctx line, by rw [decideWith, hsame, decideWith], fun h => ?_⟩
  constructor
  · rw [decideWith, hsame, judgeWith, if_pos h]
    rfl
  · obtain ⟨body, hbody, protect⟩ := exists_linePatterns_iff.1 h
    obtain hblock | ⟨code, blank, hread⟩ := exists_read_of_leadingBody? ctx hbody
    · exact .inl hblock
    · exact .inr (.inr ⟨code, body, blank, hread, protect.imp_right exists_bodyPatterns_iff.2⟩)

theorem decideWith_linePatterns_special :
    let p : Policy := { markers := ["", " (a|b)*", "\\"] }
    let ctx : Context := ⟨false, true, -3⟩
    let line := "\u3000//  (A|B)*!".toList
    (∃ pattern ∈ p.linePatterns, pattern.Matches (Text.units line)) ∧
      p.decideWith [] ctx line = ⟨.keep, line, ⟨false, true, -2⟩⟩ := by
  intro p ctx line
  have hmatches : ∃ pattern ∈ p.linePatterns, pattern.Matches (Text.units line) :=
    exists_linePatterns_iff.2 ⟨"  (A|B)*!".toList, by decide, .inr (by decide)⟩
  have hnext : ctx.next p.headerLines line = ⟨false, true, -2⟩ := by decide
  exact ⟨hmatches, hnext ▸ ((decideWith_linePatterns p ctx line).2.2 hmatches).1⟩

end Policy

end LineComment
