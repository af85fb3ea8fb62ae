import LineComment.Proofs.Blank
import LineComment.Source

namespace LineComment

theorem not_mem_of_mem_splitOn {a : Char} {s t : List Char} (h : t ∈ s.splitOn a) : a ∉ t := by
  induction s generalizing t with
  | nil =>
    obtain rfl : t = [] := by simpa using h
    simp
  | cons c s ih =>
    obtain ⟨u, us, hus⟩ := List.exists_cons_of_ne_nil (List.splitOn_ne_nil a s)
    rw [List.splitOn_cons_eq_if_modifyHead, hus] at h
    split at h
    next =>
      rcases List.mem_cons.1 h with rfl | h
      · simp
      · exact ih (hus ▸ h)
    next hc =>
      rcases List.mem_cons.1 h with rfl | h
      · have hu : a ∉ u := ih (hus ▸ List.mem_cons_self)
        simpa [hu] using fun h₀ : a = c => hc (by simp [h₀])
      · exact ih (hus ▸ List.mem_cons_of_mem u h)

namespace Line

variable {line : Line} {s code : List Char}

structure Proper (line : Line) : Prop where
  noFeed : '\n' ∉ line.text
  noReturn : line.carriageReturn = false → line.text.getLast? ≠ some '\r'

theorem proper_of_text_eq_nil (h : line.text = []) : line.Proper :=
  ⟨by simp [h], by simp [h]⟩

theorem proper_ofChars (h : '\n' ∉ s) : (ofChars s).Proper := by
  unfold ofChars
  split
  next => exact ⟨fun hs => h (List.dropLast_subset s hs), by simp⟩
  next hr => exact ⟨h, fun _ => hr⟩

theorem ofChars_chars (h : line.Proper) : ofChars line.chars = line := by
  obtain ⟨text, carriageReturn⟩ := line
  cases carriageReturn with
  | true => simp [chars, ofChars]
  | false => simp [chars, ofChars, h.noReturn rfl]

theorem Proper.feed_not_mem_chars (h : line.Proper) : '\n' ∉ line.chars := by
  unfold chars
  split
  next => simpa using h.noFeed
  next => exact h.noFeed

theorem Proper.tail {c : Char} {s : List Char} {r : Bool} (h : Proper ⟨c :: s, r⟩) :
    Proper ⟨s, r⟩ := by
  refine ⟨fun hfeed => h.noFeed (List.mem_cons_of_mem c hfeed), fun hr hreturn => ?_⟩
  apply h.noReturn hr
  rw [List.getLast?_cons, hreturn]
  rfl

theorem Proper.cut (h : line.Proper) (hcode : code <+: line.text) :
    Proper { line with text := Text.trimEnd code } := by
  have hcut : Text.trimEnd code <+: line.text := (Text.trimEnd_prefix code).trans hcode
  refine ⟨fun hfeed => h.noFeed (hcut.subset hfeed), fun _ hreturn => ?_⟩
  have := Text.isBlank_getLast?_trimEnd hreturn
  exact absurd this (by decide)

end Line

namespace Source

variable {source : Source} {s : List Char}

structure Proper (source : Source) : Prop where
  nonempty : source.lines ≠ []
  lines : ∀ line ∈ source.lines, line.Proper
  unmarked : source.mark = false → source.chars.head? ≠ some '\uFEFF'

theorem ofChars_mark (s : List Char) :
    ofChars ('\uFEFF' :: s) = ⟨true, (s.splitOn '\n').map Line.ofChars⟩ := rfl

theorem ofChars_of_head?_ne (h : s.head? ≠ some '\uFEFF') :
    ofChars s = ⟨false, (s.splitOn '\n').map Line.ofChars⟩ := by
  unfold ofChars
  split
  next => simp at h
  next => rfl

theorem mark_ofChars_eq_true_iff : (ofChars s).mark = true ↔ s.head? = some '\uFEFF' := by
  constructor
  · intro h
    by_contra hne
    rw [ofChars_of_head?_ne hne] at h
    cases h
  · intro h
    obtain ⟨t, rfl⟩ := List.head?_eq_some_iff.1 h
    rfl

theorem splitOn_chars (hne : source.lines ≠ []) (h : ∀ line ∈ source.lines, line.Proper) :
    ((['\n'].intercalate (source.lines.map Line.chars)).splitOn '\n').map Line.ofChars =
      source.lines := by
  have hfeed : ∀ l ∈ source.lines.map Line.chars, '\n' ∉ l := by
    intro l hl
    obtain ⟨line, hline, rfl⟩ := List.mem_map.1 hl
    exact (h line hline).feed_not_mem_chars
  rw [List.splitOn_intercalate '\n' hfeed (by simpa using hne), List.map_map]
  calc
    source.lines.map (Line.ofChars ∘ Line.chars) = source.lines.map id :=
      List.map_congr_left fun line hline => Line.ofChars_chars (h line hline)
    _ = source.lines := List.map_id _

theorem Proper.ofChars_chars (h : source.Proper) : ofChars source.chars = source := by
  have hlines := splitOn_chars h.nonempty h.lines
  have hunmarked := h.unmarked
  obtain ⟨mark, lines⟩ := source
  cases mark with
  | true =>
    simp only [chars, if_true, List.singleton_append, ofChars_mark]
    rw [hlines]
  | false =>
    rw [ofChars_of_head?_ne (hunmarked rfl)]
    simpa [chars] using hlines

theorem proper_of_mem_ofChars {line : Line} (h : line ∈ (ofChars s).lines) : line.Proper := by
  have hmap : ∃ t : List Char, line ∈ (t.splitOn '\n').map Line.ofChars := by
    unfold ofChars at h
    split at h
    next t => exact ⟨t, h⟩
    next => exact ⟨s, h⟩
  obtain ⟨t, ht⟩ := hmap
  obtain ⟨u, hu, rfl⟩ := List.mem_map.1 ht
  exact Line.proper_ofChars (not_mem_of_mem_splitOn hu)

theorem proper_ofChars (s : List Char) : (ofChars s).Proper := by
  refine ⟨?_, fun _ => proper_of_mem_ofChars, fun hmark => ?_⟩
  · unfold ofChars
    split <;> simp [List.splitOn_ne_nil]
  · rw [chars_ofChars, Ne, ← mark_ofChars_eq_true_iff, hmark]
    exact Bool.false_ne_true

/-- What a source is read as once it is written out. A byte order mark of the first line becomes
that of the text if the text has none, and no line at all becomes an empty one. -/
def reread : Source → Source
  | ⟨mark, []⟩ => ⟨mark, [⟨[], false⟩]⟩
  | ⟨false, ⟨'\uFEFF' :: s, carriageReturn⟩ :: lines⟩ => ⟨true, ⟨s, carriageReturn⟩ :: lines⟩
  | source => source

theorem chars_cons (mark : Bool) (c : Char) (s : List Char) (r : Bool) (lines : List Line) :
    chars ⟨mark, ⟨c :: s, r⟩ :: lines⟩ =
      (if mark then ['\uFEFF'] else []) ++ c :: chars ⟨false, ⟨s, r⟩ :: lines⟩ := by
  have hline : Line.chars ⟨c :: s, r⟩ = c :: Line.chars ⟨s, r⟩ := by
    cases r <;> rfl
  cases lines with
  | nil => simp [chars, hline]
  | cons line lines => simp [chars, hline, List.intercalate_cons_cons]

theorem chars_cons_of_ne_nil {lines : List Line} (line : Line) (hne : lines ≠ []) :
    chars ⟨false, line :: lines⟩ = line.chars ++ '\n' :: chars ⟨false, lines⟩ := by
  simp [chars, List.intercalate_cons_of_ne_nil (mt List.map_eq_nil_iff.1 hne)]

theorem chars_true (lines : List Line) : chars ⟨true, lines⟩ = '\uFEFF' :: chars ⟨false, lines⟩ :=
  rfl

theorem chars_append_singleton {mark : Bool} {before : List Line} (hne : before ≠ [])
    (last : Line) :
    chars ⟨mark, before ++ [last]⟩ = chars ⟨mark, before⟩ ++ '\n' :: last.chars := by
  have hplain : chars ⟨false, before ++ [last]⟩ = chars ⟨false, before⟩ ++ '\n' :: last.chars := by
    induction before with
    | nil => exact absurd rfl hne
    | cons line before ih =>
      rw [List.cons_append, chars_cons_of_ne_nil line (by simp)]
      cases before with
      | nil => simp [chars]
      | cons next before =>
        rw [ih (by simp), chars_cons_of_ne_nil line (by simp), List.append_assoc, List.cons_append]
  cases mark with
  | false => exact hplain
  | true => rw [chars_true, chars_true, hplain, List.cons_append]

theorem chars_reread (source : Source) : source.reread.chars = source.chars := by
  unfold reread
  split
  next => simp [chars, Line.chars]
  next s r lines =>
    rw [chars_cons]
    simp [chars]
  next => rfl

theorem head?_chars_ne {r : Bool} {lines : List Line} :
    (chars ⟨false, ⟨[], r⟩ :: lines⟩).head? ≠ some '\uFEFF' := by
  cases r <;> cases lines <;> simp [chars, Line.chars, List.intercalate_cons_cons]

theorem proper_reread (h : ∀ line ∈ source.lines, line.Proper) : source.reread.Proper := by
  unfold reread
  split
  next mark =>
    refine ⟨by simp, ?_, ?_⟩
    · intro line hline
      obtain rfl : line = ⟨[], false⟩ := by simpa using hline
      exact Line.proper_of_text_eq_nil rfl
    · rintro rfl
      exact head?_chars_ne
  next s r lines =>
    obtain ⟨first, rest⟩ := List.forall_mem_cons.1 h
    exact ⟨by simp, List.forall_mem_cons.2 ⟨first.tail, rest⟩, by simp⟩
  next noLine noMark =>
    obtain ⟨mark, lines⟩ := source
    cases lines with
    | nil => exact (noLine mark rfl).elim
    | cons line lines =>
      refine ⟨by simp, h, ?_⟩
      rintro rfl
      obtain ⟨text, r⟩ := line
      cases text with
      | nil => exact head?_chars_ne
      | cons c s =>
        rw [chars_cons]
        have hc : c ≠ '\uFEFF' := by
          rintro rfl
          exact noMark s r lines rfl
        simpa using hc

theorem ofChars_chars (h : ∀ line ∈ source.lines, line.Proper) :
    ofChars source.chars = source.reread := by
  rw [← chars_reread]
  exact (proper_reread h).ofChars_chars

end Source

end LineComment
