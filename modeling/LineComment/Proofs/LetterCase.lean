import LineComment.Proofs.Decisions
import LineComment.Proofs.Outline
import LineComment.Proofs.Rewording

namespace LineComment

namespace Text

variable {c d : Char} {s t : List Char} {u : Nat} {us : List Nat}

def uncased (s : List Char) : List Char :=
  s.map Char.toLower

@[simp] theorem uncased_nil : uncased [] = [] := rfl

@[simp] theorem uncased_cons (c : Char) (s : List Char) :
    uncased (c :: s) = c.toLower :: uncased s := rfl

@[simp] theorem uncased_append (s t : List Char) : uncased (s ++ t) = uncased s ++ uncased t :=
  List.map_append

def lowerUnit (u : Nat) : Nat :=
  if 'A'.toNat ≤ u ∧ u ≤ 'Z'.toNat then u + 0x20 else u

theorem lowerUnit_of_le (h : 0x80 ≤ u) : lowerUnit u = u := by
  have hletter : ¬('A'.toNat ≤ u ∧ u ≤ 'Z'.toNat) := by
    have hz : 'Z'.toNat = 0x5A := rfl
    omega
  rw [lowerUnit, if_neg hletter]

theorem toNat_toLower (c : Char) : c.toLower.toNat = lowerUnit c.toNat := by
  have hA : 'A'.val.toNat = 0x41 := rfl
  have hZ : 'Z'.val.toNat = 0x5A := rfl
  unfold Char.toLower lowerUnit
  simp only [Char.toNat, ge_iff_le, UInt32.le_iff_toNat_le]
  split
  next h =>
    have hdistance : ('a'.val - 'A'.val).toNat = 0x20 := rfl
    rw [UInt32.toNat_add, hdistance]
    omega
  next => rfl

theorem toLower_eq_iff (hd : d.isAlpha = false) : c.toLower = d ↔ c = d := by
  have hA : 'A'.val.toNat = 0x41 := rfl
  have hZ : 'Z'.val.toNat = 0x5A := rfl
  have ha : 'a'.val.toNat = 0x61 := rfl
  have hz : 'z'.val.toNat = 0x7A := rfl
  obtain ⟨hupper, hlower⟩ : d.isUpper = false ∧ d.isLower = false := Bool.or_eq_false_iff.1 hd
  have hupper : ¬('A'.val ≤ d.val ∧ d.val ≤ 'Z'.val) := of_decide_eq_false hupper
  have hlower := Bool.and_eq_false_iff.1 hlower
  simp only [decide_eq_false_iff_not, ge_iff_le, UInt32.le_iff_toNat_le] at hupper hlower
  rw [← Char.toNat_inj, ← Char.toNat_inj, toNat_toLower, lowerUnit]
  split
  next h =>
    simp only [Char.toNat] at h ⊢
    omega
  next => rfl

theorem toLower_of_le (h : 0x80 ≤ c.toNat) : c.toLower = c := by
  rw [← Char.toNat_inj, toNat_toLower, lowerUnit_of_le h]

theorem apply_lowerUnit {α : Type} {f : Nat → α} (h : ∀ u < 0x80, f (lowerUnit u) = f u) (u : Nat) :
    f (lowerUnit u) = f u := by
  by_cases ascii : u < 0x80
  · exact h u ascii
  · rw [lowerUnit_of_le (Nat.not_lt.1 ascii)]

theorem fold_lowerUnit (u : Nat) : fold (lowerUnit u) = fold u :=
  apply_lowerUnit (by decide) u

theorem isBlankPoint_lowerUnit (u : Nat) : isBlankPoint (lowerUnit u) = isBlankPoint u :=
  apply_lowerUnit (by decide) u

theorem isIgnorable_lowerUnit (u : Nat) : Case.isIgnorable (lowerUnit u) = Case.isIgnorable u :=
  apply_lowerUnit (by decide) u

theorem isCased_lowerUnit (u : Nat) : Case.isCased (lowerUnit u) = Case.isCased u :=
  apply_lowerUnit (by decide) u

theorem lowerPoint_lowerUnit (u : Nat) : Case.lowerPoint (lowerUnit u) = Case.lowerPoint u :=
  apply_lowerUnit (by decide) u

theorem lowerUnit_eq_sigma_iff (u : Nat) : lowerUnit u = 'Σ'.toNat ↔ u = 'Σ'.toNat :=
  iff_of_eq (@apply_lowerUnit Prop (· = 'Σ'.toNat) (by simp only [eq_iff_iff]; decide) u)

theorem unitsOf_toLower (c : Char) : unitsOf c.toLower = (unitsOf c).map lowerUnit := by
  by_cases ascii : c.toNat < 0x80
  · have hle : lowerUnit c.toNat ≤ c.toNat + 0x20 := by
      unfold lowerUnit
      split <;> omega
    rw [unitsOf, unitsOf, toNat_toLower, pointUnits, pointUnits, if_pos (by omega),
      if_pos (by omega), List.map_singleton]
  · have hunits : ∀ u ∈ unitsOf c, lowerUnit u = u := by
      intro u hu
      apply lowerUnit_of_le
      unfold unitsOf pointUnits at hu
      split at hu
      next =>
        simp only [List.mem_singleton] at hu
        omega
      next =>
        simp only [List.mem_cons, List.not_mem_nil, or_false] at hu
        omega
    rw [toLower_of_le (Nat.not_lt.1 ascii), List.map_congr_left hunits, List.map_id']

theorem units_uncased (s : List Char) : units (uncased s) = (units s).map lowerUnit := by
  induction s with
  | nil => rfl
  | cons c s ih =>
    rw [uncased_cons, units_cons, units_cons, unitsOf_toLower, ih, List.map_append]

theorem leads_map_lowerUnit (p us : List Nat) : leads p (us.map lowerUnit) = leads p us := by
  induction p generalizing us with
  | nil => simp
  | cons a p ih =>
    cases us with
    | nil => rfl
    | cons u us => rw [List.map_cons, leads, leads, fold_lowerUnit, ih]

theorem isBlank_toLower (c : Char) : isBlank c.toLower = isBlank c := by
  rw [isBlank, toNat_toLower, isBlankPoint_lowerUnit, isBlank]

theorem trimStart_uncased (s : List Char) : trimStart (uncased s) = uncased (trimStart s) := by
  have hblank : isBlank ∘ Char.toLower = isBlank := funext isBlank_toLower
  rw [trimStart, uncased, List.dropWhile_map, hblank, uncased, trimStart]

theorem trimEnd_uncased (s : List Char) : trimEnd (uncased s) = uncased (trimEnd s) := by
  rw [← s.reverse_reverse, trimEnd_reverse, uncased, List.map_reverse, trimEnd_reverse, ← uncased,
    trimStart_uncased, uncased, uncased, List.map_reverse]

theorem trim_uncased (s : List Char) : trim (uncased s) = uncased (trim s) := by
  rw [trim, trimStart_uncased, trimEnd_uncased, trim]

theorem blank_uncased_iff : Blank (uncased s) ↔ Blank s := by
  simp only [Blank, uncased, List.forall_mem_map, isBlank_toLower]

theorem beginsCased_map_lowerUnit (ns : List Nat) :
    Case.beginsCased (ns.map lowerUnit) = Case.beginsCased ns := by
  have hignorable : Case.isIgnorable ∘ lowerUnit = Case.isIgnorable := funext isIgnorable_lowerUnit
  rw [Case.beginsCased, Case.beginsCased, List.dropWhile_map, hignorable, List.head?_map,
    Option.any_map]
  simp only [isCased_lowerUnit]

theorem lowerFrom_map_lowerUnit (inWord : Bool) (ns : List Nat) :
    Case.lowerFrom inWord (ns.map lowerUnit) = Case.lowerFrom inWord ns := by
  induction ns generalizing inWord with
  | nil => rfl
  | cons n ns ih =>
    simp only [List.map_cons, Case.lowerFrom, lowerUnit_eq_sigma_iff, beginsCased_map_lowerUnit,
      lowerPoint_lowerUnit, isIgnorable_lowerUnit, isCased_lowerUnit, ih]

/-- The lower case of a text does not depend on the case of its ASCII letters, though that of a
sigma depends on the letters around it. -/
theorem lower_units_uncased (s : List Char) : lower (units (uncased s)) = lower (units s) := by
  have hpoints : (uncased s).map Char.toNat = (s.map Char.toNat).map lowerUnit := by
    simp [uncased, toNat_toLower]
  rw [lower, points_units, hpoints, lowerFrom_map_lowerUnit, ← points_units, lower]

end Text

open Text (uncased)

variable {p : Policy} {ctx : Context} {mode : Mode} {c d : Char}
  {line front body body' s : List Char}

section Wording

theorem isDocBody_uncased (body : List Char) : isDocBody (uncased body) = isDocBody body := by
  rw [Bool.eq_iff_iff, Policy.isDocBody_iff, Policy.isDocBody_iff]
  cases body with
  | nil => rfl
  | cons c s =>
    simp [Text.toLower_eq_iff (d := '!') (by decide), Text.toLower_eq_iff (d := '/') (by decide)]

namespace Policy

theorem marksUnits_map_lowerUnit (p : Policy) (us : List Nat) :
    p.marksUnits (us.map Text.lowerUnit) = p.marksUnits us := by
  induction us with
  | nil => rfl
  | cons u us ih =>
    have hleads := (Text.leads_map_lowerUnit · (u :: us))
    rw [List.map_cons] at hleads ⊢
    simp only [marksUnits, hleads, Text.isBlankPoint_lowerUnit, ih]

theorem marks_uncased (p : Policy) (body : List Char) : p.marks (uncased body) = p.marks body := by
  rw [marks, Text.units_uncased, marksUnits_map_lowerUnit, marks]

theorem isTrivial_uncased (p : Policy) (body : List Char) :
    p.isTrivial (uncased body) = p.isTrivial body := by
  rw [isTrivial, Text.trim_uncased, Text.lower_units_uncased, isTrivial]

end Policy

end Wording

section Reader

def Reading.map (f : List Char → List Char) : Reading → Reading
  | .comment code body => .comment (f code) (f body)
  | .bare mode => .bare mode

@[simp] theorem Reading.mode_map (f : List Char → List Char) (r : Reading) :
    (r.map f).mode = r.mode := by
  cases r <;> rfl

@[simp] theorem Reading.map_uncased_cons (c : Char) (r : Reading) :
    (r.cons c).map uncased = (r.map uncased).cons c.toLower := by
  cases r <;> rfl

theorem Quote.toLower_eq_char_iff (q : Quote) : c.toLower = q.char ↔ c = q.char := by
  cases q <;> exact Text.toLower_eq_iff (by decide)

theorem Quote.ofChar?_toLower (c : Char) : ofChar? c.toLower = ofChar? c := by
  have hsingle : c.toLower = '\'' ↔ c = '\'' := Text.toLower_eq_iff (by decide)
  have hdouble : c.toLower = '"' ↔ c = '"' := Text.toLower_eq_iff (by decide)
  grind [ofChar?]

theorem not_leads_uncased (hd : d.isAlpha = false) (h : ∀ u, s = d :: u → False) :
    ∀ u, uncased s = d :: u → False := by
  intro u hu
  cases s with
  | nil => cases hu
  | cons c s =>
    obtain rfl := (Text.toLower_eq_iff hd).1 (List.cons.inj hu).1
    exact h s rfl

theorem read_uncased (mode : Mode) (s : List Char) :
    read mode (uncased s) = (read mode s).map uncased := by
  fun_induction read mode s with
  | case1 mode => exact read_nil mode
  | case2 s ih =>
    rw [Reading.map_uncased_cons, Reading.map_uncased_cons, ← ih]
    rfl
  | case3 c s noClose ih =>
    rw [Text.uncased_cons, read, ih, Reading.map_uncased_cons]
    intro u hc
    have hstar := (Text.toLower_eq_iff (by decide)).1 hc
    exact not_leads_uncased (by decide) (fun v => noClose v hstar) u
  | case4 q => rfl
  | case5 q c s ih =>
    rw [Reading.map_uncased_cons, Reading.map_uncased_cons, ← ih]
    rfl
  | case6 q c s last more ih =>
    have escape : c.toLower ≠ '\\' := mt (Text.toLower_eq_iff (by decide)).1 (ne_escape last more)
    simp [read, escape, q.toLower_eq_char_iff, ih]
  | case7 s => rfl
  | case8 s ih =>
    rw [Reading.map_uncased_cons, Reading.map_uncased_cons, ← ih]
    rfl
  | case9 c s noLine noBlock ih =>
    rw [Text.uncased_cons, read, Quote.ofChar?_toLower, ih, Reading.map_uncased_cons]
    · intro u hc
      have hslash := (Text.toLower_eq_iff (by decide)).1 hc
      exact not_leads_uncased (by decide) (fun v => noLine v hslash) u
    · intro u hc
      have hslash := (Text.toLower_eq_iff (by decide)).1 hc
      exact not_leads_uncased (by decide) (fun v => noBlock v hslash) u

end Reader

namespace Context

theorem looksHeader_uncased (ctx : Context) (headerLines : Int) (line : List Char) :
    ctx.looksHeader headerLines (uncased line) = ctx.looksHeader headerLines line := by
  have hslash (c : Char) : c.toLower = '/' ↔ c = '/' := Text.toLower_eq_iff (by decide)
  have hstar (c : Char) : c.toLower = '*' ↔ c = '*' := Text.toLower_eq_iff (by decide)
  rw [looksHeader, looksHeader, Text.trim_uncased]
  obtain _ | ⟨c, _ | ⟨d, s⟩⟩ := Text.trim line
  · rfl
  · grind [Text.uncased]
  · grind [Text.uncased]

theorem next_uncased (ctx : Context) (headerLines : Int) (line : List Char) :
    ctx.next headerLines (uncased line) = ctx.next headerLines line := by
  rw [next, next, looksHeader_uncased, read_uncased, Reading.mode_map]

end Context

namespace Policy

theorem judgeComment_uncased (p : Policy) (code body : List Char) :
    p.judgeComment (uncased code) (uncased body) = (p.judgeComment code body).map uncased := by
  rw [judgeComment_eq, judgeComment_eq, isDocBody_uncased, marks_uncased, isTrivial_uncased,
    Text.trimEnd_uncased]
  simp only [Text.blank_uncased_iff]
  split
  next => rfl
  next =>
    split
    next => split <;> rfl
    next => rfl

theorem judge_uncased (p : Policy) (ctx : Context) (line : List Char) :
    p.judge ctx (uncased line) = (p.judge ctx line).map uncased := by
  rw [judge_eq_judgeReading, judge_eq_judgeReading, judgeReading, judgeReading, Context.isHeader,
    Context.looksHeader_uncased, ← Context.isHeader, read_uncased]
  split
  next => rfl
  next =>
    cases read ctx.mode line with
    | comment code body => exact p.judgeComment_uncased code body
    | bare => rfl

end Policy

namespace Text

theorem splitOn_uncased (hd : d.isAlpha = false) (s : List Char) :
    (uncased s).splitOn d = (s.splitOn d).map uncased := by
  induction s with
  | nil => simp
  | cons c s ih =>
    rw [uncased_cons, List.splitOn_cons_eq_if_modifyHead, List.splitOn_cons_eq_if_modifyHead, ih]
    simp only [beq_iff_eq, toLower_eq_iff hd]
    split
    next => rfl
    next => cases s.splitOn d <;> rfl

theorem intercalate_uncased (hd : d.isAlpha = false) (parts : List (List Char)) :
    [d].intercalate (parts.map uncased) = uncased ([d].intercalate parts) := by
  have hsame : d.toLower = d := (toLower_eq_iff hd).2 rfl
  induction parts with
  | nil => rfl
  | cons part parts ih =>
    cases parts with
    | nil => simp
    | cons next parts =>
      rw [List.map_cons, List.map_cons, List.intercalate_cons_cons, ← List.map_cons, ih,
        List.intercalate_cons_cons, uncased_append, uncased_append, uncased_cons, hsame,
        uncased_nil]

end Text

namespace Line

def uncased (line : Line) : Line :=
  { line with text := Text.uncased line.text }

@[simp] theorem text_uncased (line : Line) : line.uncased.text = Text.uncased line.text := rfl

theorem isEmpty_uncased (line : Line) : line.uncased.isEmpty = line.isEmpty := by
  simp [isEmpty, Text.uncased]

theorem ofChars_uncased (s : List Char) : ofChars (Text.uncased s) = (ofChars s).uncased := by
  have hlast : (Text.uncased s).getLast? = some '\r' ↔ s.getLast? = some '\r' := by
    simp [Text.uncased, Text.toLower_eq_iff]
  rw [ofChars, ofChars]
  simp only [hlast]
  split
  next => simp [uncased, Text.uncased, List.map_dropLast]
  next => rfl

theorem chars_uncased (line : Line) : line.uncased.chars = Text.uncased line.chars := by
  obtain ⟨text, carriageReturn⟩ := line
  cases carriageReturn with
  | true => exact (Text.uncased_append text ['\r']).symm
  | false => rfl

end Line

namespace Source

def uncased (source : Source) : Source :=
  { source with lines := source.lines.map Line.uncased }

theorem ofChars_uncased (content : List Char) :
    ofChars (Text.uncased content) = (ofChars content).uncased := by
  have hlines (s : List Char) : ((Text.uncased s).splitOn '\n').map Line.ofChars =
      ((s.splitOn '\n').map Line.ofChars).map Line.uncased := by
    rw [Text.splitOn_uncased (by decide), List.map_map, List.map_map]
    exact List.map_congr_left fun s _ => Line.ofChars_uncased s
  by_cases hmark : content.head? = some '\uFEFF'
  · obtain ⟨s, rfl⟩ := List.head?_eq_some_iff.1 hmark
    exact congrArg (Source.mk true) (hlines s)
  · have hmark' : (Text.uncased content).head? ≠ some '\uFEFF' := by
      cases content with
      | nil => simp
      | cons c s => simpa [Text.toLower_eq_iff] using hmark
    rw [ofChars_of_head?_ne hmark, ofChars_of_head?_ne hmark', hlines, uncased]

theorem chars_uncased (source : Source) : source.uncased.chars = Text.uncased source.chars := by
  have hchars : Line.chars ∘ Line.uncased = Text.uncased ∘ Line.chars := funext Line.chars_uncased
  rw [chars, uncased, List.map_map, hchars, ← List.map_map, Text.intercalate_uncased (by decide),
    chars, Text.uncased_append]
  cases source.mark <;> rfl

end Source

namespace Policy

theorem apply_judge_uncased (p : Policy) (ctx : Context) (line : Line) :
    (p.judge ctx line.uncased.text).apply line.uncased =
      ((p.judge ctx line.text).apply line).map Line.uncased := by
  rw [Line.text_uncased, judge_uncased]
  cases p.judge ctx line.text <;> rfl

theorem leave_uncased (p : Policy) (lines : List Line) :
    p.leave (lines.map Line.uncased) = (p.leave lines).map Line.uncased := by
  rw [leave_eq, leave_eq, ← collapseTail_map Line.isEmpty_uncased]
  congr 1
  exact survivors_map p.apply_judge_uncased fun ctx line => ctx.next_uncased p.headerLines line.text

theorem removals_uncased (p : Policy) (ctx : Context) (lines : List Line) :
    p.removals ctx (lines.map Line.uncased) = p.removals ctx lines := by
  induction lines generalizing ctx with
  | nil => rfl
  | cons line lines ih =>
    rw [List.map_cons, removals_cons, removals_cons, Line.text_uncased, judge_uncased,
      Context.next_uncased, ih, Verdict.removes_map]

theorem strip_uncased (p : Policy) (content : List Char) :
    p.strip (uncased content) =
      { p.strip content with content := uncased (p.strip content).content } := by
  have hcomments := p.removals_uncased .initial (Source.ofChars content).lines
  have hchars := Source.chars_uncased
    { Source.ofChars content with lines := p.leave (Source.ofChars content).lines }
  rw [removals, removals] at hcomments
  rw [Source.uncased] at hchars
  simp only [strip, Source.ofChars_uncased, Source.uncased, leave_uncased, List.length_map,
    hcomments, hchars]

theorem judge_recase (h : read ctx.mode line = .comment front body)
    (hcase : uncased body' = uncased body) :
    p.judge ctx (front ++ '/' :: '/' :: body') = p.judge ctx line := by
  have hdoc : isDocBody body' = isDocBody body := by
    rw [← isDocBody_uncased, hcase, isDocBody_uncased]
  have hmarks : p.marks body' = p.marks body := by rw [← marks_uncased, hcase, marks_uncased]
  have htrivial : p.isTrivial body' = p.isTrivial body := by
    rw [← isTrivial_uncased, hcase, isTrivial_uncased]
  have hheader : ctx.isHeader p.headerLines (front ++ '/' :: '/' :: body') =
      ctx.isHeader p.headerLines line := by
    rw [Context.isHeader, ctx.looksHeader_reword p.headerLines front body, ← eq_append_of_read h,
      ← Context.isHeader]
  rw [judge_eq_judgeReading, judge_eq_judgeReading, judgeReading, judgeReading, hheader,
    read_reword h, h]
  simp only [judgeComment, hdoc, hmarks, htrivial]

/-- The case of the letters in a comment does not matter for its line. The case of the letters in a
text, in comments or elsewhere, does not matter for how many comments and lines the text loses. -/
theorem decision_recase (p : Policy) :
    (∀ (ctx : Context) (line front body body' : List Char),
      read ctx.mode line = .comment front body → uncased body' = uncased body →
        (p.decision ctx (front ++ '/' :: '/' :: body')).verdict = (p.decision ctx line).verdict ∧
          (p.decision ctx (front ++ '/' :: '/' :: body')).next = (p.decision ctx line).next ∧
          ((p.decision ctx line).verdict ≠ .keep →
            (p.decision ctx (front ++ '/' :: '/' :: body')).text = (p.decision ctx line).text)) ∧
      ∀ content content' : List Char, uncased content' = uncased content →
        (p.strip content').removedComments = (p.strip content).removedComments ∧
          (p.strip content').removedLines = (p.strip content).removedLines := by
  constructor
  · intro ctx line front body body' h hcase
    have hverdict : p.judge ctx (front ++ '/' :: '/' :: body') = p.judge ctx line :=
      judge_recase h hcase
    refine ⟨hverdict, Context.next_reword h p.headerLines body', fun hgone => ?_⟩
    simp only [decision, hverdict] at hgone ⊢
    cases hjudge : p.judge ctx line with
    | keep => exact absurd hjudge hgone
    | cut | drop => rfl
  · intro content content' hcase
    have hstrip (content : List Char) :
        (p.strip content).removedComments = (p.strip (uncased content)).removedComments ∧
          (p.strip content).removedLines = (p.strip (uncased content)).removedLines := by
      rw [strip_uncased]
      exact ⟨rfl, rfl⟩
    rw [(hstrip content').1, (hstrip content').2, hcase]
    exact ⟨(hstrip content).1.symm, (hstrip content).2.symm⟩

theorem decision_recase_sigma :
    let p : Policy := { trivialPhrases := ["ΑΣ get"] }
    let body := " ΑΣ GET it done, so".toList
    let body' := " ΑΣ Get IT done, so".toList
    uncased body' = uncased body ∧
      (p.decision .initial ('/' :: '/' :: body')).verdict = .drop ∧
      (p.strip ("x\n//".toList ++ body')).removedComments = 1 ∧
      (p.strip ("x\n//".toList ++ body')).removedLines = 1 := by
  intro p body body'
  have hcase : uncased body' = uncased body := by decide
  have hread : read .code ('/' :: '/' :: body) = .comment [] body := by rw [read]
  have hdrop : (p.decision .initial ('/' :: '/' :: body)).verdict = .drop := by decide +kernel
  have hcomments : (p.strip ("x\n//".toList ++ body)).removedComments = 1 := by decide +kernel
  have hlines : (p.strip ("x\n//".toList ++ body)).removedLines = 1 := by decide +kernel
  obtain ⟨hdecision, hcounts⟩ := decision_recase p
  have hsame := hcounts ("x\n//".toList ++ body) ("x\n//".toList ++ body')
    (by rw [Text.uncased_append, hcase, Text.uncased_append])
  have hverdict := (hdecision .initial ('/' :: '/' :: body) [] body body' hread hcase).1
  exact ⟨hcase, hverdict.trans hdrop, hsame.1.trans hcomments, hsame.2.trans hlines⟩

end Policy

end LineComment
