import LineComment.Proofs.Survivors
import LineComment.Proofs.Wording
import Mathlib.Data.List.Forall2

/-! Two policies over one text, where one spares every comment that the other spares: the other
removes all that the one removes, and leaves a part of what it leaves. -/

namespace LineComment

theorem sublist_intercalate {separator : List Char} {parts parts' : List (List Char)}
    (h : List.SublistForall₂ List.Sublist parts parts') :
    (separator.intercalate parts).Sublist (separator.intercalate parts') := by
  induction h with
  | nil => exact List.nil_sublist _
  | @cons part part' rest rest' hpart hrest ih =>
    cases rest' with
    | nil =>
      cases hrest
      simpa using hpart
    | cons next' rest' =>
      rw [List.intercalate_cons_cons, List.append_assoc]
      cases rest with
      | nil => simpa using hpart.trans (List.sublist_append_left part' _)
      | cons next rest =>
        rw [List.intercalate_cons_cons, List.append_assoc]
        exact hpart.append (ih.append_left separator)
  | @cons_right part' rest rest' hrest ih =>
    cases rest' with
    | nil =>
      cases hrest
      exact List.nil_sublist _
    | cons next' rest' =>
      rw [List.intercalate_cons_cons]
      exact ih.trans (List.sublist_append_right _ _)

inductive Thinned : List Line → List Line → Prop
  | nil : Thinned [] []
  | kept {line line' : Line} {lines lines' : List Line} :
      line.chars.Sublist line'.chars → line.isEmpty = line'.isEmpty → Thinned lines lines' →
      Thinned (line :: lines) (line' :: lines')
  | gone {line' : Line} {lines lines' : List Line} :
      line'.isEmpty = false → Thinned lines lines' → Thinned lines (line' :: lines')

def Line.Within (line line' : Line) : Prop :=
  line.chars.Sublist line'.chars

instance : Std.Refl Line.Within :=
  ⟨fun line => List.Sublist.refl line.chars⟩

instance : IsTrans Line Line.Within :=
  ⟨fun _ _ _ => List.Sublist.trans⟩

namespace Thinned

variable {lines lines' rest rest' : List Line}

theorem within (h : Thinned lines lines') : List.SublistForall₂ Line.Within lines lines' := by
  induction h with
  | nil => exact .nil
  | kept hline _ _ ih => exact .cons hline ih
  | gone _ _ ih => exact .cons_right ih

theorem append (h : Thinned lines lines') (hrest : Thinned rest rest') :
    Thinned (lines ++ rest) (lines' ++ rest') := by
  induction h with
  | nil => exact hrest
  | kept hline hempty _ ih => exact .kept hline hempty ih
  | gone hempty _ ih => exact .gone hempty ih

theorem reverse (h : Thinned lines lines') : Thinned lines.reverse lines'.reverse := by
  induction h with
  | nil => exact .nil
  | kept hline hempty _ ih =>
    rw [List.reverse_cons, List.reverse_cons]
    exact ih.append (.kept hline hempty .nil)
  | @gone line' lines lines' hempty _ ih =>
    rw [List.reverse_cons, ← List.append_nil lines.reverse]
    exact ih.append (.gone hempty .nil)

theorem within_dropWhile (h : Thinned lines lines') :
    List.SublistForall₂ Line.Within (lines.dropWhile Line.isEmpty)
      (lines'.dropWhile Line.isEmpty) := by
  induction h with
  | nil => exact .nil
  | @kept line line' lines lines' hline hempty h ih =>
    rw [List.dropWhile_cons, List.dropWhile_cons, hempty]
    split
    next => exact ih
    next => exact .cons hline h.within
  | @gone line' lines lines' hempty h ih =>
    rw [List.dropWhile_cons_of_neg (by simp [hempty])]
    have hdrop : List.SublistForall₂ Line.Within (lines.dropWhile Line.isEmpty) lines :=
      (lines.dropWhile_sublist Line.isEmpty).sublistForall₂
    exact .cons_right (IsTrans.trans _ _ _ hdrop h.within)

theorem within_reverse (h : List.SublistForall₂ Line.Within lines lines') :
    List.SublistForall₂ Line.Within lines.reverse lines'.reverse := by
  obtain ⟨between, hwithin, hsub⟩ := List.sublistForall₂_iff.1 h
  exact List.sublistForall₂_iff.2
    ⟨between.reverse, List.forall₂_reverse_iff.2 hwithin, hsub.reverse⟩

/-- Lines that were taken out may have stood between empty ones. These then fall away with the end
of the text, so thinner lines stay fewer when both ends are collapsed. -/
theorem within_collapseTail (h : Thinned lines lines') :
    List.SublistForall₂ Line.Within (collapseTail lines) (collapseTail lines') := by
  have hcollapse (last : Line) (before : List Line) :
      collapseTail (last :: before).reverse =
        if last.isEmpty then (last :: before.dropWhile Line.isEmpty).reverse
        else (last :: before).reverse := by
    rw [collapseTail, List.reverse_reverse]
  have hsub : List.SublistForall₂ Line.Within (collapseTail lines) lines :=
    (collapseTail_sublist lines).sublistForall₂
  have hwhole : List.SublistForall₂ Line.Within (collapseTail lines) lines' :=
    IsTrans.trans _ _ _ hsub h.within
  have hreverse := h.reverse
  rw [← lines.reverse_reverse, ← lines'.reverse_reverse] at hwhole ⊢
  generalize lines.reverse = back, lines'.reverse = back' at hreverse hwhole ⊢
  cases hreverse with
  | nil => exact .nil
  | kept hlast hempty hbefore =>
    rw [hcollapse, hcollapse, hempty]
    split
    next => exact within_reverse (.cons hlast hbefore.within_dropWhile)
    next => exact within_reverse (.cons hlast hbefore.within)
  | gone hempty hbefore => rwa [hcollapse _ _, if_neg (by simp [hempty])]

end Thinned

theorem Line.within_of_prefix {line : Line} {text : List Char} (h : text <+: line.text) :
    Line.Within { line with text } line := by
  obtain ⟨whole, carriageReturn⟩ := line
  cases carriageReturn with
  | false => exact h.sublist
  | true => exact h.sublist.append_right ['\r']

theorem Source.sublist_chars {mark : Bool} {lines lines' : List Line}
    (h : List.SublistForall₂ Line.Within lines lines') :
    (chars ⟨mark, lines⟩).Sublist (chars ⟨mark, lines'⟩) := by
  have hchars :
      List.SublistForall₂ List.Sublist (lines.map Line.chars) (lines'.map Line.chars) := by
    rw [List.sublistForall₂_map_left_iff, List.sublistForall₂_map_right_iff]
    exact h
  exact (sublist_intercalate hchars).append_left _

namespace Context

variable {ctx ctx' : Context} {many few : Int} {line : List Char}

/-- In front of a line, the header of the first context may still be open where that of the second
has ended. All else is the same. -/
structure Outlasts (ctx ctx' : Context) : Prop where
  inBlock : ctx'.inBlock = ctx.inBlock
  index : ctx'.index = ctx.index
  pastHeader : ctx.pastHeader = true → ctx'.pastHeader = true

theorem Outlasts.refl : ctx.Outlasts ctx :=
  ⟨rfl, rfl, id⟩

theorem Outlasts.looksHeader (h : ctx.Outlasts ctx') (hle : few ≤ many)
    (hlook : ctx'.looksHeader few line = true) : ctx.looksHeader many line = true := by
  rw [Context.looksHeader] at hlook ⊢
  split at hlook
  next =>
    rw [decide_eq_true_eq, h.index] at hlook
    simpa using Int.lt_of_lt_of_le hlook hle
  next => rfl
  next => rfl
  next => cases hlook

theorem Outlasts.isHeader (h : ctx.Outlasts ctx') (hle : few ≤ many)
    (hheader : ctx'.isHeader few line = true) : ctx.isHeader many line = true := by
  obtain ⟨open', outside, hlook⟩ := isHeader_iff.1 hheader
  refine isHeader_iff.2 ⟨?_, h.inBlock ▸ outside, h.looksHeader hle hlook⟩
  rw [← Bool.not_eq_true] at open' ⊢
  exact mt h.pastHeader open'

theorem Outlasts.next (h : ctx.Outlasts ctx') (hle : few ≤ many) (line : List Char) :
    (ctx.next many line).Outlasts (ctx'.next few line) := by
  have hmode : ctx'.mode = ctx.mode := by rw [mode, h.inBlock, mode]
  refine ⟨by rw [Context.next, Context.next, hmode], by simp [h.index], fun hpast => ?_⟩
  simp only [Context.next, h.inBlock, Bool.or_eq_true, Bool.and_eq_true] at hpast ⊢
  obtain hpast | ⟨outside, hlook⟩ := hpast
  · exact .inl (h.pastHeader hpast)
  · refine .inr ⟨outside, ?_⟩
    simp only [Bool.not_eq_true', ← Bool.not_eq_true] at hlook ⊢
    exact mt (h.looksHeader hle) hlook

end Context

namespace Policy

variable {p o : Policy} {ctx ctx' : Context} {text code body : List Char}
  {lines : List Line} {judged : Line × Verdict} {i : Nat}

/-- The policy `p` keeps every comment that `o` keeps: it has all its markers, finds no more phrases
or lengths trivial, and takes no fewer lines for the header. -/
structure Spares (p o : Policy) : Prop where
  markers : ∀ marker ∈ o.markers, marker ∈ p.markers
  phrases : ∀ phrase ∈ p.trivialPhrases, phrase ∈ o.trivialPhrases
  length : p.shortCommentLength ≤ o.shortCommentLength
  header : o.headerLines ≤ p.headerLines

theorem Spares.marked (h : p.Spares o) (hbody : o.Marked body) : p.Marked body := by
  obtain ⟨marker, hmarker, hcopy⟩ := hbody
  exact ⟨marker, h.markers marker hmarker, hcopy⟩

theorem Spares.trivial (h : p.Spares o) (hbody : p.Trivial body) : o.Trivial body := by
  obtain hshort | ⟨phrase, hphrase, hoccurs⟩ := hbody
  · exact .inl (Int.lt_of_lt_of_le hshort h.length)
  · exact .inr ⟨phrase, h.phrases phrase hphrase, hoccurs⟩

theorem Spares.unprotected (h : p.Spares o) (hctx : ctx.Outlasts ctx')
    (htext : p.Unprotected ctx text code body) : o.Unprotected ctx' text code body := by
  refine ⟨hctx.inBlock ▸ htext.outside, ?_, htext.reading, htext.plain, ?_⟩
  · have hheader := htext.pastHeader
    rw [← Bool.not_eq_true] at hheader ⊢
    exact mt (hctx.isHeader h.header) hheader
  · have unmarked := htext.unmarked
    rw [← Bool.not_eq_true, marks_iff] at unmarked ⊢
    exact mt h.marked unmarked

theorem Spares.judge_eq (h : p.Spares o) (hctx : ctx.Outlasts ctx')
    (hremoves : (p.judge ctx text).removes = true) : o.judge ctx' text = p.judge ctx text := by
  have hjudged := p.judged ctx text
  generalize p.judge ctx text = verdict at hjudged hremoves ⊢
  cases hjudged with
  | keep => cases hremoves
  | cut unprotected hcode => exact (h.unprotected hctx unprotected).judge_eq_cut hcode
  | drop unprotected hcode trivial =>
    rw [isTrivial_iff] at trivial
    exact (h.unprotected hctx unprotected).judge_eq_drop hcode (isTrivial_iff.2 (h.trivial trivial))

theorem Spares.getElem?_judgeLines (h : p.Spares o) (hctx : ctx.Outlasts ctx')
    (hjudged : (p.judgeLines ctx lines)[i]? = some judged) (hremoves : judged.2.removes = true) :
    (o.judgeLines ctx' lines)[i]? = some judged := by
  induction lines generalizing ctx ctx' i with
  | nil => cases hjudged
  | cons line lines ih =>
    cases i with
    | zero =>
      obtain rfl : (line, p.judge ctx line.text) = judged := Option.some.inj hjudged
      exact congrArg (fun verdict => some (line, verdict)) (h.judge_eq hctx hremoves)
    | succ i => exact ih (hctx.next h.header line.text) hjudged

theorem Spares.countP_removes (h : p.Spares o) (hctx : ctx.Outlasts ctx') :
    (p.judgeLines ctx lines).countP (fun (_, verdict) => verdict.removes) ≤
      (o.judgeLines ctx' lines).countP fun (_, verdict) => verdict.removes := by
  induction lines generalizing ctx ctx' with
  | nil => rfl
  | cons line lines ih =>
    have hrest := ih (hctx.next h.header line.text)
    simp only [judgeLines, List.countP_cons]
    cases hremoves : (p.judge ctx line.text).removes with
    | false => exact Nat.le_add_right_of_le hrest
    | true => simpa [h.judge_eq hctx hremoves, hremoves] using hrest

theorem Unprotected.isEmpty_eq_false {line : Line} (h : p.Unprotected ctx line.text code body) :
    line.isEmpty = false := by
  rw [Line.isEmpty, eq_append_of_read h.reading]
  simp

theorem thinned_apply (p : Policy) (ctx : Context) (line : Line) :
    Thinned ((p.judge ctx line.text).apply line).toList [line] := by
  have hjudged := p.judged ctx line.text
  generalize p.judge ctx line.text = verdict at hjudged
  cases hjudged with
  | keep => exact .kept (.refl _) rfl .nil
  | @cut front body unprotected hcode =>
    have hfront : front <+: line.text := ⟨_, (eq_append_of_read unprotected.reading).symm⟩
    refine .kept (Line.within_of_prefix ((Text.trimEnd_prefix front).trans hfront)) ?_ .nil
    rw [unprotected.isEmpty_eq_false, Line.isEmpty, List.isEmpty_eq_false_iff]
    exact mt Text.trimEnd_eq_nil_iff.1 hcode
  | drop unprotected => exact .gone unprotected.isEmpty_eq_false .nil

theorem Spares.thinned_survivors (h : p.Spares o) (hctx : ctx.Outlasts ctx') :
    Thinned (o.survivors ctx' lines) (p.survivors ctx lines) := by
  induction lines generalizing ctx ctx' with
  | nil => exact .nil
  | cons line lines ih =>
    have hrest := ih (hctx.next h.header line.text)
    rw [survivors_cons, survivors_cons]
    cases hremoves : (p.judge ctx line.text).removes with
    | true =>
      rw [h.judge_eq hctx hremoves]
      cases (p.judge ctx line.text).apply line with
      | none => exact hrest
      | some left => exact .kept (.refl _) rfl hrest
    | false =>
      have hkeep : (p.judge ctx line.text).apply line = some line := by
        cases hverdict : p.judge ctx line.text with
        | keep => rfl
        | cut => simp [hverdict, Verdict.removes] at hremoves
        | drop => simp [hverdict, Verdict.removes] at hremoves
      rw [hkeep]
      exact (o.thinned_apply ctx' line).append hrest

/-- Of two policies the one that spares less takes away each comment that the other takes away, and
in the same way. What it leaves is part of what the other leaves, character by character. -/
theorem strip_of_spares (h : p.Spares o) (content : List Char) :
    (∀ (i : Nat) (line : Line) (verdict : Verdict), verdict.removes = true →
      (p.judgeLines .initial (Source.ofChars content).lines)[i]? = some (line, verdict) →
      (o.judgeLines .initial (Source.ofChars content).lines)[i]? = some (line, verdict)) ∧
    (p.strip content).removedComments ≤ (o.strip content).removedComments ∧
    (o.strip content).content.Sublist (p.strip content).content := by
  refine ⟨fun i line verdict hremoves hjudged => ?_, h.countP_removes .refl, ?_⟩
  · exact h.getElem?_judgeLines .refl hjudged hremoves
  · exact Source.sublist_chars (h.thinned_survivors .refl).within_collapseTail

def stern : Policy where
  markers := ["TODO"]
  shortCommentLength := 20
  headerLines := 0

theorem strip_of_spares_stern :
    (Policy.strip {} "\n * a // b\nx // y\n\n// FIXME\n\n".toList).content =
        "\n * a // b\nx\n\n// FIXME\n".toList ∧
      (stern.strip "\n * a // b\nx // y\n\n// FIXME\n\n".toList).content = "\n * a\nx\n".toList ∧
      "\n * a\nx\n".toList.Sublist "\n * a // b\nx\n\n// FIXME\n".toList := by
  have hspares : Policy.Spares {} stern := by constructor <;> simp [stern]
  obtain ⟨-, -, hsub⟩ := strip_of_spares hspares "\n * a // b\nx // y\n\n// FIXME\n\n".toList
  exact ⟨rfl, rfl, hsub⟩

end Policy

end LineComment
