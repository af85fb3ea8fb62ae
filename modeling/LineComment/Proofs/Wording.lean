import LineComment.Proofs.Blank
import LineComment.Policy

namespace LineComment

theorem Text.leads_iff {p us : List Nat} :
    leads p us = true ↔ ∃ copy rest, us = copy ++ rest ∧ copy.map fold = p.map fold := by
  induction p generalizing us with
  | nil => simp
  | cons a p ih =>
    cases us with
    | nil => simp [leads]
    | cons u us =>
      rw [leads, Bool.and_eq_true, beq_iff_eq, ih]
      constructor
      · rintro ⟨hfold, copy, rest, rfl, hcopy⟩
        exact ⟨u :: copy, rest, rfl, by simp [hfold, hcopy]⟩
      · rintro ⟨copy, rest, hus, hcopy⟩
        cases copy with
        | nil => simp at hcopy
        | cons v copy =>
          obtain ⟨rfl, rfl⟩ := List.cons.inj hus
          obtain ⟨hfold, hcopy⟩ := List.cons.inj hcopy
          exact ⟨hfold.symm, copy, rest, rfl, hcopy⟩

theorem isDocBody_eq_false_iff {body : List Char} :
    isDocBody body = false ↔ ∀ c ∈ body.head?, c ≠ '/' ∧ c ≠ '!' := by
  unfold isDocBody
  split
  next => simp
  next => simp
  next noSlash noBang =>
    refine iff_of_true rfl fun c hc => ?_
    obtain ⟨rest, rfl⟩ := List.head?_eq_some_iff.1 hc
    exact ⟨fun h => noSlash rest (by rw [h]), fun h => noBang rest (by rw [h])⟩

namespace Policy

variable {p : Policy} {us : List Nat} {body : List Char}

def MarkedUnits (p : Policy) (us : List Nat) : Prop :=
  ∃ marker ∈ p.markers, marker.units ≠ [] ∧ ∃ blanks copy rest, us = blanks ++ (copy ++ rest) ∧
    (∀ u ∈ blanks, Text.isBlankPoint u = true) ∧ copy.map Text.fold = marker.units.map Text.fold

def Marked (p : Policy) (body : List Char) : Prop :=
  p.MarkedUnits (Text.units body)

def Trivial (p : Policy) (body : List Char) : Prop :=
  (Text.lower (Text.units (Text.trim body))).length < p.shortCommentLength ∨
    ∃ phrase ∈ p.trivialPhrases, phrase.units ≠ [] ∧
      Text.lower phrase.units <:+: Text.lower (Text.units (Text.trim body))

theorem marksUnits_iff : p.marksUnits us = true ↔ p.MarkedUnits us := by
  induction us with
  | nil =>
    refine iff_of_false (by simp [marksUnits]) ?_
    rintro ⟨marker, -, hne, blanks, copy, rest, hus, -, hcopy⟩
    obtain ⟨-, rfl, -⟩ : blanks = [] ∧ copy = [] ∧ rest = [] := by simpa using hus
    exact hne (by simpa using hcopy.symm)
  | cons u us ih =>
    rw [marksUnits, Bool.or_eq_true, List.any_eq_true, Bool.and_eq_true, ih]
    constructor
    · rintro (⟨marker, hmarker, h⟩ | ⟨hu, marker, hmarker, hne, blanks, copy, rest, rfl, h⟩)
      · obtain ⟨hne, hleads⟩ : marker.units ≠ [] ∧ Text.leads marker.units (u :: us) = true := by
          simpa [Wide.isEmpty] using h
        obtain ⟨copy, rest, hus, hcopy⟩ := Text.leads_iff.1 hleads
        exact ⟨marker, hmarker, hne, [], copy, rest, hus, by simp, hcopy⟩
      · exact ⟨marker, hmarker, hne, u :: blanks, copy, rest, rfl,
          List.forall_mem_cons.2 ⟨hu, h.1⟩, h.2⟩
    · rintro ⟨marker, hmarker, hne, blanks, copy, rest, hus, hblanks, hcopy⟩
      cases blanks with
      | nil =>
        have hleads : Text.leads marker.units (u :: us) = true :=
          Text.leads_iff.2 ⟨copy, rest, hus, hcopy⟩
        exact .inl ⟨marker, hmarker, by simp [Wide.isEmpty, hne, hleads]⟩
      | cons v blanks =>
        obtain ⟨rfl, rfl⟩ := List.cons.inj hus
        obtain ⟨hu, hblanks⟩ := List.forall_mem_cons.1 hblanks
        exact .inr ⟨hu, marker, hmarker, hne, blanks, copy, rest, rfl, hblanks, hcopy⟩

theorem marks_iff : p.marks body = true ↔ p.Marked body :=
  marksUnits_iff

theorem isTrivial_iff : p.isTrivial body = true ↔ p.Trivial body := by
  simp [isTrivial, Trivial, Wide.isEmpty, Text.occurs_iff]

end Policy

end LineComment
