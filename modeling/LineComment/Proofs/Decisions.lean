import LineComment.Proofs.Patterns
import LineComment.Proofs.RemovalPolicy

namespace LineComment

variable {ctx : Context} {line : List Char}

def Verdict.map (f : List Char → List Char) : Verdict → Verdict
  | .keep => .keep
  | .cut code => .cut (f code)
  | .drop => .drop

@[simp] theorem Verdict.removes_map (f : List Char → List Char) (v : Verdict) :
    (v.map f).removes = v.removes := by
  cases v <;> rfl

namespace Policy

variable {p o : Policy} {lines before : List (List Char)}

def decision (p : Policy) (ctx : Context) (line : List Char) : Decision where
  verdict := p.judge ctx line
  text := (p.judge ctx line).text line
  next := ctx.next p.headerLines line

def decisions (p : Policy) : Context → List (List Char) → List Decision
  | _, [] => []
  | ctx, line :: lines => p.decision ctx line :: p.decisions (p.decision ctx line).next lines

def reached (p : Policy) (ctx : Context) (lines : List (List Char)) : Context :=
  lines.foldl (fun ctx line => (p.decision ctx line).next) ctx

@[simp] theorem reached_nil (p : Policy) (ctx : Context) : p.reached ctx [] = ctx := rfl

theorem reached_cons (p : Policy) (ctx : Context) (line : List Char) (lines : List (List Char)) :
    p.reached ctx (line :: lines) = p.reached (ctx.next p.headerLines line) lines := rfl

theorem reached_append (p : Policy) (ctx : Context) (lines more : List (List Char)) :
    p.reached ctx (lines ++ more) = p.reached (p.reached ctx lines) more :=
  List.foldl_append

theorem reached_eq_after (p : Policy) (ctx : Context) (lines : List (List Char)) :
    p.reached ctx lines = p.after ctx (lines.map fun text => { text, carriageReturn := false }) := by
  rw [after, List.foldl_map]
  rfl

theorem index_reached (p : Policy) (lines : List (List Char)) :
    (p.reached .initial lines).index = (min lines.length (Nat.pow 2 53) : Nat) := by
  rw [reached_eq_after, index_after, List.length_map]

theorem pastHeader_reached (h : ctx.pastHeader = true) (p : Policy) (lines : List (List Char)) :
    (p.reached ctx lines).pastHeader = true := by
  induction lines generalizing ctx with
  | nil => exact h
  | cons line lines ih => exact ih (Context.pastHeader_next ctx p.headerLines line h)

theorem judge_eq_keep_of_header (h : (ctx.next p.headerLines line).pastHeader = false) :
    p.judge ctx line = .keep := by
  obtain hkeep | ⟨code, body, unprotected⟩ := p.judge_eq_keep_or_unprotected ctx line
  · exact hkeep
  · rw [unprotected.next_pastHeader] at h
    cases h

theorem decisions_of_header (h : (p.reached ctx lines).pastHeader = false) :
    (p.decisions ctx lines).map Decision.verdict = lines.map (fun _ => .keep) ∧
      (p.decisions ctx lines).map Decision.text = lines := by
  induction lines generalizing ctx with
  | nil => exact ⟨rfl, rfl⟩
  | cons line lines ih =>
    rw [reached_cons] at h
    have hnext : (ctx.next p.headerLines line).pastHeader = false := by
      rw [← Bool.not_eq_true] at h ⊢
      exact mt (fun hpast => pastHeader_reached hpast p lines) h
    have hkeep : p.judge ctx line = .keep := judge_eq_keep_of_header hnext
    obtain ⟨hverdicts, htexts⟩ := ih h
    constructor
    · simp only [decisions, List.map_cons, decision, hkeep]
      exact congrArg (_ :: ·) hverdicts
    · simp only [decisions, List.map_cons, decision, hkeep]
      exact congrArg (_ :: ·) htexts

theorem pastHeader_reached_eq_false_iff :
    (p.reached .initial lines).pastHeader = false ↔
      ∀ i line, lines[i]? = some line →
        (p.reached .initial (lines.take i)).inBlock = true ∨ p.LooksHeader i line := by
  rw [reached_eq_after, pastHeader_after_eq_false_iff]
  simp [List.getElem?_map, ← List.map_take, reached_eq_after]

theorem map_next_decisions (h : o.headerLines = p.headerLines) (ctx : Context)
    (lines : List (List Char)) :
    (o.decisions ctx lines).map Decision.next = (p.decisions ctx lines).map Decision.next := by
  induction lines generalizing ctx with
  | nil => rfl
  | cons line lines ih =>
    simp only [decisions, List.map_cons, decision, h]
    rw [ih]

/-- The lines of a run are counted in double precision, where the count stops at `2 ^ 53`. A header
that has ended does not begin again. It lasts as long as all lines start inside a block comment or
look like a header, and each of these is kept as it is. Nothing else in the policy matters for what
is known in front of a line. -/
theorem reached_spec (p : Policy) (lines : List (List Char)) :
    (p.reached .initial lines).index = (min lines.length (Nat.pow 2 53) : Nat) ∧
      (∀ more, (p.reached .initial lines).pastHeader = true →
        (p.reached .initial (lines ++ more)).pastHeader = true) ∧
      ((p.reached .initial lines).pastHeader = false ↔
        ∀ i line, lines[i]? = some line →
          (p.reached .initial (lines.take i)).inBlock = true ∨ p.LooksHeader i line) ∧
      ((p.reached .initial lines).pastHeader = false →
        (p.decisions .initial lines).map Decision.verdict = lines.map (fun _ => .keep) ∧
          (p.decisions .initial lines).map Decision.text = lines) ∧
      ∀ o : Policy, o.headerLines = p.headerLines →
        (o.decisions .initial lines).map Decision.next =
          (p.decisions .initial lines).map Decision.next := by
  refine ⟨p.index_reached lines, fun more hpast => ?_, pastHeader_reached_eq_false_iff,
    decisions_of_header, fun o h => map_next_decisions h .initial lines⟩
  rw [reached_append]
  exact pastHeader_reached hpast p more

theorem reached_spec_block :
    let lines := ["/* a", "b // get", "*/", "", "* c // get"].map String.toList
    (Policy.reached {} .initial lines).pastHeader = false ∧
      (Policy.decisions {} .initial lines).map Decision.text = lines := by
  intro lines
  have hheader : (Policy.reached {} .initial lines).pastHeader = false := by decide
  obtain ⟨-, -, -, hkept, -⟩ := reached_spec {} lines
  exact ⟨hheader, (hkept hheader).2⟩

end Policy

end LineComment
