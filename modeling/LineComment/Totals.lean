import LineComment.Number.Shortest

namespace LineComment

inductive Outcome
  | unchanged
  | modified (removedComments removedLines : Int)
  | failed (reason : Option String)
  deriving DecidableEq

structure FileReport where
  path : String
  outcome : Outcome
  deriving DecidableEq

inductive FileStatus
  | unchanged
  | modified
  | failed
  deriving DecidableEq

/-- The record of a report that a hook is given. Its counts are zero unless the file is modified. -/
structure FileResult where
  path : String
  status : FileStatus
  removedComments : Int
  removedLines : Int
  error : Option String
  deriving DecidableEq

def FileReport.result (report : FileReport) : FileResult :=
  match report.outcome with
  | .unchanged => ⟨report.path, .unchanged, 0, 0, none⟩
  | .modified comments lines => ⟨report.path, .modified, comments, lines, none⟩
  | .failed reason => ⟨report.path, .failed, 0, 0, reason⟩

def dryRunMark : String := "[DRY RUN] "

def counted (count : Int) (noun : String) : String :=
  intText count ++ " " ++ noun ++ if count = 1 then "" else "s"

def FileReport.line (report : FileReport) (dryRun : Bool) : String :=
  match report.outcome with
  | .modified comments lines =>
    (if dryRun then dryRunMark ++ "Would modify" else "Modified") ++ " " ++ report.path
      ++ ": removed " ++ counted comments "comment" ++ " (-" ++ intText lines ++ " lines)"
  | .failed reason => "Failed " ++ report.path ++ ": " ++ reason.getD "unknown error"
  | .unchanged => "Unchanged " ++ report.path

/-- Sums over files. They are kept in double precision, so they are exact below `2 ^ 53`. -/
structure Totals where
  dryRun : Bool
  scanned : Nat := 0
  modified : Nat := 0
  failed : Nat := 0
  removedComments : Int := 0
  removedLines : Int := 0
  deriving DecidableEq

namespace Totals

def add (totals : Totals) (report : FileReport) : Totals :=
  let totals := { totals with scanned := totals.scanned + 1 }
  match report.outcome with
  | .modified comments lines =>
    { totals with
      modified := totals.modified + 1
      removedComments := roundWhole (totals.removedComments + comments)
      removedLines := roundWhole (totals.removedLines + lines) }
  | .failed _ => { totals with failed := totals.failed + 1 }
  | .unchanged => totals

def ofReports (dryRun : Bool) (reports : List FileReport) : Totals :=
  reports.foldl add { dryRun }

def summaryLines (totals : Totals) : List String :=
  let would := if totals.dryRun then "that would be " else ""
  [(if totals.dryRun then dryRunMark else "") ++ "Summary:",
    "  Files scanned: " ++ natText totals.scanned,
    "  Files " ++ would ++ "modified: " ++ natText totals.modified,
    "  Comments " ++ would ++ "removed: " ++ intText totals.removedComments,
    "  Lines " ++ would ++ "removed: " ++ intText totals.removedLines]
  ++ (if 0 < totals.failed then ["  Files failed: " ++ natText totals.failed] else [])
  ++ if totals.dryRun && 0 < totals.modified then
      ["", "Run without --dry-run to apply changes."]
    else []

def summary (totals : Totals) : String :=
  "\n".intercalate totals.summaryLines

@[simp] theorem dryRun_add (totals : Totals) (report : FileReport) :
    (totals.add report).dryRun = totals.dryRun := by
  cases report with
  | mk path outcome => cases outcome <;> rfl

@[simp] theorem scanned_add (totals : Totals) (report : FileReport) :
    (totals.add report).scanned = totals.scanned + 1 := by
  cases report with
  | mk path outcome => cases outcome <;> rfl

theorem scanned_ofReports (dryRun : Bool) (reports : List FileReport) :
    (ofReports dryRun reports).scanned = reports.length := by
  have h (totals : Totals) :
      (reports.foldl add totals).scanned = totals.scanned + reports.length := by
    induction reports generalizing totals with
    | nil => rfl
    | cons report reports ih =>
      rw [List.foldl_cons, ih, scanned_add, List.length_cons]
      omega
  simpa [ofReports] using h { dryRun }

end Totals

end LineComment
