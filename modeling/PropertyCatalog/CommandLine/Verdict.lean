import PropertyCatalog.Document.Json.Printer
import PropertyCatalog.Render.Trees

/-!
# Verdicts

Whether a report lets a configuration pass, and how that is told. An error never passes, and a warning
only if the check is not strict.
-/

namespace PropertyCatalog.CommandLine

open Document

/-- A report with the strictness under which it is judged. -/
structure Verdict where
  /-- What was found. -/
  report : Report
  /-- Warnings count as failures. -/
  strict : Bool
deriving DecidableEq

namespace Verdict

/-- The configuration does not pass. -/
def failed (v : Verdict) : Bool :=
  !v.report.isValid || v.strict && !v.report.warnings.isEmpty

/-! ## As JSON -/

def tree (v : Verdict) : Tree :=
  .ofMembers
    [("success", .boolean !v.failed), ("valid", .boolean v.report.isValid),
     ("strict", .boolean v.strict), ("issues", .array (v.report.issues.map (·.tree)))]

def json (v : Verdict) : String := Json.writePretty v.tree ++ "\n"

/-! ## For a reader -/

def issueLine (i : Issue) : String :=
  "  [" ++ i.finding.kind ++ "] " ++ i.path ++ " " ++ i.detail ++ "\n"

/-- The lines of issues below a heading, with an empty line behind them; nothing, if there are none. -/
def issueBlock (heading : String) (issues : List Issue) : String :=
  if issues.isEmpty then "" else heading ++ "\n" ++ String.join (issues.map issueLine) ++ "\n"

/-- A line of the summary, with a mark that depends on whether there are issues. -/
def summaryLine (mark : String) (issues : List Issue) (noun : String) : String :=
  "  " ++ (if issues.isEmpty then "✓" else mark) ++ " " ++ toString issues.length ++ " " ++ noun ++
    "\n"

/-- The report for a reader. -/
def text (v : Verdict) : String :=
  let errors := v.report.errors
  let warnings := v.report.warnings
  "Configuration Validation\n\n" ++ issueBlock "Errors" errors ++ issueBlock "Warnings" warnings ++
    "Summary\n\n" ++ summaryLine "✗" errors "errors" ++ summaryLine "⚠" warnings "warnings" ++ "\n"

/-- What is said when the configuration does not pass. -/
def failureNote (v : Verdict) : String :=
  if v.report.isValid then "warning: Validation failed (strict mode) with warnings\n"
  else "error: Validation failed with errors\n"

end Verdict

end PropertyCatalog.CommandLine
