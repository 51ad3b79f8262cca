import MarkupLint.Project.Lint

/-!
The report that people read: the diagnostics of every file that has any, and a line that
sums up.
-/
namespace MarkupLint

structure Summary where
  total : Nat
  filesChecked : Nat
  filesWithProblems : Nat
  filesSkipped : Nat
  deriving DecidableEq, Repr

namespace Report

def summary (reports : List FileReport) : Summary :=
  { total := (reports.flatMap (·.diagnostics)).length
    filesChecked := reports.length
    filesWithProblems := reports.countP (!·.diagnostics.isEmpty)
    filesSkipped := reports.countP (·.skipped) }

def plural (n : Nat) : String :=
  if n = 1 then "" else "s"

/-- A number moved right to end in its fourth column. -/
def lineNumber (line : Int) : String :=
  let digits := toString line
  String.ofList (List.replicate (4 - digits.length) ' ') ++ digits

def diagnosticLine (d : Diagnostic) : String :=
  "  " ++ lineNumber d.line ++ "  " ++ d.ruleId ++ "  " ++ d.message ++ "\n"

def fileText (report : FileReport) : String :=
  if report.diagnostics.isEmpty then ""
  else report.path ++ "\n" ++ String.join (report.diagnostics.map diagnosticLine) ++ "\n"

def closing (s : Summary) : String :=
  if s.total = 0 then
    "✔ No problems found in " ++ toString s.filesChecked ++ " file" ++ plural s.filesChecked ++ "\n"
  else
    "✖ " ++ toString s.total ++ " problem" ++ plural s.total ++ " in " ++
      toString s.filesWithProblems ++ " of " ++ toString s.filesChecked ++ " file" ++
      plural s.filesChecked ++ "\n"

def text (reports : List FileReport) : String :=
  String.join (reports.map fileText) ++ closing (summary reports)

end Report

end MarkupLint
