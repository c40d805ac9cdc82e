import LuaAccessors.Diagnostic
import LuaAccessors.Text.Dictionary

/-!
# Logs of diagnostics

A log holds the diagnostics of a run in the order of their arrival, and counts them by severity and
by code.
-/

namespace LuaAccessors

/-- The diagnostics of a run, oldest first. -/
abbrev DiagnosticLog := List Diagnostic

namespace DiagnosticLog

/-- Some diagnostic is an error. -/
def hasErrors (log : DiagnosticLog) : Bool := log.any fun d => d.severity == .error

/-- The diagnostics with a code. -/
def byCode (log : DiagnosticLog) (code : Text) : List Diagnostic := log.filter fun d => d.code == code

/-- How many diagnostics have a severity. -/
def countSeverity (log : DiagnosticLog) (severity : Severity) : Nat :=
  log.countP fun d => d.severity == severity

/-- The severities that occur, each with its count. -/
def bySeverity (log : DiagnosticLog) : List (Severity × Nat) :=
  (Severity.all.map fun s => (s, log.countSeverity s)).filter fun e => e.2 != 0

/-- The codes that occur, each with its count, in the order of their first arrival. -/
def codeCounts (log : DiagnosticLog) : Dictionary Nat :=
  log.foldl (fun counts d => counts.put d.code ((counts.get? d.code).getD 0 + 1)) []

/-- A severity or a code with its count, as one line of a summary. -/
def countLine (name : Text) (count : Nat) : Text :=
  "  ".toList ++ name ++ ": ".toList ++ Text.ofNat count

/-- The summary of a log: the total, the counts by severity from the mildest on, and the counts by
code in ascending order of the codes. -/
def formatSummary (log : DiagnosticLog) : Text :=
  let severities := log.bySeverity.map fun (s, n) => countLine s.name n
  let codes := (log.codeCounts.mergeSort fun a b => !Text.before b.1 a.1).map
    fun (code, n) => countLine code n
  Text.join ['\n'] <|
    ["=== Diagnostics Summary ===".toList, "Total: ".toList ++ Text.ofNat log.length]
      ++ severities ++ (if codes.isEmpty then [] else "By code:".toList :: codes)

end DiagnosticLog

end LuaAccessors
