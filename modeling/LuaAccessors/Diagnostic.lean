import LuaAccessors.Text.Escaped

/-!
# Diagnostics

A diagnostic is a reported condition: a stable code, a severity, a short title and a message. Its
formatted line names the severity, the code and the message.
-/

namespace LuaAccessors

/-- How serious a condition is. -/
inductive Severity where
  | info
  | warning
  | error
  deriving Repr, DecidableEq

namespace Severity

/-- The severities from the mildest on. -/
def all : List Severity := [.info, .warning, .error]

/-- The name of a severity. -/
def name : Severity → Text
  | .info => "info".toList
  | .warning => "warning".toList
  | .error => "error".toList

/-- The severity of a given name. -/
def ofName? (name : Text) : Option Severity := all.find? fun s => s.name == name

/-- What is said of a name that is no severity's. -/
def unknownMessage (name : Text) : Text := quoteText name ++ " is not a valid Severity".toList

end Severity

/-- A reported condition. -/
structure Diagnostic where
  /-- The stable identifier of the kind of condition. -/
  code : Text
  /-- How serious it is. -/
  severity : Severity
  /-- A short title. -/
  title : Text
  /-- What has happened. -/
  message : Text
  deriving Repr, DecidableEq

/-- The line that shows a diagnostic. -/
def Diagnostic.format (d : Diagnostic) : Text :=
  d.severity.name ++ ' ' :: d.code ++ ": ".toList ++ d.message

end LuaAccessors
