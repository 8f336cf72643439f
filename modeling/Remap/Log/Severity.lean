/-!
# Severities

The five severities of log events, from `debug` to `critical`, with the number that orders them
and the two spellings they have: capitals in settings, small letters in written events.
-/

namespace Remap

inductive Severity where
  | debug
  | info
  | warning
  | error
  | critical
deriving Repr, DecidableEq

namespace Severity

def all : List Severity := [debug, info, warning, error, critical]

def rank : Severity → Nat
  | debug => 10
  | info => 20
  | warning => 30
  | error => 40
  | critical => 50

def name : Severity → String
  | debug => "DEBUG"
  | info => "INFO"
  | warning => "WARNING"
  | error => "ERROR"
  | critical => "CRITICAL"

def label : Severity → String
  | debug => "debug"
  | info => "info"
  | warning => "warning"
  | error => "error"
  | critical => "critical"

def ofName? (name : String) : Option Severity := all.find? (·.name == name)

def ofLabel? (label : String) : Option Severity := all.find? (·.label == label)

theorem ofName?_name (s : Severity) : ofName? s.name = some s := by cases s <;> decide

end Severity

end Remap
