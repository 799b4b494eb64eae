/-!
# Log levels

The levels of the log and the words that a configuration may use for them.
-/

namespace ApiGateway

inductive Level
  | trace
  | debug
  | info
  | warn
  | err
  | critical
  | off
deriving DecidableEq, Repr, Inhabited

namespace Level

def name : Level → String
  | trace => "trace"
  | debug => "debug"
  | info => "info"
  | warn => "warn"
  | err => "err"
  | critical => "critical"
  | off => "off"

/-- The level that a word stands for; two levels have a long word besides the short one. -/
def parse? : String → Option Level
  | "trace" => some trace
  | "debug" => some debug
  | "info" => some info
  | "warn" => some warn
  | "warning" => some warn
  | "err" => some err
  | "error" => some err
  | "critical" => some critical
  | "off" => some off
  | _ => none

def rank : Level → Nat
  | trace => 0
  | debug => 1
  | info => 2
  | warn => 3
  | err => 4
  | critical => 5
  | off => 6

/-- A log at level `l` shows messages of level `m`. -/
def shows (l m : Level) : Bool :=
  l.rank ≤ m.rank

end Level

def LogSettings.defaultPattern : String := "[%Y-%m-%d %H:%M:%S.%e] [%^%l%$] [%n] %v"

structure LogSettings where
  level : String := "info"
  pattern : String := LogSettings.defaultPattern
deriving DecidableEq, Repr, Inhabited

end ApiGateway
