import CommandLine.Switch.Basic
import CommandLine.Value

namespace CommandLine

inductive Severity
  | warn
  | debug
  | trace
  deriving DecidableEq, Repr

inductive Record
  | shadowed (name : Name)
  | sentinel
  | matched (label : String) (value : Value)
  | positional (arg : String)
  deriving DecidableEq, Repr

namespace Record

def severity : Record → Severity
  | shadowed _ => .warn
  | sentinel => .debug
  | matched _ _ => .debug
  | positional _ => .trace

def message : Record → String
  | shadowed name => "`" ++ name.label ++ "` registered twice, the later definition wins"
  | sentinel => "`--` seen, remaining arguments are positional"
  | matched _ _ => "matched"
  | positional _ => "positional"

def fields : Record → List (String × String)
  | matched label value => [("switch", label), ("value", value.outline.compact)]
  | positional arg => [("arg", arg)]
  | _ => []

end Record

end CommandLine
