import CommandLine.Outline

namespace CommandLine

/-- A switch that takes no value yields a flag; an optional value may be absent. -/
inductive Value
  | flag (b : Bool)
  | text (s : String)
  | absent
  deriving DecidableEq, Repr

namespace Value

def text? : Value → Option String
  | text s => some s
  | _ => none

def flag? : Value → Option Bool
  | flag b => some b
  | _ => none

def isAbsent : Value → Bool
  | absent => true
  | _ => false

def display : Value → String
  | flag b => if b then "true" else "false"
  | text s => s
  | absent => ""

/-- An absent value prints nothing, not even the fillers of its column. -/
def format (align : Text.Align) (width limit : Nat) (fill : Char) (v : Value) : String :=
  if v.isAbsent then "" else Text.justified align width fill (Text.truncated limit v.display)

def outline : Value → Outline
  | flag b => .tuple "Bool" [.bool b]
  | text s => .tuple "Str" [.text s]
  | absent => .atom "Absent"

end Value

end CommandLine
