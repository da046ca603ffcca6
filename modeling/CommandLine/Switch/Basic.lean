import CommandLine.Outline

namespace CommandLine

inductive Arity
  | noValue
  | optional
  | required
  deriving DecidableEq, Repr

inductive Name
  | short (letter : Char)
  | long (word : String)
  deriving DecidableEq, Repr

namespace Name

def bare : Name → String
  | short c => String.singleton c
  | long w => w

def label : Name → String
  | short c => "-" ++ String.singleton c
  | long w => "--" ++ w

end Name

/-- The placeholder is kept as it was written behind its name, and the handler by its own name. -/
structure Switch where
  shorts : List Char := []
  longs : List String := []
  arity : Arity := .noValue
  placeholder : Option String := none
  description : List String := []
  negatable : Bool := false
  handler : Option String := none
  deriving DecidableEq, Repr

namespace Switch

def names (s : Switch) : List Name :=
  s.shorts.map .short ++ s.longs.map .long

def primary? (s : Switch) : Option Name :=
  match s.longs, s.shorts with
  | w :: _, _ => some (.long w)
  | [], c :: _ => some (.short c)
  | [], [] => none

def key (s : Switch) : String :=
  (s.primary?.map Name.bare).getD ""

def label (s : Switch) : String :=
  (s.primary?.map Name.label).getD ""

def negatedLabel (s : Switch) : String :=
  "--no-" ++ s.longs.headD ""

def longLabel (s : Switch) (word : String) : String :=
  (if s.negatable then "--[no-]" else "--") ++ word

def appendToLast (tail : String) : List String → List String
  | [] => []
  | [x] => [x ++ tail]
  | x :: y :: xs => x :: appendToLast tail (y :: xs)

def labels (s : Switch) : List String :=
  appendToLast (s.placeholder.getD "")
    (s.shorts.map (fun c => (Name.short c).label) ++ s.longs.map s.longLabel)

/-- The names side by side. Long names line up whether or not a short one stands before them. -/
def column (s : Switch) : String :=
  (if s.shorts.isEmpty then "    " else "") ++ ", ".intercalate s.labels

end Switch

namespace Arity

def outline : Arity → Outline
  | noValue => .atom "None"
  | optional => .atom "Optional"
  | required => .atom "Required"

end Arity

def Switch.outline (s : Switch) : Outline :=
  .record "Switch"
    [("shorts", .list (s.shorts.map .letter)),
     ("longs", .list (s.longs.map .text)),
     ("arity", s.arity.outline),
     ("placeholder", .option (s.placeholder.map .text)),
     ("desc", .list (s.description.map .text)),
     ("negatable", .bool s.negatable),
     ("callback", .bool s.handler.isSome)]

end CommandLine
