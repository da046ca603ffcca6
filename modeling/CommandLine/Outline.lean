import CommandLine.Text.Basic

namespace CommandLine

inductive Brackets
  | braces
  | parentheses
  | square
  deriving DecidableEq, Repr

inductive Outline
  | atom (text : String)
  | labelled (label : String) (value : Outline)
  | group (head : String) (brackets : Brackets) (items : List Outline)

namespace Brackets

def around (items : String) : Brackets → String
  | braces => " \x7b " ++ items ++ " \x7d"
  | parentheses => "(" ++ items ++ ")"
  | square => "[" ++ items ++ "]"

def opening : Brackets → String
  | braces => " \x7b"
  | parentheses => "("
  | square => "["

def closing : Brackets → String
  | braces => "\x7d"
  | parentheses => ")"
  | square => "]"

end Brackets

namespace Outline

def text (s : String) : Outline := .atom (Text.quotedString s)

def letter (c : Char) : Outline := .atom (Text.quotedChar c)

def bool (b : Bool) : Outline := .atom (if b then "true" else "false")

def nat (n : Nat) : Outline := .atom (toString n)

def list (items : List Outline) : Outline := .group "" .square items

def record (name : String) (fields : List (String × Outline)) : Outline :=
  .group name .braces (fields.map fun (label, value) => .labelled label value)

def tuple (name : String) (items : List Outline) : Outline := .group name .parentheses items

def option : Option Outline → Outline
  | none => .atom "None"
  | some value => .tuple "Some" [value]

def compact : Outline → String
  | .atom t => t
  | .labelled l v => l ++ ": " ++ v.compact
  | .group head brackets items => head ++ brackets.around (", ".intercalate (items.map compact))

def expanded (indent : String) : Outline → String
  | .atom t => t
  | .labelled l v => l ++ ": " ++ v.expanded indent
  | .group head brackets items =>
    let inner := indent ++ "    "
    let lines := items.map fun item => inner ++ item.expanded inner ++ ",\n"
    head ++ brackets.opening ++
      (if items.isEmpty then "" else "\n" ++ String.join lines ++ indent) ++ brackets.closing

end Outline

end CommandLine
