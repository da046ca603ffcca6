import CommandLine.Text.Classes

namespace CommandLine.Text

def trimStart (cs : List Char) : List Char :=
  cs.dropWhile isBlank

def trimEnd (cs : List Char) : List Char :=
  (trimStart cs.reverse).reverse

inductive Align
  | left
  | right
  | center
  deriving DecidableEq, Repr

def fillers (fill : Char) (n : Nat) : String :=
  String.ofList (List.replicate n fill)

/-- Of an odd number of fillers around centred text the extra one goes behind it. -/
def justified (align : Align) (width : Nat) (fill : Char) (s : String) : String :=
  let gap := width - s.length
  match align with
  | .left => s ++ fillers fill gap
  | .right => fillers fill gap ++ s
  | .center => fillers fill (gap / 2) ++ s ++ fillers fill ((gap + 1) / 2)

def truncated (limit : Nat) (s : String) : String :=
  String.ofList (s.toList.take limit)

def escaped (quote c : Char) : List Char :=
  match c with
  | '\x00' => ['\\', '0']
  | '\t' => ['\\', 't']
  | '\r' => ['\\', 'r']
  | '\n' => ['\\', 'n']
  | '\\' => ['\\', '\\']
  | c =>
    if c = quote then ['\\', c]
    else if isInvisible c then '\\' :: 'u' :: '{' :: Nat.toDigits 16 c.toNat ++ ['}']
    else [c]

def enclosed (quote : Char) (cs : List Char) : String :=
  String.ofList (quote :: cs.flatMap (escaped quote) ++ [quote])

def quotedString (s : String) : String :=
  enclosed '"' s.toList

def quotedChar (c : Char) : String :=
  enclosed '\'' [c]

end CommandLine.Text
