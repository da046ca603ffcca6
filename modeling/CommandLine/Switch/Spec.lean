import CommandLine.Switch.Basic
import CommandLine.Text.Basic

/-! A switch is declared by a list of texts. One that begins with a dash names the switch and may
hold a placeholder for its value; any other is a line of its description. -/

namespace CommandLine

inductive SpecFault
  | longName (spec : String)
  | shortName (spec : String)
  | emptyPlaceholder (name : Name)
  | unclosedPlaceholder (name : Name) (placeholder : String)
  | nameless (lines : List String)
  | negatedValue (word : String)
  deriving DecidableEq, Repr

def SpecFault.message : SpecFault → String
  | longName spec => "expected a long name: `" ++ spec ++ "`"
  | shortName spec => "expected a short name: `" ++ spec ++ "`"
  | emptyPlaceholder name => "empty value placeholder for `" ++ name.label ++ "`"
  | unclosedPlaceholder name placeholder =>
    "unclosed `[` in `" ++ name.label ++ placeholder ++ "`"
  | nameless lines =>
    "a short or long name is required: " ++ (Outline.list (lines.map .text)).compact
  | negatedValue word => "`--[no-]" ++ word ++ "` can't take a value"

inductive Spec
  | short (letter : Char) (rest : String)
  | long (word : String) (negatable : Bool) (rest : String)
  | description (line : String)
  deriving DecidableEq, Repr

namespace Spec

def isLetter (c : Char) : Bool :=
  !Text.isBlank c && c != '[' && c != '='

def isWordChar (c : Char) : Bool :=
  Text.isAlphanumeric c || c == '-' || c == '_'

def readNegation : List Char → Bool × List Char
  | '[' :: 'n' :: 'o' :: '-' :: ']' :: cs => (true, cs)
  | cs => (false, cs)

def read (spec : String) : Except SpecFault Spec :=
  match spec.toList with
  | '-' :: '-' :: cs =>
    let (negatable, cs) := readNegation cs
    let word := cs.takeWhile isWordChar
    if word.isEmpty then .error (.longName spec)
    else .ok (.long (String.ofList word) negatable (String.ofList (cs.dropWhile isWordChar)))
  | '-' :: c :: cs =>
    if isLetter c then .ok (.short c (String.ofList cs)) else .error (.shortName spec)
  | ['-'] => .error (.shortName spec)
  | _ => .ok (.description spec)

def text : Spec → String
  | short c rest => (Name.short c).label ++ rest
  | long word negatable rest => (if negatable then "--[no-]" else "--") ++ word ++ rest
  | description line => line

end Spec

def Arity.ofPlaceholder (name : Name) (placeholder : String) : Except SpecFault Arity :=
  let cs := Text.trimStart placeholder.toList
  if (cs.dropWhile (· == '=')).all Text.isBlank then .error (.emptyPlaceholder name)
  else if cs.head? ≠ some '[' then .ok .required
  else if (Text.trimEnd placeholder.toList).getLast? = some ']' then .ok .optional
  else .error (.unclosedPlaceholder name placeholder)

namespace Switch

def withPlaceholder (s : Switch) (name : Name) (rest : String) : Except SpecFault Switch :=
  if rest = "" then .ok s
  else do
    let arity ← Arity.ofPlaceholder name rest
    return { s with arity, placeholder := some rest }

def extend (s : Switch) : Spec → Except SpecFault Switch
  | .short c rest => { s with shorts := s.shorts ++ [c] }.withPlaceholder (.short c) rest
  | .long word negatable rest =>
    { s with longs := s.longs ++ [word], negatable := s.negatable || negatable }.withPlaceholder
      (.long word) rest
  | .description line => .ok { s with description := s.description ++ [line] }

def readSpec (s : Switch) (spec : String) : Except SpecFault Switch := do
  s.extend (← Spec.read spec)

def checked (s : Switch) : Except SpecFault Switch :=
  if s.shorts = [] ∧ s.longs = [] then .error (.nameless s.description)
  else if s.negatable ∧ s.arity ≠ .noValue then .error (.negatedValue (s.longs.headD ""))
  else .ok s

def ofSpecs (specs : List String) : Except SpecFault Switch := do
  (← specs.foldlM readSpec {}).checked

end Switch

end CommandLine
