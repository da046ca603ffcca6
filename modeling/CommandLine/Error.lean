import CommandLine.Outline

namespace CommandLine

inductive Error
  | missingArgument (flag : String)
  | invalidOption (option : String)
  | ambiguousOption (option : String) (candidates : List String)
  | needlessArgument (argument : String)
  | invalidSwitch (reason : String)
  deriving DecidableEq, Repr

namespace Error

def message : Error → String
  | missingArgument flag => "missing argument: " ++ flag
  | invalidOption option => "invalid option: " ++ option
  | ambiguousOption option candidates =>
    "ambiguous option: " ++ option ++ " (" ++ ", ".intercalate candidates ++ ")"
  | needlessArgument argument => "needless argument: " ++ argument
  | invalidSwitch reason => "invalid switch definition: " ++ reason

def outline : Error → Outline
  | missingArgument flag => .tuple "MissingArgument" [.text flag]
  | invalidOption option => .tuple "InvalidOption" [.text option]
  | ambiguousOption option candidates =>
    .record "AmbiguousOption"
      [("option", .text option), ("candidates", .list (candidates.map .text))]
  | needlessArgument argument => .tuple "NeedlessArgument" [.text argument]
  | invalidSwitch reason => .tuple "InvalidSwitch" [.text reason]

end Error

end CommandLine
