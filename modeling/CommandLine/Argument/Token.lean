namespace CommandLine

/-- A lone `--` is the sentinel, which ends the options; a long option may carry a value behind an
equals sign; a cluster is the letters behind a single dash. -/
inductive Token
  | sentinel
  | long (name : String) (inline : Option String)
  | cluster (letters : List Char)
  | positional (arg : String)
  deriving DecidableEq, Repr

namespace Token

def inlineValue? : List Char → Option String
  | [] => none
  | _ :: value => some (String.ofList value)

def ofArg (arg : String) : Token :=
  match arg.toList with
  | ['-', '-'] => .sentinel
  | '-' :: '-' :: cs =>
    .long (String.ofList (cs.takeWhile (· != '='))) (inlineValue? (cs.dropWhile (· != '=')))
  | '-' :: c :: cs => .cluster (c :: cs)
  | _ => .positional arg

def text : Token → String
  | sentinel => "--"
  | long name none => "--" ++ name
  | long name (some value) => "--" ++ name ++ "=" ++ value
  | cluster letters => "-" ++ String.ofList letters
  | positional arg => arg

theorem text_ofArg (arg : String) : (ofArg arg).text = arg := by
  apply String.toList_inj.mp
  unfold ofArg
  split
  · simp_all [text]
  · rename_i cs _ h
    have hc : cs.takeWhile (· != '=') ++ cs.dropWhile (· != '=') = cs :=
      List.takeWhile_append_dropWhile
    rw [h]
    cases hd : cs.dropWhile (· != '=') with
    | nil => simp_all [inlineValue?, text]
    | cons d ds =>
      have hd' : d = '=' := by
        have := List.head_dropWhile_not (p := (· != '=')) (l := cs) (by simp [hd])
        simpa [hd] using this
      simp_all [inlineValue?, text]
  · simp_all [text]
  · rfl

end Token

end CommandLine
