import CommandLine.Argument.Token

namespace CommandLine

/-- Behind the sentinel the arguments are literal: each is a positional. -/
structure Cursor where
  rest : List String
  literal : Bool := false
  deriving DecidableEq, Repr

namespace Cursor

def next? (c : Cursor) : Option (Token × Cursor) :=
  match c.rest with
  | [] => none
  | arg :: rest =>
    if c.literal then some (.positional arg, ⟨rest, true⟩)
    else some (Token.ofArg arg, ⟨rest, Token.ofArg arg == .sentinel⟩)

def value? (c : Cursor) : Option (String × Cursor) :=
  match c.rest with
  | [] => none
  | arg :: rest => some (arg, { c with rest })

def optionalValue? (c : Cursor) : Option (String × Cursor) :=
  match c.rest with
  | "--" :: _ => none
  | _ => c.value?

theorem rest_of_next? {c d : Cursor} {t : Token} (h : c.next? = some (t, d)) :
    ∃ arg, c.rest = arg :: d.rest := by
  unfold next? at h
  split at h
  · cases h
  · split at h <;> cases h <;> exact ⟨_, by assumption⟩

theorem rest_of_value? {c d : Cursor} {v : String} (h : c.value? = some (v, d)) :
    c.rest = v :: d.rest := by
  unfold value? at h
  split at h
  · cases h
  · cases h; assumption

theorem rest_of_optionalValue? {c d : Cursor} {v : String}
    (h : c.optionalValue? = some (v, d)) : c.rest = v :: d.rest := by
  unfold optionalValue? at h
  split at h
  · cases h
  · exact rest_of_value? h

end Cursor

end CommandLine
