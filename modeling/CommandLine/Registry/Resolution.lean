import CommandLine.Registry.Basic

/-! What a long name on a command line stands for. A name declared as such goes before a negated
one, and both before an abbreviation; an abbreviation must leave only one choice. -/

namespace CommandLine

structure Resolution where
  slot : Slot
  negated : Bool
  deriving DecidableEq, Repr

structure Candidate where
  spelling : String
  resolution : Resolution
  deriving DecidableEq, Repr

namespace Candidate

def agrees (a b : Candidate) : Bool :=
  a.resolution.slot.index == b.resolution.slot.index &&
    a.resolution.negated == b.resolution.negated

def distinct : List Candidate → List Candidate
  | [] => []
  | a :: as => a :: (distinct as).filter fun b => !b.agrees a

end Candidate

namespace Spelling

def negation (word : String) : String := "no-" ++ word

def negated? (word : String) : Option String :=
  match word.toList with
  | 'n' :: 'o' :: '-' :: cs => some (String.ofList cs)
  | _ => none

def abbreviates (name word : String) : Bool :=
  name.toList.isPrefixOf word.toList

end Spelling

namespace Registry

open Spelling

def spelled? (R : Registry) (name : String) : Option Resolution :=
  match R.findLong? name with
  | some slot => some ⟨slot, false⟩
  | none => ((negated? name).bind R.findNegatable?).map (⟨·, true⟩)

/-- The spelling of one long name of a switch that begins with `name`. A spelling stands for the
switch that its word belongs to, which may be another. -/
def candidate? (R : Registry) (name : String) (s : Switch) (word : String) : Option Candidate :=
  if abbreviates name word then
    (R.findLong? word).map fun slot => ⟨word, slot, false⟩
  else if s.negatable && abbreviates name (negation word) then
    (R.findNegatable? word).map fun slot => ⟨negation word, slot, true⟩
  else none

def candidates (R : Registry) (name : String) : List Candidate :=
  (Candidate.distinct
    (R.slots.flatMap fun slot => slot.switch.longs.filterMap (R.candidate? name slot.switch))).reverse

def resolve (R : Registry) (name : String) : Except Error Resolution :=
  match R.spelled? name with
  | some resolution => .ok resolution
  | none =>
    if R.settings.exactNames || name.isEmpty then .error (.invalidOption (Name.long name).label)
    else match R.candidates name with
      | [] => .error (.invalidOption (Name.long name).label)
      | [candidate] => .ok candidate.resolution
      | candidates =>
        .error (.ambiguousOption (Name.long name).label
          (candidates.map fun candidate => (Name.long candidate.spelling).label))

end Registry

end CommandLine
