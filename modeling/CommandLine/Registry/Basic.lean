import CommandLine.Error
import CommandLine.Log
import CommandLine.Switch.Spec

/-! A registry holds switches and headings in the order in which they were declared. A name belongs
to the switch that declared it last. -/

namespace CommandLine

structure Settings where
  columnWidth : Nat := 32
  indent : String := "    "
  exactNames : Bool := false
  deriving DecidableEq, Repr

inductive Entry
  | switch (s : Switch)
  | heading (text : String)
  deriving DecidableEq, Repr

structure Registry where
  banner : Option String := none
  entries : List Entry := []
  settings : Settings := {}
  deriving DecidableEq, Repr

structure Slot where
  index : Nat
  switch : Switch
  deriving DecidableEq, Repr

namespace Entry

def slot? (e : Entry) (index : Nat) : Option Slot :=
  match e with
  | switch s => some ⟨index, s⟩
  | heading _ => none

end Entry

namespace Registry

/-- The switches, the latest first. -/
def slots (R : Registry) : List Slot :=
  R.entries.zipIdx.reverse.filterMap fun (e, index) => e.slot? index

def findShort? (R : Registry) (c : Char) : Option Slot :=
  R.slots.find? (·.switch.shorts.contains c)

def findLong? (R : Registry) (word : String) : Option Slot :=
  R.slots.find? (·.switch.longs.contains word)

def find? (R : Registry) : Name → Option Slot
  | .short c => R.findShort? c
  | .long word => R.findLong? word

def findNegatable? (R : Registry) (word : String) : Option Slot :=
  (R.findLong? word).filter (·.switch.negatable)

def add (R : Registry) (s : Switch) : Registry :=
  { R with entries := R.entries ++ [.switch s] }

def addHeading (R : Registry) (text : String) : Registry :=
  { R with entries := R.entries ++ [.heading text] }

@[simp] theorem slots_add (R : Registry) (s : Switch) :
    (R.add s).slots = ⟨R.entries.length, s⟩ :: R.slots := by
  simp [slots, add, List.zipIdx_append, Entry.slot?]

@[simp] theorem slots_addHeading (R : Registry) (text : String) :
    (R.addHeading text).slots = R.slots := by
  simp [slots, addHeading, List.zipIdx_append, Entry.slot?]

def shadowed (R : Registry) (s : Switch) : List Name :=
  s.names.filter fun name => (R.find? name).isSome

def declare (R : Registry) (specs : List String) (handler : Option String) :
    Except Error (Registry × List Record) :=
  match Switch.ofSpecs specs with
  | .ok s => .ok (R.add { s with handler }, (R.shadowed s).map .shadowed)
  | .error fault => .error (.invalidSwitch fault.message)

end Registry

end CommandLine
