import CommandLine.Scan.Basic
import Std.Data.TreeMap

namespace CommandLine

abbrev Store := Std.TreeMap String Value

structure Call where
  handler : String
  value : Value
  deriving DecidableEq, Repr

structure Effects where
  store : Option Store := none
  calls : List Call := []
  log : List Record := []

namespace Effects

def called (m : Match) : List Call :=
  (m.slot.switch.handler.map fun handler => ⟨handler, m.value⟩).toList

def report (fx : Effects) : Event → Effects
  | .sentinel => { fx with log := fx.log ++ [.sentinel] }
  | .kept arg => { fx with log := fx.log ++ [.positional arg] }
  | .matched m =>
    { store := fx.store.map (·.insert m.slot.switch.key m.value)
      calls := fx.calls ++ called m
      log := fx.log ++ [.matched m.slot.switch.label m.value] }

end Effects

structure Run where
  effects : Effects
  outcome : Except Error (List String)

def Registry.run (R : Registry) (mode : Mode) (store : Option Store) (args : List String) : Run :=
  let (effects, outcome) := R.scan mode Effects.report ⟨args, false⟩ { store }
  ⟨effects, outcome⟩

end CommandLine
