import CommandLine.Scan.Effects

namespace CommandLine

structure Change where
  columnWidth : Option Nat := none
  indent : Option String := none
  exactNames : Option Bool := none
  deriving DecidableEq, Repr

def Settings.change (settings : Settings) (change : Change) : Settings where
  columnWidth := change.columnWidth.getD settings.columnWidth
  indent := change.indent.getD settings.indent
  exactNames := change.exactNames.getD settings.exactNames

inductive Command
  | declare (specs : List String) (handler : Option String)
  | heading (text : String)
  | setBanner (text : String)
  | configure (change : Change)
  | clear
  | scan (mode : Mode) (stored : Bool) (args : List String)
  deriving DecidableEq, Repr

structure Session where
  registry : Registry := {}
  store : Store := ∅

/-- A scan that succeeds answers with the arguments that are left, and all else with nothing. -/
structure Reply where
  result : Except Error (List String) := .ok []
  calls : List Call := []
  log : List Record := []

def Reply.left (args : List String) (reply : Reply) : List String :=
  match reply.result with
  | .ok rest => rest
  | .error _ => args

namespace Session

def start (settings : Settings) : Session :=
  { registry := { settings } }

def execute (s : Session) : Command → Session × Reply
  | .declare specs handler =>
    match s.registry.declare specs handler with
    | .ok (R, log) => ({ s with registry := R }, { log })
    | .error e => (s, { result := .error e })
  | .heading text => ({ s with registry := s.registry.addHeading text }, {})
  | .setBanner text => ({ s with registry := { s.registry with banner := some text } }, {})
  | .configure change =>
    let settings := s.registry.settings.change change
    ({ s with registry := { s.registry with settings } }, {})
  | .clear => ({ s with store := ∅ }, {})
  | .scan mode stored args =>
    let run := s.registry.run mode (if stored then some s.store else none) args
    ({ s with store := run.effects.store.getD s.store },
      { result := run.outcome, calls := run.effects.calls, log := run.effects.log })

def executeAll (s : Session) (commands : List Command) : Session :=
  commands.foldl (fun s command => (s.execute command).1) s

/-- A switch that cannot be declared ends the setup. -/
def setup (s : Session) : List Command → Session × Reply
  | [] => (s, {})
  | command :: commands =>
    let (s, reply) := s.execute command
    match command, reply.result with
    | .declare _ _, .error _ => (s, reply)
    | _, _ =>
      let (s, later) := s.setup commands
      (s, { later with calls := reply.calls ++ later.calls, log := reply.log ++ later.log })

end Session

end CommandLine
