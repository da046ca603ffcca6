import CommandLine.Registry.Outline
import CommandLine.Session

namespace CommandLine.Greeting

structure Output where
  status : Nat := 0
  stdout : String := ""
  stderr : String := ""
  deriving DecidableEq, Repr

def Output.refused (e : Error) : Output :=
  { status := 2, stderr := e.message ++ "\n" }

def commands : List Command :=
  [.setBanner "Usage: greet [options] NAME...",
   .declare ["-e", "--emoji", "end with a heart instead of a bang"] none,
   .declare ["-g", "--greeting WORD", "use WORD instead of `Hello`"] none,
   .declare ["-h", "--help", "print this help"] (some "help")]

def heart : String := "\u2763\ufe0f"

def line (greeting ending name : String) : String :=
  greeting ++ " " ++ name ++ ending ++ "\n"

def answer (s : Session) (reply : Reply) : Output :=
  match reply.result with
  | .error e => .refused e
  | .ok names =>
    -- only the help switch has a handler
    if reply.calls.isEmpty then
      let greeting := (s.store["greeting"]?.bind Value.text?).getD "Hello"
      let ending := if s.store.contains "emoji" then heart else "!"
      { stdout := String.join (names.map (line greeting ending)) }
    else { stdout := s.registry.help.toOption.getD "" }

def opening : Session × Reply := Session.setup {} commands

def greet (args : List String) : Output :=
  match opening.2.result with
  | .error e => .refused e
  | .ok _ =>
    let (s, reply) := opening.1.execute (.scan .permuting true args)
    answer s reply

end CommandLine.Greeting
