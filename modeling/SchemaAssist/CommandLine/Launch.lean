import SchemaAssist.Log

/-!
# Starting the server

The server is started over standard input and output or over TCP, at a log level that is named by an
option or by the environment; nothing is started if the name cannot be used. The transport returns,
is interrupted or fails. Started from the command line the server reports how it ended; started on
its own it lets the end through to its caller.
-/

namespace SchemaAssist

inductive Transport where
  | stdio
  | tcp (host : Text) (number : Int)
deriving DecidableEq

inductive TransportEnd where
  | returned
  | interrupted
  | failed (message : Text)
deriving DecidableEq

inductive LaunchFailure where
  | level (name : LayoutName)
  | transport (ending : TransportEnd)
deriving DecidableEq

/-- What a start comes to; `echoed` are the texts that go to the error output, each as a whole. -/
structure LaunchReport where
  level : Severity
  exit : Nat
  calls : List Transport
  echoed : List Text
  log : List LogEntry
deriving DecidableEq

namespace Launch

def announcement : Transport → Text
  | .stdio => []
  | .tcp host number =>
    "Starting prisma-ls on TCP ".toList ++ host ++ [':'] ++ (toString number).toList ++
      "...\n".toList

def farewell : TransportEnd → Text
  | .returned => []
  | .interrupted => "\nLSP server stopped.\n".toList
  | .failed message => "Error starting LSP server: ".toList ++ message ++ ['\n']

def exitCode : TransportEnd → Nat
  | .returned | .interrupted => 0
  | .failed _ => 1

def reportOf (transport : Transport) (ending : TransportEnd) (level : Severity) : LaunchReport where
  level := level
  exit := exitCode ending
  calls := [transport]
  echoed := [announcement transport, farewell ending]
  log := []

def fromCommandLine (transport : Transport) (level : Text) (ending : TransportEnd) :
    Except LayoutName LaunchReport :=
  (Severity.resolve level).map (reportOf transport ending)

def standalone (level : Option Text) (ending : TransportEnd) : Except LaunchFailure LaunchReport :=
  match Severity.resolve (level.getD "INFO".toList), ending with
  | .error name, _ => .error (.level name)
  | .ok level, .returned => .ok {
      level := level
      exit := 0
      calls := [.stdio]
      echoed := []
      log := [⟨.info, "Starting prisma-ls language server...".toList⟩] }
  | .ok _, ending => .error (.transport ending)

end Launch
end SchemaAssist
