import SchemaAssist.CommandLine.SchemaReport

/-!
# The command line

`outline FILE` and `info FILE` report on a schema file, `version` prints the version. Everything
that is printed is computed elsewhere; only reading and writing happens here.
-/

namespace SchemaAssist.CommandLine

def linesOf : Printed → List Text
  | .line text => [text]
  | .table table => table.title :: (table.columns :: table.rows).map (List.intercalate "  ".toList)

def report (command : SchemaCommand) (file : String) : IO UInt32 := do
  let contents ← try some <$> IO.FS.readBinFile file catch _ => pure none
  match SchemaReport.run command file.toList contents with
  | .error failure =>
    IO.eprintln (String.ofList failure.describe)
    return 1
  | .ok outcome =>
    for line in outcome.printed.flatMap linesOf do
      IO.println (String.ofList line)
    return outcome.exit.toUInt32

end SchemaAssist.CommandLine

def main : List String → IO UInt32
  | ["outline", file] => SchemaAssist.CommandLine.report .outline file
  | ["info", file] => SchemaAssist.CommandLine.report .info file
  | ["version"] => do
    IO.println (String.ofList SchemaAssist.version)
    return 0
  | _ => do
    IO.eprintln "usage: outline FILE | info FILE | version"
    return 2
