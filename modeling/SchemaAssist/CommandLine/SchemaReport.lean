import SchemaAssist.Block.Scan
import SchemaAssist.CommandLine.FilePath
import SchemaAssist.Facts
import SchemaAssist.Field.Index
import SchemaAssist.Text.Basic
import SchemaAssist.Text.UnprintableTable

/-!
# Reports on a schema file

Two commands read a schema file and print what is found in it: `outline` a table of its blocks,
`info` its datasource and preview features. A file must be UTF-8; its line breaks become line feeds,
and a byte order mark stays part of the text.
-/

namespace SchemaAssist.Text

def isPrintable (c : Char) : Bool := !unprintableRanges.has c.toNat

def quoteFor (text : Text) : Char :=
  if text.contains '\x27' && !text.contains '"' then '"' else '\x27'

def hexadecimal (width code : Nat) : Text :=
  let digits := Nat.toDigits 16 code
  List.replicate (width - digits.length) '0' ++ digits

def numericEscape (code : Nat) : Text :=
  if code < 0x100 then ['\\', 'x'] ++ hexadecimal 2 code
  else if code < 0x10000 then ['\\', 'u'] ++ hexadecimal 4 code
  else ['\\', 'U'] ++ hexadecimal 8 code

def escaped (quote c : Char) : Text :=
  if c = quote ∨ c = '\\' then ['\\', c]
  else if c = '\t' then ['\\', 't']
  else if c = '\n' then ['\\', 'n']
  else if c = '\r' then ['\\', 'r']
  else if isPrintable c then [c]
  else numericEscape c.toNat

def quoted (text : Text) : Text :=
  let quote := quoteFor text
  [quote] ++ text.flatMap (escaped quote) ++ [quote]

end SchemaAssist.Text

namespace SchemaAssist

def version : Text := "0.1.0".toList

inductive SchemaCommand where
  | outline
  | info
deriving DecidableEq

structure Table where
  title : Text
  columns : List Text
  rows : List (List Text)
deriving DecidableEq

/-- One thing handed to the console: a line with its markup, or a table. -/
inductive Printed where
  | line (text : Text)
  | table (table : Table)
deriving DecidableEq

structure Outcome where
  exit : Nat
  printed : List Printed
deriving DecidableEq

inductive ReportFailure where
  | notUtf8
  | directory (path : Text)
  | nameTooLong (path : Text)
  | features (breach : Text.JsonLimits.Breach)
deriving DecidableEq

namespace ReportFailure

def describe : ReportFailure → Text
  | .notUtf8 => "the schema file is not UTF-8".toList
  | .directory path => "[Errno 21] Is a directory: ".toList ++ Text.quoted path
  | .nameTooLong path => "[Errno 36] File name too long: ".toList ++ Text.quoted path
  | .features breach => breach.describe

def ofPath? (path : FilePath) : Option ReportFailure :=
  if path.IsImpossible then none
  else if path.IsTooLong then some (.nameTooLong path.toText)
  else if path.IsDirectory then some (.directory path.toText)
  else none

end ReportFailure

namespace SchemaReport

/-- The lines that a block covers, counted from one. -/
def lineSpan (block : Block) : Text :=
  (toString (block.range.start.line + 1)).toList ++ ['-'] ++
    (toString (block.range.stop.line + 1)).toList

def row (lines : List Text) (block : Block) : List Text :=
  [block.kind.keyword, block.name, lineSpan block,
    List.intercalate ", ".toList (fieldNames lines block none)]

def table (title : Text) (lines : List Text) : Table where
  title := title
  columns := ["Kind".toList, "Name".toList, "Lines".toList, "Fields".toList]
  rows := (Block.scan lines).map (row lines)

def countLine (count : Nat) : Text :=
  "\n[dim]".toList ++ (toString count).toList ++ " block(s) found[/dim]".toList

def outline (title : Text) (lines : List Text) : List Printed :=
  [.table (table title lines), .line (countLine (Block.scan lines).length)]

def orDash : Option Text → Text
  | none | some [] => ['-']
  | some text => text

def featureList : Option (List Text) → Text
  | none => ['-']
  | some features => List.intercalate ", ".toList features

def infoWith (features : Option (List Text)) (lines : List Text) : List Printed :=
  [.line ("Datasource:       ".toList ++ orDash (datasourceName? lines)),
    .line ("Provider:         ".toList ++ orDash (datasourceProvider? lines)),
    .line ("Preview features: ".toList ++ featureList features)]

def info (lines : List Text) : Except ReportFailure (List Printed) :=
  match previewFeatures lines with
  | .ok features => .ok (infoWith features lines)
  | .error breach => .error (.features breach)

def decode? (contents : ByteArray) : Option Text := (String.fromUTF8? contents).map String.toList

def fileLines (text : Text) : List Text := Text.trimmedLines (Text.unifyBreaks text)

def printed (command : SchemaCommand) (path : FilePath) (text : Text) :
    Except ReportFailure (List Printed) :=
  match command with
  | .outline => .ok (outline path.toText (fileLines text))
  | .info => info (fileLines text)

def withoutFile (path : FilePath) : Except ReportFailure Outcome :=
  match ReportFailure.ofPath? path with
  | some failure => .error failure
  | none => .ok ⟨1, [.line ("[red]Schema file not found:[/red] ".toList ++ path.toText)]⟩

/-- A command on a file, whose contents are absent if there is no such file. -/
def run (command : SchemaCommand) (file : Text) (contents : Option ByteArray) :
    Except ReportFailure Outcome :=
  match contents with
  | none => withoutFile (FilePath.ofText file)
  | some contents =>
    match decode? contents with
    | none => .error .notUtf8
    | some text => (printed command (FilePath.ofText file) text).map (⟨0, ·⟩)

end SchemaReport
end SchemaAssist
