import SchemaAssist.Text.Basic

/-!
# Log entries

Severities with their numbers and names. A severity is named without regard to case, so that a
letter or ligature whose capitals are plain letters counts as those. Two names belong to the layout
of log lines and cannot be used; any other name that is not known means `INFO`.
-/

namespace SchemaAssist

inductive Severity where
  | notset
  | debug
  | info
  | warning
  | error
  | critical
deriving DecidableEq

namespace Severity

def number : Severity → Nat
  | .notset => 0
  | .debug => 10
  | .info => 20
  | .warning => 30
  | .error => 40
  | .critical => 50

def label : Severity → Text
  | .notset => "NOTSET".toList
  | .debug => "DEBUG".toList
  | .info => "INFO".toList
  | .warning => "WARNING".toList
  | .error => "ERROR".toList
  | .critical => "CRITICAL".toList

def names : List (Text × Severity) :=
  [notset, debug, info, warning, error, critical].map (fun known => (known.label, known)) ++
    [("WARN".toList, warning), ("FATAL".toList, critical)]

/-- The capitals of a character, where they are plain letters; any other character stays. -/
def capitals : Char → Text
  | 'ı' => ['I']
  | 'ſ' => ['S']
  | 'ß' => ['S', 'S']
  | 'ﬀ' => ['F', 'F']
  | 'ﬁ' => ['F', 'I']
  | 'ﬂ' => ['F', 'L']
  | 'ﬃ' => ['F', 'F', 'I']
  | 'ﬄ' => ['F', 'F', 'L']
  | 'ﬅ' | 'ﬆ' => ['S', 'T']
  | c => [c.toUpper]

def ofName? (name : Text) : Option Severity := names.lookup (name.flatMap capitals)

end Severity

inductive LayoutName where
  | format
  | styles
deriving DecidableEq

namespace LayoutName

def names : List (Text × LayoutName) :=
  [("BASIC_FORMAT".toList, format), ("_STYLES".toList, styles)]

def ofName? (name : Text) : Option LayoutName := names.lookup (name.flatMap Severity.capitals)

def describe : LayoutName → Text
  | .format => "Unknown level: '%(levelname)s:%(name)s:%(message)s'".toList
  | .styles =>
    "Level not an integer or a valid string: \x7b'%': (<class 'logging.PercentStyle'>, ".toList ++
      "'%(levelname)s:%(name)s:%(message)s'), '\x7b': (<class 'logging.StrFormatStyle'>, ".toList ++
      "'\x7blevelname\x7d:\x7bname\x7d:\x7bmessage\x7d'), ".toList ++
      "'$': (<class 'logging.StringTemplateStyle'>, ".toList ++
      "'$\x7blevelname\x7d:$\x7bname\x7d:$\x7bmessage\x7d')\x7d".toList

end LayoutName

def Severity.resolve (name : Text) : Except LayoutName Severity :=
  match LayoutName.ofName? name with
  | some taken => .error taken
  | none => .ok ((Severity.ofName? name).getD .info)

structure LogEntry where
  severity : Severity
  message : Text
deriving DecidableEq

end SchemaAssist
