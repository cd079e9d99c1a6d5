import SchemaAssist.Block.Basic
import SchemaAssist.Text.Basic
import SchemaAssist.Text.CaseTable
import SchemaAssist.Text.JsonLimits
import SchemaAssist.Text.Lines
import SchemaAssist.Text.Words

/-!
# Facts about a document

These are looked for in the lines themselves, so they are found where no block can be.

The provider of the datasource stands on the first nonblank line after an opening brace or on the
one after that, and a closing brace follows somewhere after its value. The value ends at the last
quote of its line that leaves room for that brace. The brace that opens the body ends its line or is
followed by a capital N; where both lines hold a provider, the second one is taken.

Preview features used to be called experimental. The old key is reported where it starts a line
after the first generator header and before the next line that starts with a closing brace. The
features are those of the first list assigned to `previewFeatures`, which runs to the last bracket
on its line; unless it is a JSON array of one or more strings, there are none. A list that goes
beyond a limit of JSON texts is an error.

The names offered as types of a field come from lines that start with a keyword, whitespace, a name
of word characters, whitespace and an opening brace.
-/

namespace SchemaAssist.Text

def isCased (c : Char) : Bool := casedRanges.has c.toNat

def isCaseIgnorable (c : Char) : Bool := caseIgnorableRanges.has c.toNat

def CaseRun.covers (run : CaseRun) (code : Nat) : Bool :=
  decide (run.first ≤ code) && decide (code ≤ run.last) && (code - run.first) % run.step == 0

def lowerChar (c : Char) : Char :=
  match caseRuns.find? (·.covers c.toNat) with
  | some run => Char.ofNat (c.toNat + run.offset).toNat
  | none => c

def casedNext (text : Text) : Bool :=
  match text.dropWhile isCaseIgnorable with
  | [] => false
  | c :: _ => isCased c

/-- Lowers a text, given what precedes it in reverse. -/
def lowerAfter (before : Text) : Text → Text
  | [] => []
  | c :: text =>
    let low :=
      if c = 'İ' then ['i', '\u0307']
      else if c = 'Σ' then [if casedNext before && !casedNext text then 'ς' else 'σ']
      else [lowerChar c]
    low ++ lowerAfter (c :: before) text

def lower (text : Text) : Text := lowerAfter [] text

end SchemaAssist.Text

namespace SchemaAssist

def assigned? (key text : Text) : Option Text := do
  let text ← Text.after? key text
  let text ← Text.afterSpace? text
  let text ← Text.after? ['='] text
  Text.afterSpace? text

/-- The part of a text before the last `mark` on its first line that `accepts` what follows it. -/
def beforeLast? (mark : Char) (accepts : Text → Bool) : Text → Option Text
  | [] => none
  | c :: text =>
    if c = '\n' then none
    else
      match beforeLast? mark accepts text with
      | some before => some (c :: before)
      | none => if c = mark ∧ accepts text = true then some [] else none

def datasourceName? (lines : List Text) : Option Text :=
  match lines.find? fun line => "datasource".toList.isPrefixOf line && line.contains '{' with
  | none => none
  | some line => some (Text.trim ((line.drop "datasource".toList.length).takeWhile (· != '{')))

namespace Provider

/-- Something other than a closing brace comes first, and one comes later. -/
def closesLater : Text → Bool
  | [] => false
  | c :: text => c != '}' && text.contains '}'

def value? (text : Text) : Option Text :=
  match assigned? "provider".toList text with
  | some ('"' :: text) => beforeLast? '"' closesLater text
  | _ => none

/-- What follows the first line, from its first nonblank character; none without a second line. -/
def secondLine? (text : Text) : Option Text :=
  match text.dropWhile (· != '\n') with
  | [] => none
  | _ :: rest => some (Text.trimStart rest)

/-- The provider in a body: on its second nonblank line, or else on its first. -/
def inBody? (body : Text) : Option Text :=
  let first := Text.trimStart body
  match (secondLine? first).bind value? with
  | some value => some value
  | none => value? first

/-- The bodies that a brace on this line can open, the last brace first. -/
def bodies : Text → List Text
  | [] => []
  | '\n' :: _ => []
  | '{' :: '\n' :: text => [text]
  | '{' :: 'N' :: text => bodies ('N' :: text) ++ [text]
  | _ :: text => bodies text

def search? : Text → Option Text
  | [] => none
  | c :: text =>
    match (Text.after? "datasource".toList (c :: text)).bind fun rest =>
        (bodies rest).findSome? inBody? with
    | some value => some value
    | none => search? text

end Provider

/-- The provider of the first datasource that has one; an empty value counts as none. -/
def datasourceProvider? (lines : List Text) : Option Text :=
  (Provider.search? (Text.joinLines lines)).filter (!·.isEmpty)

def legacyKey : Text := "experimentalFeatures".toList

def opensGenerator (line : Text) : Bool :=
  "generator".toList.isPrefixOf line && line.contains '{'

def legacyKeyLine? (lines : List Text) : Option Nat :=
  let searched := lines.zipIdx.dropWhile fun (line, _) => !opensGenerator line
  match searched.find? fun (line, _) => closesBlock line || legacyKey.isPrefixOf line with
  | some (line, number) => if closesBlock line then none else some number
  | none => none

def legacyKeyRange? (text : Text) : Option Range := do
  let number ← legacyKeyLine? (Text.trimmedLines text)
  let column ← Text.indexOf? legacyKey (Text.lineAt text number)
  return Range.onLine number column (column + legacyKey.length)

def previewList? : Text → Option Text
  | [] => none
  | c :: text =>
    match assigned? "previewFeatures".toList (c :: text) with
    | some ('[' :: rest) =>
      match beforeLast? ']' (fun _ => true) rest with
      | some inside => some ('[' :: inside ++ [']'])
      | none => previewList? text
    | _ => previewList? text

def featuresOf (list : Text) : Except Text.JsonLimits.Breach (Option (List Text)) :=
  match Text.JsonStrings.decode? list with
  | some [] => .ok none
  | some names => .ok (some (names.map Text.lower))
  | none =>
    match Text.JsonLimits.breach? list with
    | some breach => .error breach
    | none => .ok none

def previewFeatures (lines : List Text) : Except Text.JsonLimits.Breach (Option (List Text)) :=
  match previewList? (Text.joinLines lines) with
  | some list => featuresOf list
  | none => .ok none

def takeRun? (p : Char → Bool) (text : Text) : Option (Text × Text) :=
  match text.takeWhile p with
  | [] => none
  | run => some (run, text.dropWhile p)

def declaredName? (kind : Kind) (line : Text) : Option Text := do
  let text ← Text.after? kind.keyword line
  let (_, text) ← takeRun? Text.isSpace text
  let (name, text) ← takeRun? Text.isWord text
  let (_, text) ← takeRun? Text.isSpace text
  match text with
  | '{' :: _ => some name
  | _ => none

def relationNames (lines : List Text) : List Text :=
  lines.filterMap fun line => [Kind.model, .enum, .view].findSome? (declaredName? · line)

def compositeTypeNames (lines : List Text) : List Text :=
  lines.filterMap (declaredName? .type)

end SchemaAssist
