import SchemaAssist.Text.Basic

/-!
# File paths

A path is its leading slashes and the components after them. Empty components and single dots lead
nowhere and are left out; two dots stay, since only a file system knows where they lead.
-/

namespace SchemaAssist

structure FilePath where
  root : Text
  parts : List Text
deriving DecidableEq

namespace FilePath

/-- Exactly two leading slashes stay two; any other number of them is as good as one. -/
def rootOf (text : Text) : Text :=
  match (text.takeWhile (· == '/')).length with
  | 0 => []
  | 2 => ['/', '/']
  | _ => ['/']

def leadsOn (part : Text) : Bool := !part.isEmpty && part != ['.']

def partsOf (text : Text) : List Text := (text.splitOnP (· == '/')).filter leadsOn

def ofText (text : Text) : FilePath := ⟨rootOf text, partsOf text⟩

def toText (path : FilePath) : Text :=
  match path.root ++ List.intercalate ['/'] path.parts with
  | [] => ['.']
  | text => text

def goesUp (part : Text) : Bool := part == ['.', '.']

def firstName? (path : FilePath) : Option Text := path.parts.find? (!goesUp ·)

def IsDirectory (path : FilePath) : Prop := path.firstName? = none

instance (path : FilePath) : Decidable path.IsDirectory :=
  inferInstanceAs (Decidable (path.firstName? = none))

def byteCount : Text → Nat
  | [] => 0
  | c :: text => c.utf8Size + byteCount text

/-- A path has fewer than 4096 bytes, and a name at most 255. Names after the first one do not
count, as they are only looked up in a directory that exists. -/
def IsTooLong (path : FilePath) : Prop :=
  4096 ≤ byteCount path.toText ∨ 255 < byteCount (path.firstName?.getD [])

instance (path : FilePath) : Decidable path.IsTooLong :=
  inferInstanceAs
    (Decidable (4096 ≤ byteCount path.toText ∨ 255 < byteCount (path.firstName?.getD [])))

def IsImpossible (path : FilePath) : Prop := '\x00' ∈ path.toText

instance (path : FilePath) : Decidable path.IsImpossible :=
  inferInstanceAs (Decidable ('\x00' ∈ path.toText))

end FilePath
end SchemaAssist
