import SchemaAssist.Text.Basic
import SchemaAssist.Text.CodeRanges
import SchemaAssist.Text.WordTable

/-!
# Whitespace and words

Whitespace is the information separators, the blank of ASCII and every spacing character of Unicode
that is not zero-width. `trim` takes it off both ends; `words` are the runs between it. Identifiers
are runs of word characters: letters, numerals and the low line.
-/

namespace SchemaAssist.Text

def spaceRanges : CodeRanges := [
  (0x0009, 0x000D), (0x001C, 0x0020), (0x0085, 0x0085), (0x00A0, 0x00A0), (0x1680, 0x1680),
  (0x2000, 0x200A), (0x2028, 0x2029), (0x202F, 0x202F), (0x205F, 0x205F), (0x3000, 0x3000)]

theorem spaceRanges_increasing : spaceRanges.Increasing := by decide

def isSpace (c : Char) : Bool := spaceRanges.has c.toNat

def indent (text : Text) : Text := text.takeWhile isSpace

def trimStart (text : Text) : Text := text.dropWhile isSpace

def trimEnd (text : Text) : Text := dropEndWhile isSpace text

def trim (text : Text) : Text := trimEnd (trimStart text)

theorem indent_append_trimStart (text : Text) : indent text ++ trimStart text = text :=
  List.takeWhile_append_dropWhile

def words (text : Text) : List Text := (text.splitOnP isSpace).filter (!·.isEmpty)

theorem ne_nil_of_mem_words {text word : Text} (h : word ∈ words text) : word ≠ [] := by
  simp only [words, List.mem_filter] at h
  simpa using h.2

theorem words_append_space {c : Char} (h : isSpace c = true) (before after : Text) :
    words (before ++ c :: after) = words before ++ words after := by
  rw [words, List.splitOnP_append_cons before after h, List.filter_append, words, words]

theorem words_space {c : Char} (h : isSpace c = true) (text : Text) :
    words (c :: text) = words text := by
  simpa [words] using words_append_space h [] text

/-- Exactly one whitespace character is consumed. -/
def afterSpace? : Text → Option Text
  | [] => none
  | c :: text => if isSpace c then some text else none

def isWord (c : Char) : Bool := wordRanges.has c.toNat

def lastRun (text : Text) : Text := takeEndWhile isWord text

end SchemaAssist.Text
