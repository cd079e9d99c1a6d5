import SchemaAssist.Editor.Completion
import SchemaAssist.Proofs.Block.Lookup
import SchemaAssist.Proofs.Block.Validity
import SchemaAssist.Proofs.Facts.TypeNames

/-!
# Completion of types

Where a type is typed, the scalar types are offered and the names that the document declares. A name
that stands for a block should be among them, and is if whitespace stands between it and the brace
on the block's header line; `model User\x7b` opens a block whose name can be looked up and is not
offered (`resolved_name_offered_iff`).
-/

namespace SchemaAssist

/-- A line is the header of a model, type, enum or view of that name, with whitespace between the
name and the brace. -/
def HasSpacedHeader (lines : List Text) (name : Text) : Prop :=
  ∃ spelling : HeaderSpelling, spelling.line ∈ lines ∧ spelling.kind ∈ Kind.named ∧
    spelling.name = name ∧ spelling.filler ≠ []

def Block.IsSpaced (lines : List Text) (block : Block) : Prop :=
  ∃ spelling : HeaderSpelling, spelling.line = Text.lineOf lines block.range.start.line ∧
    spelling.filler ≠ []

theorem mem_typeNames_iff {lines : List Text} {name : Text}
    (hword : ∀ c ∈ name, Text.isWord c = true) :
    name ∈ relationNames lines ++ compositeTypeNames lines ↔ HasSpacedHeader lines name := by
  rw [mem_relationNames_append_iff]
  constructor
  · rintro ⟨spelling, htypable, hline, hkind, hname⟩
    exact ⟨spelling, hline, hkind, hname, htypable.filler_ne_nil⟩
  · rintro ⟨spelling, hline, hkind, hname, hfiller⟩
    exact ⟨spelling, ⟨hname ▸ hword, hfiller⟩, hline, hkind, hname⟩

theorem Block.IsSpaced.hasSpacedHeader {lines : List Text} {name : Text} {block : Block}
    (hspaced : block.IsSpaced lines) (hfound : Block.named? name lines = some block) :
    HasSpacedHeader lines name := by
  obtain ⟨hscan, hname, hkind⟩ := mem_scan_of_named? hfound
  have hstart := (within_of_mem_scan hscan).1.start.line_lt
  obtain ⟨opening, stop, hheader, rfl, -⟩ := exists_header_of_mem_scan hscan
  obtain ⟨spelling, hline, hfiller⟩ := hspaced
  -- The header that is read on the line is the one that is spelled there.
  have hread := Header.ofLine?_line spelling
  rw [hline] at hread
  have hspelled : spelling.header = opening.header := Option.some.inj (hread.symm.trans hheader)
  refine ⟨spelling, ?_, ?_, ?_, hfiller⟩
  · rw [hline]
    exact List.mem_of_getElem? (Text.getElem?_eq_some_lineOf hstart)
  · rwa [show spelling.kind = opening.header.kind from congrArg Header.kind hspelled]
  · exact (congrArg Header.name hspelled).trans hname

namespace Completion

theorem labels_typeItems (lines : List Text) : (typeItems lines).map Item.label =
    scalarTypes ++ (relationNames lines ++ compositeTypeNames lines) := by
  simp [typeItems, offer, Function.comp_def]

theorem items_of_fieldType {text : Text} {position : Position}
    (h : Context.detect text position = .fieldType) :
    items text position = typeItems (Text.trimmedLines text) := by
  simp only [items, h]

/-- A name of word characters that stands for a block is among the declared names, and so among the
labels wherever a type is typed, exactly if it has whitespace behind it on a header line. The header
line of the block itself is as good as any. -/
theorem resolved_name_offered_iff {text name : Text} {block : Block}
    (hword : ∀ c ∈ name, Text.isWord c = true)
    (hfound : Block.named? name (Text.trimmedLines text) = some block) :
    (name ∈ relationNames (Text.trimmedLines text) ++ compositeTypeNames (Text.trimmedLines text) ↔
      HasSpacedHeader (Text.trimmedLines text) name) ∧
    (block.IsSpaced (Text.trimmedLines text) → HasSpacedHeader (Text.trimmedLines text) name) ∧
    ∀ position, Context.detect text position = .fieldType →
      (name ∈ (items text position).map Item.label ↔
        name ∈ scalarTypes ∨ HasSpacedHeader (Text.trimmedLines text) name) := by
  have hnames : name ∈ relationNames (Text.trimmedLines text) ++
      compositeTypeNames (Text.trimmedLines text) ↔ _ := mem_typeNames_iff hword
  refine ⟨hnames, fun hspaced => hspaced.hasSpacedHeader hfound, ?_⟩
  intro position hcontext
  rw [items_of_fieldType hcontext, labels_typeItems, List.mem_append, hnames]

/-- The name of an enum, behind a gap of two characters and in front of another one. -/
theorem spaced_enum_name_offered :
    let text := "enum \tRöle \t\x7b\n\x7d\nmodel P \x7b\n  r \n\x7d".toList
    let name := "Röle".toList
    (∀ c ∈ name, Text.isWord c = true) ∧
      Block.named? name (Text.trimmedLines text) =
        some ⟨.enum, ⟨⟨0, 0⟩, ⟨1, 1⟩⟩, ⟨⟨0, 6⟩, ⟨0, 10⟩⟩, name⟩ ∧
      name ∈ relationNames (Text.trimmedLines text) ++ compositeTypeNames (Text.trimmedLines text) ∧
      name ∈ (items text ⟨3, 4⟩).map Item.label := by
  intro text name
  have hword : ∀ c ∈ name, Text.isWord c = true := List.all_eq_true.1 (by decide +kernel)
  have hfound : Block.named? name (Text.trimmedLines text) =
      some ⟨.enum, ⟨⟨0, 0⟩, ⟨1, 1⟩⟩, ⟨⟨0, 6⟩, ⟨0, 10⟩⟩, name⟩ := by decide +kernel
  have hcontext : Context.detect text ⟨3, 4⟩ = .fieldType := by decide +kernel
  obtain ⟨hnames, hspaced, hlabels⟩ := resolved_name_offered_iff hword hfound
  have hheader : HasSpacedHeader (Text.trimmedLines text) name :=
    hspaced ⟨⟨.enum, " \t".toList, name, " \t".toList, [], by decide, by decide, by decide,
      by decide, by decide, by decide⟩, by decide, by decide⟩
  exact ⟨hword, hfound, hnames.2 hheader, (hlabels ⟨3, 4⟩ hcontext).2 (.inr hheader)⟩

/-- A name that stands for a model and is not offered: the brace follows it at once. -/
theorem unspaced_model_name_not_offered :
    let text := "model U\x7b\n\x7d\nmodel P \x7b\n  u \n\x7d".toList
    Block.named? ['U'] (Text.trimmedLines text) =
        some ⟨.model, ⟨⟨0, 0⟩, ⟨1, 1⟩⟩, ⟨⟨0, 6⟩, ⟨0, 7⟩⟩, ['U']⟩ ∧
      Text.isWord 'U' = true ∧
      ['U'] ∉ relationNames (Text.trimmedLines text) ++ compositeTypeNames (Text.trimmedLines text) ∧
      Context.detect text ⟨3, 4⟩ = .fieldType ∧ ['U'] ∉ (items text ⟨3, 4⟩).map Item.label := by
  decide +kernel

end Completion
end SchemaAssist
