import SchemaAssist.Editor.Completion
import SchemaAssist.Proofs.Cursor.Context
import SchemaAssist.Proofs.Field.DottedPath

/-!
# Completion of dotted paths

Inside a list, behind a word that ends in a dotted path, the fields at the end of that path are
offered (`labels_behind_dotted_path`). The path begins in the block of the cursor, and the line that
it is typed on declares nothing.
-/

namespace SchemaAssist.Completion

variable {text : Text} {position : Position} {block : Block}

theorem items_of_compositePath (hcontext : Context.detect text position = .compositePath) :
    items text position = offer .field "Composite field".toList
      (compositeFields (Text.trimmedLines text) (Text.lineAt text position.line) position) := by
  simp only [items, hcontext]

theorem pathBefore_of_getLast? {line word : Text} {column : Nat}
    (h : (wordsBefore line column).getLast? = some word) :
    Context.pathBefore line column = dottedPath word := by
  simp only [Context.pathBefore, h]

/-- Below the header of a block, in a list but in no string and no nested call, a word in front of
the cursor that ends in a dotted path is completed: with the fields at the end of the whole path, in
their order. What stands in front of the path in that word must not read on into it. -/
theorem labels_behind_dotted_path {lead : Text} {segments : List Text}
    (hblock : block ∈ Block.scan (Text.trimmedLines text))
    (hcovers : block.BodyCovers position.line) (hplain : Unnested (lineBefore text position))
    (hlist : (lineBefore text position).count ']' < (lineBefore text position).count '[')
    (hword : (Text.words (lineBefore text position)).getLast? = some (lead ++ dotted segments))
    (hlead : ∀ c ∈ lead.getLast?, Text.isWord c = false ∧ c ≠ '.') (hne : segments ≠ [])
    (hsegments : ∀ segment ∈ segments, IsSegment segment) :
    Context.detect text position = .compositePath ∧
      (items text position).map Item.label = pathFields (Text.trimmedLines text) segments
        (FieldIndex.ofBlock (Text.trimmedLines text) block (some position.line)) := by
  have hpath : Context.pathBefore (Text.lineAt text position.line) position.character = segments := by
    rw [pathBefore_of_getLast? hword, dottedPath_append_dotted hne hsegments hlead]
  have hcontext : Context.detect text position = .compositePath := by
    rw [Context.detect_of_bodyCovers hblock hcovers, Context.inBody_of_unnested hplain,
      Context.ofList?_of_path hlist (hpath ▸ hne), Option.getD_some]
  refine ⟨hcontext, ?_⟩
  rw [items_of_compositePath hcontext, compositeFields, hcovers.at?_eq hblock, hpath]
  simp [offer, Function.comp_def]

/-- A path through two types, behind another field of the list. -/
theorem labels_behind_path_of_two :
    let text := "model U \x7b\n  address Address?\n  @@index(fields: [name,address.geo.\n\x7d\n".toList ++
      "type Address \x7b\n  geo Geo\n\x7d\ntype Geo \x7b\n  lat Float\n  lng Float\n\x7d".toList
    Context.detect text ⟨2, 36⟩ = .compositePath ∧
      (items text ⟨2, 36⟩).map Item.label = ["lat".toList, "lng".toList] := by
  intro text
  let block : Block := ⟨.model, ⟨⟨0, 0⟩, ⟨3, 1⟩⟩, ⟨⟨0, 6⟩, ⟨0, 7⟩⟩, ['U']⟩
  have hsegments : ∀ segment ∈ ["address".toList, "geo".toList], IsSegment segment := by
    intro segment hsegment
    rcases List.mem_pair.1 hsegment with rfl | rfl
    · exact ⟨by decide, List.all_eq_true.1 (by decide +kernel)⟩
    · exact ⟨by decide, List.all_eq_true.1 (by decide +kernel)⟩
  have hblock : block ∈ Block.scan (Text.trimmedLines text) := by decide +kernel
  have hword : (Text.words (lineBefore text ⟨2, 36⟩)).getLast? =
      some ("[name,".toList ++ dotted ["address".toList, "geo".toList]) := by decide +kernel
  have hlead : ∀ c ∈ "[name,".toList.getLast?, Text.isWord c = false ∧ c ≠ '.' := by
    intro c hc
    obtain rfl : ',' = c := Option.some.inj hc
    exact ⟨by decide +kernel, by decide⟩
  obtain ⟨hcontext, hlabels⟩ := labels_behind_dotted_path hblock ⟨by decide, by decide⟩
    (by decide +kernel) (by decide +kernel) hword hlead (by decide) hsegments
  exact ⟨hcontext, hlabels.trans (by decide +kernel)⟩

end SchemaAssist.Completion
