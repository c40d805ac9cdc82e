import LuaAccessors.Literal
import LuaAccessors.Schema.Member
import LuaAccessors.TableLiteral.Content
import LuaAccessors.TableLiteral.Entry
import LuaAccessors.Text.Dictionary

/-!
# The fields of a table literal

Every keyed entry of a table literal becomes a field, in order and with duplicates; an entry whose
value is a table literal owns the fields of that literal. Annotated types apply to the entries of
the outermost literal only.

The recursion ends because the value of an entry is shorter than the content that holds the entry,
which is the content of the bounds below.
-/

namespace LuaAccessors.TableLiteral

open Lexis

/-! ## §1 Values are shorter than what holds them

Fields of fields are read by recursion on the length of their content. What is proved here is what its
termination needs.
-/

/-- Dropping a start leaves no more than there was. -/
theorem length_dropWhile_le {α : Type} (p : α → Bool) (l : List α) :
    (l.dropWhile p).length ≤ l.length :=
  (List.dropWhile_suffix p).length_le

/-- Trimming leaves no more than there was. -/
theorem length_strip_le (t : Text) : t.strip.length ≤ t.length := by
  have h₁ := length_dropWhile_le isBlank t
  have h₂ := length_dropWhile_le isBlank (t.dropWhile isBlank).reverse
  simp only [Text.strip, Text.dropEndWhile, List.length_reverse] at h₂ ⊢
  omega

/-- What is between two braces is no longer than the text. -/
theorem length_trimOuterBraces_le (t : Text) : (trimOuterBraces t).length ≤ t.length := by
  have ht : (marked t).length = t.length := by simp [marked]
  unfold trimOuterBraces
  split
  · exact Nat.le_refl _
  · rename_i b inner hi
    have h₁ := length_dropWhile_le (·.2 != '{') (marked t)
    rw [hi] at h₁
    split
    · exact Nat.le_refl _
    · rename_i c content hc
      -- Cutting off at the end is cutting off at the start of the reversed text.
      have h₂ := length_dropWhile_le (·.2 != '}') inner.reverse
      rw [hc] at h₂
      simp only [List.length_cons, List.length_reverse, Marked.text, List.length_map] at *
      omega

/-- A piece is no longer than what it is cut from. -/
theorem length_le_of_mem_cutAtCommas {m : Marked} {depth : Nat} {piece : Text}
    (h : piece ∈ cutAtCommas depth m) : piece.length ≤ m.length := by
  induction m generalizing depth piece with
  | nil => simp_all [cutAtCommas]
  | cons p rest ih =>
    obtain ⟨c, shown⟩ := p
    rw [cutAtCommas] at h
    split at h
    · rcases List.mem_cons.1 h with rfl | h
      · simp
      · exact Nat.le_succ_of_le (ih h)
    · split at h
      · simp_all
      · -- The character goes into the first piece. All other pieces are cut from the rest.
        rename_i first others hcut
        rcases List.mem_cons.1 h with rfl | h
        · have := ih (hcut ▸ List.mem_cons_self)
          simpa using this
        · exact Nat.le_succ_of_le (ih (hcut ▸ List.mem_cons_of_mem _ h))

/-- The value of a keyed entry is shorter than the entry. -/
theorem length_value_lt {entry name value : Text} (h : splitKeyed? entry = some (name, value)) :
    value.length < entry.length := by
  have hm : (marked entry).length = entry.length := by simp [marked]
  -- The sign itself is not part of the value, so one character is gone at least.
  have hd := length_dropWhile_le (·.2 != '=') (marked entry)
  simp only [splitKeyed?] at h
  split at h
  · simp at h
  · rename_i sign rest hrest
    rw [hrest] at hd
    split at h
    · simp at h
    · simp only [Option.some.injEq, Prod.mk.injEq] at h
      have := length_strip_le (Marked.text rest)
      simp only [List.length_cons, Marked.text, List.length_map] at *
      rw [← h.2]
      omega

/-- The value of a keyed entry is shorter than the content that the entry is in. -/
theorem length_lt_of_mem_keyedEntries {content name value : Text}
    (h : (name, value) ∈ keyedEntries content) : value.length < content.length := by
  simp only [keyedEntries, splitEntries, List.mem_filterMap, List.mem_filter, List.mem_map] at h
  obtain ⟨entry, ⟨⟨piece, hp, rfl⟩, -⟩, hs⟩ := h
  have h₁ := length_value_lt hs
  have h₂ := length_strip_le piece
  have h₃ := length_le_of_mem_cutAtCommas hp
  simp only [marked, List.length_zip, length_mask, Nat.min_self] at h₃
  omega

/-! ## §2 Fields -/

/-- The fields in the content of a table, where `types` gives the annotated types by name. -/
def parseFields (content : Text) (types : Dictionary Text) : List Field :=
  (keyedEntries content).attach.map fun ⟨(name, value), _⟩ =>
    let explicitType := types.get? name
    let valueType := resolveValueType value explicitType
    let fields :=
      if valueType = .table ∧ inferValueType value = .table then
        parseFields (trimOuterBraces value) []
      else []
    { name, valueType, fields, explicitType }
termination_by content.length
decreasing_by
  have h := length_lt_of_mem_keyedEntries ‹_›
  have := length_trimOuterBraces_le value
  omega

/-- The fields of the table literal that starts in `value` and may go on in the lines that follow
it. -/
def parseTable (value : Text) (following : List Text) (types : Dictionary Text) : List Field :=
  parseFields (tableContent value following) types

end LuaAccessors.TableLiteral
