import Mathlib.Data.List.Forall2
import LuaAccessors.Proofs.TableLiteral.Fields

/-!
# Signs that make an entry keyed

A field is read off at the first visible equality sign of an entry. That makes it the field of a keyed entry if
the sign assigns, that is, if it stands outside the braces in the entry and is no part of a comparison. The
entries that show a sign behind a name and the fields correspond one to one, whether the sign assigns or not.

- `FirstSign`, `Assigns`, `Keyed`: the first visible sign, signs that assign, and entries that are keyed;
- `keyed_iff_assigns`: when the field of an entry is that of a keyed entry;
- `ShowsKey`, `splitKeyed?_eq_some_iff`: the entries that fields are read off;
- `fields_of_signs`: all fields of a content;
- `not_every_field_keyed`: a field that is read off inside a positional entry.
-/

namespace LuaAccessors.TableLiteral

open Lexis

/-! ## §1 Signs in an entry -/

/-- The first visible equality sign of an entry stands between `before` and `after`. -/
structure FirstSign (entry : Text) (before after : Marked) : Prop where
  marked_eq : marked entry = before ++ ('=', '=') :: after
  first : ∀ p ∈ before, p.2 ≠ '='

/-- The signs that make a comparison of an equality sign behind them. -/
def comparisonStarts : List Char := ['=', '~', '<', '>']

/-- A visible equality sign between `before` and `after` assigns: it stands at depth zero and is no part of a
comparison. -/
structure Assigns (before after : Marked) : Prop where
  depth_eq_zero : (before.map (·.2)).foldl braceDepth 0 = 0
  not_behind : ∀ p ∈ before.getLast?, p.2 ∉ comparisonStarts
  not_in_front : ∀ p ∈ after.head?, p.2 ≠ '='

/-- An entry is keyed by what stands before the first sign in it that assigns. -/
def Keyed (entry name : Text) : Prop :=
  ∃ before after, marked entry = before ++ ('=', '=') :: after ∧ Assigns before after ∧
    (∀ before' after', marked entry = before' ++ ('=', '=') :: after' → Assigns before' after' →
      before.length ≤ before'.length) ∧ name = before.text.strip

/-- The first visible equality sign of an entry stands behind a name. -/
def ShowsKey (entry : Text) : Prop := ∃ before after, FirstSign entry before after ∧ before.text.strip ≠ []

/-- Trimming takes nothing away but blanks. -/
theorem countP_strip (t : Text) : t.strip.countP (!isBlank ·) = t.countP (!isBlank ·) := by
  have hblank : ∀ {b : Text}, Text.AllBlank b → b.countP (!isBlank ·) = 0 := by
    intro b hb
    exact List.countP_eq_zero.2 fun c hc => by simp [hb c hc]
  obtain ⟨b₁, b₂, hb₁, hb₂, ht⟩ := Text.exists_blanks_strip t
  conv_rhs => rw [ht]
  rw [List.countP_append, List.countP_append, hblank hb₁, hblank hb₂, Nat.zero_add, Nat.add_zero]

/-- Whatever sign is shown, the first one stands in front of it or is it. -/
theorem FirstSign.length_le {entry : Text} {before after before' after' : Marked} {p : Char × Char}
    (h : FirstSign entry before after) (hsplit : marked entry = before' ++ p :: after') (hp : p.2 = '=') :
    before.length ≤ before'.length := by
  by_contra hlt
  have hbefore : before <+: marked entry := ⟨_, h.marked_eq.symm⟩
  have hbefore' : before' ++ [p] <+: marked entry := ⟨after', by rw [hsplit]; simp⟩
  have hstart : before' ++ [p] <+: before :=
    List.prefix_of_prefix_length_le hbefore' hbefore (by simp; omega)
  exact h.first p (hstart.subset (by simp)) hp

/-- **A field is that of a keyed entry** exactly if the first visible sign assigns. -/
theorem keyed_iff_assigns {entry : Text} {before after : Marked} (h : FirstSign entry before after) :
    Keyed entry before.text.strip ↔ Assigns before after := by
  constructor
  · rintro ⟨before', after', hsplit, hassigns, -, hname⟩
    have hle := h.length_le hsplit rfl
    have hstart : before <+: before' := List.prefix_of_prefix_length_le ⟨_, h.marked_eq.symm⟩
      ⟨_, hsplit.symm⟩ hle
    obtain ⟨mid, rfl⟩ := hstart
    cases mid with
    | nil =>
      have hafter := hsplit.symm.trans h.marked_eq
      rw [List.append_nil, List.append_cancel_left_eq, List.cons.injEq] at hafter
      rw [← hafter.2]
      rwa [List.append_nil] at hassigns
    | cons p mid =>
      -- The name would be longer with the first sign in it.
      have hp : p = ('=', '=') := by
        have heq := hsplit.symm.trans h.marked_eq
        rw [List.append_assoc, List.append_cancel_left_eq] at heq
        exact (List.cons.inj heq).1
      have htext : Marked.text (before ++ p :: mid) = before.text ++ '=' :: Marked.text mid := by
        rw [hp]
        exact List.map_append
      have hcount := congrArg (List.countP (!isBlank ·)) hname
      rw [htext, countP_strip, countP_strip, List.countP_append, List.countP_cons_of_pos rfl] at hcount
      omega
  · intro hassigns
    refine ⟨before, after, h.marked_eq, hassigns, ?_, rfl⟩
    intro before' after' hsplit _
    exact h.length_le hsplit rfl

/-! ## §2 Entries and fields -/

/-- A mask shows an equality sign for an equality sign only. -/
theorem eq_of_shown {entry : Text} {p : Char × Char} (h : p ∈ marked entry) (hp : p.2 = '=') :
    p = ('=', '=') := by
  have hne : p.2 ≠ ' ' := by simp [hp]
  exact Prod.ext ((fst_eq_of_shown h hne).trans hp) hp

/-- **An entry is cut at its first visible sign.** -/
theorem splitKeyed?_eq_some_iff {entry name value : Text} :
    splitKeyed? entry = some (name, value) ↔ ∃ before after, FirstSign entry before after ∧
      before.text.strip ≠ [] ∧ name = before.text.strip ∧ value = (Marked.text after).strip := by
  constructor
  · intro h
    simp only [splitKeyed?] at h
    split at h
    · cases h
    · rename_i p after hdrop
      split at h
      · cases h
      · rename_i hne
        obtain ⟨rfl, rfl⟩ := Prod.mk.inj (Option.some.inj h)
        -- The sign is shown as itself, since none of the characters that are replaced is shown as one.
        have hp : p = ('=', '=') := by
          apply @eq_of_shown entry
          · exact (List.dropWhile_sublist _).subset (by rw [hdrop]; exact List.mem_cons_self)
          · have hhead := List.head?_dropWhile_not (·.2 != '=') (marked entry)
            simpa [hdrop] using hhead
        refine ⟨(marked entry).takeWhile (·.2 != '='), after, ⟨?_, ?_⟩, by simpa using hne, rfl, rfl⟩
        · rw [← hp, ← hdrop, List.takeWhile_append_dropWhile]
        · intro q hq
          simpa using List.mem_takeWhile_imp hq
  · rintro ⟨before, after, hsign, hne, rfl, rfl⟩
    have hbefore : ∀ p ∈ before, (p.2 != '=') = true := fun p hp => by simpa using hsign.first p hp
    simp only [splitKeyed?, hsign.marked_eq, List.dropWhile_append_of_pos hbefore,
      List.takeWhile_append_of_pos hbefore]
    simp [hne]

/-- An entry has a name and a value exactly if it shows a key. -/
theorem isSome_splitKeyed?_iff {entry : Text} : (splitKeyed? entry).isSome = true ↔ ShowsKey entry := by
  rw [Option.isSome_iff_exists]
  constructor
  · rintro ⟨⟨name, value⟩, h⟩
    obtain ⟨before, after, hsign, hne, -⟩ := splitKeyed?_eq_some_iff.1 h
    exact ⟨before, after, hsign, hne⟩
  · rintro ⟨before, after, hsign, hne⟩
    exact ⟨_, splitKeyed?_eq_some_iff.2 ⟨before, after, hsign, hne, rfl, rfl⟩⟩

instance : DecidablePred ShowsKey := fun _ => decidable_of_iff _ isSome_splitKeyed?_iff

/-- A field is read off an entry at its first visible sign. -/
structure ReadOff (entry : Text) (field : Field) : Prop where
  ne_nil : field.name ≠ []
  at_sign : ∃ before after, FirstSign entry before after ∧ field.name = before.text.strip ∧
    (Keyed entry field.name ↔ Assigns before after)

/-- **The fields of a content** are read off the entries that show a sign behind a name, in order and one of
each; they are fields of keyed entries where that sign assigns, and only there. -/
theorem fields_of_signs (content : Text) (types : Dictionary Text) :
    List.Forall₂ ReadOff ((splitEntries content).filter fun entry => ShowsKey entry)
      (parseFields content types) := by
  rw [parseFields_eq_map, keyedEntries]
  -- Entry by entry: one without a key is passed over on both sides.
  induction splitEntries content with
  | nil => exact .nil
  | cons entry rest ih =>
    cases hkeyed : splitKeyed? entry with
    | none =>
      have hshows : ¬ShowsKey entry := by simp [← isSome_splitKeyed?_iff, hkeyed]
      rw [List.filter_cons_of_neg (by simpa using hshows), List.filterMap_cons_none hkeyed]
      exact ih
    | some keyed =>
      obtain ⟨name, value⟩ := keyed
      have hshows : ShowsKey entry := by simp [← isSome_splitKeyed?_iff, hkeyed]
      obtain ⟨before, after, hsign, hne, rfl, -⟩ := splitKeyed?_eq_some_iff.1 hkeyed
      rw [List.filter_cons_of_pos (by simpa using hshows), List.filterMap_cons_some hkeyed, List.map_cons]
      exact .cons ⟨hne, before, after, hsign, rfl, keyed_iff_assigns hsign⟩ ih

/-- A table inside a table. -/
def nestedTable : Text := "{ x = 1 }".toList

theorem firstSign_nestedTable :
    FirstSign nestedTable ((marked nestedTable).take 4) ((marked nestedTable).drop 5) :=
  ⟨by decide, by decide⟩

/-- **Not every field is that of a keyed entry**: a table inside a table has a sign, but no key. -/
theorem not_every_field_keyed : ¬∀ (content : Text) (types : Dictionary Text),
    ∀ field ∈ parseFields content types, ∃ entry ∈ splitEntries content, Keyed entry field.name := by
  intro h
  have hentries : splitEntries nestedTable = [nestedTable] := by decide
  have hkeyed : keyedEntries nestedTable = [(r"{ x".toList, r"1 }".toList)] := by decide
  have hfield : annotatedField [] (r"{ x".toList, r"1 }".toList) ∈ parseFields nestedTable [] := by
    rw [parseFields_eq_map, hkeyed]
    exact List.mem_cons_self
  obtain ⟨entry, hentry, hname⟩ := h nestedTable [] _ hfield
  rw [hentries, List.mem_singleton] at hentry
  obtain rfl := hentry
  have hdepth := ((keyed_iff_assigns firstSign_nestedTable).1 hname).depth_eq_zero
  exact absurd hdepth (by decide)

end LuaAccessors.TableLiteral
