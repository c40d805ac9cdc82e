import Mathlib.Data.List.Forall2
import LuaAccessors.Proofs.Lexis.SpacedMask
import LuaAccessors.Proofs.TableLiteral.Extent
import LuaAccessors.Proofs.TableLiteral.Fields

/-!
# Tables in spaced texts

A table literal has the same fields if spaces are put between its tokens, up to the spaces that come into a key.
Both texts are cut at the same braces, commas and equality signs, and what is cut out is spaced again, wherever
it is cut.

- `spaced_cutAtCommas`, `spaced_contentWithin`, `spaced_trimOuterBraces`: what is cut out;
- `spaced_tableContent`, `spaced_keyedEntries`: the contents and the entries of both tables;
- `Field.Spaced`, `spaced_parseFields`: the fields of both tables.
-/

namespace LuaAccessors.TableLiteral

open Lexis

/-! ## §1 What is cut out -/

theorem text_cons (c s : Char) (m : Marked) : Marked.text ((c, s) :: m) = c :: m.text := rfl

/-- Both are cut at the same commas. -/
theorem spaced_cutAtCommas {before : Text} {m m' : Marked} (h : SpacedMarks before m m') (depth : Nat) :
    ∃ piece pieces piece' pieces', cutAtCommas depth m = piece :: pieces ∧
      cutAtCommas depth m' = piece' :: pieces' ∧ piece <+: m.text ∧ Spaced before piece piece' ∧
      List.Forall₂ (Spaced []) pieces pieces' := by
  induction h generalizing depth with
  | nil before => exact ⟨[], [], [], [], rfl, rfl, List.prefix_rfl, .nil before, .nil⟩
  | @keep before c s s' m m' hshown h ih =>
    have hcomma := hshown ',' rfl
    have hdepth : braceDepth depth s = braceDepth depth s' := by
      simp only [braceDepth, hshown '{' rfl, hshown '}' rfl]
    rw [cutAtCommas, cutAtCommas]
    -- Both show a comma at depth zero here, or none does.
    by_cases hcut : s = ',' ∧ depth = 0
    · obtain ⟨piece, pieces, piece', pieces', hm, hm', -, hpiece, hpieces⟩ := ih depth
      rw [if_pos hcut, if_pos ⟨hcomma.1 hcut.1, hcut.2⟩, hm, hm']
      exact ⟨[], _, [], _, rfl, rfl, List.nil_prefix, .nil _, .cons hpiece.alone hpieces⟩
    · obtain ⟨piece, pieces, piece', pieces', hm, hm', hstart, hpiece, hpieces⟩ := ih (braceDepth depth s)
      rw [if_neg hcut, if_neg fun hcut' => hcut ⟨hcomma.2 hcut'.1, hcut'.2⟩, hm, ← hdepth, hm']
      exact ⟨_, _, _, _, rfl, rfl, List.cons_prefix_cons.2 ⟨rfl, hstart⟩, .keep c hpiece, hpieces⟩
  | space hapart h ih =>
    obtain ⟨piece, pieces, piece', pieces', hm, hm', hstart, hpiece, hpieces⟩ := ih depth
    have hdepth : braceDepth depth ' ' = depth := rfl
    rw [cutAtCommas, if_neg (by simp), hdepth, hm']
    exact ⟨_, _, _, _, hm, rfl, hstart, .space (hapart.of_start hstart) hpiece, hpieces⟩

/-- A line feed as the space that it becomes. -/
def feedToSpace (c : Char) : Char := if c = '\n' then ' ' else c

theorem feedToSpace_eq_iff {c d : Char} (hd : d ≠ ' ') (hfeed : d ≠ '\n') : feedToSpace c = d ↔ c = d := by
  unfold feedToSpace
  split
  · rename_i hc
    constructor
    · exact fun h => absurd h.symm hd
    · rintro rfl
      exact absurd hc hfeed
  · rfl

/-- Parts stay apart if their line feeds become spaces. -/
theorem apart_feedToSpace {before behind : Text} (h : Apart before behind) :
    Apart (before.map feedToSpace) (behind.map feedToSpace) := by
  have hdrop : ∀ t : Text, (t.map feedToSpace).dropWhile (· == '=') =
      (t.dropWhile (· == '=')).map feedToSpace := by
    intro t
    have hsign : (· == '=') ∘ feedToSpace = (· == '=') := by
      funext c
      rw [Function.comp_apply, Bool.eq_iff_iff, beq_iff_eq, beq_iff_eq]
      exact feedToSpace_eq_iff (by decide) (by decide)
    rw [List.dropWhile_map, hsign]
  have hjoins : ∀ d, d ≠ ' ' → d ≠ '\n' →
      joinsBracket d (before.map feedToSpace) (behind.map feedToSpace) = joinsBracket d before behind := by
    intro d hd hfeed
    have hhead : ∀ t : Text, (t.map feedToSpace).head? = some d ↔ t.head? = some d := by
      intro t
      cases t with
      | nil => simp
      | cons c t => simp [feedToSpace_eq_iff hd hfeed]
    rw [joinsBracket, ← List.map_reverse, hdrop, hdrop, Bool.eq_iff_iff]
    simp only [joinsBracket, Bool.and_eq_true, beq_iff_eq, hhead]
  -- A space that was a line feed is part of no token, as the line feed was.
  refine ⟨?_, ?_, ?_, ?_⟩
  · intro hlast
    rw [List.getLast?_map] at hlast
    obtain ⟨x, hx, hxc⟩ := Option.map_eq_some_iff.1 hlast
    rw [(feedToSpace_eq_iff (by decide) (by decide)).1 hxc] at hx
    exact h.backslash hx
  · intro x hx y hy
    rw [Option.mem_def, List.getLast?_map] at hx
    rw [Option.mem_def, List.head?_map] at hy
    obtain ⟨u, hu, rfl⟩ := Option.map_eq_some_iff.1 hx
    obtain ⟨v, hv, rfl⟩ := Option.map_eq_some_iff.1 hy
    by_cases hfeed : u = '\n'
    · exact (congrArg (fuses · _) (if_pos hfeed)).trans (fuses_eq_false (.inl rfl) _).2
    by_cases hfeed' : v = '\n'
    · exact (congrArg (fuses _ ·) (if_pos hfeed')).trans (fuses_eq_false (.inl rfl) _).1
    · rw [feedToSpace, feedToSpace, if_neg hfeed, if_neg hfeed']
      exact h.fuses_eq u hu v hv
  · rw [hjoins '[' (by decide) (by decide)]
    exact h.opener
  · rw [hjoins ']' (by decide) (by decide)]
    exact h.closer

theorem start_contentWithin (depth : Nat) (m : Marked) :
    contentWithin depth m <+: m.text.map feedToSpace := by
  induction m generalizing depth with
  | nil => exact List.prefix_rfl
  | cons p m ih =>
    obtain ⟨c, s⟩ := p
    rw [contentWithin_cons, text_cons, List.map_cons]
    -- A line feed becomes a space, and everything else is kept up to the brace that closes the table.
    split
    · rename_i hc
      rw [hc]
      exact List.cons_prefix_cons.2 ⟨rfl, ih depth⟩
    · rename_i hc
      have hkeep : feedToSpace c = c := if_neg hc
      rw [hkeep]
      split
      · exact List.cons_prefix_cons.2 ⟨rfl, ih _⟩
      · split
        · split
          · exact List.nil_prefix
          · exact List.cons_prefix_cons.2 ⟨rfl, ih _⟩
        · exact List.cons_prefix_cons.2 ⟨rfl, ih _⟩

/-- Both have the same content up to the brace that closes the table. -/
theorem spaced_contentWithin {before : Text} {m m' : Marked} (h : SpacedMarks before m m') (depth : Nat) :
    Spaced (before.map feedToSpace) (contentWithin depth m) (contentWithin depth m') := by
  induction h generalizing depth with
  | nil before => exact .nil _
  | @keep before c s s' m m' hshown h ih =>
    -- Whatever the depth behind a character is, it is the same for both, so that the characters can be kept
    -- together.
    have hnext : ∀ depth, Spaced (before.map feedToSpace) (feedToSpace c :: contentWithin depth m)
        (feedToSpace c :: contentWithin depth m') := by
      intro depth
      have hrest := ih depth
      rw [List.map_append] at hrest
      exact .keep _ hrest
    rw [contentWithin_cons, contentWithin_cons]
    simp only [hshown '{' rfl, hshown '}' rfl]
    split
    · rename_i hc
      have hspace : feedToSpace c = ' ' := if_pos hc
      rw [← hspace]
      exact hnext depth
    · rename_i hc
      have hkeep : feedToSpace c = c := if_neg hc
      rw [hkeep] at hnext
      split
      · exact hnext _
      · split
        · split
          · exact .nil _
          · exact hnext _
        · exact hnext depth
  -- A space that was added is no brace, and is kept as it is.
  | @space before m m' hapart h ih =>
    have hcontent : contentWithin depth ((' ', ' ') :: m') = ' ' :: contentWithin depth m' := rfl
    rw [hcontent]
    exact .space ((apart_feedToSpace hapart).of_start (start_contentWithin depth m)) (ih depth)

theorem spaced_contentFromBrace {m m' : Marked} (h : SpacedMarks [] m m') :
    Spaced [] (contentFromBrace m) (contentFromBrace m') := by
  unfold contentFromBrace
  rcases h.dropWhile (d := '{') rfl with ⟨hm, hm'⟩ | ⟨p, p', rest, rest', hm, hm', hrest⟩
  · rw [hm, hm']
    exact .nil []
  · rw [hm, hm']
    exact spaced_contentWithin hrest 0

/-- What stands in front of the last place where `d` is shown. -/
def beforeLast? (d : Char) : Marked → Option Marked
  | [] => none
  | p :: m =>
    match beforeLast? d m with
    | some front => some (p :: front)
    | none => if p.2 = d then some [] else none

/-- Looking from the end finds the same place. -/
theorem dropWhile_reverse_eq (d : Char) (m : Marked) :
    (m.reverse.dropWhile (·.2 != d) = [] ∧ beforeLast? d m = none) ∨
      ∃ p front, m.reverse.dropWhile (·.2 != d) = p :: front.reverse ∧ beforeLast? d m = some front := by
  induction m with
  | nil => exact .inl ⟨rfl, rfl⟩
  | cons p m ih =>
    rw [List.reverse_cons, List.dropWhile_append, beforeLast?]
    rcases ih with ⟨hdrop, hlast⟩ | ⟨q, front, hdrop, hlast⟩
    · rw [hdrop, hlast]
      by_cases hp : p.2 = d
      · exact .inr ⟨p, [], by simp [hp], by simp [hp]⟩
      · exact .inl ⟨by simp [hp], by simp [hp]⟩
    · rw [hdrop, hlast]
      exact .inr ⟨q, p :: front, by simp, rfl⟩

theorem trimOuterBraces_eq (t : Text) : trimOuterBraces t =
    match (marked t).dropWhile (·.2 != '{') with
    | [] => t
    | _ :: inner => ((beforeLast? '}' inner).map Marked.text).getD t := by
  unfold trimOuterBraces
  cases (marked t).dropWhile (·.2 != '{') with
  | nil => rfl
  | cons p inner =>
    rcases dropWhile_reverse_eq '}' inner with ⟨hdrop, hlast⟩ | ⟨q, front, hdrop, hlast⟩
    · simp only [hdrop, hlast, Option.map_none, Option.getD_none]
    · simp only [hdrop, hlast, List.reverse_reverse, Option.map_some, Option.getD_some]

/-- The last sign stands at the same place, and what is in front of it is spaced. -/
theorem spaced_beforeLast? {before : Text} {m m' : Marked} (h : SpacedMarks before m m') {d : Char}
    (hd : isSeparator d = true) :
    (beforeLast? d m = none ∧ beforeLast? d m' = none) ∨
      ∃ front front', beforeLast? d m = some front ∧ beforeLast? d m' = some front' ∧
        front.text <+: m.text ∧ Spaced before front.text front'.text := by
  induction h with
  | nil before => exact .inl ⟨rfl, rfl⟩
  | @keep before c s s' m m' hshown h ih =>
    simp only [beforeLast?]
    -- If there is a sign further on it is the last one in both, and else the character itself may be it in both.
    rcases ih with ⟨hm, hm'⟩ | ⟨front, front', hm, hm', hstart, hfront⟩
    · rw [hm, hm']
      simp only [hshown d hd]
      split
      · exact .inr ⟨[], [], rfl, rfl, List.nil_prefix, .nil before⟩
      · exact .inl ⟨rfl, rfl⟩
    · rw [hm, hm']
      exact .inr ⟨_, _, rfl, rfl, List.cons_prefix_cons.2 ⟨rfl, hstart⟩, .keep c hfront⟩
  | space hapart h ih =>
    simp only [beforeLast?]
    rcases ih with ⟨hm, hm'⟩ | ⟨front, front', hm, hm', hstart, hfront⟩
    · rw [hm, hm']
      exact .inl ⟨rfl, if_neg (SpacedMarks.space_ne_separator hd)⟩
    · rw [hm, hm']
      exact .inr ⟨_, _, rfl, rfl, hstart, .space (hapart.of_start hstart) hfront⟩

theorem spaced_trimOuterBraces {t t' : Text} (h : Spaced [] t t') :
    Spaced [] (trimOuterBraces t) (trimOuterBraces t') := by
  rw [trimOuterBraces_eq, trimOuterBraces_eq]
  -- Both show an opening brace, or both stay as they are, and the same holds for the closing one.
  rcases h.marked.dropWhile (d := '{') rfl with ⟨hm, hm'⟩ | ⟨p, p', rest, rest', hm, hm', hrest⟩
  · rw [hm, hm']
    exact h
  · rw [hm, hm']
    rcases spaced_beforeLast? hrest (d := '}') rfl with ⟨hlast, hlast'⟩ | ⟨_, _, hlast, hlast', -, hfront⟩
    · simp only [hlast, hlast']
      exact h
    · simp only [hlast, hlast']
      exact hfront

theorem isBalanced_eq {t t' : Text} (h : Spaced [] t t') : isBalanced t = isBalanced t' := by
  have hmask : ∀ t : Text, (marked t).map (·.2) = mask t := fun t => List.map_snd_zip (by simp)
  have hsigns := h.marked.signs_eq
  rw [hmask, hmask] at hsigns
  have hcount : ∀ d, isSeparator d = true → (mask t).count d = (mask t').count d := by
    intro d hd
    rw [← List.count_filter hd, hsigns, List.count_filter hd]
  have hmem : (mask t).contains '{' = (mask t').contains '{' := by
    rw [Bool.eq_iff_iff, List.contains_iff_mem, List.contains_iff_mem, ← List.count_pos_iff,
      ← List.count_pos_iff, hcount _ rfl]
  simp only [isBalanced, hmem, hcount '{' rfl, hcount '}' rfl]

/-! ## §2 Contents and entries -/

theorem spaced_tableContent {value value' : Text} {following following' : List Text}
    (h : Spaced [] value value') (hfollowing : List.Forall₂ (Spaced []) following following') :
    Spaced [] (tableContent value following) (tableContent value' following') := by
  unfold tableContent
  rw [isBalanced_eq h]
  split
  · exact spaced_trimOuterBraces h
  · exact spaced_contentFromBrace (Spaced.join (.cons h hfollowing)).marked

theorem spaced_splitEntries {content content' : Text} (h : Spaced [] content content') :
    List.Forall₂ (fun t t' => Spaced [] t t' ∧ Text.Trimmed t') (splitEntries content)
      (splitEntries content') := by
  obtain ⟨piece, pieces, piece', pieces', hcut, hcut', -, hpiece, hpieces⟩ := spaced_cutAtCommas h.marked 0
  have hstrip : List.Forall₂ (fun t t' => Spaced [] t t' ∧ Text.Trimmed t')
      ((piece :: pieces).map Text.strip) ((piece' :: pieces').map Text.strip) :=
    List.rel_map (fun t t' ht => ⟨Spaced.strip ht, Text.trimmed_strip t'⟩) (.cons hpiece hpieces)
  rw [splitEntries, splitEntries, hcut, hcut']
  refine List.rel_filter ?_ hstrip
  intro t t' ht
  have hempty := ht.1.eq_nil_iff ht.2.head
  simpa using not_congr hempty

/-- Both entries are keyed, or none is. -/
theorem spaced_splitKeyed? {entry entry' : Text} (h : Spaced [] entry entry') :
    Option.Rel (fun p p' => Spaced [] p.1 p'.1 ∧ Spaced [] p.2 p'.2) (splitKeyed? entry)
      (splitKeyed? entry') := by
  have hname := (h.marked.takeWhile (d := '=') rfl).text.strip
  have hempty := hname.eq_nil_iff (Text.trimmed_strip _).head
  rcases h.marked.dropWhile (d := '=') rfl with ⟨hm, hm'⟩ | ⟨p, p', rest, rest', hm, hm', hrest⟩
  · simp only [splitKeyed?, hm, hm']
    exact .none
  · simp only [splitKeyed?, hm, hm', List.isEmpty_iff, hempty]
    split
    · exact .none
    · exact .some ⟨hname, hrest.text.strip⟩

theorem spaced_keyedEntries {content content' : Text} (h : Spaced [] content content') :
    List.Forall₂ (fun p p' => Spaced [] p.1 p'.1 ∧ Spaced [] p.2 p'.2) (keyedEntries content)
      (keyedEntries content') := by
  refine List.rel_filterMap ?_ (spaced_splitEntries h)
  exact fun t t' ht => spaced_splitKeyed? ht.1

end LuaAccessors.TableLiteral

namespace LuaAccessors

open Lexis TableLiteral

/-! ## §3 Fields -/

/-- The fields are equal up to spaces in their keys, and to what follows from these: a key with other spaces in
it may be annotated otherwise. -/
inductive Field.Spaced : Field → Field → Prop
  | intro {f f' : Field} (name : Lexis.Spaced [] f.name f'.name)
      (explicitType : f.name = f'.name → f.explicitType = f'.explicitType)
      (valueType : f.explicitType = f'.explicitType → f.valueType = f'.valueType)
      (fields : f.explicitType = f'.explicitType → List.Forall₂ Field.Spaced f.fields f'.fields) :
      Field.Spaced f f'

/-- **The fields of both tables** are equal up to spaces in their keys. -/
theorem spaced_parseFields {content content' : Text} (h : Lexis.Spaced [] content content')
    (types : Dictionary Text) :
    List.Forall₂ Field.Spaced (parseFields content types) (parseFields content' types) := by
  induction hn : content.length using Nat.strong_induction_on generalizing content content' types with
  | h n ih =>
    subst hn
    rw [parseFields_eq_map, parseFields_eq_map, List.forall₂_map_left_iff, List.forall₂_map_right_iff]
    have hentries := spaced_keyedEntries h
    rw [List.forall₂_iff_get] at hentries ⊢
    refine ⟨hentries.1, fun i hi hi' => ?_⟩
    obtain ⟨hname, hvalue⟩ := hentries.2 i hi hi'
    -- The value of an entry is shorter than the content, so the claim holds of its own fields.
    have hshorter := length_lt_of_mem_keyedEntries (List.get_mem (keyedEntries content) ⟨i, hi⟩)
    generalize (keyedEntries content).get ⟨i, hi⟩ = entry at hname hvalue hshorter ⊢
    generalize (keyedEntries content').get ⟨i, hi'⟩ = entry' at hname hvalue ⊢
    have hinfer : inferValueType entry.2 = inferValueType entry'.2 := hvalue.inferValueType_eq
    have hinner := length_trimOuterBraces_le entry.2
    have hresolve : types.get? entry.1 = types.get? entry'.1 →
        resolveValueType entry.2 (types.get? entry.1) = resolveValueType entry'.2 (types.get? entry'.1) := by
      intro heq
      rw [heq]
      exact hvalue.resolveValueType_eq _
    refine .intro hname (fun heq => congrArg types.get? heq) hresolve fun heq => ?_
    have hown := ih _ (by omega) (spaced_trimOuterBraces hvalue) [] rfl
    simp only [annotatedField, hresolve heq, hinfer]
    split
    · exact hown
    · exact .nil

end LuaAccessors
