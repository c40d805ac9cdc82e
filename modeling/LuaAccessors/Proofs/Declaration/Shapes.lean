import LuaAccessors.Proofs.Declaration
import LuaAccessors.Proofs.TableLiteral.Printed

/-!
# The two shapes of a declaration

A shape says which parts follow each other on a line, and not how far each of them reaches: `local` can be the
mark of a declaration or its name, and blanks can stand in front of a value or belong to it. Still no line can
be read in both shapes, and whichever way it is read in one of them, it declares the same.

- `ReadsFunction`, `ReadsAssignment`: all the ways to read a line;
- `function?_eq_some_iff`, `assignment?_eq_some_iff`: a line that can be read is read;
- `assignment?_of_readsFunction`: a function is no assignment;
- `MarkedLocal`: a line that starts with `local`, blanks and a name;
- `shapes_exclusive_and_locality_exact`: all of it together.
-/

namespace LuaAccessors.Declaration

open Lexis TableLiteral Text

/-! ## §1 Ways to read a line

The two shapes as relations: all ways to cut a line into the parts of a declaration, with nothing said about how
a reader finds them.
-/

/-- The ways to read a line as a function: a mark, the keyword, a name, and what stands between two
parentheses; the rest of the line is free. -/
inductive ReadsFunction : Text → Declaration → Prop where
  | intro {isLocal : Bool} {mark before between parameters rest : Text} (name : Identifier)
      (hmark : Mark isLocal mark) (hne : before ≠ []) (hbefore : AllBlank before)
      (hbetween : AllBlank between) (hparameters : ')' ∉ parameters) :
      ReadsFunction
        (mark ++ (functionKeyword ++ (before ++ (name.text ++ (between ++ '(' :: (parameters ++ ')' :: rest))))))
        (.function name.text (splitParameters parameters) isLocal)

/-- The ways to read what stands behind an equality sign as a value: blanks, line feeds included, then a text
on one line, and at most a line feed behind it. -/
inductive ReadsValue : Text → Text → Prop where
  | intro {before value last : Text} (hbefore : AllBlank before) (hne : value ≠ [])
      (hfeed : '\n' ∉ value) (hlast : last = [] ∨ last = ['\n']) :
      ReadsValue (before ++ (value ++ last)) value

/-- The ways to read a line as an assignment: a mark, a name, and a value behind a single equality sign. -/
inductive ReadsAssignment : Text → Declaration → Prop where
  | intro {isLocal : Bool} {mark between behind value : Text} (name : Identifier)
      (hmark : Mark isLocal mark) (hbetween : AllBlank between) (hsign : behind.head? ≠ some '=')
      (hvalue : ReadsValue behind value) :
      ReadsAssignment (mark ++ (name.text ++ (between ++ '=' :: behind)))
        (.assignment name.text value.strip isLocal)

/-- The line starts with the word `local`, blanks and the first letter of a name. -/
def MarkedLocal (line : Text) : Prop :=
  ∃ blanks c rest, line = localKeyword ++ (blanks ++ c :: rest) ∧ blanks ≠ [] ∧ AllBlank blanks ∧
    isNameStart c = true

/-! ## §2 Words -/

theorem isBlank_first (name : Identifier) : isBlank name.first = false :=
  isBlank_eq_false_of_isNamePart (isNamePart_of_isNameStart name.isNameStart_first)

theorem exists_identifier_of_takeName? {t name rest : Text} (h : takeName? t = some (name, rest)) :
    ∃ i : Identifier, name = i.text := by
  cases t with
  | nil => cases h
  | cons c t =>
    simp only [takeName?] at h
    split at h
    case isFalse => cases h
    rename_i hc
    obtain ⟨rfl, -⟩ := Prod.mk.inj (Option.some.inj h)
    exact ⟨⟨c, t.takeWhile isNamePart, hc, fun _ hd => List.mem_takeWhile_imp hd⟩, rfl⟩

/-- A name reaches up to the first character that cannot belong to it. -/
theorem takeName?_append (name : Identifier) {rest : Text} (h : ∀ c ∈ rest.head?, isNamePart c = false) :
    takeName? (name.text ++ rest) = some (name.text, rest) := by
  have hrest : rest.takeWhile isNamePart = [] ∧ rest.dropWhile isNamePart = rest := by
    cases rest with
    | nil => exact ⟨rfl, rfl⟩
    | cons c rest => simp [h c rfl]
  rw [Identifier.text, List.cons_append, takeName?, if_pos name.isNameStart_first,
    List.takeWhile_append_of_pos name.isNamePart_others, List.dropWhile_append_of_pos name.isNamePart_others,
    hrest.1, hrest.2, List.append_nil]

/-- A name has ended in front of blanks. -/
theorem isNamePart_head_of_blanks {blanks : Text} (hne : blanks ≠ []) (hblanks : AllBlank blanks) (rest : Text) :
    ∀ c ∈ (blanks ++ rest).head?, isNamePart c = false := by
  intro c hc
  obtain ⟨b, blanks, rfl⟩ := List.exists_cons_of_ne_nil hne
  obtain rfl : b = c := by simpa using hc
  exact isNamePart_eq_false_of_isBlank (hblanks b List.mem_cons_self)

/-- It has also ended if there are none, but a character that cannot belong to it. -/
theorem isNamePart_head_append {blanks : Text} (hblanks : AllBlank blanks) {c : Char} (hc : isNamePart c = false)
    (rest : Text) : ∀ d ∈ (blanks ++ c :: rest).head?, isNamePart d = false := by
  by_cases hne : blanks = []
  · rw [hne]
    intro d hd
    obtain rfl : c = d := by simpa using hd
    exact hc
  · exact isNamePart_head_of_blanks hne hblanks _

theorem dropWhile_blanks_append {blanks : Text} (hblanks : AllBlank blanks) {c : Char} (hc : isBlank c = false)
    (rest : Text) : (blanks ++ c :: rest).dropWhile isBlank = c :: rest := by
  rw [List.dropWhile_append_of_pos hblanks, List.dropWhile_cons_of_neg (by simp [hc])]

theorem afterBlanks?_append {blanks : Text} (hne : blanks ≠ []) (hblanks : AllBlank blanks) {c : Char}
    (hc : isBlank c = false) (rest : Text) : afterBlanks? (blanks ++ c :: rest) = some (c :: rest) := by
  obtain ⟨b, blanks, rfl⟩ := List.exists_cons_of_ne_nil hne
  obtain ⟨hb, hblanks⟩ := allBlank_cons.1 hblanks
  rw [List.cons_append, afterBlanks?, if_pos hb, dropWhile_blanks_append hblanks hc]

theorem isPrefixOf?_append (keyword rest : Text) : keyword.isPrefixOf? (keyword ++ rest) = some rest :=
  List.isPrefixOf?_eq_some_iff_append_eq.2 rfl

/-! ## §3 Marks -/

/-- A line whose mark has been left out is marked as local. -/
theorem splitLocal_eq_true_iff (line : Text) : (splitLocal line).1 = true ↔ MarkedLocal line := by
  constructor
  · intro hlocal
    obtain ⟨mark, hline, hmark, hname⟩ := exists_mark line
    obtain ⟨c, rest, hrest, hc⟩ := hname hlocal
    -- The mark is what has been left out in front of the name, and it is not empty.
    rw [hlocal] at hmark
    cases hmark with
    | word hne hblanks => exact ⟨_, c, rest, by rw [hline, hrest, List.append_assoc], hne, hblanks, hc⟩
  · rintro ⟨blanks, c, rest, rfl, hne, hblanks, hc⟩
    have hblank := isBlank_eq_false_of_isNamePart (isNamePart_of_isNameStart hc)
    simp only [splitLocal, isPrefixOf?_append, Option.bind_some, afterBlanks?_append hne hblanks hblank, hc,
      if_true]

/-- A mark is found in front of a name, unless the name is read as a mark itself. -/
theorem splitLocal_append {isLocal : Bool} {mark : Text} (hmark : Mark isLocal mark) {t : Text}
    (hstart : t.head?.any isNameStart = true) (hunmarked : ¬MarkedLocal t) :
    splitLocal (mark ++ t) = (isLocal, t) := by
  cases hmark with
  -- Without a mark the text has to say for itself that it is not marked.
  | unmarked =>
    have hlocal : (splitLocal t).1 = false := by
      rw [Bool.eq_false_iff]
      exact mt (splitLocal_eq_true_iff t).1 hunmarked
    obtain ⟨mark, hline, hmark, -⟩ := exists_mark t
    rw [hlocal] at hmark
    cases hmark
    exact Prod.ext hlocal hline.symm
  -- Behind the keyword and its blanks the name starts, so neither can be longer.
  | word hne hblanks =>
    cases t with
    | nil => cases hstart
    | cons c rest =>
      have hc : isNameStart c = true := hstart
      have hblank := isBlank_eq_false_of_isNamePart (isNamePart_of_isNameStart hc)
      simp only [List.append_assoc, splitLocal, isPrefixOf?_append, Option.bind_some,
        afterBlanks?_append hne hblanks hblank, hc, if_true]

/-- The keyword of a function is no mark. -/
theorem not_markedLocal_function (rest : Text) : ¬MarkedLocal (functionKeyword ++ rest) := by
  rintro ⟨blanks, c, behind, heq, -⟩
  cases heq

/-- A name in front of an equality sign is no mark, `local` included. -/
theorem not_markedLocal_assignment (name : Identifier) {between : Text} (hbetween : AllBlank between)
    (behind : Text) : ¬MarkedLocal (name.text ++ (between ++ '=' :: behind)) := by
  rintro ⟨blanks, c, rest, heq, hne, hblanks, hc⟩
  have hname : ∀ d ∈ name.text, isNamePart d = true := by
    intro d hd
    rcases List.mem_cons.1 hd with rfl | hd
    · exact isNamePart_of_isNameStart name.isNameStart_first
    · exact name.isNamePart_others d hd
  have hkeyword : ∀ d ∈ localKeyword, isNamePart d = true :=
    List.all_eq_true.1 (by decide : localKeyword.all isNamePart = true)
  have hblank := isBlank_eq_false_of_isNamePart (isNamePart_of_isNameStart hc)
  have hfound : (localKeyword.isPrefixOf? (name.text ++ (between ++ '=' :: behind))).bind afterBlanks? =
      some (c :: rest) := by
    rw [heq, isPrefixOf?_append, Option.bind_some, afterBlanks?_append hne hblanks hblank]
  -- Behind the blanks there is the equality sign, which starts no name.
  obtain ⟨rfl, -⟩ := List.cons.inj (afterKeyword_of_assignment hname hbetween hkeyword hfound)
  cases hc

/-! ## §4 Functions -/

/-- **A line is read as a function** exactly if it can be. -/
theorem function?_eq_some_iff {line : Text} {d : Declaration} :
    function? line = some d ↔ ReadsFunction line d := by
  constructor
  · intro h
    obtain ⟨mark, hline, hmark, -⟩ := exists_mark line
    unfold function? at h
    rcases hlocal : splitLocal line with ⟨isLocal, t⟩
    rw [hlocal] at hline hmark h
    simp only [Option.bind_eq_bind, Option.bind_eq_some_iff] at h
    obtain ⟨t₁, hkeyword, t₂, hblanks, ⟨word, t₃⟩, hname, h⟩ := h
    obtain ⟨before, rfl, hne, hbefore⟩ := eq_append_of_afterBlanks? hblanks
    obtain ⟨name, rfl⟩ := exists_identifier_of_takeName? hname
    obtain ⟨rfl, -⟩ := eq_append_of_takeName? hname
    obtain ⟨between, hbetween, ht₃⟩ := exists_blanks_dropWhile t₃
    dsimp only at h
    split at h
    case h_2 => cases h
    rename_i inside hopen
    split at h
    case isFalse => cases h
    rename_i hclose
    obtain rfl := Option.some.inj h
    -- The parameters end at the first closing parenthesis.
    obtain ⟨parameters, rest, rfl, hparameters⟩ :=
      List.eq_append_cons_of_mem (List.contains_iff_mem.1 hclose)
    rw [hopen] at ht₃
    rw [hline, ← List.append_eq_of_isPrefixOf?_eq_some hkeyword, ht₃,
      takeWhile_append_cons hparameters]
    exact .intro name hmark hne hbefore hbetween hparameters
  · rintro ⟨name, hmark, hne, hbefore, hbetween, hparameters⟩
    rename_i isLocal mark before between parameters rest
    have hlocal := splitLocal_append hmark (t := functionKeyword ++ (before ++
      (name.text ++ (between ++ '(' :: (parameters ++ ')' :: rest))))) rfl (not_markedLocal_function _)
    have hname : takeName? (name.text ++ (between ++ '(' :: (parameters ++ ')' :: rest))) =
        some (name.text, between ++ '(' :: (parameters ++ ')' :: rest)) :=
      takeName?_append name (isNamePart_head_append hbetween rfl _)
    have hdrop : (between ++ '(' :: (parameters ++ ')' :: rest)).dropWhile isBlank =
        '(' :: (parameters ++ ')' :: rest) := dropWhile_blanks_append hbetween rfl _
    have hblanks : afterBlanks? (before ++ (name.text ++ (between ++ '(' :: (parameters ++ ')' :: rest)))) =
        some (name.text ++ (between ++ '(' :: (parameters ++ ')' :: rest))) :=
      afterBlanks?_append hne hbefore (isBlank_first name) _
    simp [function?, hlocal, isPrefixOf?_append, hblanks, hname, hdrop, takeWhile_append_cons hparameters]

/-! ## §5 Assignments -/

/-- The last line of what follows an equality sign is read as its value, if there is nothing above it. -/
theorem assignedValue?_eq_some_iff {t v : Text} :
    assignedValue? t = some v ↔ ∃ value, ReadsValue t value ∧ value.strip = v := by
  constructor
  · intro h
    simp only [assignedValue?, Option.ite_none_left_eq_some, Bool.or_eq_true, not_or, Bool.not_eq_true,
      Bool.not_eq_false', List.isEmpty_eq_false_iff, List.all_eq_true] at h
    obtain ⟨⟨hne, habove⟩, hvalue⟩ := h
    generalize hbody : (if t.getLast? = some '\n' then t.dropLast else t) = body at *
    obtain ⟨last, ht, hlast⟩ : ∃ last, t = body ++ last ∧ (last = [] ∨ last = ['\n']) := by
      rw [← hbody]
      split
      · rename_i hfeed
        obtain ⟨front, rfl⟩ := List.getLast?_eq_some_iff.1 hfeed
        exact ⟨['\n'], by simp, .inr rfl⟩
      · exact ⟨[], by simp, .inl rfl⟩
    obtain ⟨above, value, hlines, -⟩ := exists_splitOn_append (c := '\n') body (u := []) (by simp)
    rw [hlines, List.getLastD_concat] at hne hvalue
    rw [hlines, List.dropLast_concat] at habove
    -- The lines above the value are blanks in front of it, with their ends.
    have hsplit : body = join ['\n'] (above ++ [[]]) ++ value := by
      rw [← join_splitOn '\n' body, hlines]
      exact (join_append_join ['\n'] above [] [] value).symm
    refine ⟨value, ?_, Option.some.inj hvalue⟩
    rw [ht, hsplit, List.append_assoc]
    refine .intro ?_ hne ?_ hlast
    · intro c hc
      rcases mem_of_mem_join hc with hc | ⟨line, hline, hc⟩
      · rw [List.mem_singleton.1 hc]
        rfl
      · rcases List.mem_append.1 hline with hline | hline
        · exact habove line hline c hc
        · rw [List.mem_singleton.1 hline] at hc
          cases hc
    · exact not_mem_of_mem_splitOn (t := body) (by simp [hlines])
  · rintro ⟨_, ⟨hbefore, hne, hfeed, hlast⟩, rfl⟩
    rename_i value before last
    have hbody : (if (before ++ (value ++ last)).getLast? = some '\n' then (before ++ (value ++ last)).dropLast
        else before ++ (value ++ last)) = before ++ value := by
      rcases hlast with rfl | rfl
      · have hend : (before ++ (value ++ [])).getLast? ≠ some '\n' := by
          intro hend
          rw [List.append_nil, List.getLast?_append_of_ne_nil before hne] at hend
          exact hfeed (List.mem_of_getLast? hend)
        rw [if_neg hend, List.append_nil]
      · rw [← List.append_assoc, List.getLast?_concat, if_pos rfl, List.dropLast_concat]
    obtain ⟨above, blanks, hlines, hsplit⟩ := exists_splitOn_append before hfeed
    -- What is left of `before` on the line of the value is trimmed away.
    have hblank : ∀ line ∈ above ++ [blanks], AllBlank line := fun line hline c hc =>
      hbefore c (mem_of_mem_splitWhere (hlines ▸ hline) hc).1
    have habove : above.all (fun line => line.all isBlank) = true := by
      rw [List.all_eq_true]
      exact fun line hline => List.all_eq_true.2 (hblank line (List.mem_append_left _ hline))
    have hstrip : (blanks ++ value).strip = value.strip := by
      simpa using strip_blanks_append (hblank blanks (by simp)) allBlank_nil value
    simp only [assignedValue?, hbody, hsplit, List.getLastD_concat, List.dropLast_concat, habove]
    simp [hstrip, hne]

/-- **A line is read as an assignment** exactly if it can be. -/
theorem assignment?_eq_some_iff {line : Text} {d : Declaration} :
    assignment? line = some d ↔ ReadsAssignment line d := by
  constructor
  · intro h
    -- Each step of the reading cuts a part off the line, and puts it back as one part of the relation.
    obtain ⟨mark, hline, hmark, -⟩ := exists_mark line
    unfold assignment? at h
    rcases hlocal : splitLocal line with ⟨isLocal, t⟩
    rw [hlocal] at hline hmark h
    simp only [Option.bind_eq_bind, Option.bind_eq_some_iff] at h
    obtain ⟨⟨word, t'⟩, hname, h⟩ := h
    obtain ⟨name, rfl⟩ := exists_identifier_of_takeName? hname
    obtain ⟨rfl, -⟩ := eq_append_of_takeName? hname
    obtain ⟨between, hbetween, ht'⟩ := exists_blanks_dropWhile t'
    dsimp only at h
    split at h
    case h_2 => cases h
    rename_i behind hequal
    split at h
    case isTrue => cases h
    rename_i hsign
    obtain ⟨v, hv, rfl⟩ := Option.map_eq_some_iff.1 h
    obtain ⟨value, hvalue, rfl⟩ := assignedValue?_eq_some_iff.1 hv
    rw [hequal] at ht'
    rw [hline, ht']
    exact .intro name hmark hbetween hsign hvalue
  · rintro ⟨name, hmark, hbetween, hsign, hvalue⟩
    rename_i isLocal mark between behind value
    -- The other way round each part ends where the step for it stops.
    have hlocal := splitLocal_append hmark (t := name.text ++ (between ++ '=' :: behind))
      name.isNameStart_first (not_markedLocal_assignment name hbetween behind)
    have hname : takeName? (name.text ++ (between ++ '=' :: behind)) =
        some (name.text, between ++ '=' :: behind) :=
      takeName?_append name (isNamePart_head_append hbetween rfl _)
    have hdrop : (between ++ '=' :: behind).dropWhile isBlank = '=' :: behind :=
      dropWhile_blanks_append hbetween rfl _
    have hassigned : assignedValue? behind = some value.strip :=
      assignedValue?_eq_some_iff.2 ⟨value, hvalue, rfl⟩
    simp [assignment?, hlocal, hname, hdrop, hsign, hassigned]

/-! ## §6 Both shapes -/

/-- **A function is no assignment.** The keyword would be the name, and behind it there is another name and no
equality sign. -/
theorem assignment?_of_readsFunction {line : Text} {d : Declaration} (h : ReadsFunction line d) :
    assignment? line = none := by
  cases h with
  | @intro isLocal mark before between parameters rest name hmark hne hbefore _ _ =>
    generalize between ++ '(' :: (parameters ++ ')' :: rest) = behind
    have hlocal := splitLocal_append hmark (t := functionKeyword ++ (before ++ (name.text ++ behind))) rfl
      (not_markedLocal_function _)
    -- A blank follows the keyword, so the keyword is the whole word that is read as a name.
    have hword : ∀ c ∈ (before ++ (name.text ++ behind)).head?, isNamePart c = false :=
      isNamePart_head_of_blanks hne hbefore _
    have hname : takeName? (functionKeyword ++ (before ++ (name.text ++ behind))) =
        some (functionKeyword, before ++ (name.text ++ behind)) :=
      takeName?_append ⟨'f', "unction".toList, rfl, List.all_eq_true.1 rfl⟩ hword
    have hdrop : (before ++ (name.text ++ behind)).dropWhile isBlank = name.first :: (name.others ++ behind) :=
      dropWhile_blanks_append hbefore (isBlank_first name) _
    simp only [assignment?, hlocal, hname, Option.bind_eq_bind, Option.bind_some, hdrop]
    split
    · -- The next character starts a name, which the equality sign does not.
      rename_i hsign
      have hletter := name.isNameStart_first
      rw [(List.cons.inj hsign).1] at hletter
      cases hletter
    · rfl

/-- A declaration is local if its line is marked. -/
theorem isLocal_of_ofLine? {line : Text} {d : Declaration} (h : ofLine? line = some d) :
    d.isLocal = (splitLocal line).1 := by
  rcases Option.or_eq_some_iff.1 h with h | ⟨-, h⟩
  · cases function?_eq_some_iff.1 h with
    | intro name hmark _ _ _ _ =>
      rw [splitLocal_append hmark rfl (not_markedLocal_function _)]
      rfl
  · cases assignment?_eq_some_iff.1 h with
    | @intro isLocal mark between behind value name hmark hbetween _ _ =>
      have hlocal := splitLocal_append hmark (t := name.text ++ (between ++ '=' :: behind))
        name.isNameStart_first (not_markedLocal_assignment name hbetween behind)
      rw [hlocal]
      rfl

/-- **No line has both shapes, and locality is exact.** A line is read in one of the two shapes exactly if it
can be in any way; it never can be in both, so that it does not matter which shape is tried first; and what is
read is local exactly if the line starts with `local`, blanks and a name. -/
theorem shapes_exclusive_and_locality_exact (line : Text) :
    (∀ d, function? line = some d ↔ ReadsFunction line d) ∧
    (∀ d, assignment? line = some d ↔ ReadsAssignment line d) ∧
    (∀ d e, ¬(ReadsFunction line d ∧ ReadsAssignment line e)) ∧
    ofLine? line = (assignment? line).or (function? line) ∧
    ∀ d, ofLine? line = some d → (d.isLocal = true ↔ MarkedLocal line) := by
  have hexclusive : ∀ d e, ¬(ReadsFunction line d ∧ ReadsAssignment line e) := by
    rintro d e ⟨hfunction, hassignment⟩
    have hnone := assignment?_of_readsFunction hfunction
    rw [assignment?_eq_some_iff.2 hassignment] at hnone
    cases hnone
  refine ⟨fun d => function?_eq_some_iff, fun d => assignment?_eq_some_iff, hexclusive, ?_, ?_⟩
  · -- Functions are tried first. That makes no difference, since no line can be read in both shapes.
    cases hfunction : function? line with
    | none => simp [ofLine?, hfunction]
    | some d => simp [ofLine?, hfunction, assignment?_of_readsFunction (function?_eq_some_iff.1 hfunction)]
  · intro d h
    rw [isLocal_of_ofLine? h]
    exact splitLocal_eq_true_iff line

/-- The word that marks a declaration can be a name as well. -/
theorem local_as_name :
    ofLine? "local = 1".toList = some (.assignment "local".toList "1".toList false) ∧
      ¬MarkedLocal "local = 1".toList := by
  have hline : ofLine? "local = 1".toList = some (.assignment "local".toList "1".toList false) := by decide
  obtain ⟨-, -, -, -, hlocal⟩ := shapes_exclusive_and_locality_exact "local = 1".toList
  exact ⟨hline, fun h => absurd ((hlocal _ hline).2 h) (by decide)⟩

end LuaAccessors.Declaration
