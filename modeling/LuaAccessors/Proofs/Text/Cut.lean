import LuaAccessors.Text.Basic

/-!
# Cutting and joining

Texts are cut as lists are, so the laws of lists hold of them: what has been joined is cut into the same
pieces again, as long as no piece holds a character at which it is cut. A text that is read up to its first
`c` is read up to the `c` behind a part that holds none.

- `takeWhile_append_cons`, `dropWhile_append_cons`: a text up to its first `c`;
- `splitWhere_append_cons`, `splitWhere_join`: the pieces of a text;
- `join_append`, `join_append_join`: joined texts one after the other;
- `mem_of_mem_join`, `mem_of_mem_splitWhere`, `exists_mem_splitWhere`: the characters of a text and of its
  pieces;
- `CutAt`: the pieces of a text that is cut at given places.
-/

namespace LuaAccessors.Text

/-! ## §1 Up to a character -/

theorem bne_of_not_mem {c : Char} {t : Text} (h : c ∉ t) : ∀ d ∈ t, (d != c) = true := by
  intro d hd
  apply bne_iff_ne.2
  rintro rfl
  exact h hd

theorem takeWhile_append_cons {c : Char} {t : Text} (h : c ∉ t) (rest : Text) :
    (t ++ c :: rest).takeWhile (· != c) = t := by
  rw [List.takeWhile_append_of_pos (bne_of_not_mem h), List.takeWhile_cons_of_neg (by simp),
    List.append_nil]

theorem dropWhile_append_cons {c : Char} {t : Text} (h : c ∉ t) (rest : Text) :
    (t ++ c :: rest).dropWhile (· != c) = c :: rest := by
  rw [List.dropWhile_append_of_pos (bne_of_not_mem h), List.dropWhile_cons_of_neg (by simp)]

/-! ## §2 Pieces -/

/-- A text is cut as a list is. -/
theorem splitWhere_eq_splitOnP (p : Char → Bool) (t : Text) : splitWhere p t = t.splitOnP p := by
  induction t with
  | nil => rfl
  | cons c t ih =>
    rw [List.splitOnP_cons_eq_if_modifyHead, splitWhere, ih]
    obtain ⟨piece, pieces, hsplit⟩ := List.exists_cons_of_ne_nil (List.splitOnP_ne_nil p t)
    rw [hsplit]
    split <;> rfl

/-- The first piece ends where the text is first cut. -/
theorem splitWhere_append_cons {p : Char → Bool} {piece : Text} (hpiece : ∀ c ∈ piece, p c = false)
    {c : Char} (hc : p c = true) (rest : Text) :
    splitWhere p (piece ++ c :: rest) = piece :: splitWhere p rest := by
  rw [splitWhere_eq_splitOnP, splitWhere_eq_splitOnP]
  exact List.splitOnP_append_cons_of_forall_mem hpiece c hc rest

theorem splitWhere_eq_self {p : Char → Bool} {t : Text} (h : ∀ c ∈ t, p c = false) :
    splitWhere p t = [t] := by
  rw [splitWhere_eq_splitOnP]
  exact List.splitOnP_eq_singleton h

theorem splitOn_eq_self {c : Char} {t : Text} (h : c ∉ t) : splitOn c t = [t] := by
  apply splitWhere_eq_self
  intro d hd
  simpa using bne_of_not_mem h d hd

/-- **What has been joined is cut into the same pieces.** -/
theorem splitWhere_join {p : Char → Bool} {separator : Char} (hseparator : p separator = true)
    {pieces : List Text} (hne : pieces ≠ []) (h : ∀ piece ∈ pieces, ∀ c ∈ piece, p c = false) :
    splitWhere p (join [separator] pieces) = pieces := by
  induction pieces with
  | nil => exact absurd rfl hne
  | cons piece rest ih =>
    have hpiece := h piece List.mem_cons_self
    cases rest with
    | nil => exact splitWhere_eq_self hpiece
    | cons next rest =>
      have hrest := ih (List.cons_ne_nil _ _) fun p hp => h p (List.mem_cons_of_mem _ hp)
      rw [join, List.append_assoc, List.singleton_append, splitWhere_append_cons hpiece hseparator,
        hrest]

theorem splitOn_join {c : Char} {pieces : List Text} (hne : pieces ≠ [])
    (h : ∀ piece ∈ pieces, c ∉ piece) : splitOn c (join [c] pieces) = pieces := by
  refine splitWhere_join (p := (· == c)) (beq_self_eq_true c) hne ?_
  intro piece hpiece d hd
  apply beq_eq_false_iff_ne.2
  rintro rfl
  exact h piece hpiece hd

/-! ## §3 Joined texts -/

theorem join_cons_cons (separator t u : Text) (rest : List Text) :
    join separator (t :: u :: rest) = t ++ (separator ++ join separator (u :: rest)) := by
  rw [join, List.append_assoc]

theorem join_cons_of_cons (separator : Text) (c : Char) (t : Text) (rest : List Text) :
    join separator ((c :: t) :: rest) = c :: join separator (t :: rest) := by
  cases rest <;> rfl

theorem join_append (separator : Text) {xs ys : List Text} (hx : xs ≠ []) (hy : ys ≠ []) :
    join separator (xs ++ ys) = join separator xs ++ (separator ++ join separator ys) := by
  induction xs with
  | nil => exact absurd rfl hx
  | cons x xs ih =>
    cases xs with
    | nil =>
      obtain ⟨y, ys, rfl⟩ := List.exists_cons_of_ne_nil hy
      exact join_cons_cons separator x y ys
    | cons x' xs =>
      have htail := ih (by simp)
      rw [List.cons_append, List.cons_append, join_cons_cons, ← List.cons_append, htail,
        join_cons_cons, List.append_assoc, List.append_assoc]

/-- Where one joined text follows another, the last piece of the one and the first of the other become one
piece. -/
theorem join_append_join (separator : Text) (xs ys : List Text) (x y : Text) :
    join separator (xs ++ [x]) ++ join separator (y :: ys) = join separator (xs ++ (x ++ y) :: ys) := by
  have hlast : join separator [x] ++ join separator (y :: ys) = join separator ((x ++ y) :: ys) := by
    cases ys with
    | nil => rfl
    | cons y' ys =>
      rw [join_cons_cons, join_cons_cons, List.append_assoc]
      rfl
  cases xs with
  | nil => exact hlast
  | cons x' xs =>
    rw [join_append separator (List.cons_ne_nil x' xs) (List.cons_ne_nil x []),
      join_append separator (List.cons_ne_nil x' xs) (List.cons_ne_nil _ ys), ← hlast,
      List.append_assoc, List.append_assoc]

/-! ## §4 Characters -/

/-- The characters of joined texts are those of the texts and of what stands in between. -/
theorem mem_of_mem_join {separator : Text} {pieces : List Text} {c : Char}
    (h : c ∈ join separator pieces) : c ∈ separator ∨ ∃ piece ∈ pieces, c ∈ piece := by
  induction pieces with
  | nil => cases h
  | cons t rest ih =>
    cases rest with
    | nil => exact .inr ⟨t, List.mem_cons_self, h⟩
    | cons u rest =>
      rw [join, List.mem_append, List.mem_append] at h
      rcases h with (h | h) | h
      · exact .inr ⟨t, List.mem_cons_self, h⟩
      · exact .inl h
      · apply (ih h).imp_right
        rintro ⟨piece, hpiece, hc⟩
        exact ⟨piece, List.mem_cons_of_mem _ hpiece, hc⟩

theorem mem_join (separator : Text) {pieces : List Text} {piece : Text} {c : Char} (hpiece : piece ∈ pieces)
    (hc : c ∈ piece) : c ∈ join separator pieces := by
  induction pieces with
  | nil => cases hpiece
  | cons t rest ih =>
    cases rest with
    | nil => rwa [List.mem_singleton.1 hpiece] at hc
    | cons u rest =>
      rw [join_cons_cons, List.mem_append, List.mem_append]
      rcases List.mem_cons.1 hpiece with rfl | hpiece
      · exact .inl hc
      · exact .inr (.inr (ih hpiece))

/-- The characters of a piece are characters of the text at which it is not cut. -/
theorem mem_of_mem_splitWhere {p : Char → Bool} {t piece : Text} (h : piece ∈ splitWhere p t)
    {c : Char} (hc : c ∈ piece) : c ∈ t ∧ p c = false := by
  induction t generalizing piece with
  | nil =>
    rw [splitWhere, List.mem_singleton] at h
    rw [h] at hc
    cases hc
  | cons d t ih =>
    -- The text goes on with pieces of its rest, the first of which may get `d` in front.
    have hrest : ∀ piece ∈ splitWhere p t, c ∈ piece → c ∈ d :: t ∧ p c = false := fun piece h hc =>
      (ih h hc).imp_left (List.mem_cons_of_mem d)
    obtain ⟨first, others, hsplit⟩ := List.exists_cons_of_ne_nil (splitWhere_ne_nil p t)
    rw [splitWhere, hsplit] at h
    rw [hsplit] at hrest
    split at h
    · rcases List.mem_cons.1 h with rfl | h
      · cases hc
      · exact hrest piece h hc
    · rename_i hd
      rcases List.mem_cons.1 h with rfl | h
      · rcases List.mem_cons.1 hc with rfl | hc
        · exact ⟨List.mem_cons_self, Bool.eq_false_iff.2 hd⟩
        · exact hrest first List.mem_cons_self hc
      · exact hrest piece (List.mem_cons_of_mem _ h) hc

/-- All other characters of a text are in its pieces. -/
theorem exists_mem_splitWhere {p : Char → Bool} {t : Text} {c : Char} (hc : c ∈ t) (hp : p c = false) :
    ∃ piece ∈ splitWhere p t, c ∈ piece := by
  induction t with
  | nil => cases hc
  | cons d t ih =>
    obtain ⟨first, others, hsplit⟩ := List.exists_cons_of_ne_nil (splitWhere_ne_nil p t)
    rw [hsplit] at ih
    rw [splitWhere, hsplit]
    -- A new piece starts, or the character is put in front of the first one.
    split
    · rename_i hd
      have hrest : c ∈ t := (List.mem_cons.1 hc).resolve_left (by rintro rfl; simp [hp] at hd)
      obtain ⟨piece, hpiece, hmem⟩ := ih hrest
      exact ⟨piece, List.mem_cons_of_mem _ hpiece, hmem⟩
    · rcases List.mem_cons.1 hc with rfl | hc
      · exact ⟨_, List.mem_cons_self, List.mem_cons_self⟩
      · obtain ⟨piece, hpiece, hmem⟩ := ih hc
        rcases List.mem_cons.1 hpiece with rfl | hpiece
        · exact ⟨_, List.mem_cons_self, List.mem_cons_of_mem _ hmem⟩
        · exact ⟨piece, List.mem_cons_of_mem _ hpiece, hmem⟩

theorem not_mem_of_mem_splitOn {c : Char} {t piece : Text} (h : piece ∈ splitOn c t) : c ∉ piece := by
  intro hc
  have hcut := (mem_of_mem_splitWhere h hc).2
  simp at hcut

/-- What is not cut goes on with the last piece of the text in front of it. -/
theorem exists_splitOn_append {c : Char} (t : Text) {u : Text} (hu : c ∉ u) :
    ∃ pieces last, splitOn c t = pieces ++ [last] ∧ splitOn c (t ++ u) = pieces ++ [last ++ u] := by
  obtain ⟨pieces, last, hsplit⟩ : ∃ pieces last, splitOn c t = pieces ++ [last] :=
    ⟨_, _, (List.dropLast_concat_getLast (splitWhere_ne_nil (· == c) t)).symm⟩
  -- The whole text joined from these pieces, none of which holds the character.
  have hjoined : t ++ u = join [c] (pieces ++ [last ++ u]) := by
    rw [← join_append_join, ← hsplit, join_splitOn]
    rfl
  refine ⟨pieces, last, hsplit, ?_⟩
  rw [hjoined]
  apply splitOn_join (by simp)
  intro piece hpiece
  have hpieces : ∀ piece ∈ pieces ++ [last], c ∉ piece := hsplit ▸ fun _ => not_mem_of_mem_splitOn
  rcases List.mem_append.1 hpiece with hpiece | hpiece
  · exact hpieces piece (List.mem_append_left _ hpiece)
  · rw [List.mem_singleton.1 hpiece, List.mem_append, not_or]
    exact ⟨hpieces last (by simp), hu⟩

/-! ## §5 Cuts at given places

Pieces that are cut at places instead of at a character: which commas count depends on where they stand. The
relation fixes the pieces, so two ways to cut at the same places agree.
-/

/-- `CutAt separator cut t pieces`: if `t` is cut at the separators that stand at the places in `cut`, and at no
others, the result is `pieces`. The first piece ends at the first place, and the others are cut out of what
follows it. -/
inductive CutAt (separator : Char) : (Nat → Prop) → Text → List Text → Prop
  | last {cut : Nat → Prop} {t : Text} (uncut : ∀ i, ¬cut i) : CutAt separator cut t [t]
  | cons {cut : Nat → Prop} (piece : Text) {rest : Text} {pieces : List Text}
      (uncut : ∀ i < piece.length, ¬cut i) (ends : cut piece.length)
      (others : CutAt separator (fun i => cut (piece.length + 1 + i)) rest pieces) :
      CutAt separator cut (piece ++ separator :: rest) (piece :: pieces)

namespace CutAt

variable {separator : Char} {cut : Nat → Prop} {t : Text} {pieces : List Text}

theorem ne_nil (h : CutAt separator cut t pieces) : pieces ≠ [] := by
  cases h <;> exact List.cons_ne_nil _ _

/-- Joined again, the pieces are the text. -/
theorem join_eq (h : CutAt separator cut t pieces) : join [separator] pieces = t := by
  induction h with
  | last => rfl
  | @cons cut piece rest pieces uncut ends others ih =>
    obtain ⟨next, more, rfl⟩ := List.exists_cons_of_ne_nil others.ne_nil
    rw [join_cons_cons, ih]
    rfl

/-- **A text is cut at given places in one way.** -/
theorem unique {pieces' : List Text} (h : CutAt separator cut t pieces) (h' : CutAt separator cut t pieces') :
    pieces = pieces' := by
  induction h generalizing pieces' with
  | last uncut =>
    cases h' with
    | last => rfl
    | cons _ _ ends => exact absurd ends (uncut _)
  | @cons cut piece rest pieces uncut ends others ih =>
    generalize ht : piece ++ separator :: rest = t at h'
    cases h' with
    | last uncut' => exact absurd ends (uncut' _)
    | @cons _ piece' rest' pieces' uncut' ends' others' =>
      -- The first piece of either list ends at the first of the places.
      have hlength : piece.length = piece'.length := by
        rcases Nat.lt_trichotomy piece.length piece'.length with hlt | heq | hlt
        · exact absurd ends (uncut' _ hlt)
        · exact heq
        · exact absurd ends' (uncut _ hlt)
      obtain ⟨rfl, hrest⟩ := List.append_inj ht hlength
      obtain rfl := (List.cons.inj hrest).2
      rw [ih others']

/-- Only the places count, not the way in which they are said. -/
theorem congr {cut' : Nat → Prop} (h : CutAt separator cut t pieces) (hcut : ∀ i, cut i ↔ cut' i) :
    CutAt separator cut' t pieces := by
  obtain rfl : cut = cut' := funext fun i => propext (hcut i)
  exact h

/-- A character that is not cut away belongs to the first piece. -/
theorem keep {c : Char} (hfirst : ¬cut 0) (h : CutAt separator (fun i => cut (i + 1)) t pieces) :
    CutAt separator cut (c :: t) (pieces.modifyHead (c :: ·)) := by
  generalize hcut : (fun i => cut (i + 1)) = cut' at h
  have hnext : ∀ i, cut' i ↔ cut (i + 1) := fun i => by rw [← hcut]
  -- All places move by one, so what is known of them is asked for one place further.
  cases h with
  | last uncut =>
    refine .last fun i => ?_
    cases i with
    | zero => exact hfirst
    | succ i => exact fun hi => uncut i ((hnext i).2 hi)
  | @cons _ piece rest pieces uncut ends others =>
    refine .cons (c :: piece) (fun i hi => ?_) ((hnext _).1 ends) (others.congr fun i => ?_)
    · cases i with
      | zero => exact hfirst
      | succ i => exact fun hcut => uncut i (Nat.lt_of_succ_lt_succ hi) ((hnext i).2 hcut)
    · rw [hnext, List.length_cons]
      exact iff_of_eq (congrArg cut (by omega))

end CutAt

end LuaAccessors.Text
