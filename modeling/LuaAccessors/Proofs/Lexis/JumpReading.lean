import LuaAccessors.Proofs.Lexis.Jumps
import LuaAccessors.Proofs.Lexis.Remask

/-!
# What jumps read

The loops that jump read what the machine of modes reads. A jump is a word that the machine reads from one mode to
another, with roles that are known in advance: all code, all comment, or content between two delimiters.

- `ReadsOver`: the roles of a word at the start of a text, and the mode behind it;
- `readsOver_within`, `readsOver_closed`, `readsOver_quoted`: the words that are jumped over;
- `found_run`: the loop over a line finds its code, its depth and what it leaves open;
- `shown_run`: the loop over a text finds its mask;
- `loops_advance_and_read`: all of it together.
-/

namespace LuaAccessors.Lexis

/-! ## §1 Words at the start of a text

A jump passes over a word at once: a literal, a comment, or the bracket that opens one. The machine passes over
the same word step by step, and gives its characters roles that only depend on the lengths of its parts.
-/

/-- Read from `mode` on, a text starts with a word whose characters have the roles `rs`, and what follows is read
from `next` on. A quoted literal that the end of the text leaves open counts as closed there. -/
structure ReadsOver (comments : Bool) (mode : Mode) (t : Text) (rs : List Role) (next : Mode) : Prop where
  roles_eq : roles comments mode t = rs ++ roles comments next (t.drop rs.length)
  carry_eq : (mode.after comments t).carry = (next.after comments (t.drop rs.length)).carry

namespace ReadsOver

variable {comments : Bool} {mode mid next : Mode} {c : Char} {t rest : Text} {role : Role} {rs qs : List Role}

theorem length_le (h : ReadsOver comments mode t rs next) : rs.length ≤ t.length := by
  have hlength := congrArg List.length h.roles_eq
  rw [length_roles, List.length_append] at hlength
  omega

theorem nil : ReadsOver comments mode t [] mode := ⟨rfl, rfl⟩

theorem cons (hstep : mode.step comments c rest = (role, mid)) (h : ReadsOver comments mid rest rs next) :
    ReadsOver comments mode (c :: rest) (role :: rs) next := by
  constructor
  · rw [roles, hstep, h.roles_eq]
    rfl
  · rw [after_cons, hstep, h.carry_eq]
    rfl

theorem trans (h : ReadsOver comments mode t rs mid)
    (h' : ReadsOver comments mid (t.drop rs.length) qs next) : ReadsOver comments mode t (rs ++ qs) next := by
  obtain ⟨hroles, hcarry⟩ := h'
  rw [List.drop_drop] at hroles hcarry
  constructor
  · rw [h.roles_eq, hroles, List.length_append, List.append_assoc]
  · rw [h.carry_eq, hcarry, List.length_append]

end ReadsOver

/-! ### Brackets that open -/

/-- The rest of a delimiter. -/
theorem readsOver_within (comments : Bool) (role : Role) (next : Mode) {left : Nat} {t : Text}
    (h : left + 1 ≤ t.length) :
    ReadsOver comments (.within left role next) t (List.replicate (left + 1) role) next := by
  have hw : (t.take (left + 1)).length = left + 1 := List.length_take_of_le h
  have hroles := roles_within comments role next hw (t.drop (left + 1))
  have hafter := after_within comments role next hw (t.drop (left + 1))
  rw [List.take_append_drop] at hroles hafter
  constructor
  · rw [hroles, hw, List.length_replicate]
  · rw [hafter, List.length_replicate]

/-- A delimiter that starts with the next character. -/
theorem readsOver_delimiter {comments : Bool} {mode next : Mode} {role : Role} {c : Char} {rest : Text} {left : Nat}
    (hstep : mode.step comments c rest = (role, .within left role next)) (h : left + 2 ≤ (c :: rest).length) :
    ReadsOver comments mode (c :: rest) (List.replicate (left + 2) role) next :=
  .cons hstep (readsOver_within comments role next (by simpa using h))

/-- The bracket that opens a long string. -/
theorem readsOver_opener (comments : Bool) {c : Char} {rest : Text} {level : Nat}
    (h : bracketLevel (c :: rest) = some level) :
    ReadsOver comments .code (c :: rest) (List.replicate (level + 2) .delimiter) (.longString level) := by
  obtain rfl := head_of_opener (bracketLevel_eq_some_iff.1 h)
  have hstep : Mode.step comments .code '[' rest = (.delimiter, .within level .delimiter (.longString level)) := by
    simp [Mode.step, isQuote, h]
  exact readsOver_delimiter hstep (length_le_of_bracketLevel h)

/-- The bracket that opens a block comment, with the dashes in front of it. -/
theorem readsOver_commentOpener {rest : Text} {level : Nat} (h : bracketLevel rest = some level) :
    ReadsOver true .code ('-' :: '-' :: rest) (List.replicate (2 + (level + 2)) .comment) (.blockComment level) := by
  have hstep : Mode.step true .code '-' ('-' :: rest) =
      (.comment, .within (level + 2) .comment (.blockComment level)) := by
    simp [Mode.step, h]
  have hlength := length_le_of_bracketLevel h
  rw [Nat.add_comm 2]
  exact readsOver_delimiter hstep (by simpa using hlength)

/-- A line comment goes on to the end. -/
theorem readsOver_lineComment {rest : Text} (h : bracketLevel rest = none) :
    ReadsOver true .code ('-' :: '-' :: rest) (List.replicate ('-' :: '-' :: rest).length .comment) .code := by
  have hcomment : ∀ t, ReadsOver true .lineComment t (List.replicate t.length .comment) .code := by
    intro t
    induction t with
    | nil => exact ⟨rfl, rfl⟩
    | cons c t ih => exact .cons rfl ih
  exact .cons (step_code_comment h) (hcomment _)

/-! ### What a closing bracket ends -/

section

variable {comments : Bool} {mode : Mode} {level : Nat} {inside closing : Role}
  (hstep : ∀ c rest, mode.step comments c rest =
    if (bracketCloser level).isPrefixOf (c :: rest) then (closing, .within level closing .code)
    else (inside, mode))

include hstep

/-- What is open is read up to its closing bracket. -/
theorem readsOver_closed {t : Text} {n : Nat} (h : wordIndex? (bracketCloser level) t = some n) :
    ReadsOver comments mode t (List.replicate n inside ++ List.replicate (level + 2) closing) .code := by
  induction t generalizing n with
  | nil => simp [wordIndex?, bracketCloser] at h
  | cons c rest ih =>
    rw [wordIndex?] at h
    -- The bracket closes here, or one more character is read in front of it.
    split at h
    · rename_i hcloser
      obtain rfl := Option.some.inj h
      have hlength := (List.isPrefixOf_iff_prefix.1 hcloser).length_le
      rw [length_bracketCloser] at hlength
      exact readsOver_delimiter (by rw [hstep, if_pos hcloser]) hlength
    · rename_i hcloser
      obtain ⟨m, hm, rfl⟩ := Option.map_eq_some_iff.1 h
      exact .cons (by rw [hstep, if_neg hcloser]) (ih hm)

/-- What no bracket closes is open to the end. -/
theorem readsOver_unclosed {t : Text} (h : wordIndex? (bracketCloser level) t = none) :
    ReadsOver comments mode t (List.replicate t.length inside) mode := by
  induction t with
  | nil => exact .nil
  | cons c rest ih =>
    rw [wordIndex?] at h
    split at h
    · cases h
    · rename_i hcloser
      exact .cons (by rw [hstep, if_neg hcloser]) (ih (Option.map_eq_none_iff.1 h))

end

theorem step_longString (comments : Bool) (level : Nat) (c : Char) (rest : Text) :
    Mode.step comments (.longString level) c rest =
      if (bracketCloser level).isPrefixOf (c :: rest) then (.delimiter, .within level .delimiter .code)
      else (.content, .longString level) := rfl

theorem step_blockComment (comments : Bool) (level : Nat) (c : Char) (rest : Text) :
    Mode.step comments (.blockComment level) c rest =
      if (bracketCloser level).isPrefixOf (c :: rest) then (.comment, .within level .comment .code)
      else (.comment, .blockComment level) := rfl

/-! ### Quoted literals -/

/-- The roles of what stands behind the opening quote of a literal: only its last character can close it. -/
def bodyRoles (quote : Char) : Text → List Role
  | [] => []
  | c :: rest => (if c = quote ∧ rest.isEmpty then .delimiter else .content) :: bodyRoles quote rest

@[simp] theorem length_bodyRoles (quote : Char) (t : Text) : (bodyRoles quote t).length = t.length := by
  induction t with
  | nil => rfl
  | cons c t ih => rw [bodyRoles, List.length_cons, ih, List.length_cons]

theorem mem_bodyRoles {quote : Char} {t : Text} {r : Role} (h : r ∈ bodyRoles quote t) :
    r = .delimiter ∨ r = .content := by
  induction t with
  | nil => cases h
  | cons c t ih =>
    rcases List.mem_cons.1 h with rfl | h
    · split <;> simp
    · exact ih h

/-- All is content, a closing quote at the end apart. -/
theorem bodyRoles_eq (quote : Char) (t : Text) :
    bodyRoles quote t =
      if t.getLast? = some quote then List.replicate (t.length - 1) .content ++ [.delimiter]
      else List.replicate t.length .content := by
  induction t with
  | nil => rfl
  | cons c t ih =>
    cases t with
    | nil => by_cases h : c = quote <;> simp [bodyRoles, h]
    | cons d t =>
      rw [bodyRoles, if_neg (by simp), ih, List.getLast?_cons_cons]
      split <;> simp [List.replicate_succ]

/-- A literal is empty behind its quote only where it is left open. -/
theorem isEmpty_take_quotedLength {quote : Char} (hquote : isQuote quote = true) (t : Text) :
    (t.take (quotedLength quote t)).isEmpty = endsOpen t := by
  have hend : quote ≠ '\n' := by
    rintro rfl
    cases hquote
  fun_cases quotedLength quote t with
  | case1 => rfl
  | case2 d rest => rfl
  | case3 rest => rfl
  | case4 rest hrest hne => simp [endsOpen, hend]
  | case5 c rest hrest hne hquote => simp [endsOpen, hne]

/-- Behind its quote a literal is read up to its end. -/
theorem readsOver_body (comments : Bool) {quote : Char} (hquote : isQuote quote = true) (t : Text) :
    ReadsOver comments (.quoted quote) t (bodyRoles quote (t.take (quotedLength quote t))) .code := by
  have hbackslash : '\\' ≠ quote := by
    rintro rfl
    cases hquote
  fun_induction quotedLength quote t with
  | case1 => exact ⟨rfl, rfl⟩
  | case2 d rest ih =>
    rw [List.take_succ_cons, List.take_succ_cons, bodyRoles, bodyRoles, if_neg fun h => hbackslash h.1]
    have hescape : Mode.step comments (.quoted quote) '\\' (d :: rest) = (.content, .escaped quote) := by
      simp [Mode.step]
    refine .cons hescape (.cons ?_ ih)
    rw [isEmpty_take_quotedLength hquote]
    rfl
  | case3 rest =>
    -- A line feed is code, whether it ends a literal or not.
    have hcode := step_code_of_isBlank (c := '\n') rfl comments rest
    rw [List.take_zero]
    constructor
    · rw [bodyRoles, List.nil_append, List.length_nil, List.drop_zero, roles, roles, hcode]
      rfl
    · rw [bodyRoles, List.length_nil, List.drop_zero, after_cons, after_cons, hcode]
      rfl
  | case4 rest hrest hne =>
    rw [List.take_succ_cons]
    exact .cons (by simp [Mode.step, hne, hbackslash.symm]) .nil
  | case5 c rest hrest hne hc ih =>
    rw [List.take_succ_cons, bodyRoles, if_neg fun h => hc h.1]
    by_cases hescape : c = '\\'
    · -- A backslash that escapes nothing is the last character.
      cases rest with
      | nil =>
        have hstep : Mode.step comments (.quoted quote) c [] = (.content, .escaped quote) := by
          simp [Mode.step, hescape]
        exact .cons hstep ⟨rfl, rfl⟩
      | cons d rest => exact (hrest d rest hescape rfl).elim
    · exact .cons (by simp [Mode.step, hne, hescape, hc]) ih

/-- A quoted literal. -/
theorem readsOver_quoted (comments : Bool) {quote : Char} (hquote : isQuote quote = true) (rest : Text) :
    ReadsOver comments .code (quote :: rest)
      (.delimiter :: bodyRoles quote (rest.take (quotedLength quote rest))) .code := by
  have hdash : quote ≠ '-' := by
    rintro rfl
    cases hquote
  exact .cons (by simp [Mode.step, hquote, hdash]) (readsOver_body comments hquote rest)

/-! ## §2 The code of a line

What a loop has found so far, together with what the machine still finds from there on, is the same before and
after each pass. At the end nothing is left to find.
-/

section

variable {w : Text} {rs : List Role}

/-- A word that is no comment is kept. -/
theorem withoutComments_eq_self (hlength : w.length = rs.length) (h : ∀ r ∈ rs, r ≠ .comment) :
    withoutComments w rs = w := by
  have hall : (w.zip rs).filter (fun p => p.2 != .comment) = w.zip rs := by
    refine List.filter_eq_self.2 fun p hp => ?_
    simpa using h p.2 (List.of_mem_zip hp).2
  rw [withoutComments, hall]
  exact List.map_fst_zip (by omega)

/-- Nothing is kept of a comment. -/
theorem withoutComments_eq_nil (w : Text) (h : ∀ r ∈ rs, r = .comment) : withoutComments w rs = [] := by
  have hnone : (w.zip rs).filter (fun p => p.2 != .comment) = [] := by
    refine List.filter_eq_nil_iff.2 fun p hp => ?_
    simpa using h p.2 (List.of_mem_zip hp).2
  rw [withoutComments, hnone]
  rfl

/-- Only code changes the depth. -/
theorem depthAfter_eq_self (depth : Nat) (w : Text) (h : ∀ r ∈ rs, r ≠ .code) : depthAfter depth w rs = depth := by
  unfold depthAfter
  generalize hzip : w.zip rs = chars
  have hroles : ∀ p ∈ chars, p.2 ≠ .code := fun p hp => h p.2 (List.of_mem_zip (hzip ▸ hp)).2
  clear hzip
  -- The roles say nothing about the text any more, so the pairs can be taken one by one.
  induction chars with
  | nil => rfl
  | cons p chars ih =>
    rw [List.foldl_cons, stepDepth, if_neg (hroles p List.mem_cons_self)]
    exact ih fun q hq => hroles q (List.mem_cons_of_mem _ hq)

end

/-- What a line comes to: its code, the depth of table braces at its end, and what it leaves open. -/
structure LineEnding where
  code : Text
  depth : Nat
  carry : Carry
  deriving Repr, DecidableEq

/-- What the loop has found. -/
def StripState.found (s : StripState) : LineEnding := ⟨s.code, s.depth, s.carry⟩

/-- What the machine finds if it reads on where the loop is. -/
def StripState.readOn (raw : Text) (s : StripState) : LineEnding :=
  let t := raw.drop s.place
  let rs := roles true s.carry.mode t
  ⟨s.code ++ withoutComments t rs, depthAfter s.depth t rs, (s.carry.mode.after true t).carry⟩

/-- A jump over a word does not change what the machine finds. -/
theorem readOn_eq {raw : Text} {s next : StripState} {rs : List Role}
    (h : ReadsOver true s.carry.mode (raw.drop s.place) rs next.carry.mode)
    (hplace : next.place = s.place + rs.length)
    (hcode : next.code = s.code ++ withoutComments ((raw.drop s.place).take rs.length) rs)
    (hdepth : next.depth = depthAfter s.depth ((raw.drop s.place).take rs.length) rs) :
    next.readOn raw = s.readOn raw := by
  have hzip : (raw.drop s.place).zip (roles true s.carry.mode (raw.drop s.place)) =
      ((raw.drop s.place).take rs.length).zip rs ++
        (raw.drop next.place).zip (roles true next.carry.mode (raw.drop next.place)) := by
    -- The word is as long as its roles, so characters and roles are paired word by word.
    have hlength : ((raw.drop s.place).take rs.length).length = rs.length := List.length_take_of_le h.length_le
    rw [hplace, ← List.drop_drop, ← List.zip_append hlength, ← h.roles_eq, List.take_append_drop]
  simp only [StripState.readOn, withoutComments, depthAfter] at *
  rw [hzip, List.filter_append, List.map_append, List.foldl_append, hcode, hdepth, List.append_assoc, h.carry_eq,
    List.drop_drop, hplace]

/-- The loop over a line jumps over a word of a literal. -/
theorem readOn_eq_of_literal {raw : Text} {s next : StripState} {rs : List Role}
    (h : ReadsOver true s.carry.mode (raw.drop s.place) rs next.carry.mode)
    (hrs : ∀ r ∈ rs, r = .delimiter ∨ r = .content) (hplace : next.place = s.place + rs.length)
    (hcode : next.code = s.code ++ raw.extract s.place next.place) (hdepth : next.depth = s.depth) :
    next.readOn raw = s.readOn raw := by
  have hne : ∀ r ∈ rs, r ≠ .comment ∧ r ≠ .code := fun r hr => by
    rcases hrs r hr with rfl | rfl <;> simp
  refine readOn_eq h hplace ?_ ?_
  · rw [withoutComments_eq_self (List.length_take_of_le h.length_le) fun r hr => (hne r hr).1, hcode, hplace,
      List.extract_eq_take_drop, Nat.add_sub_cancel_left]
  · rw [depthAfter_eq_self _ _ fun r hr => (hne r hr).2, hdepth]

/-- The loop over a line jumps over a word of a comment. -/
theorem readOn_eq_of_comment {raw : Text} {s next : StripState} {n : Nat}
    (h : ReadsOver true s.carry.mode (raw.drop s.place) (List.replicate n .comment) next.carry.mode)
    (hplace : next.place = s.place + n) (hcode : next.code = s.code) (hdepth : next.depth = s.depth) :
    next.readOn raw = s.readOn raw := by
  have hall : ∀ r ∈ List.replicate n Role.comment, r = .comment := fun r hr => List.eq_of_mem_replicate hr
  refine readOn_eq h (by simpa using hplace) ?_ ?_
  · rw [withoutComments_eq_nil _ hall, hcode, List.append_nil]
  · rw [depthAfter_eq_self _ _ fun r hr => by simp [hall r hr], hdepth]

/-- At the end of the line there is nothing more to find. -/
theorem readOn_of_length_le {raw : Text} {s : StripState} (h : raw.length ≤ s.place) : s.readOn raw = s.found := by
  obtain ⟨place, carry, depth, code⟩ := s
  rw [StripState.readOn, List.drop_of_length_le h]
  cases carry <;> simp [StripState.found, withoutComments, depthAfter, Carry.mode, Mode.carry]

/-- A pass that leaves the loop has found what it would find at the end of the line. -/
theorem found_eq_of_readOn_eq {raw : Text} {s last : StripState}
    (h : ({ last with place := raw.length } : StripState).readOn raw = s.readOn raw) :
    last.found = s.readOn raw := by
  rw [← h, readOn_of_length_le (Nat.le_refl _)]
  rfl

/-- A pass over a line changes nothing about what the machine finds, and it leaves the loop only with all of it. -/
def FindsSame (raw : Text) (s : StripState) : ForInStep StripState → Prop
  | .done last => last.found = s.readOn raw
  | .yield next => next.readOn raw = s.readOn raw

section

variable {raw rest : Text} {place : Nat} {c : Char} (hdrop : raw.drop place = c :: rest) (depth : Nat) (code : Text)

include hdrop

/-- A pass where a comment starts. -/
theorem stripPass_finds_comment (hdashes : c = '-' ∧ rest.head? = some '-') :
    FindsSame raw ⟨place, .nothing, depth, code⟩ (stripPass raw ⟨place, .nothing, depth, code⟩) := by
  obtain ⟨rfl, hhead⟩ := hdashes
  obtain ⟨rest, rfl⟩ := List.head?_eq_some_iff.1 hhead
  have hbehind : bracketLevelAt raw (place + 2) = bracketLevel rest := by
    rw [bracketLevelAt, ← List.drop_drop, hdrop]
    rfl
  simp only [stripPass, hdrop, hbehind, hhead, and_self, if_true]
  -- A line comment ends the loop, which has to be at the end of the line. A block comment only changes what is
  -- open.
  cases hlevel : bracketLevel rest with
  | none =>
    have hreads := readsOver_lineComment hlevel
    rw [← hdrop] at hreads
    refine found_eq_of_readOn_eq (readOn_eq_of_comment hreads ?_ rfl rfl)
    have hlength := congrArg List.length hdrop
    rw [List.length_drop, List.length_cons] at hlength
    rw [List.length_drop]
    dsimp only
    omega
  | some level =>
    have hreads := readsOver_commentOpener hlevel
    rw [← hdrop] at hreads
    exact readOn_eq_of_comment hreads rfl rfl rfl

/-- A pass over code: a literal, the bracket that opens one, or a single character. -/
theorem stripPass_finds_code (hdashes : ¬(c = '-' ∧ rest.head? = some '-')) :
    FindsSame raw ⟨place, .nothing, depth, code⟩ (stripPass raw ⟨place, .nothing, depth, code⟩) := by
  have hquoted : quotedEnd? raw place = some (place + 1 + quotedLength c rest) := by rw [quotedEnd?, hdrop]
  have hhere : bracketLevelAt raw place = bracketLevel (c :: rest) := by rw [bracketLevelAt, hdrop]
  simp only [stripPass, hdrop, hquoted, hhere, if_neg hdashes]
  -- A quoted literal is one jump, with its quotes and its content.
  split
  · rename_i hquote
    have hreads := readsOver_quoted true hquote rest
    rw [← hdrop] at hreads
    refine readOn_eq_of_literal hreads ?_ ?_ rfl rfl
    · intro r hr
      rcases List.mem_cons.1 hr with rfl | hr
      · exact .inl rfl
      · exact mem_bodyRoles hr
    · rw [List.length_cons, length_bodyRoles, List.length_take_of_le (quotedLength_le c rest)]
      exact Nat.add_right_comm place 1 _
  · rename_i hquote
    -- Of a long string only the opener is read, the rest is left to the next pass.
    cases hlevel : bracketLevel (c :: rest) with
    | some level =>
      have hreads := readsOver_opener true hlevel
      rw [← hdrop] at hreads
      refine readOn_eq_of_literal hreads ?_ (by rw [List.length_replicate]) rfl rfl
      exact fun r hr => .inl (List.eq_of_mem_replicate hr)
    | none =>
      have hstep : Mode.step true .code c rest = (.code, .code) := by simp [Mode.step, hdashes, hquote, hlevel]
      have hreads : ReadsOver true .code (raw.drop place) [.code] .code := hdrop ▸ .cons hstep .nil
      refine readOn_eq hreads rfl ?_ ?_
      · simp [hdrop, withoutComments]
      · simp [hdrop, depthAfter, stepDepth, depthBehind]

end

/-- **One pass over a line** changes nothing about what the machine finds, and a pass that leaves the loop has
found it. -/
theorem stripPass_finds (raw : Text) (s : StripState) (h : s.place < raw.length) :
    FindsSame raw s (stripPass raw s) := by
  obtain ⟨place, carry, depth, code⟩ := s
  replace h : place < raw.length := h
  have hstop : raw.length = place + (raw.drop place).length := by
    rw [List.length_drop]
    omega
  -- What is open decides on the jump: to the closing bracket, or over the next piece of code.
  cases carry with
  | blockComment level =>
    simp only [stripPass, wordIndexFrom?]
    cases hclose : wordIndex? (bracketCloser level) (raw.drop place) with
    | none =>
      have hreads := readsOver_unclosed (step_blockComment true level) hclose
      exact found_eq_of_readOn_eq (readOn_eq_of_comment hreads hstop rfl rfl)
    | some n =>
      have hreads := readsOver_closed (step_blockComment true level) hclose
      rw [List.replicate_append_replicate] at hreads
      exact readOn_eq_of_comment hreads (Nat.add_assoc _ _ _) rfl rfl
  | longString level =>
    simp only [stripPass, wordIndexFrom?]
    cases hclose : wordIndex? (bracketCloser level) (raw.drop place) with
    | none =>
      have hreads := readsOver_unclosed (step_longString true level) hclose
      refine found_eq_of_readOn_eq (readOn_eq_of_literal hreads ?_ (by rwa [List.length_replicate]) ?_ rfl)
      · exact fun r hr => .inr (List.eq_of_mem_replicate hr)
      · simp [List.take_of_length_le]
    | some n =>
      have hreads := readsOver_closed (step_longString true level) hclose
      refine readOn_eq_of_literal hreads ?_ (by simp [Nat.add_assoc]) rfl rfl
      intro r hr
      rcases List.mem_append.1 hr with hr | hr
      · exact .inr (List.eq_of_mem_replicate hr)
      · exact .inl (List.eq_of_mem_replicate hr)
  -- With nothing open there is a character to look at, since the pass starts inside the line.
  | nothing =>
    obtain ⟨c, rest, hdrop⟩ := List.exists_cons_of_length_pos (l := raw.drop place) (by rw [List.length_drop]; omega)
    by_cases hdashes : c = '-' ∧ rest.head? = some '-'
    · exact stripPass_finds_comment hdrop depth code hdashes
    · exact stripPass_finds_code hdrop depth code hdashes

/-- **The loop over a line** finds what the machine finds. -/
theorem found_run (raw : Text) (s : StripState) : ((stripLoop raw).run s).found = s.readOn raw := by
  -- The invariant: what is found so far and what the machine still finds are together what it finds from the
  -- start.
  apply (stripLoop raw).run_spec (fun here => here.readOn raw = s.readOn raw)
    (fun last => last.found = s.readOn raw) ?_ ?_ ?_ rfl
  · intro here last hholds hplace hpass
    have hfinds := stripPass_finds raw here hplace
    rw [show stripPass raw here = .done last from hpass] at hfinds
    exact hfinds.trans hholds
  · intro here next hholds hplace hpass
    have hfinds := stripPass_finds raw here hplace
    rw [show stripPass raw here = .yield next from hpass] at hfinds
    exact hfinds.trans hholds
  · intro here hholds hplace
    rw [← readOn_of_length_le hplace, hholds]

/-! ## §3 The mask of a text

The loop overwrites the text in place. Its invariant is that in front of the place stands the mask, and behind
it the text itself.
-/

/-- In a mask the word at the start of a text is shown by its roles. -/
theorem ReadsOver.maskFrom_eq {mode next : Mode} {t : Text} {rs : List Role} (h : ReadsOver false mode t rs next) :
    maskFrom mode t = List.zipWith maskChar (t.take rs.length) rs ++ maskFrom next (t.drop rs.length) := by
  have hlength : (t.take rs.length).length = rs.length := List.length_take_of_le h.length_le
  rw [maskFrom, maskFrom, h.roles_eq, ← List.zipWith_append hlength, List.take_append_drop]

/-- The loop has masked the text up to its place, where code follows. -/
structure MaskState.Masks (t : Text) (s : MaskState) : Prop where
  place_le : s.place ≤ t.length
  shown_eq : s.shown = (mask t).take s.place ++ t.drop s.place
  mask_eq : (mask t).drop s.place = maskFrom .code (t.drop s.place)

/-- A jump over a word masks it, if the word is shown by its roles. -/
theorem MaskState.Masks.jump {t : Text} {s next : MaskState} {rs : List Role} {mode : Mode} (h : s.Masks t)
    (hreads : ReadsOver false .code (t.drop s.place) rs mode)
    (hmode : maskFrom mode ((t.drop s.place).drop rs.length) = maskFrom .code ((t.drop s.place).drop rs.length))
    (hplace : next.place = s.place + rs.length)
    (hshown : next.shown = (mask t).take s.place ++
      (List.zipWith maskChar ((t.drop s.place).take rs.length) rs ++ (t.drop s.place).drop rs.length)) :
    next.Masks t := by
  have hle := hreads.length_le
  have hword : (List.zipWith maskChar ((t.drop s.place).take rs.length) rs).length = rs.length := by
    rw [List.length_zipWith, List.length_take_of_le hle, Nat.min_self]
  -- Behind the place the mask is that of the word, and then that of the text behind the word.
  have hmask : (mask t).drop s.place = List.zipWith maskChar ((t.drop s.place).take rs.length) rs ++
      maskFrom .code ((t.drop s.place).drop rs.length) := by
    rw [h.mask_eq, hreads.maskFrom_eq, hmode]
  constructor
  · have := h.place_le
    rw [List.length_drop] at hle
    omega
  · rw [hshown, hplace, List.take_add, hmask, List.take_left' hword, List.append_assoc, List.drop_drop]
  · rw [hplace, ← List.drop_drop, hmask, List.drop_left' hword, List.drop_drop]

/-! ### Literals -/

/-- The roles of a literal: its opening delimiter, its content, and its closing delimiter, if it has one. -/
def literalRoles (opening content closing : Nat) : List Role :=
  List.replicate opening .delimiter ++ (List.replicate content .content ++ List.replicate closing .delimiter)

@[simp] theorem length_literalRoles (opening content closing : Nat) :
    (literalRoles opening content closing).length = opening + (content + closing) := by
  simp [literalRoles]

theorem blankOut_append (first stop : Nat) (t u : Text) :
    blankOut first stop (t ++ u) = blankOut first stop t ++ blankOut (first - t.length) (stop - t.length) u := by
  rw [blankOut, List.mapIdx_append]
  refine congrArg (blankOut first stop t ++ ·) (congrArg (List.mapIdx · u) ?_)
  funext i c
  exact if_congr (by omega) rfl rfl

/-- In front of the spaces everything stays. -/
theorem blankOut_eq_self {first : Nat} {t : Text} (h : t.length ≤ first) (stop : Nat) :
    blankOut first stop t = t := by
  refine List.ext_getElem (by simp [blankOut]) fun i hi hi' => ?_
  simp only [blankOut, List.getElem_mapIdx]
  exact if_neg (by omega)

/-- A literal with spaces for its content is shown by its roles. -/
theorem blankOut_eq_zipWith {opening content closing : Nat} {t : Text}
    (h : opening + (content + closing) ≤ t.length) :
    blankOut opening (opening + content) t =
      List.zipWith maskChar (t.take (opening + (content + closing))) (literalRoles opening content closing) ++
        t.drop (opening + (content + closing)) := by
  -- Place by place: in the word at its start, in its content or at its end, or behind the word.
  refine List.ext_getElem (by simp [blankOut]; omega) fun i hi hi' => ?_
  simp only [blankOut, List.getElem_mapIdx, List.getElem_append, List.getElem_zipWith, literalRoles,
    List.getElem_take, List.getElem_replicate, List.getElem_drop, List.length_zipWith, List.length_replicate,
    List.length_append, List.length_take]
  by_cases hword : i < opening + (content + closing)
  · rw [dif_pos (by omega)]
    by_cases hopening : i < opening
    · rw [if_neg (by omega), dif_pos hopening]
      rfl
    · rw [dif_neg hopening]
      by_cases hcontent : i < opening + content
      · rw [if_pos ⟨Nat.le_of_not_lt hopening, hcontent⟩, dif_pos (by omega)]
        rfl
      · rw [if_neg fun h => hcontent h.2, dif_neg (by omega)]
        rfl
  · rw [if_neg (by omega), dif_neg (by omega)]
    congr 1
    omega

/-- A jump over a literal masks it. -/
theorem MaskState.Masks.jump_literal {t : Text} {s : MaskState} (h : s.Masks t) {mode : Mode}
    (opening content closing : Nat)
    (hreads : ReadsOver false .code (t.drop s.place) (literalRoles opening content closing) mode)
    {first last place : Nat} (hfirst : first = s.place + opening) (hlast : last = first + content)
    (hplace : place = last + closing) (hmode : mode = .code ∨ t.length ≤ place) :
    MaskState.Masks t { place, shown := blankOut first last s.shown } := by
  subst hfirst hlast hplace
  have hfront : ((mask t).take s.place).length = s.place := List.length_take_of_le (by simpa using h.place_le)
  have hle := hreads.length_le
  rw [length_literalRoles] at hle
  refine h.jump hreads ?_ (by rw [length_literalRoles]; dsimp only; omega) ?_
  · rw [length_literalRoles, List.drop_drop]
    -- The jump ends in code, or nothing is left in which the mode could matter.
    rcases hmode with rfl | hstop
    · rfl
    · rw [List.drop_of_length_le (by omega)]
      rfl
  · have hbehind : s.place + opening + content - s.place = opening + content := by omega
    rw [h.shown_eq, blankOut_append, blankOut_eq_self (by omega), hfront, Nat.add_sub_cancel_left, hbehind,
      blankOut_eq_zipWith hle, length_literalRoles]

/-- The closing quote of a literal is its last character. -/
theorem closes_iff {t rest : Text} {place n : Nat} {quote : Char} (hdrop : t.drop place = quote :: rest)
    (hn : n ≤ rest.length) :
    (place < place + 1 + n - 1 ∧ t[place + 1 + n - 1]? = some quote) ↔ (rest.take n).getLast? = some quote := by
  cases n with
  | zero => simp
  | succ n =>
    have hlast : t[place + (n + 1)]? = rest[n]? := by
      rw [← List.getElem?_drop, hdrop, List.getElem?_cons_succ]
    have hget : rest[n]? = some rest[n] := List.getElem?_eq_getElem (by omega)
    rw [show place + 1 + (n + 1) - 1 = place + (n + 1) by omega, hlast, List.getLast?_take, if_neg (by omega),
      Nat.add_sub_cancel, hget]
    simp

/-- A pass over a literal masks it. -/
theorem maskPass_masks_quoted {t rest : Text} {s : MaskState} (h : s.Masks t) {c : Char}
    (hdrop : t.drop s.place = c :: rest) (hquote : isQuote c = true) :
    ∃ next, maskPass t s = .yield next ∧ next.Masks t := by
  have hquoted : quotedEnd? t s.place = some (s.place + 1 + quotedLength c rest) := by rw [quotedEnd?, hdrop]
  have hn := quotedLength_le c rest
  have hreads := readsOver_quoted false hquote rest
  rw [← hdrop, bodyRoles_eq, List.length_take_of_le hn] at hreads
  simp only [maskPass, hdrop, hquote, hquoted, Option.getD_some, if_true]
  refine ⟨_, rfl, ?_⟩
  rw [if_congr (closes_iff hdrop hn) rfl rfl]
  by_cases hclosed : (rest.take (quotedLength c rest)).getLast? = some c
  · -- The quote that closes the literal is shown.
    have hpos : 0 < quotedLength c rest := Nat.pos_of_ne_zero fun hzero => by simp [hzero] at hclosed
    rw [if_pos hclosed] at hreads ⊢
    exact h.jump_literal 1 (quotedLength c rest - 1) 1 hreads rfl (by omega) (by omega) (.inl rfl)
  · rw [if_neg hclosed, ← List.append_nil (List.replicate _ _)] at hreads
    rw [if_neg hclosed]
    exact h.jump_literal 1 _ 0 hreads rfl rfl rfl (.inl rfl)

/-- A pass over a long string masks it. -/
theorem maskPass_masks_longString {t rest : Text} {s : MaskState} (h : s.Masks t) {c : Char} {level : Nat}
    (hdrop : t.drop s.place = c :: rest) (hquote : isQuote c = false)
    (hlevel : bracketLevel (c :: rest) = some level) :
    ∃ next, maskPass t s = .yield next ∧ next.Masks t := by
  have hhere : bracketLevelAt t s.place = some level := by rw [bracketLevelAt, hdrop, hlevel]
  have hopening := readsOver_opener false hlevel
  rw [← hdrop] at hopening
  have hinside : t.drop (s.place + (level + 2)) =
      (t.drop s.place).drop (List.replicate (level + 2) Role.delimiter).length := by
    rw [List.length_replicate, List.drop_drop]
  have hlength := hopening.length_le
  rw [List.length_replicate, List.length_drop] at hlength
  simp only [maskPass, hdrop, hquote, hhere, wordIndexFrom?, Bool.false_eq_true, if_false]
  cases hclose : wordIndex? (bracketCloser level) (t.drop (s.place + (level + 2))) with
  | none =>
    -- A long string that is left open is content to the end.
    have hreads := hopening.trans (hinside ▸ readsOver_unclosed (step_longString false level) hclose)
    rw [← List.append_nil (List.replicate _ Role.content)] at hreads
    refine ⟨_, rfl, h.jump_literal (level + 2) _ 0 hreads rfl ?_ rfl (.inr (Nat.le_refl _))⟩
    rw [← hinside, List.length_drop]
    omega
  | some n =>
    -- The closing bracket is as long as the bracket that opens, and it is shown.
    have hreads := hopening.trans (hinside ▸ readsOver_closed (step_longString false level) hclose)
    exact ⟨_, rfl, h.jump_literal (level + 2) _ (level + 2) hreads rfl rfl rfl (.inl rfl)⟩

/-- **One pass over a text** masks what it passes, and never leaves the loop. -/
theorem maskPass_masks {t : Text} {s : MaskState} (h : s.Masks t) (hplace : s.place < t.length) :
    ∃ next, maskPass t s = .yield next ∧ next.Masks t := by
  obtain ⟨c, rest, hdrop⟩ := List.exists_cons_of_length_pos (l := t.drop s.place) (by rw [List.length_drop]; omega)
  cases hquote : isQuote c with
  | true => exact maskPass_masks_quoted h hdrop hquote
  | false =>
    cases hlevel : bracketLevel (c :: rest) with
    | some level => exact maskPass_masks_longString h hdrop hquote hlevel
    -- A character of code is shown as it is.
    | none =>
      have hhere : bracketLevelAt t s.place = none := by rw [bracketLevelAt, hdrop, hlevel]
      have hstep : Mode.step false .code c rest = (.code, .code) := by simp [Mode.step, hquote, hlevel]
      have hreads : ReadsOver false .code (t.drop s.place) [.code] .code := hdrop ▸ .cons hstep .nil
      simp only [maskPass, hdrop, hquote, hhere, Bool.false_eq_true, if_false]
      refine ⟨_, rfl, h.jump hreads rfl rfl ?_⟩
      simp [h.shown_eq, hdrop, maskChar]

/-- **The loop over a text** finds its mask. -/
theorem shown_run (t : Text) : ((maskLoop t).run { shown := t }).shown = mask t := by
  have hstart : MaskState.Masks t { shown := t } := ⟨Nat.zero_le _, rfl, rfl⟩
  apply (maskLoop t).run_spec (MaskState.Masks t) (fun last => last.shown = mask t) ?_ ?_ ?_ hstart
  · intro s last hmasks hplace hpass
    obtain ⟨next, hnext, -⟩ := maskPass_masks hmasks hplace
    -- No pass leaves the loop, so it ends behind the text.
    cases (show maskPass t s = .done last from hpass).symm.trans hnext
  · intro s next hmasks hplace hpass
    obtain ⟨next', hnext, hmasks'⟩ := maskPass_masks hmasks hplace
    obtain rfl := ForInStep.yield.inj ((show maskPass t s = .yield next from hpass).symm.trans hnext)
    exact hmasks'
  · intro s hmasks hplace
    have hplace : t.length ≤ s.place := hplace
    have hmask : (mask t).length ≤ s.place := by simpa using hplace
    rw [hmasks.shown_eq, List.drop_of_length_le hplace, List.append_nil, List.take_of_length_le hmask]

/-! ## §4 Both loops -/

/-- The state in front of the first pass over a line. -/
def StripState.ofScan (state : ScanState) : StripState := { carry := state.carry, depth := state.depth }

/-- A line that is no directive is scanned by the loop. -/
theorem scanLine_eq_run {state : ScanState} {raw : Text}
    (h : ¬(state.carry = .nothing ∧ directiveMark <+: raw.strip)) :
    let last := (stripLoop raw).run (.ofScan state)
    scanLine state raw =
      ({ number := state.lineNumber + 1, text := last.code.strip, depthBefore := state.depth,
         depthAfter := last.depth, isContinuation := state.carry != .nothing },
       { depth := last.depth, carry := last.carry, lineNumber := state.lineNumber + 1 }) := by
  have hfound : ((stripLoop raw).run (.ofScan state)).found =
      ⟨withoutComments raw (roles true state.carry.mode raw), depthAfter state.depth raw
        (roles true state.carry.mode raw), (state.carry.mode.after true raw).carry⟩ := found_run raw _
  obtain ⟨hcode, hdepth, hcarry⟩ := LineEnding.mk.inj hfound
  dsimp only
  rw [scanLine_of_not_directive h, hcode, hdepth, hcarry]

/-- **Loops that jump come to an end, and read what the machine reads.** A quoted literal ends behind its quote and
in the text, wherever the text stands. So every pass over a line, whatever is open there, and every pass over a text
leaves its loop or moves on in the text; the loop over a line finds its code, its depth and what it leaves open, and
the loop over a text finds its mask. -/
theorem loops_advance_and_read :
    (∀ (t : Text) (start : Nat), start < t.length →
      ∃ stop, quotedEnd? t start = some stop ∧ start < stop ∧ stop ≤ t.length) ∧
    (∀ (front t : Text) (start : Nat),
      quotedEnd? (front ++ t) (front.length + start) = (quotedEnd? t start).map (front.length + ·)) ∧
    (∀ (raw : Text) (s : StripState), s.place < raw.length →
      Advances StripState.place raw.length s (stripPass raw s)) ∧
    (∀ (t : Text) (s : MaskState), s.place < t.length → Advances MaskState.place t.length s (maskPass t s)) ∧
    (∀ (raw : Text) (s : StripState),
      ((stripLoop raw).visits s).Pairwise (· < ·) ∧ ∀ i ∈ (stripLoop raw).visits s, i < raw.length) ∧
    (∀ (t : Text) (s : MaskState),
      ((maskLoop t).visits s).Pairwise (· < ·) ∧ ∀ i ∈ (maskLoop t).visits s, i < t.length) ∧
    (∀ (state : ScanState) (raw : Text), ¬(state.carry = .nothing ∧ directiveMark <+: raw.strip) →
      let last := (stripLoop raw).run (.ofScan state)
      scanLine state raw =
        ({ number := state.lineNumber + 1, text := last.code.strip, depthBefore := state.depth,
           depthAfter := last.depth, isContinuation := state.carry != .nothing },
         { depth := last.depth, carry := last.carry, lineNumber := state.lineNumber + 1 })) ∧
    ∀ t : Text, mask t = ((maskLoop t).run { shown := t }).shown := by
  refine ⟨fun t start => exists_quotedEnd?, quotedEnd?_append, stripPass_advances, maskPass_advances, ?_, ?_,
    fun state raw => scanLine_eq_run, fun t => (shown_run t).symm⟩
  · -- A loop whose passes advance visits places in ascending order and in range.
    intro raw s
    obtain ⟨hascend, hrange⟩ := (stripLoop raw).visits_ascend s
    exact ⟨hascend, fun i hi => (hrange i hi).2⟩
  · intro t s
    obtain ⟨hascend, hrange⟩ := (maskLoop t).visits_ascend s
    exact ⟨hascend, fun i hi => (hrange i hi).2⟩

/-- A line of a quote and a backslash, which escapes nothing: the literal that it leaves open ends with the line. -/
theorem loops_advance_on_lastEscape :
    let t : Text := "'\\".toList
    let line : StripState := .ofScan {}
    let last := (stripLoop t).run line
    (0 < t.length ∧ ∃ stop, quotedEnd? t 0 = some stop ∧ 0 < stop ∧ stop ≤ t.length) ∧
      (line.place < t.length ∧ Advances StripState.place t.length line (stripPass t line)) ∧
      Advances MaskState.place t.length { shown := t } (maskPass t { shown := t }) ∧
      ¬directiveMark <+: t.strip ∧
      scanLine {} t =
        ({ number := 1, text := last.code.strip, depthBefore := 0, depthAfter := last.depth },
         { depth := last.depth, carry := last.carry, lineNumber := 1 }) := by
  obtain ⟨hquoted, -, hstrip, hmask, -, -, hscan, -⟩ := loops_advance_and_read
  have hmark : ¬directiveMark <+: Text.strip "'\\".toList := by decide
  exact ⟨⟨by decide, hquoted _ 0 (by decide)⟩, ⟨by decide, hstrip _ _ (by decide)⟩, hmask _ _ (by decide), hmark,
    hscan {} _ fun h => hmark h.2⟩

end LuaAccessors.Lexis
