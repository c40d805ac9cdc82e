import LuaAccessors.Lexis.Mask
import LuaAccessors.Lexis.Quoted
import LuaAccessors.Lexis.Scan
import LuaAccessors.Proofs.Lexis.Agreement

/-!
# Loops that jump

The machine of modes reads one character per step. The same work can be done by jumps: a loop keeps its place in
the text, and one pass takes it over a character of code, over a whole literal, over the bracket that opens a long
string or a comment, or behind the bracket that closes one. A pass either leaves the loop or moves it on, so the
loop comes to an end, and it never leaves the text.

- `Advances`, `JumpLoop`: what a pass may do, and loops with such passes;
- `JumpLoop.run`, `JumpLoop.visits`: the state behind a loop, and the places at which its passes start;
- `wordIndexFrom?`: where a closing bracket stands;
- `StripState`, `stripPass`, `stripLoop`: the code of a line with comments;
- `MaskState`, `maskPass`, `maskLoop`: the mask of a text without comments.
-/

namespace LuaAccessors.Lexis

/-! ## §1 Loops whose passes advance

A loop over places of a text. If each pass moves on inside the text or leaves the loop, the distance to the end
is a measure under which the loop is defined, and no fuel is needed.
-/

section

variable {σ : Type}

/-- In a text that ends at `stop` a pass that starts at a state `s` leaves the loop at the place of `s`, or it goes
on further behind, and not behind the text. -/
def Advances (place : σ → Nat) (stop : Nat) (s : σ) : ForInStep σ → Prop
  | .done last => place last = place s
  | .yield next => place s < place next ∧ place next ≤ stop

/-- A loop over a text: a pass is made wherever the place is in front of the end, and every pass advances. -/
structure JumpLoop (σ : Type) where
  /-- The place of a state in the text. -/
  place : σ → Nat
  /-- The place behind the text. -/
  stop : Nat
  pass : σ → ForInStep σ
  advances : ∀ s, place s < stop → Advances place stop s (pass s)

namespace JumpLoop

theorem place_lt_of_yield {l : JumpLoop σ} {s next : σ} (h : l.place s < l.stop)
    (hpass : l.pass s = .yield next) : l.place s < l.place next ∧ l.place next ≤ l.stop := by
  have hadvances := l.advances s h
  rw [hpass] at hadvances
  exact hadvances

/-- The state behind the loop. -/
def run (l : JumpLoop σ) (s : σ) : σ :=
  if h : l.place s < l.stop then
    match hpass : l.pass s with
    | .done last => last
    | .yield next =>
      have := place_lt_of_yield h hpass
      l.run next
  else s
termination_by l.stop - l.place s

/-- The places at which the passes of the loop start. -/
def visits (l : JumpLoop σ) (s : σ) : List Nat :=
  if h : l.place s < l.stop then
    match hpass : l.pass s with
    | .done _ => [l.place s]
    | .yield next =>
      have := place_lt_of_yield h hpass
      l.place s :: l.visits next
  else []
termination_by l.stop - l.place s

/-- **A loop moves on.** Its passes start at places of the text, each further behind than the one before. -/
theorem visits_ascend (l : JumpLoop σ) (s : σ) :
    (l.visits s).Pairwise (· < ·) ∧ ∀ i ∈ l.visits s, l.place s ≤ i ∧ i < l.stop := by
  fun_induction visits l s with
  | case1 s h last hpass => simp [h]
  | case2 s h next hpass hnext ih =>
    -- All further passes start at the place of `next` or behind it.
    refine ⟨List.pairwise_cons.2 ⟨fun i hi => ?_, ih.1⟩, fun i hi => ?_⟩
    · exact Nat.lt_of_lt_of_le hnext.1 (ih.2 i hi).1
    · rcases List.mem_cons.1 hi with rfl | hi
      · exact ⟨Nat.le_refl _, h⟩
      · have hi := ih.2 i hi
        omega
  | case3 => simp

/-- What holds in front of every pass gives what holds behind the loop. -/
theorem run_spec (l : JumpLoop σ) (holds behind : σ → Prop)
    (hdone : ∀ {s last}, holds s → l.place s < l.stop → l.pass s = .done last → behind last)
    (hyield : ∀ {s next}, holds s → l.place s < l.stop → l.pass s = .yield next → holds next)
    (hstop : ∀ {s}, holds s → l.stop ≤ l.place s → behind s) {s : σ} (h : holds s) : behind (l.run s) := by
  fun_induction run l s with
  | case1 s hplace last hpass => exact hdone h hplace hpass
  | case2 s hplace next hpass _ ih => exact ih (hyield h hplace hpass)
  | case3 s hplace => exact hstop h (Nat.le_of_not_lt hplace)

end JumpLoop

end

/-! ## §2 Searching -/

/-- Where a word stands first in a text. -/
def wordIndex? (word : Text) : Text → Option Nat
  | [] => if word.isEmpty then some 0 else none
  | c :: rest => if word.isPrefixOf (c :: rest) then some 0 else (wordIndex? word rest).map (· + 1)

/-- Where a word stands first from a place of a text on. -/
def wordIndexFrom? (word t : Text) (start : Nat) : Option Nat :=
  (wordIndex? word (t.drop start)).map (start + ·)

theorem le_length_of_wordIndex? {word t : Text} {n : Nat} (h : wordIndex? word t = some n) :
    n + word.length ≤ t.length := by
  induction t generalizing n with
  | nil =>
    rw [wordIndex?] at h
    split at h
    · cases h
      simpa using ‹word.isEmpty = true›
    · cases h
  | cons c rest ih =>
    rw [wordIndex?] at h
    split at h
    · cases h
      rw [Nat.zero_add]
      exact (List.isPrefixOf_iff_prefix.1 ‹_›).length_le
    · obtain ⟨m, hm, rfl⟩ := Option.map_eq_some_iff.1 h
      have := ih hm
      rw [List.length_cons]
      omega

/-- A bracket that closes what is open at a place stands behind it, and ends in the text. -/
theorem range_of_closer {t : Text} {level place close : Nat} (hplace : place ≤ t.length)
    (h : wordIndexFrom? (bracketCloser level) t place = some close) :
    place ≤ close ∧ close + (level + 2) ≤ t.length := by
  obtain ⟨n, hn, rfl⟩ := Option.map_eq_some_iff.1 h
  have hlength := le_length_of_wordIndex? hn
  rw [List.length_drop, length_bracketCloser] at hlength
  omega

/-- A bracket that opens at a place ends in the text. -/
theorem le_length_of_bracketLevelAt {t : Text} {place level : Nat} (hplace : place ≤ t.length)
    (h : bracketLevelAt t place = some level) : place + (level + 2) ≤ t.length := by
  have hlength := length_le_of_bracketLevel h
  rw [List.length_drop] at hlength
  omega

/-! ## §3 Quoted literals -/

/-- A quoted literal takes at least its quote, and ends in the text. -/
theorem exists_quotedEnd? {t : Text} {start : Nat} (h : start < t.length) :
    ∃ stop, quotedEnd? t start = some stop ∧ start < stop ∧ stop ≤ t.length := by
  have hdrop : t.drop start = t[start] :: t.drop (start + 1) := List.drop_eq_getElem_cons h
  have hle := quotedLength_le t[start] (t.drop (start + 1))
  rw [List.length_drop] at hle
  exact ⟨start + 1 + quotedLength t[start] (t.drop (start + 1)), by rw [quotedEnd?, hdrop], by omega, by omega⟩

/-- A text in front moves the end of a literal. -/
theorem quotedEnd?_append (front t : Text) (start : Nat) :
    quotedEnd? (front ++ t) (front.length + start) = (quotedEnd? t start).map (front.length + ·) := by
  have hdrop : (front ++ t).drop (front.length + start) = t.drop start := by simp
  rw [quotedEnd?, quotedEnd?, hdrop]
  cases t.drop start with
  | nil => rfl
  | cons quote rest => simp [Nat.add_assoc]

/-! ## §4 The code of a line -/

/-- What the loop over a line knows in front of a pass. -/
structure StripState where
  /-- The place in the line. -/
  place : Nat := 0
  /-- What is open there. -/
  carry : Carry
  /-- The depth of table braces. -/
  depth : Nat
  /-- The line in front of the place, without its comments. -/
  code : Text := []
  deriving Repr, DecidableEq

/-- A pass over a line. What is open is read up to the bracket that closes it, and behind a line comment there is
nothing to read. -/
def stripPass (raw : Text) (s : StripState) : ForInStep StripState :=
  match s.carry with
  | .blockComment level =>
    match wordIndexFrom? (bracketCloser level) raw s.place with
    | none => .done s
    | some close => .yield { s with place := close + (level + 2), carry := .nothing }
  | .longString level =>
    match wordIndexFrom? (bracketCloser level) raw s.place with
    | none => .done { s with code := s.code ++ raw.drop s.place }
    | some close =>
      let stop := close + (level + 2)
      .yield { s with place := stop, carry := .nothing, code := s.code ++ raw.extract s.place stop }
  | .nothing =>
    match raw.drop s.place with
    | [] => .done s
    | c :: rest =>
      if c = '-' ∧ rest.head? = some '-' then
        match bracketLevelAt raw (s.place + 2) with
        | none => .done s
        -- Nothing is kept here, but the place moves over the bracket.
        | some level => .yield { s with place := s.place + (2 + (level + 2)), carry := .blockComment level }
      else if isQuote c then
        let stop := (quotedEnd? raw s.place).getD raw.length
        .yield { s with place := stop, code := s.code ++ raw.extract s.place stop }
      else match bracketLevelAt raw s.place with
        | some level =>
          let stop := s.place + (level + 2)
          .yield { s with place := stop, carry := .longString level, code := s.code ++ raw.extract s.place stop }
        | none =>
          .yield { s with place := s.place + 1, depth := depthBehind s.depth c, code := s.code ++ [c] }

/-- **A pass over a line** leaves the loop or moves on. -/
theorem stripPass_advances (raw : Text) (s : StripState) (h : s.place < raw.length) :
    Advances StripState.place raw.length s (stripPass raw s) := by
  have hle := Nat.le_of_lt h
  unfold stripPass
  split
  · split
    · rfl
    · have hrange := range_of_closer hle ‹_›
      exact ⟨by dsimp only; omega, hrange.2⟩
  · split
    · rfl
    · have hrange := range_of_closer hle ‹_›
      exact ⟨by dsimp only; omega, hrange.2⟩
  · split
    · rfl
    · -- Nothing is open: a comment, a quoted literal, a long string, or a single character.
      rename_i c rest hdrop
      split
      · rename_i hdashes
        split
        · rfl
        · -- Both dashes are in the text, so the bracket opens in it.
          obtain ⟨more, rfl⟩ := List.head?_eq_some_iff.1 hdashes.2
          have hlength := congrArg List.length hdrop
          rw [List.length_drop, List.length_cons, List.length_cons] at hlength
          have hplace : s.place + 2 ≤ raw.length := by omega
          have hopener := le_length_of_bracketLevelAt hplace ‹_›
          exact ⟨by dsimp only; omega, by dsimp only; omega⟩
      · split
        · obtain ⟨stop, hstop, hrange⟩ := exists_quotedEnd? h
          rw [hstop]
          exact hrange
        · split
          · have hopener := le_length_of_bracketLevelAt hle ‹_›
            exact ⟨by dsimp only; omega, hopener⟩
          · exact ⟨Nat.lt_succ_self _, h⟩

/-- The loop over a line. -/
def stripLoop (raw : Text) : JumpLoop StripState where
  place := StripState.place
  stop := raw.length
  pass := stripPass raw
  advances := stripPass_advances raw

/-! ## §5 The mask of a text -/

/-- What the loop over a text without comments knows in front of a pass. -/
structure MaskState where
  /-- The place in the text. -/
  place : Nat := 0
  /-- The text, with spaces for what is between delimiters in front of the place. -/
  shown : Text
  deriving Repr, DecidableEq

/-- The text with spaces at the places from `first` to `stop`. -/
def blankOut (first stop : Nat) (t : Text) : Text :=
  t.mapIdx fun i c => if first ≤ i ∧ i < stop then ' ' else c

/-- A pass over a text without comments. -/
def maskPass (t : Text) (s : MaskState) : ForInStep MaskState :=
  match t.drop s.place with
  | [] => .done s
  | c :: _ =>
    if isQuote c then
      let stop := (quotedEnd? t s.place).getD t.length
      -- The closing quote is shown; a literal that is left open has none.
      let inner := if s.place < stop - 1 ∧ t[stop - 1]? = some c then stop - 1 else stop
      .yield { place := stop, shown := blankOut (s.place + 1) inner s.shown }
    else match bracketLevelAt t s.place with
      | some level =>
        let inside := s.place + (level + 2)
        match wordIndexFrom? (bracketCloser level) t inside with
        | none => .yield { place := t.length, shown := blankOut inside t.length s.shown }
        | some close =>
          .yield { place := close + (level + 2), shown := blankOut inside close s.shown }
      | none => .yield { s with place := s.place + 1 }

/-- **A pass over a text without comments** leaves the loop or moves on. -/
theorem maskPass_advances (t : Text) (s : MaskState) (h : s.place < t.length) :
    Advances MaskState.place t.length s (maskPass t s) := by
  have hle := Nat.le_of_lt h
  unfold maskPass
  split
  · rfl
  · split
    · obtain ⟨stop, hstop, hrange⟩ := exists_quotedEnd? h
      rw [hstop]
      exact hrange
    · split
      · -- The closer is looked for behind the opener, so the jump leads past both.
        have hopener := le_length_of_bracketLevelAt hle ‹_›
        dsimp only
        split
        · exact ⟨h, Nat.le_refl _⟩
        · have hrange := range_of_closer hopener ‹_›
          exact ⟨by dsimp only; omega, hrange.2⟩
      · exact ⟨Nat.lt_succ_self _, h⟩

/-- The loop over a text without comments. -/
def maskLoop (t : Text) : JumpLoop MaskState where
  place := MaskState.place
  stop := t.length
  pass := maskPass t
  advances := maskPass_advances t

end LuaAccessors.Lexis
