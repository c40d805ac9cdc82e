import LuaAccessors.Text.LetterCase

/-!
# Characters that letter case leaves alone

Both case mappings make letters and marks. A character that is none, such as a slash, is the form of itself
only; so what separates the parts of a text separates the parts of its form in another case.

- `isCaseImage`: the code points that a character may be mapped to from another one;
- `eq_of_mem_upperChar`, `eq_of_mem_lowerChar`: other characters come from themselves;
- `mem_of_mem_lower`: and so do those of a whole text;
- `lower_append_cons`: the two sides of a character that separates words.
-/

namespace LuaAccessors

/-! ## §1 Images of other characters

The tables are large, so they are checked once by evaluation for the one property that is needed: no character
becomes an ASCII character other than a letter. Everything else follows from that.
-/

/-- A letter of ASCII or a code point beyond; no surrogates. -/
def isCaseImage (n : Nat) : Bool :=
  (65 ≤ n && n ≤ 90) || (97 ≤ n && n ≤ 122) || (0x80 ≤ n && n < 0xD800) || (0xE000 ≤ n && n < 0x110000)

/-- All code points of a run are mapped to such code points. -/
def CaseRun.hasImages (run : CaseRun) : Bool :=
  let low := run.first + run.shift
  let high := run.last + run.shift
  (65 ≤ low && high ≤ 90) || (97 ≤ low && high ≤ 122) || (0x80 ≤ low && high < 0xD800)
    || (0xE000 ≤ low && high < 0x110000)

theorem toNat_ofNat_of_isCaseImage {n : Nat} (h : isCaseImage n = true) : (Char.ofNat n).toNat = n := by
  -- The bounds leave the surrogates out, so the code point is that of a character.
  have hvalid : n.isValidChar := by
    simp only [isCaseImage, Bool.or_eq_true, Bool.and_eq_true, decide_eq_true_eq] at h
    simp only [Nat.isValidChar]
    omega
  rw [Char.ofNat, dif_pos hvalid]
  rfl

/-- What a run maps a code point to. -/
theorem isCaseImage_of_find? {runs : List CaseRun} (hruns : ∀ run ∈ runs, run.hasImages = true)
    {n m : Nat} (h : CaseRun.find? runs n = some m) : isCaseImage m = true := by
  induction runs with
  | nil => cases h
  | cons run rest ih =>
    rw [CaseRun.find?] at h
    split at h
    · cases h
    split at h
    · rename_i hfirst hlast
      split at h
      case isFalse => cases h
      obtain rfl := Option.some.inj h
      have hrun := hruns run List.mem_cons_self
      simp only [CaseRun.hasImages, Bool.or_eq_true, Bool.and_eq_true, decide_eq_true_eq] at hrun
      simp only [isCaseImage, Bool.or_eq_true, Bool.and_eq_true, decide_eq_true_eq]
      -- A run is shifted as a whole, so its ends bound what it makes.
      omega
    · exact ih (fun r hr => hruns r (List.mem_cons_of_mem _ hr)) h

/-- What is found stands in the table. -/
theorem exists_mem_of_lookup {table : List (Nat × List Nat)} {n : Nat} {ns : List Nat}
    (h : table.lookup n = some ns) : ∃ e ∈ table, e.2 = ns := by
  induction table with
  | nil => cases h
  | cons e rest ih =>
    obtain ⟨k, ks⟩ := e
    rw [List.lookup_cons] at h
    cases hk : n == k with
    | true =>
      rw [hk] at h
      exact ⟨_, List.mem_cons_self, Option.some.inj h⟩
    | false =>
      rw [hk] at h
      obtain ⟨e, he, hns⟩ := ih h
      exact ⟨e, List.mem_cons_of_mem _ he, hns⟩

/-- What a mapping makes of a character beyond ASCII: itself, or such code points. -/
theorem eq_or_isCaseImage_of_mem_mapCase {expansions : List (Nat × List Nat)} {runs : List CaseRun}
    (hexpansions : ∀ e ∈ expansions, ∀ n ∈ e.2, isCaseImage n = true)
    (hruns : ∀ run ∈ runs, run.hasImages = true) {c v : Char} (h : v ∈ mapCase expansions runs c) :
    v = c ∨ isCaseImage v.toNat = true := by
  unfold mapCase at h
  -- A character may have an expansion, else it is looked for in the runs, and if it is in none it stays.
  split at h
  · rename_i ns hns
    obtain ⟨e, he, rfl⟩ := exists_mem_of_lookup hns
    obtain ⟨n, hn, rfl⟩ := List.mem_map.1 h
    right
    rw [toNat_ofNat_of_isCaseImage (hexpansions e he n hn)]
    exact hexpansions e he n hn
  · rw [List.mem_singleton] at h
    cases hfind : CaseRun.find? runs c.toNat with
    | none =>
      left
      rw [h, hfind]
      rfl
    | some m =>
      right
      have himage := isCaseImage_of_find? hruns hfind
      rw [h, hfind, Option.map_some, Option.getD_some, toNat_ofNat_of_isCaseImage himage]
      exact himage

/-! ## §2 Other characters -/

/-- What a mapping does to an ASCII character. -/
theorem eq_or_isCaseImage_of_ascii {c : Char} (h : c.toNat < 0x80) :
    (c.toUpper = c ∨ isCaseImage c.toUpper.toNat = true) ∧
      (c.toLower = c ∨ isCaseImage c.toLower.toNat = true) := by
  have htable : ∀ n < 0x80,
      ((Char.ofNat n).toUpper = Char.ofNat n ∨ isCaseImage (Char.ofNat n).toUpper.toNat = true) ∧
      ((Char.ofNat n).toLower = Char.ofNat n ∨ isCaseImage (Char.ofNat n).toLower.toNat = true) := by
    decide
  have hc := htable c.toNat h
  rwa [Char.ofNat_toNat] at hc

section

variable {c v : Char} (hv : isCaseImage v.toNat = false)

include hv

theorem eq_of_mem_upperChar (h : v ∈ upperChar c) : v = c := by
  suffices v = c ∨ isCaseImage v.toNat = true by simpa [hv] using this
  unfold upperChar at h
  split at h
  · rename_i hascii
    rw [List.mem_singleton.1 h]
    exact (eq_or_isCaseImage_of_ascii hascii).1
  · have hexpansions : ∀ e ∈ upperExpansions, ∀ n ∈ e.2, isCaseImage n = true := by decide +kernel
    have hruns : ∀ run ∈ upperRuns, run.hasImages = true := by decide +kernel
    exact eq_or_isCaseImage_of_mem_mapCase hexpansions hruns h

theorem eq_of_mem_lowerChar (h : v ∈ lowerChar c) : v = c := by
  suffices v = c ∨ isCaseImage v.toNat = true by simpa [hv] using this
  unfold lowerChar at h
  split at h
  · rename_i hascii
    rw [List.mem_singleton.1 h]
    exact (eq_or_isCaseImage_of_ascii hascii).2
  · have hexpansions : ∀ e ∈ lowerExpansions, ∀ n ∈ e.2, isCaseImage n = true := by decide +kernel
    have hruns : ∀ run ∈ lowerRuns, run.hasImages = true := by decide +kernel
    exact eq_or_isCaseImage_of_mem_mapCase hexpansions hruns h

/-- **The form of a text in lower case** has such characters from the text only. -/
theorem mem_of_mem_lower {t : Text} (h : v ∈ lower t) : v ∈ t := by
  have hafter : ∀ (t before : Text), v ∈ lowerAfter before t → v ∈ t := by
    intro t
    induction t with
    | nil => exact fun _ h => h
    | cons c t ih =>
      intro before h
      rw [lowerAfter, List.mem_append] at h
      rcases h with h | h
      · split at h
        · -- A final sigma is a letter.
          rw [List.mem_singleton.1 h] at hv
          exact absurd hv (by decide)
        · rw [eq_of_mem_lowerChar hv h]
          exact List.mem_cons_self
      · exact List.mem_cons_of_mem _ (ih _ h)
  exact hafter t [] h

end

/-! ## §3 Words on their own -/

section

variable {c : Char} (hignorable : isCaseIgnorable c = false) (hcased : isCased c = false)

include hignorable hcased

/-- The search for the end of a word does not look past such a character. -/
theorem startsCased_append_cons (a b : Text) : startsCased (a ++ c :: b) = startsCased a := by
  induction a with
  | nil => simp [startsCased, hignorable, hcased]
  | cons d a ih =>
    unfold startsCased at ih ⊢
    rw [List.cons_append]
    cases hd : isCaseIgnorable d with
    | true => rwa [List.dropWhile_cons_of_pos hd, List.dropWhile_cons_of_pos hd]
    | false => rw [List.dropWhile_cons_of_neg (by simp [hd]), List.dropWhile_cons_of_neg (by simp [hd])]

/-- What stands in front of such a character does not count for what follows it. -/
theorem lowerAfter_append_cons (before rest t : Text) :
    lowerAfter (before ++ c :: rest) t = lowerAfter before t := by
  induction t generalizing before with
  | nil => rfl
  | cons d t ih =>
    rw [lowerAfter, lowerAfter, startsCased_append_cons hignorable hcased, ← List.cons_append, ih]

/-- **Such a character separates words**, so what stands on its two sides has a form of its own. -/
theorem lower_append_cons (a b : Text) : lower (a ++ c :: b) = lower a ++ (lowerChar c ++ lower b) := by
  -- A final sigma depends on the letters around it, so the statement is proved with any letters in front.
  have hafter : ∀ before, lowerAfter before (a ++ c :: b) = lowerAfter before a ++ (lowerChar c ++ lower b) := by
    induction a with
    | nil =>
      intro before
      have hsigma : c ≠ 'Σ' := by
        rintro rfl
        exact absurd hcased (by decide +kernel)
      simp only [List.nil_append, lowerAfter, hsigma, false_and, if_false]
      exact congrArg _ (lowerAfter_append_cons hignorable hcased [] before b)
    | cons d a ih =>
      intro before
      rw [List.cons_append, lowerAfter, lowerAfter, startsCased_append_cons hignorable hcased, ih,
        List.append_assoc]
  exact hafter []

end

end LuaAccessors
