import Mathlib.Data.List.Induction
import Mathlib.Data.List.TakeWhile
import LuaAccessors.Settings

/-!
# Layers of settings

Settings are changed in place, step by step: by the entries of a mapping, or by a document. Behind any steps
every setting has the last usable value that has been supplied for it, and its default if there was none.

A document may be refused, and then nothing has been changed. A value that cannot be written breaks a step off
in the middle: the settings in front of it have been replaced, and the others stay. So a step supplies the values
of the settings that it gets to, which are all of them unless it is broken off.

- `Settings.Step`, `Settings.Step.run`: one change of the settings;
- `settingKeys`, `reachedKeys`: the settings in their turn, and those that a mapping gets to;
- `run_applyEntries`: the change that a mapping makes as a function;
- `Settings.Step.HasEntries`, `Settings.Step.Supplies`: the values that a step supplies;
- `step_cases`, `Settings.Step.Ends`: everything that a step can do;
- `Setting`, `LastSupplied`: one setting, and the last usable value for it;
- `settings_layered`: all settings behind all steps, how steps end, and the settings of a run.
-/

namespace LuaAccessors

/-- A value that says something where a text is expected. -/
def Value.hasText (v : Value) : Bool := !v.isNull && !v.writtenText.strip.isEmpty

namespace Settings

/-! ## §1 Steps -/

/-- A step that settings are changed by. -/
inductive Step where
  /-- The entries of a mapping. -/
  | apply (entries : List (Value × Value))
  /-- What has been read from the place of a document. -/
  | load (path : Text) (source : Source)

/-- One step. -/
def Step.run : Step → Change
  | .apply entries => applyEntries entries
  | .load path source => loadDocument path source

/-- The settings behind some steps. The steps go on behind one that fails. -/
def after (s : Settings) (steps : List Step) : Settings := steps.foldl (fun s step => left (step.run s)) s

theorem after_concat (s : Settings) (steps : List Step) (step : Step) :
    s.after (steps ++ [step]) = left (step.run (s.after steps)) := by
  rw [after, List.foldl_append]
  rfl

/-! ## §2 Entries

The settings that are texts come first. A value among them that cannot be written breaks the change off, and
neither the texts behind it nor the check of the syntax are reached. -/

/-- The value that a mapping has under a key, if it is usable, as what is made of it. -/
def usable? {α : Type} (entries : List (Value × Value)) (key : Text) (isUsable : Value → Bool)
    (ofValue : Value → α) : Option α :=
  ((lookupText key entries).filter isUsable).map ofValue

theorem suppliedTruth?_eq (entries : List (Value × Value)) (key : Text) :
    suppliedTruth? entries key = usable? entries key (!·.isNull) Value.truthy := by
  unfold suppliedTruth? usable?
  cases lookupText key entries with
  | none => rfl
  | some v => cases hnull : v.isNull <;> simp [Option.filter, hnull]

/-- What a value makes of a setting that is a text. -/
def trimmedText (v : Value) : Text := v.writtenText.strip

namespace TextSetting

theorem mem_all (x : TextSetting) : x ∈ all := by
  cases x <;> decide

/-- The value for the setting cannot be written. -/
def isBlocked (entries : List (Value × Value)) (x : TextSetting) : Bool :=
  (lookupText x.key entries).any fun v => !v.isWritable

theorem suppliedText_eq (entries : List (Value × Value)) (x : TextSetting) :
    suppliedText entries x.key = if x.isBlocked entries then .error (.unwritable x.key)
      else .ok (usable? entries x.key Value.hasText trimmedText) := by
  unfold suppliedText isBlocked usable? trimmedText
  cases lookupText x.key entries with
  | none => rfl
  | some v =>
    cases hnull : v.isNull with
    | true =>
      obtain rfl := Value.isNull_eq_true_iff.1 hnull
      rfl
    | false =>
      cases hwritable : v.isWritable <;> cases hblank : v.writtenText.strip.isEmpty <;>
        simp [Value.hasText, Value.text?, Option.filter, hnull, hblank, hwritable]

end TextSetting

/-- The settings with what a mapping has for a text, if it has anything usable. -/
def takeText (entries : List (Value × Value)) (s : Settings) (x : TextSetting) : Settings :=
  (usable? entries x.key Value.hasText trimmedText).elim s (x.set s)

/-- The settings with what a mapping has for some of the texts. -/
def takeTexts (entries : List (Value × Value)) (xs : List TextSetting) (s : Settings) : Settings :=
  xs.foldl (takeText entries) s

/-- The texts that are reached. -/
def reachedTexts (entries : List (Value × Value)) (xs : List TextSetting) : List TextSetting :=
  xs.takeWhile fun x => !x.isBlocked entries

theorem run_replace {α : Type} (set : Settings → α → Settings) (r : Except SettingsError (Option α))
    (s : Settings) : replace set r s = match r with
      | .error e => .error e s
      | .ok a? => .ok () (a?.elim s (set s)) := by
  rcases r with e | _ | a <;> rfl

/-- **The texts of a mapping** are taken over up to the first that is blocked. -/
theorem run_applyTexts (entries : List (Value × Value)) (xs : List TextSetting) (s : Settings) :
    applyTexts entries xs s = match xs.find? (·.isBlocked entries) with
      | none => .ok () (takeTexts entries (reachedTexts entries xs) s)
      | some x => .error (.unwritable x.key) (takeTexts entries (reachedTexts entries xs) s) := by
  induction xs generalizing s with
  | nil => rfl
  | cons x rest ih =>
    rw [applyTexts, reachedTexts, x.suppliedText_eq]
    -- The first setting is reached whatever follows. Behind one that is blocked nothing is.
    cases hblocked : x.isBlocked entries with
    | true =>
      rw [List.find?_cons_of_pos hblocked, List.takeWhile_cons_of_neg (by simp [hblocked])]
      rfl
    | false =>
      rw [List.find?_cons_of_neg (by simp [hblocked]), List.takeWhile_cons_of_pos (by simp [hblocked])]
      simp only [bind, EStateM.bind, run_replace]
      exact ih _

theorem TextSetting.get_takeText (x y : TextSetting) (entries : List (Value × Value)) (s : Settings) :
    x.get (takeText entries s y) =
      if x = y then (usable? entries x.key Value.hasText trimmedText).getD (x.get s) else x.get s := by
  unfold takeText
  by_cases hxy : x = y
  · subst hxy
    cases usable? entries x.key Value.hasText trimmedText <;> simp
  · cases usable? entries y.key Value.hasText trimmedText <;> simp [hxy]

theorem TextSetting.get_takeTexts (x : TextSetting) (entries : List (Value × Value)) (xs : List TextSetting)
    (s : Settings) : x.get (takeTexts entries xs s) =
      if x ∈ xs then (usable? entries x.key Value.hasText trimmedText).getD (x.get s) else x.get s := by
  induction xs generalizing s with
  | nil => rfl
  | cons y rest ih =>
    refine (ih _).trans ?_
    rw [get_takeText]
    by_cases hxy : x = y
    · -- It makes no difference whether the setting comes once more.
      cases usable? entries x.key Value.hasText trimmedText <;> simp [hxy]
    · simp [hxy]

theorem checkSyntax_takeTexts (entries : List (Value × Value)) (xs : List TextSetting) (s : Settings) :
    (takeTexts entries xs s).checkSyntax = s.checkSyntax := by
  induction xs generalizing s with
  | nil => rfl
  | cons x rest ih =>
    refine (ih _).trans ?_
    unfold takeText
    cases usable? entries x.key Value.hasText trimmedText <;> simp

/-- The first setting whose value cannot be written. -/
def blocked? (entries : List (Value × Value)) : Option TextSetting := TextSetting.all.find? (·.isBlocked entries)

/-- **The entries of a mapping** are taken over as far as they are reached. -/
theorem run_applyEntries (entries : List (Value × Value)) (s : Settings) :
    applyEntries entries s = match blocked? entries with
      | none => .ok () { takeTexts entries (reachedTexts entries TextSetting.all) s with
          checkSyntax := (usable? entries checkSyntaxKey (!·.isNull) Value.truthy).getD s.checkSyntax }
      | some x => .error (.unwritable x.key) (takeTexts entries (reachedTexts entries TextSetting.all) s) := by
  rw [applyEntries, blocked?, suppliedTruth?_eq]
  simp only [bind, EStateM.bind, run_applyTexts, run_replace]
  -- The check of the syntax is reached only if no text is blocked.
  cases TextSetting.all.find? (·.isBlocked entries) with
  | some x => rfl
  | none =>
    have hcheck := checkSyntax_takeTexts entries (reachedTexts entries TextSetting.all) s
    cases usable? entries checkSyntaxKey (!·.isNull) Value.truthy with
    | none => simp [← hcheck]
    | some b => rfl

theorem reachedTexts_of_blocked? {entries : List (Value × Value)} (h : blocked? entries = none) :
    reachedTexts entries TextSetting.all = TextSetting.all := by
  apply List.takeWhile_eq_self_iff.2
  intro x hx
  simpa using List.find?_eq_none.1 h x hx

/-- The texts that are reached are those in front of the first that is blocked. -/
theorem exists_of_blocked? {entries : List (Value × Value)} {x : TextSetting} (h : blocked? entries = some x) :
    (∃ behind, TextSetting.all = reachedTexts entries TextSetting.all ++ x :: behind) ∧
      ∃ v, lookupText x.key entries = some v ∧ v.isWritable = false := by
  obtain ⟨hblocked, front, behind, hall, hfront⟩ := List.find?_eq_some_iff_append.1 h
  refine ⟨⟨behind, ?_⟩, ?_⟩
  · rw [reachedTexts, hall, List.takeWhile_append_of_pos hfront, List.takeWhile_cons_of_neg (by simp [hblocked]),
      List.append_nil]
  · obtain ⟨v, hv, hwritable⟩ := (Option.any_eq_true _ _).1 hblocked
    exact ⟨v, hv, by simpa using hwritable⟩

/-! ## §3 One setting

Settings are independent of each other but for one thing: a value that cannot be written ends the reading of the
mapping, so the settings behind it are not reached.
-/

/-- A setting: where it stands, which values count for it, and what is made of them. -/
structure Setting (α : Type) where
  /-- The key in a mapping. -/
  key : Text
  /-- What the setting is at first. -/
  default : α
  /-- The values that are not passed over. -/
  isUsable : Value → Bool
  /-- What a value makes of the setting. -/
  ofValue : Value → α
  /-- The entries of a mapping get as far as this setting. -/
  isReached : List (Value × Value) → Bool
  /-- Where the setting stands among the settings. -/
  get : Settings → α
  get_default : get {} = default
  get_apply : ∀ s entries, get (s.apply entries) =
    if isReached entries then (usable? entries key isUsable ofValue).getD (get s) else get s
  isReached_of_blocked? : ∀ {entries}, blocked? entries = none → isReached entries = true

/-- The settings that entries leave, whether they are all reached or not. -/
theorem left_applyEntries (entries : List (Value × Value)) (s : Settings) :
    (∀ x : TextSetting, x.get (s.apply entries) =
      x.get (takeTexts entries (reachedTexts entries TextSetting.all) s)) ∧
    (s.apply entries).checkSyntax = if blocked? entries = none then
      (usable? entries checkSyntaxKey (!·.isNull) Value.truthy).getD s.checkSyntax else s.checkSyntax := by
  rw [apply, run_applyEntries]
  cases blocked? entries with
  | none => exact ⟨fun x => by cases x <;> rfl, rfl⟩
  | some x => exact ⟨fun _ => rfl, checkSyntax_takeTexts _ _ _⟩

/-- A setting that is a text: it takes values that are neither null nor blank, and trims them. -/
def TextSetting.setting (x : TextSetting) : Setting Text where
  key := x.key
  default := x.get {}
  isUsable := Value.hasText
  ofValue := trimmedText
  isReached entries := (reachedTexts entries TextSetting.all).contains x
  get := x.get
  get_default := rfl
  get_apply s entries := by simp only [left_applyEntries, x.get_takeTexts, List.contains_iff_mem]
  isReached_of_blocked? h := by simp [reachedTexts_of_blocked? h, x.mem_all]

/-- Whether scripts that are not valid Lua are reported: the truth of a value that is not null. -/
def checkSyntaxSetting : Setting Bool where
  key := checkSyntaxKey
  default := false
  isUsable v := !v.isNull
  ofValue := Value.truthy
  isReached entries := (blocked? entries).isNone
  get := checkSyntax
  get_default := rfl
  get_apply s entries := by simp only [left_applyEntries, Option.isNone_iff_eq_none]
  isReached_of_blocked? h := by rw [h]; rfl

/-! ## §4 What a step supplies -/

/-- The mapping that a step takes its settings from. A section for the settings hides the top of its document. -/
inductive Step.HasEntries : Step → List (Value × Value) → Prop where
  | apply {entries : List (Value × Value)} : HasEntries (.apply entries) entries
  | empty {path : Text} : HasEntries (.load path (.document .null)) []
  | top {path : Text} {entries : List (Value × Value)} (hsection : lookupText settingsSection entries = none) :
      HasEntries (.load path (.document (.mapping entries))) entries
  | inSection {path : Text} {entries section_ : List (Value × Value)}
      (hsection : lookupText settingsSection entries = some (.mapping section_)) :
      HasEntries (.load path (.document (.mapping entries))) section_

/-- A step supplies the values of its mapping for the settings that are reached. -/
def Step.Supplies {α : Type} (step : Step) (x : Setting α) (v : Value) : Prop :=
  ∃ entries, step.HasEntries entries ∧ x.isReached entries = true ∧ lookupText x.key entries = some v

theorem hasEntries_document_iff {path : Text} {value : Value} {entries : List (Value × Value)} :
    (Step.load path (.document value)).HasEntries entries ↔ documentEntries path value = .ok entries := by
  constructor
  · rintro (_ | _ | hsection | hsection)
    · rfl
    · rw [documentEntries, hsection]
    · rw [documentEntries, hsection]
  · intro h
    unfold documentEntries at h
    split at h
    · cases h
      exact .empty
    · split at h
      · rename_i hsection
        cases h
        exact .top hsection
      · rename_i hsection
        cases h
        exact .inSection hsection
      · cases h
    · cases h

/-- A document that is refused is refused for what it is. -/
theorem isAboutDocument_of_documentEntries {path : Text} {value : Value} {e : SettingsError}
    (h : documentEntries path value = .error e) : e.isAboutDocument = true := by
  unfold documentEntries at h
  split at h
  · cases h
  · split at h
    · cases h
    · cases h
    · cases h
      rfl
  · cases h
    rfl

/-- Everything that a step can do: without a mapping it does nothing or is refused, and else it applies its
mapping. -/
theorem step_cases (step : Step) (s : Settings) :
    ((∀ entries, ¬step.HasEntries entries) ∧
      (step.run s = .ok () s ∨ ∃ e, e.isAboutDocument = true ∧ step.run s = .error e s)) ∨
    ∃ entries, (∀ entries', step.HasEntries entries' ↔ entries' = entries) ∧
      step.run s = applyEntries entries s := by
  cases step with
  | apply entries =>
    refine .inr ⟨entries, fun entries' => ⟨?_, ?_⟩, rfl⟩
    · rintro ⟨⟩
      rfl
    · rintro rfl
      exact .apply
  | load path source =>
    cases source with
    | missing => exact .inl ⟨fun _ h => (by cases h), .inl rfl⟩
    | invalid explanation => exact .inl ⟨fun _ h => (by cases h), .inr ⟨_, rfl, rfl⟩⟩
    | document value =>
      simp only [hasEntries_document_iff, Step.run, loadDocument]
      cases hentries : documentEntries path value with
      -- A document that is not a mapping is refused before anything is read from it.
      | error e =>
        have he := isAboutDocument_of_documentEntries hentries
        exact .inl ⟨fun _ h => (by cases h), .inr ⟨e, he, rfl⟩⟩
      | ok entries => exact .inr ⟨entries, by simp [eq_comm], rfl⟩

/-- How a step ends. -/
inductive Step.Ends (step : Step) (s : Settings) : EStateM.Result SettingsError Settings Unit → Prop where
  /-- It succeeds: whatever its mapping has for the settings is reached. -/
  | succeeded {s' : Settings}
      (h : ∀ entries, step.HasEntries entries →
        (∀ x : TextSetting, x.setting.isReached entries = true) ∧ checkSyntaxSetting.isReached entries = true) :
      Ends step s (.ok () s')
  /-- Its document is refused: it has no mapping, and the settings are as they were. -/
  | refused {e : SettingsError} (he : e.isAboutDocument = true) (h : ∀ entries, ¬step.HasEntries entries) :
      Ends step s (.error e s)
  /-- It is broken off at a value that cannot be written: the settings in front are reached, and those from there
  on are as they were. -/
  | broken {entries : List (Value × Value)} {front behind : List TextSetting} {x : TextSetting} {s' : Settings}
      (hentries : step.HasEntries entries) (hall : TextSetting.all = front ++ x :: behind)
      (hvalue : ∃ v, lookupText x.key entries = some v ∧ v.isWritable = false)
      (hfront : ∀ y ∈ front, y.setting.isReached entries = true)
      (hrest : ∀ y ∈ x :: behind, y.get s' = y.get s) (hcheck : s'.checkSyntax = s.checkSyntax) :
      Ends step s (.error (.unwritable x.key) s')

theorem ends_run (step : Step) (s : Settings) : step.Ends s (step.run s) := by
  rcases step_cases step s with ⟨hnone, hrun | ⟨e, he, hrun⟩⟩ | ⟨entries, hentries, hrun⟩
  · rw [hrun]
    exact .succeeded fun entries h => absurd h (hnone entries)
  · rw [hrun]
    exact .refused he hnone
  · have hleft := left_applyEntries entries s
    rw [apply] at hleft
    rw [hrun]
    rw [run_applyEntries] at hleft ⊢
    cases hblocked : blocked? entries with
    | none =>
      apply Step.Ends.succeeded
      intro entries' h
      obtain rfl := (hentries entries').1 h
      exact ⟨fun x => x.setting.isReached_of_blocked? hblocked, checkSyntaxSetting.isReached_of_blocked? hblocked⟩
    | some x =>
      obtain ⟨⟨behind, hall⟩, hvalue⟩ := exists_of_blocked? hblocked
      have hnodup : TextSetting.all.Nodup := by decide
      rw [hall] at hnodup
      refine .broken ((hentries entries).2 rfl) hall hvalue (fun y hy => List.contains_iff_mem.2 hy) ?_ ?_
      · -- No setting comes twice, so those from here on have not been reached.
        intro y hy
        rw [y.get_takeTexts, if_neg fun h => (List.nodup_append.1 hnodup).2.2 y h y hy rfl]
      · exact checkSyntax_takeTexts _ _ _

/-! ## §5 Layers

By induction from the last step back. The last step that supplies a usable value decides, and a step that ends
with an error counts for what it has supplied by then.
-/

section

variable {α : Type} (x : Setting α)

/-- A mapping, laid over settings, decides what a setting is where it has a usable value for it, and nowhere
else. -/
def Setting.LaidOver (entries : List (Value × Value)) (s s' : Settings) : Prop :=
  (∃ v, lookupText x.key entries = some v ∧ x.isUsable v = true ∧ x.get s' = x.ofValue v) ∨
    (∀ v, lookupText x.key entries = some v → x.isUsable v = false) ∧ x.get s' = x.get s

theorem Setting.laidOver_apply {entries : List (Value × Value)} (hreached : x.isReached entries = true)
    (s : Settings) : x.LaidOver entries s (s.apply entries) := by
  have hget := x.get_apply s entries
  rw [if_pos hreached, usable?] at hget
  -- The mapping has no value for the setting, or one that is usable, or one that is passed over.
  cases hlookup : lookupText x.key entries with
  | none =>
    rw [hlookup] at hget
    exact .inr ⟨fun v h => (by cases hlookup.symm.trans h), hget⟩
  | some v =>
    rw [hlookup] at hget
    cases husable : x.isUsable v with
    | true =>
      rw [Option.filter_some_pos husable] at hget
      exact .inl ⟨v, hlookup, husable, hget⟩
    | false =>
      rw [Option.filter_some_neg (by simp [husable])] at hget
      refine .inr ⟨fun w h => ?_, hget⟩
      obtain rfl := Option.some.inj (hlookup.symm.trans h)
      exact husable

/-- The last usable value that steps supply for a setting, if there is one. -/
inductive LastSupplied : List Step → Option Value → Prop where
  | none {steps : List Step}
      (h : ∀ step ∈ steps, ∀ v, step.Supplies x v → x.isUsable v = false) : LastSupplied steps none
  | some {above below : List Step} {step : Step} {v : Value} (hv : step.Supplies x v)
      (husable : x.isUsable v = true)
      (hbelow : ∀ step ∈ below, ∀ v, step.Supplies x v → x.isUsable v = false) :
      LastSupplied (above ++ step :: below) (some v)

variable {x}

/-- A step that supplies nothing usable changes nothing about the last value. -/
theorem LastSupplied.concat {steps : List Step} {v? : Option Value} (h : LastSupplied x steps v?)
    {step : Step} (hstep : ∀ v, step.Supplies x v → x.isUsable v = false) :
    LastSupplied x (steps ++ [step]) v? := by
  -- Behind the step that has supplied the last value there is one step more that supplies none.
  have hconcat : ∀ {steps : List Step},
      (∀ step ∈ steps, ∀ v, step.Supplies x v → x.isUsable v = false) →
      ∀ step' ∈ steps ++ [step], ∀ v, step'.Supplies x v → x.isUsable v = false := by
    intro steps hsteps step' hmem
    rcases List.mem_append.1 hmem with hmem | hmem
    · exact hsteps step' hmem
    · exact List.mem_singleton.1 hmem ▸ hstep
  cases h with
  | none h => exact .none (hconcat h)
  | some hv husable hbelow =>
    rw [List.append_assoc, List.cons_append]
    exact .some hv husable (hconcat hbelow)

/-- What one step makes of a setting, however it ends. -/
theorem Setting.get_run (x : Setting α) (step : Step) (s : Settings) :
    (∃ v, step.Supplies x v ∧ x.isUsable v = true ∧ x.get (left (step.run s)) = x.ofValue v) ∨
      (∀ v, step.Supplies x v → x.isUsable v = false) ∧ x.get (left (step.run s)) = x.get s := by
  rcases step_cases step s with ⟨hnone, hrun⟩ | ⟨entries, hentries, hrun⟩
  · have hleft : left (step.run s) = s := by
      rcases hrun with hrun | ⟨e, -, hrun⟩ <;> rw [hrun] <;> rfl
    refine .inr ⟨?_, by rw [hleft]⟩
    rintro v ⟨entries, h, -⟩
    exact absurd h (hnone entries)
  · rw [hrun]
    simp only [Step.Supplies, hentries, exists_eq_left]
    cases hreached : x.isReached entries with
    | true => simpa [Setting.LaidOver, apply] using x.laidOver_apply hreached s
    -- A setting that is not reached is supplied nothing, even if the mapping has a value for it.
    | false =>
      have hget := x.get_apply s entries
      rw [hreached] at hget
      exact .inr ⟨by simp, hget⟩

/-- **Behind any steps** a setting is what its last usable value makes of it, or its default. -/
theorem Setting.get_after (x : Setting α) (steps : List Step) :
    ∃ v?, LastSupplied x steps v? ∧ x.get (after {} steps) = v?.elim x.default x.ofValue := by
  induction steps using List.reverseRecOn with
  | nil => exact ⟨none, .none (by simp), x.get_default⟩
  | append_singleton steps step ih =>
    -- A usable value in the last step is the last one; without it that of the steps before counts.
    rw [after_concat]
    rcases x.get_run step (after {} steps) with ⟨v, hv, husable, hget⟩ | ⟨hnone, hget⟩
    · exact ⟨some v, .some hv husable (by simp), hget⟩
    · obtain ⟨v?, hlast, hbefore⟩ := ih
      exact ⟨v?, hlast.concat hnone, hget.trans hbefore⟩

end

/-! ## §6 Sources -/

/-- Overrides are laid over the settings that there are without them. -/
theorem ofSources_cases (document : Option (Text × Source)) (overrides : List (Value × Value)) :
    (∃ e, ofSources document [] = .error e ∧ ofSources document overrides = .error e) ∨
      ∃ file, ofSources document [] = .ok file ∧
        ofSources document overrides = settled (applyEntries overrides file) := by
  unfold ofSources
  cases ofDocument document with
  | error e => exact .inl ⟨e, rfl, rfl⟩
  | ok file => exact .inr ⟨file, rfl, rfl⟩

/-- How the settings come out of their sources, where the overrides can be written. -/
theorem settled_applyEntries {entries : List (Value × Value)} (h : blocked? entries = none) (s : Settings) :
    settled (applyEntries entries s) = .ok (s.apply entries) := by
  rw [apply, run_applyEntries, h]
  rfl

end Settings

end LuaAccessors
