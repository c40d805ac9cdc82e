import LuaAccessors.CommandLine.Run
import LuaAccessors.Proofs.Batch.Outcome
import LuaAccessors.Proofs.Files.Tree

/-!
# Headers in files

A run writes the headers of its batch one after the other, each to the file of its name in the output
directory. The name comes from the stem of the script with capitals and without its directory, so two scripts
may meet in one file; then the header that comes last is the one that is left.

- `Writes`, `exists_writes`: what happens to one header, and that a run goes on header by header;
- `Writes.holds`, `Writes.keeps`: a header that is written, and one that was written before;
- `holds_writeSources`: the headers that are left in the end;
- `inputs?`: the settings and the scripts of a run;
- `last_headers_left`: the headers that a run leaves;
- `not_every_header_left`: a run that loses one.

What reads the settings and checks the scripts is left open: all of it holds for any tools.
-/

namespace LuaAccessors

open Cpp

namespace CommandLine

open FileTree

/-! ## §1 One header -/

/-- What happens to a header: its file has been read as its text, or its text is written. -/
inductive Writes (dir : Path) (t : FileTree) (s : GeneratedSource) : FileTree → Prop where
  | unchanged (h : t.readText (dir.join s.hintName) = .ok s.text) : Writes dir t s t
  | written {t' : FileTree} (h : t.writeText (dir.join s.hintName) s.text = .ok t') : Writes dir t s t'

theorem readText_of_presentText? {t : FileTree} {p : Path} {text : Text}
    (h : presentText? t p = .ok (some text)) : t.readText p = .ok text := by
  unfold presentText? at h
  split at h
  · cases h
  · cases hread : t.readText p with
    | error fault => simp [hread, Except.map] at h
    | ok read =>
      simp only [hread, Except.map, Except.ok.injEq, Option.some.injEq] at h
      rw [h]

/-- **A run goes on header by header** as long as nothing breaks it off. -/
theorem exists_writes {dir : Path} {verbose : Bool} {t : FileTree} {s : GeneratedSource}
    {rest : List GeneratedSource} (h : (writeSources dir verbose t (s :: rest)).fault = none) :
    ∃ t', Writes dir t s t' ∧ (writeSources dir verbose t' rest).fault = none ∧
      (writeSources dir verbose t (s :: rest)).tree = (writeSources dir verbose t' rest).tree := by
  rw [writeSources] at h ⊢
  dsimp only at h ⊢
  cases hpresent : presentText? t (dir.join s.hintName) with
  | error fault => simp [hpresent] at h
  | ok present =>
    simp only [hpresent] at h ⊢
    by_cases hsame : present = some s.text
    · -- What is printed of it makes no difference.
      rw [if_pos hsame] at h ⊢
      rw [hsame] at hpresent
      refine ⟨t, .unchanged (readText_of_presentText? hpresent), ?_⟩
      cases verbose
      · exact ⟨h, rfl⟩
      · exact ⟨h, rfl⟩
    · rw [if_neg hsame] at h ⊢
      cases hwrite : t.writeText (dir.join s.hintName) s.text with
      | error fault => simp [hwrite] at h
      | ok t' =>
        simp only [hwrite] at h ⊢
        exact ⟨t', .written hwrite, h, rfl⟩

/-- Behind a header its file holds it. -/
theorem Writes.holds {dir : Path} {t t' : FileTree} {s : GeneratedSource} (h : Writes dir t s t') :
    t'.Holds (dir.join s.hintName) s.text := by
  cases h with
  | unchanged hread => exact holds_of_readText hread
  | written hwrite => exact holds_of_writeText hwrite

/-- Different names in one directory lead to different files. -/
theorem locate_join_ne {t : FileTree} {dir : Path} {a b : Text} (ha : IsFileName a) (hb : IsFileName b)
    (hne : a ≠ b) {key : List Text} (hkey : t.locate (dir.join a) = .ok key) :
    t.locate (dir.join a) ≠ t.locate (dir.join b) := by
  intro heq
  rw [heq] at hkey
  have hkey' := heq.trans hkey
  rw [ha.join, locate] at hkey'
  rw [hb.join, locate] at hkey
  obtain ⟨d, hd, -, rfl⟩ := walk_snoc ha.ne_above hkey'
  obtain ⟨e, he, -, hkeys⟩ := walk_snoc hb.ne_above hkey
  -- Both ways go through one directory, so only the names at their ends can tell them apart.
  obtain rfl : d = e := Except.ok.inj (hd.symm.trans he)
  exact hne (List.cons.inj (List.append_cancel_left hkeys)).1

/-- **A header that was written before is kept** by one of another name, or of the same text. -/
theorem Writes.keeps {dir : Path} {t t' : FileTree} {s : GeneratedSource} (h : Writes dir t s t')
    {name text : Text} (hname : IsFileName name)
    (hholds : t.Holds (dir.join name) text) (hsame : s.hintName = name → s.text = text) :
    t'.Holds (dir.join name) text := by
  -- A header of the same name is the same text again. Any other one goes to another file.
  by_cases heq : s.hintName = name
  · rw [← heq, ← hsame heq]
    exact h.holds
  · cases h with
    | unchanged hread => exact hholds
    | written hwrite =>
      obtain ⟨key, u, hkey, hu⟩ := hholds
      apply Holds.writeText ⟨key, u, hkey, hu⟩ hwrite
      exact locate_join_ne hname s.isFileName (Ne.symm heq) hkey

/-! ## §2 All headers

A later header may take the file of an earlier one, and it does not matter how many headers stand between them.
-/

/-- What was written before is kept to the end by headers of other names, or of the same text. -/
theorem keeps_writeSources {dir : Path} {verbose : Bool} {t : FileTree} {sources : List GeneratedSource}
    (hfault : (writeSources dir verbose t sources).fault = none)
    {name text : Text} (hname : IsFileName name)
    (hholds : t.Holds (dir.join name) text)
    (hsame : ∀ s ∈ sources, s.hintName = name → s.text = text) :
    (writeSources dir verbose t sources).tree.Holds (dir.join name) text := by
  induction sources generalizing t with
  | nil => exact hholds
  | cons s rest ih =>
    obtain ⟨t', hwrites, hrest, htree⟩ := exists_writes hfault
    have hkept := hwrites.keeps hname hholds (hsame s List.mem_cons_self)
    rw [htree]
    exact ih hrest hkept fun s hs => hsame s (List.mem_cons_of_mem _ hs)

/-- **The last header of a name is left.** -/
theorem holds_writeSources {dir : Path} {verbose : Bool} {t : FileTree}
    {before after : List GeneratedSource} {s : GeneratedSource}
    (hfault : (writeSources dir verbose t (before ++ s :: after)).fault = none)
    (hlast : ∀ e ∈ after, e.hintName = s.hintName → e.text = s.text) :
    (writeSources dir verbose t (before ++ s :: after)).tree.Holds (dir.join s.hintName) s.text := by
  induction before generalizing t with
  | nil =>
    obtain ⟨t', hwrites, hrest, htree⟩ := exists_writes hfault
    rw [List.nil_append, htree]
    exact keeps_writeSources hrest s.isFileName hwrites.holds hlast
  | cons e before ih =>
    -- Whatever was written for `e`, the header `s` is still to come.
    rw [List.cons_append] at hfault ⊢
    obtain ⟨t', -, hrest, htree⟩ := exists_writes hfault
    rw [htree]
    exact ih hrest

/-! ## §3 Runs -/

section

variable {tools : Tools} {t : FileTree} {o : Options} {settings : Settings} {scripts : List Script}

/-- The settings and the scripts of a run that gets as far as a batch. -/
def inputs? (tools : Tools) (t : FileTree) (arguments : List Text) : Option (Settings × List Script) :=
  match Options.parse arguments with
  | .error _ => none
  | .ok o =>
    match loadSettings tools t o with
    | .ok (.ok settings) =>
      match collectScripts t (o.inputs.map Path.ofText) with
      | .ok scripts => some (settings, scripts)
      | .error _ => none
    | _ => none

theorem run_of_inputs? {arguments : List Text} (h : inputs? tools t arguments = some (settings, scripts)) :
    ∃ o, runWith tools t arguments = generate tools t o settings scripts := by
  unfold inputs? at h
  split at h
  · cases h
  · rename_i o hoptions
    split at h
    · rename_i settings' hsettings
      split at h
      · rename_i scripts' hscripts
        obtain ⟨rfl, rfl⟩ := Prod.mk.inj (Option.some.inj h)
        refine ⟨o, ?_⟩
        simp only [runWith, runOptions, hoptions, hsettings, hscripts]
      · cases h
    · cases h

/-- A run that succeeds has written the headers of its batch. -/
theorem exists_writeSources (h : (generate tools t o settings scripts).status = .ok 0) :
    ∃ t', (writeSources (Path.ofText settings.outputDir) o.verbose t'
        (runBatchWith tools.isValid settings scripts).sources).fault = none ∧
      (generate tools t o settings scripts).tree =
        (writeSources (Path.ofText settings.outputDir) o.verbose t'
          (runBatchWith tools.isValid settings scripts).sources).tree := by
  unfold generate at h ⊢
  dsimp only at h ⊢
  split at h
  · cases h
  · rename_i t' hdirectories
    refine ⟨t', ?_, rfl⟩
    dsimp only at h
    split at h
    · cases h
    · assumption

/-- A run that breaks nothing off succeeds unless an error is reported. -/
theorem status_generate {t' : FileTree}
    (hdirectory : t.makeDirectories (Path.ofText settings.outputDir) = (t', .ok ()))
    (hfault : (writeSources (Path.ofText settings.outputDir) o.verbose t'
      (runBatchWith tools.isValid settings scripts).sources).fault = none) :
    (generate tools t o settings scripts).status =
      .ok (if (runBatchWith tools.isValid settings scripts).hasErrors then 1 else 0) := by
  unfold generate
  simp only [hdirectory, hfault]

end

/-- **The last header of a name is left** by a run that succeeds: the file of that name in the output
directory holds it. Headers are called by the stems of their scripts, so they meet where stems are equal in
capitals. -/
theorem last_headers_left (tools : Tools) {t : FileTree} {arguments : List Text} {settings : Settings}
    {scripts : List Script} (hinputs : inputs? tools t arguments = some (settings, scripts))
    (hstatus : (runWith tools t arguments).status = .ok 0) {before after : List GeneratedSource}
    {s : GeneratedSource}
    (hsources : (runBatchWith tools.isValid settings scripts).sources = before ++ s :: after)
    (hlast : ∀ e ∈ after, e.hintName = s.hintName → e.text = s.text) :
    (runWith tools t arguments).tree.Holds ((Path.ofText settings.outputDir).join s.hintName) s.text := by
  obtain ⟨o, hrun⟩ := run_of_inputs? hinputs
  -- The run got as far as writing, and what comes behind this header writes over it only with the same text.
  rw [hrun] at hstatus ⊢
  obtain ⟨t', hfault, htree⟩ := exists_writeSources hstatus
  rw [hsources] at hfault htree
  rw [htree]
  exact holds_writeSources hfault hlast

/-- Two scripts that are called alike. -/
def twoGames : FileTree := [
  (["a".toList], .directory), (["a".toList, "game.lua".toList], .file (.text "x = 1".toList)),
  (["b".toList], .directory), (["b".toList, "game.lua".toList], .file (.text "y = 2".toList))]

/-- The arguments of a run over both. -/
def twoPaths : List Text := ["a/game.lua".toList, "b/game.lua".toList]

/-- The scripts of that run. -/
def twoScripts : List Script := [
  { path := "a/game.lua", text := .text "x = 1" }, { path := "b/game.lua", text := .text "y = 2" }]

/-- The header for a script of the source that is called `game`. -/
def gameHeader (path source : Text) : GeneratedSource :=
  { hintName := "GameScript.g.hpp"
    typeName := "GameScript"
    sourcePath := path
    text := header "GeneratedLua" (.ofResult (parse source "game"))
    isFileName := by decide }

theorem hintName_gameHeader (path source : Text) :
    (gameHeader path source).hintName = "GameScript.g.hpp".toList := rfl

theorem parse_twoPaths : Options.parse twoPaths = .ok { inputs := twoPaths } := by
  have hwords : classifyAll twoPaths =
      .ok [("a/game.lua".toList, .operand), ("b/game.lua".toList, .operand)] := rfl
  have hread : Options.readWords {} [("a/game.lua".toList, .operand), ("b/game.lua".toList, .operand)] =
      .ok { options := { inputs := twoPaths }, hasInputs := true } := by
    rw [Options.readWords.eq_def]
    dsimp only
    rw [if_neg (by decide)]
    exact Options.readWords.eq_1 _
  rw [Options.parse, hwords]
  show (Options.readWords {} _ >>= _) = _
  rw [hread]
  rfl

/-! The run names no document of settings and has no script checked, so its tools have no say in it. -/

theorem inputs?_twoGames (tools : Tools) : inputs? tools twoGames twoPaths = some ({}, twoScripts) := by
  rw [inputs?, parse_twoPaths]
  rfl

theorem sources_twoScripts (isValid : Text → Bool) : (runBatchWith isValid {} twoScripts).sources =
    [gameHeader "a/game.lua" "x = 1", gameHeader "b/game.lua" "y = 2"] := rfl

/-- The run over both succeeds. -/
theorem status_twoGames (tools : Tools) : (runWith tools twoGames twoPaths).status = .ok 0 := by
  have hdirectory : makeDirectories twoGames (Path.ofText ".".toList) = (twoGames, .ok ()) := by
    rw [makeDirectories]
    rfl
  have hrun : runWith tools twoGames twoPaths =
      generate tools twoGames { inputs := twoPaths } {} twoScripts := by
    rw [runWith, parse_twoPaths]
    rfl
  have hfault : (writeSources (Path.ofText ".".toList) false twoGames
      (runBatchWith tools.isValid {} twoScripts).sources).fault = none := by
    rw [sources_twoScripts]
    decide +kernel
  have hstatus := @status_generate tools twoGames { inputs := twoPaths } {} twoScripts twoGames hdirectory hfault
  rw [hrun, hstatus, hasErrors_runBatchWith]
  rfl

/-- The header of the second one is left. -/
theorem second_header_left :
    (runWith CommandLine.tools twoGames twoPaths).tree.Holds
      ((Path.ofText ".".toList).join "GameScript.g.hpp".toList) (gameHeader "b/game.lua" "y = 2").text := by
  have hsources : (runBatchWith CommandLine.tools.isValid {} twoScripts).sources =
      [gameHeader "a/game.lua" "x = 1"] ++ gameHeader "b/game.lua" "y = 2" :: [] :=
    sources_twoScripts _
  exact last_headers_left CommandLine.tools (inputs?_twoGames _) (status_twoGames _) hsources (by simp)

/-- A run that succeeds leaves every header of its batch. -/
def LeavesHeaders (tools : Tools) (t : FileTree) (arguments : List Text) : Prop :=
  ∀ settings scripts, inputs? tools t arguments = some (settings, scripts) →
    (runWith tools t arguments).status = .ok 0 →
      ∀ s ∈ (runBatchWith tools.isValid settings scripts).sources,
        (runWith tools t arguments).tree.Holds ((Path.ofText settings.outputDir).join s.hintName) s.text

/-- The two headers differ in more than line ends. -/
theorem gameHeaders_differ :
    ¬((gameHeader "a/game.lua" "x = 1").text = (gameHeader "b/game.lua" "y = 2").text ∨
      (gameHeader "a/game.lua" "x = 1").text.normalizeLineEnds = (gameHeader "b/game.lua" "y = 2").text ∨
      (gameHeader "b/game.lua" "y = 2").text.normalizeLineEnds =
        (gameHeader "a/game.lua" "x = 1").text) := by
  decide +kernel

/-- **Not every header is left**, whatever the tools are: of two scripts `game.lua` in different directories one
loses its own. -/
theorem not_every_header_left : ¬∃ tools, ∀ t arguments, LeavesHeaders tools t arguments := by
  rintro ⟨tools, h⟩
  have hleft := h twoGames twoPaths {} twoScripts (inputs?_twoGames tools) (status_twoGames tools)
  rw [sources_twoScripts] at hleft
  have hfirst := hleft (gameHeader "a/game.lua" "x = 1") List.mem_cons_self
  have hsecond := hleft (gameHeader "b/game.lua" "y = 2") (List.mem_cons_of_mem _ List.mem_cons_self)
  rw [hintName_gameHeader] at hfirst hsecond
  exact gameHeaders_differ (hfirst.eq_or_normalizeLineEnds_eq hsecond)

end CommandLine

end LuaAccessors
