import LuaAccessors.Proofs.CommandLine.Headers
import LuaAccessors.Proofs.Files.Directories

/-!
# Writing what has changed

A header is written only if its file does not hold it yet. Whether it does is decided in its turn, so headers
that come before it in the same run count. If no carriage return is about, a file holds exactly what has been
written to it, and everything can be said of the headers and of the files that were there at first.

- `textAt?`, `Target`: the text in a file, and a file that a header can be written to;
- `writeSources_append`: headers in two parts;
- `Settles`, `settles_writeSources`: a single header;
- `textBehind`, `targetsWritten`: what stands in a file behind some headers, and the headers that are written;
- `Wrote`, `wrote_writeSources`: all headers;
- `written_when_changed`: the files that are left, those that are written, and a second run.
-/

namespace LuaAccessors

/-- Without carriage returns line ends stay as they are. -/
theorem Text.normalizeLineEnds_eq_self {t : Text} (h : '\r' ∉ t) : t.normalizeLineEnds = t := by
  fun_induction Text.normalizeLineEnds t with
  | case1 => rfl
  | case2 rest => exact absurd List.mem_cons_self h
  | case3 c rest hfeed ih =>
    obtain ⟨hc, hrest⟩ := not_or.1 (mt List.mem_cons.2 h)
    rw [if_neg (Ne.symm hc), ih hrest]

namespace CommandLine

open FileTree

/-! ## §1 Files of headers -/

/-- The text in the file that a path leads to, as it stands there. -/
def textAt? (t : FileTree) (p : Path) : Option Text :=
  match t.find? p with
  | some (_, .file (.text u)) => some u
  | _ => none

/-- What has the name of a header in the directory is missing or a file that holds a text. No carriage returns
stand in the header or in the file. -/
structure Target (dir : Path) (t : FileTree) (s : GeneratedSource) : Prop where
  isDirectory : t.isDirectory dir = true
  return_not_mem : '\r' ∉ s.text
  missing_or_text : t.find? (dir.join s.hintName) = none ∨
    ∃ key u, t.find? (dir.join s.hintName) = some (key, .file (.text u)) ∧ '\r' ∉ u

theorem exists_locate_of_isDirectory {t : FileTree} {dir : Path} (h : t.isDirectory dir = true) :
    ∃ key, t.locate dir = .ok key ∧ t.node? key = some .directory := by
  unfold isDirectory at h
  split at h
  · rename_i key hfind
    exact ⟨key, find?_eq_some_iff.1 hfind⟩
  · cases h

/-- A file name in a directory leads somewhere, whether there is a file or not. -/
theorem exists_locate_join {t : FileTree} {dir : Path} (hdir : t.isDirectory dir = true) {name : Text}
    (hname : IsFileName name) : ∃ key, t.locate (dir.join name) = .ok key := by
  obtain ⟨key, hkey, hnode⟩ := exists_locate_of_isDirectory hdir
  refine ⟨next key name, ?_⟩
  have hchild := locate_child t dir name
  rw [hkey] at hchild
  simp only [hnode] at hchild
  rw [hname.join]
  exact hchild

theorem textAt?_eq_some_iff {t : FileTree} {p : Path} {u : Text} :
    textAt? t p = some u ↔ ∃ key, t.find? p = some (key, .file (.text u)) := by
  unfold textAt?
  split
  · rename_i hfind
    simp [hfind]
  · rename_i hfind
    simp only [reduceCtorEq, false_iff, not_exists]
    exact fun key h => hfind key u h

namespace Target

variable {dir : Path} {t : FileTree} {s : GeneratedSource} (h : Target dir t s)

include h

/-- The file is compared by the text in it. -/
theorem presentText?_eq :
    presentText? t (dir.join s.hintName) = .ok (textAt? t (dir.join s.hintName)) := by
  rcases h.missing_or_text with hnone | ⟨key, u, hfind, hu⟩
  · simp [presentText?, textAt?, hnone]
  · simp [presentText?, textAt?, readText, hfind, Except.map, Text.normalizeLineEnds_eq_self hu]

/-- A path leads to the file, and to no directory. -/
theorem exists_locate :
    ∃ key, t.locate (dir.join s.hintName) = .ok key ∧ t.node? key ≠ some .directory := by
  obtain ⟨key, hkey⟩ := exists_locate_join h.isDirectory s.isFileName
  refine ⟨key, hkey, fun hnode => ?_⟩
  have hfind : t.find? (dir.join s.hintName) = some (key, .directory) := find?_eq_some_iff.2 ⟨hkey, hnode⟩
  rcases h.missing_or_text with hnone | ⟨key', u, hfile, -⟩
  · simp [hfind] at hnone
  · simp [hfind] at hfile

end Target

/-! ## §2 One header

A header is compared with its file and written if the two differ. In either case the file holds the header then.
-/

/-- Headers in two parts: the second part is written behind the first one. -/
theorem writeSources_append {dir : Path} {verbose : Bool} {t : FileTree} {first : List GeneratedSource}
    (h : (writeSources dir verbose t first).fault = none) (second : List GeneratedSource) :
    writeSources dir verbose t (first ++ second) =
      { writeSources dir verbose (writeSources dir verbose t first).tree second with
        lines := (writeSources dir verbose t first).lines ++
          (writeSources dir verbose (writeSources dir verbose t first).tree second).lines
        paths := (writeSources dir verbose t first).paths ++
          (writeSources dir verbose (writeSources dir verbose t first).tree second).paths } := by
  induction first generalizing t with
  | nil => rfl
  | cons s first ih =>
    rw [List.cons_append, writeSources, writeSources]
    rw [writeSources] at h
    dsimp only at h ⊢
    cases hpresent : presentText? t (dir.join s.hintName) with
    -- A fault ends the writing, so there is none among the first headers.
    | error fault => simp [hpresent] at h
    | ok present =>
      simp only [hpresent] at h ⊢
      by_cases hsame : present = some s.text
      · -- A header that is present leaves the files as they are.
        simp only [if_pos hsame] at h ⊢
        cases verbose
        · exact ih h
        · simp only [reduceIte] at h ⊢
          rw [ih h]
          rfl
      · simp only [if_neg hsame] at h ⊢
        -- A header that is not present is written, and the others are written into the tree behind it.
        cases hwrite : t.writeText (dir.join s.hintName) s.text with
        | error fault => simp [hwrite] at h
        | ok t' =>
          simp only [hwrite] at h ⊢
          rw [ih h]
          rfl

/-- What a header leaves: its file holds it, nothing else has changed, and paths lead where they led. -/
structure Settles (dir : Path) (t : FileTree) (s : GeneratedSource) (t' : FileTree) : Prop where
  /-- The file holds the header. -/
  text : textAt? t' (dir.join s.hintName) = some s.text
  /-- Every other entry is as it was. -/
  elsewhere : ∀ key, t.locate (dir.join s.hintName) ≠ .ok key → t'.node? key = t.node? key
  /-- A path that led somewhere leads there still. -/
  leads : ∀ p key, t.locate p = .ok key → t'.locate p = .ok key

/-- Writing a header settles it. -/
theorem Target.exists_writeText {dir : Path} {t : FileTree} {s : GeneratedSource} (h : Target dir t s) :
    ∃ t', t.writeText (dir.join s.hintName) s.text = .ok t' ∧ Settles dir t s t' := by
  obtain ⟨key, hkey, hnode⟩ := h.exists_locate
  have htop := isTop_eq_false_of_node? hnode
  refine ⟨put t key (.file (.text s.text)), ?_, ?_⟩
  · unfold writeText
    rw [hkey]
    dsimp only
    split
    · exact absurd ‹_› hnode
    · rfl
  · constructor
    case text =>
      apply textAt?_eq_some_iff.2
      exact ⟨key, find?_eq_some_iff.2 ⟨walk_put hnode _ hkey, node?_put_self htop _⟩⟩
    case elsewhere =>
      intro k hk
      apply node?_put_of_ne
      rintro rfl
      exact hk hkey
    case leads => exact fun p k hp => walk_put hnode _ hp

/-- **A single header** is written unless its file holds it. -/
theorem settles_writeSources {dir : Path} {t : FileTree} {s : GeneratedSource} (h : Target dir t s)
    (verbose : Bool) :
    Settles dir t s (writeSources dir verbose t [s]).tree ∧ (writeSources dir verbose t [s]).fault = none ∧
      (writeSources dir verbose t [s]).paths =
        (if textAt? t (dir.join s.hintName) = some s.text then [] else [dir.join s.hintName]) ∧
      (textAt? t (dir.join s.hintName) = some s.text → (writeSources dir verbose t [s]).tree = t) := by
  obtain ⟨t', hwrite, hsettles⟩ := h.exists_writeText
  simp only [writeSources, h.presentText?_eq, hwrite]
  -- The file holds the text already and stays, or the text is written.
  by_cases hsame : textAt? t (dir.join s.hintName) = some s.text
  · have hself : Settles dir t s t := ⟨hsame, fun _ _ => rfl, fun _ _ hp => hp⟩
    simp only [if_pos hsame]
    cases verbose
    · exact ⟨hself, rfl, rfl, fun _ => rfl⟩
    · exact ⟨hself, rfl, rfl, fun _ => rfl⟩
  · simp only [if_neg hsame]
    exact ⟨hsettles, trivial, trivial, fun h => absurd h hsame⟩

section

variable {dir : Path} {t t' : FileTree} {s : GeneratedSource} (h : Settles dir t s t')
  (hs : Target dir t s)

include h hs

theorem Settles.isDirectory : t'.isDirectory dir = true := by
  obtain ⟨d, hd, hnode⟩ := exists_locate_of_isDirectory hs.isDirectory
  obtain ⟨key, hkey, hfile⟩ := hs.exists_locate
  -- The header is not written where a directory stands.
  have hne : t.locate (dir.join s.hintName) ≠ .ok d := by
    intro heq
    obtain rfl : key = d := Except.ok.inj (hkey.symm.trans heq)
    exact hfile hnode
  have hfind : t'.find? dir = some (d, .directory) :=
    find?_eq_some_iff.2 ⟨h.leads _ _ hd, (h.elsewhere d hne).trans hnode⟩
  simp [FileTree.isDirectory, hfind]

/-- Under another name there stands what stood there before. -/
theorem Settles.find?_join {name : Text} (hname : IsFileName name) (hne : s.hintName ≠ name) :
    t'.find? (dir.join name) = t.find? (dir.join name) := by
  obtain ⟨key, hkey⟩ := exists_locate_join hs.isDirectory hname
  have hother : t.locate (dir.join s.hintName) ≠ .ok key := by
    rw [← hkey]
    exact (locate_join_ne hname s.isFileName (Ne.symm hne) hkey).symm
  simp only [find?, hkey, h.leads _ _ hkey, h.elsewhere key hother]

theorem Settles.textAt?_join {name : Text} (hname : IsFileName name) :
    textAt? t' (dir.join name) = if s.hintName = name then some s.text else textAt? t (dir.join name) := by
  split
  · rename_i heq
    rw [← heq, h.text]
  · rename_i hne
    rw [textAt?, textAt?, h.find?_join hs hname hne]

/-- Behind a header the others can be written as before. -/
theorem Settles.target {e : GeneratedSource} (he : Target dir t e) : Target dir t' e := by
  refine ⟨h.isDirectory hs, he.return_not_mem, ?_⟩
  by_cases heq : s.hintName = e.hintName
  · obtain ⟨key, hfind⟩ := textAt?_eq_some_iff.1 h.text
    rw [← heq]
    exact .inr ⟨key, s.text, hfind, hs.return_not_mem⟩
  · rw [h.find?_join hs e.isFileName heq]
    exact he.missing_or_text

end

/-! ## §3 All headers -/

/-- The text that stands behind some headers in the file of a name: the last header of the name, or what was
there at first. -/
def textBehind (dir : Path) (t : FileTree) (sources : List GeneratedSource) (name : Text) : Option Text :=
  ((sources.filter (·.hintName == name)).getLast?.map GeneratedSource.text).or (textAt? t (dir.join name))

/-- The files of the headers that do not stand there yet when their turn comes, in the order of the headers. -/
def targetsWritten (dir : Path) (t : FileTree) (sources : List GeneratedSource) : List Path :=
  (sources.zipIdx.filter fun e => textBehind dir t (sources.take e.2) e.1.hintName != some e.1.text).map
    fun e => dir.join e.1.hintName

section

variable {dir : Path} {t : FileTree} {sources : List GeneratedSource}

theorem textBehind_concat (s : GeneratedSource) (name : Text) :
    textBehind dir t (sources ++ [s]) name =
      if s.hintName = name then some s.text else textBehind dir t sources name := by
  unfold textBehind
  rw [List.filter_append]
  split
  · rename_i heq
    rw [List.filter_cons_of_pos (by simp [heq])]
    simp
  · rename_i hne
    rw [List.filter_cons_of_neg (by simp [hne])]
    simp

theorem textBehind_of_last {before after : List GeneratedSource} {s : GeneratedSource}
    (hafter : ∀ e ∈ after, e.hintName ≠ s.hintName) :
    textBehind dir t (before ++ s :: after) s.hintName = some s.text := by
  have hnone : after.filter (·.hintName == s.hintName) = [] := by simpa [List.filter_eq_nil_iff] using hafter
  simp [textBehind, hnone]

/-- What stands behind headers in the file of one of them is the text of one of that name. -/
theorem exists_textBehind {s : GeneratedSource} (hs : s ∈ sources) :
    ∃ e ∈ sources, e.hintName = s.hintName ∧ textBehind dir t sources s.hintName = some e.text := by
  have hmem : s ∈ sources.filter (·.hintName == s.hintName) := List.mem_filter.2 ⟨hs, beq_self_eq_true _⟩
  obtain ⟨e, he⟩ := Option.ne_none_iff_exists'.1 (mt List.getLast?_eq_none_iff.1 (List.ne_nil_of_mem hmem))
  obtain ⟨hsources, hname⟩ := List.mem_filter.1 (List.mem_of_getLast? he)
  exact ⟨e, hsources, beq_iff_eq.1 hname, by simp [textBehind, he]⟩

/-- Headers that stand in their files at first change nothing. -/
theorem textBehind_eq_textAt? (h : ∀ s ∈ sources, textAt? t (dir.join s.hintName) = some s.text)
    (name : Text) : textBehind dir t sources name = textAt? t (dir.join name) := by
  induction sources using List.reverseRecOn with
  | nil => rfl
  | append_singleton sources s ih =>
    rw [textBehind_concat]
    split
    · rename_i heq
      rw [← heq, h s (by simp)]
    · exact ih fun e he => h e (List.mem_append_left _ he)

theorem targetsWritten_concat (s : GeneratedSource) :
    targetsWritten dir t (sources ++ [s]) = targetsWritten dir t sources ++
      if textBehind dir t sources s.hintName = some s.text then [] else [dir.join s.hintName] := by
  -- The headers in front of the last one see only what is in front of themselves.
  have hearlier : ∀ e ∈ sources.zipIdx, (sources ++ [s]).take e.2 = sources.take e.2 := by
    intro e he
    exact List.take_append_of_le_length (Nat.le_of_lt (List.snd_lt_of_mem_zipIdx he))
  have hfilter : sources.zipIdx.filter (fun e =>
        textBehind dir t ((sources ++ [s]).take e.2) e.1.hintName != some e.1.text) =
      sources.zipIdx.filter fun e => textBehind dir t (sources.take e.2) e.1.hintName != some e.1.text :=
    List.filter_congr fun e he => by rw [hearlier e he]
  rw [targetsWritten, List.zipIdx_append, List.filter_append, hfilter, List.map_append, targetsWritten]
  congr 1
  have hself : (sources ++ [s]).take sources.length = sources := List.take_left
  by_cases hsame : textBehind dir t sources s.hintName = some s.text
  · simp [hself, hsame]
  · simp [hself, hsame]

/-- **Nothing is written** if every header stands in its file at first, and only then. -/
theorem targetsWritten_eq_nil_iff :
    targetsWritten dir t sources = [] ↔ ∀ s ∈ sources, textAt? t (dir.join s.hintName) = some s.text := by
  induction sources using List.reverseRecOn with
  | nil => simp [targetsWritten]
  | append_singleton sources s ih =>
    rw [targetsWritten_concat, List.append_eq_nil_iff, ih]
    constructor
    · rintro ⟨hsources, hlast⟩ e he
      rcases List.mem_append.1 he with he | he
      · exact hsources e he
      · -- Nothing has been written so far, so the last header finds what was there at first.
        obtain rfl := List.mem_singleton.1 he
        rw [textBehind_eq_textAt? hsources] at hlast
        simpa using hlast
    · intro h
      have hsources : ∀ e ∈ sources, textAt? t (dir.join e.hintName) = some e.text := fun e he =>
        h e (List.mem_append_left _ he)
      refine ⟨hsources, if_pos ?_⟩
      rw [textBehind_eq_textAt? hsources, h s (by simp)]

end

/-- What writing headers leaves. -/
structure Wrote (dir : Path) (t : FileTree) (sources : List GeneratedSource) (w : Written) : Prop where
  /-- Nothing has broken the writing off. -/
  fault : w.fault = none
  /-- Behind the headers each file holds the last one of its name. -/
  text : ∀ name, IsFileName name → textAt? w.tree (dir.join name) = textBehind dir t sources name
  /-- Every other entry is as it was. -/
  elsewhere : ∀ key, (∀ s ∈ sources, t.locate (dir.join s.hintName) ≠ .ok key) →
    w.tree.node? key = t.node? key
  /-- A path that led somewhere leads there still. -/
  leads : ∀ p key, t.locate p = .ok key → w.tree.locate p = .ok key
  /-- What could be written can be written. -/
  target : ∀ e, Target dir t e → Target dir w.tree e
  /-- The files that are reported are those of headers that were not there in their turn. -/
  paths : w.paths = targetsWritten dir t sources
  /-- If none is reported, nothing has changed. -/
  unchanged : w.paths = [] → w.tree = t

/-- **All headers**, one behind the other. -/
theorem wrote_writeSources {dir : Path} {t : FileTree} {sources : List GeneratedSource}
    (h : ∀ s ∈ sources, Target dir t s) (verbose : Bool) :
    Wrote dir t sources (writeSources dir verbose t sources) := by
  induction sources using List.reverseRecOn with
  | nil => exact ⟨rfl, fun _ _ => rfl, fun _ _ => rfl, fun _ _ hp => hp, fun _ he => he, rfl, fun _ => rfl⟩
  | append_singleton sources s ih =>
    -- The last header is compared with what the ones before it have left.
    have hw := ih fun e he => h e (List.mem_append_left _ he)
    have hs := hw.target s (h s (by simp))
    obtain ⟨hsettles, hfault, hpaths, hsame⟩ := settles_writeSources hs verbose
    rw [hw.text s.hintName s.isFileName] at hpaths hsame
    rw [writeSources_append hw.fault]
    constructor
    case fault => exact hfault
    case text =>
      intro name hname
      rw [textBehind_concat, hsettles.textAt?_join hs hname, hw.text name hname]
    case elsewhere =>
      intro key hkey
      have hlast : (writeSources dir verbose t sources).tree.locate (dir.join s.hintName) ≠ .ok key := by
        obtain ⟨key', hkey', -⟩ := (h s (by simp)).exists_locate
        rw [hw.leads _ _ hkey', ← hkey']
        exact hkey s (by simp)
      exact (hsettles.elsewhere key hlast).trans
        (hw.elsewhere key fun e he => hkey e (List.mem_append_left _ he))
    case leads => exact fun p key hp => hsettles.leads p key (hw.leads p key hp)
    case target => exact fun e he => hsettles.target hs (hw.target e he)
    case paths =>
      dsimp only
      rw [targetsWritten_concat, hw.paths, hpaths]
    case unchanged =>
      intro hnil
      obtain ⟨hfirst, hlast⟩ := List.append_eq_nil_iff.1 hnil
      have hstands : textBehind dir t sources s.hintName = some s.text := by
        rw [hpaths] at hlast
        simpa using hlast
      exact (hsame hstands).trans (hw.unchanged hfirst)

/-- Three headers, two of them of one name. -/
def threeHeaders : List GeneratedSource := [
  { hintName := "a.hpp", typeName := "A", sourcePath := "a.lua", text := "one",
    isFileName := by decide },
  { hintName := "b.hpp", typeName := "B", sourcePath := "b.lua", text := "x",
    isFileName := by decide },
  { hintName := "a.hpp", typeName := "A", sourcePath := "c.lua", text := "two",
    isFileName := by decide }]

/-- A directory with an older header. -/
def outputTree : FileTree := [
  (["out".toList], .directory), (["out".toList, "a.hpp".toList], .file (.text "old".toList))]

end CommandLine

end LuaAccessors
