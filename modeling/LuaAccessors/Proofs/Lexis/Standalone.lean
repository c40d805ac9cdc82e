import LuaAccessors.Proofs.Lexis.Mask

/-!
# Texts that are read on their own

A text that starts in code and ends in code, whatever follows it, can be read without what follows it.
Words, numbers and quoted strings are such texts, and so are texts that are put together from them.

- `Standalone`: the text is read on its own;
- `InCode`: all of it is code;
- `standalone_quoted`: quoted strings in which quotes and backslashes are escaped.
-/

namespace LuaAccessors.Lexis

/-- The text is read in the same way whatever follows it, and code follows it. -/
def Standalone (comments : Bool) (w : Text) : Prop :=
  ∀ u, roles comments .code (w ++ u) = roles comments .code w ++ roles comments .code u ∧
    Mode.code.after comments (w ++ u) = Mode.code.after comments u

/-! ## §1 Reading on -/

section

variable {comments : Bool} {w : Text}

theorem standalone_nil (comments : Bool) : Standalone comments [] := fun _ => ⟨rfl, rfl⟩

theorem Standalone.append {v : Text} (hw : Standalone comments w) (hv : Standalone comments v) :
    Standalone comments (w ++ v) := by
  intro u
  obtain ⟨hroles, hafter⟩ := hw (v ++ u)
  obtain ⟨hroles', hafter'⟩ := hv u
  rw [List.append_assoc, hroles, hafter, hroles', hafter', (hw v).1, List.append_assoc]
  exact ⟨rfl, rfl⟩

/-- The braces of a text are those of its characters that are code. -/
theorem braces_eq_filter (comments : Bool) (mode : Mode) (t : Text) :
    braces comments mode t =
      ((t.zip (roles comments mode t)).filter fun p => p.2 = .code && isBrace p.1).map (·.1) := by
  induction t generalizing mode with
  | nil => rfl
  | cons c rest ih =>
    rw [braces, ih]
    by_cases hc : (mode.step comments c rest).1 = .code ∧ isBrace c = true
    · rw [if_pos hc]
      simp [roles, hc.1, hc.2]
    · rw [if_neg hc]
      by_cases hrole : (mode.step comments c rest).1 = .code
      · have hb : isBrace c = false := by simpa [hrole] using hc
        simp [roles, hb]
      · simp [roles, hrole]

theorem Standalone.zip_roles (hw : Standalone comments w) (u : Text) :
    (w ++ u).zip (roles comments .code (w ++ u)) =
      w.zip (roles comments .code w) ++ u.zip (roles comments .code u) := by
  rw [(hw u).1]
  exact List.zip_append (length_roles comments .code w).symm

theorem Standalone.braces_append (hw : Standalone comments w) (u : Text) :
    braces comments .code (w ++ u) = braces comments .code w ++ braces comments .code u := by
  simp only [braces_eq_filter, hw.zip_roles, List.filter_append, List.map_append]

theorem Standalone.markedFrom_append (hw : Standalone false w) (u : Text) :
    markedFrom .code (w ++ u) = markedFrom .code w ++ markedFrom .code u := by
  unfold markedFrom
  rw [(hw u).1, List.zipWith_append (by simp), List.zip_append (by simp)]

theorem keptText_eq_filter (mode : Mode) (t : Text) :
    keptText mode t = ((t.zip (roles true mode t)).filter fun p => p.2 != .comment).map (·.1) := by
  induction t generalizing mode with
  | nil => rfl
  | cons c rest ih =>
    by_cases hc : (mode.step true c rest).1 = .comment
    · rw [keptText_cons_of_comment hc, ih]
      simp [roles, hc]
    · rw [keptText_cons hc, ih]
      simp [roles, hc]

theorem Standalone.keptText_append (hw : Standalone true w) (u : Text) :
    keptText .code (w ++ u) = keptText .code w ++ keptText .code u := by
  simp only [keptText_eq_filter, hw.zip_roles, List.filter_append, List.map_append]

end

/-! ## §2 Texts of code -/

/-- All of the text is code, whatever follows it. -/
structure InCode (comments : Bool) (w : Text) : Prop where
  standalone : Standalone comments w
  roles_eq : roles comments .code w = List.replicate w.length .code

section

variable {comments : Bool} {w : Text}

theorem inCode_nil (comments : Bool) : InCode comments [] := ⟨standalone_nil comments, rfl⟩

/-- A character that is code in front of a text of code. -/
theorem InCode.cons {c : Char} (hw : InCode comments w)
    (hc : ∀ u, Mode.step comments .code c (w ++ u) = (.code, .code)) :
    InCode comments (c :: w) := by
  -- With nothing behind it the text is itself such a continuation.
  have hstep : Mode.step comments .code c w = (.code, .code) := by
    have := hc []
    rwa [List.append_nil] at this
  constructor
  · intro u
    obtain ⟨hroles, hafter⟩ := hw.standalone u
    rw [List.cons_append, roles, roles, hc u, hstep, after_cons, hc u, hroles]
    exact ⟨rfl, hafter⟩
  · rw [roles, hstep, hw.roles_eq]
    rfl

/-- Bare characters are code. -/
theorem inCode_of_isBare (hw : ∀ c ∈ w, isBare c = true) : InCode comments w := by
  induction w with
  | nil => exact inCode_nil comments
  | cons c w ih =>
    apply InCode.cons (ih fun d hd => hw d (List.mem_cons_of_mem _ hd))
    intro u
    exact step_code_of_isBare (hw c List.mem_cons_self) comments (w ++ u)

theorem inCode_of_allBlank (hw : Text.AllBlank w) : InCode comments w :=
  inCode_of_isBare fun c hc => isBare_of_isPlain (isPlain_of_isBlank (hw c hc))

/-- A minus sign in front of a bare character is code. -/
theorem inCode_minus {d : Char} (hw : ∀ c ∈ d :: w, isBare c = true) :
    InCode comments ('-' :: d :: w) := by
  apply InCode.cons (inCode_of_isBare hw)
  intro u
  have hd : d ≠ '-' := by
    rintro rfl
    cases hw '-' List.mem_cons_self
  simp [Mode.step, hd, isQuote, bracketLevel]

theorem InCode.braces_eq (hw : InCode comments w) :
    braces comments .code w = w.filter isBrace := by
  -- All roles are code from here on, and only the characters are left to decide.
  rw [braces_eq_filter, hw.roles_eq]
  clear hw
  induction w with
  | nil => rfl
  | cons c w ih =>
    rw [List.length_cons, List.replicate_succ, List.zip_cons_cons]
    by_cases hc : isBrace c = true <;> simpa [hc] using ih

theorem InCode.keptText_eq (hw : InCode true w) : keptText .code w = w := by
  rw [keptText_eq_filter, hw.roles_eq]
  clear hw
  induction w with
  | nil => rfl
  | cons c w ih =>
    rw [List.length_cons, List.replicate_succ, List.zip_cons_cons]
    simpa using ih

/-- A mask shows all of a text of code. -/
theorem InCode.markedFrom_eq (hw : InCode false w) : markedFrom .code w = w.map fun c => (c, c) := by
  unfold markedFrom
  rw [hw.roles_eq]
  clear hw
  induction w with
  | nil => rfl
  | cons c w ih =>
    rw [List.length_cons, List.replicate_succ, List.zipWith_cons_cons, List.zip_cons_cons, ih]
    rfl

end

/-! ## §3 Quoted strings -/

/-- A character as it stands in a quoted string. -/
def escapeChar (c : Char) : Text := if isQuote c || c == '\\' then ['\\', c] else [c]

/-- A text between two quotes. -/
def quoted (quote : Char) (content : Text) : Text :=
  quote :: (content.flatMap escapeChar ++ [quote])

section

variable (comments : Bool) {quote : Char} (hquote : isQuote quote = true) {content : Text}
  (hcontent : '\n' ∉ content) (u : Text)

include hquote hcontent

theorem roles_quoted_content :
    roles comments (.quoted quote) (content.flatMap escapeChar ++ quote :: u) =
        List.replicate (content.flatMap escapeChar).length .content ++
          .delimiter :: roles comments .code u ∧
      (Mode.quoted quote).after comments (content.flatMap escapeChar ++ quote :: u) =
        Mode.code.after comments u := by
  have hne : quote ≠ '\n' ∧ quote ≠ '\\' := by
    rcases eq_of_isQuote hquote with rfl | rfl <;> decide
  -- Every character of the content is one step or, if it is escaped, two.
  induction content with
  | nil => simp [roles, Mode.step, hne.1, hne.2]
  | cons c content ih =>
    rw [List.mem_cons, not_or] at hcontent
    have ih' := ih hcontent.2
    rw [List.flatMap_cons, List.append_assoc]
    by_cases hc : (isQuote c || c == '\\') = true
    · -- The escaped character is content, since the closing quote is still to come.
      have hopen : endsOpen (content.flatMap escapeChar ++ quote :: u) = false := by
        cases content with
        | nil => simpa [endsOpen] using hne.1
        | cons d content =>
          have hd : d ≠ '\n' := fun h => hcontent.2 (h ▸ List.mem_cons_self)
          by_cases hd' : (isQuote d || d == '\\') = true <;>
            simp [escapeChar, hd', endsOpen, hd]
      have hescape : escapeChar c = ['\\', c] := by simp only [escapeChar, hc, if_true]
      have hslash : ∀ t, (Mode.quoted quote).step comments '\\' t = (.content, .escaped quote) :=
        fun t => by simp [Mode.step]
      have hchar : (Mode.escaped quote).step comments c (content.flatMap escapeChar ++ quote :: u) =
          (.content, .quoted quote) := by
        simp [Mode.step, hopen]
      rw [hescape, List.cons_append, List.cons_append, List.nil_append, roles, after_cons, hslash,
        roles, after_cons, hchar, ih'.1, ih'.2]
      exact ⟨rfl, rfl⟩
    · have hc' : isQuote c = false ∧ c ≠ '\\' := by simpa using hc
      have hcq : c ≠ quote := by
        rintro rfl
        rw [hquote] at hc'
        cases hc'.1
      have hescape : escapeChar c = [c] := by simp only [escapeChar, hc, if_false, Bool.false_eq_true]
      have hchar : ∀ t, (Mode.quoted quote).step comments c t = (.content, .quoted quote) :=
        fun t => by simp [Mode.step, Ne.symm hcontent.1, hc'.2, hcq]
      rw [hescape, List.cons_append, List.nil_append, roles, after_cons, hchar, ih'.1, ih'.2]
      exact ⟨rfl, rfl⟩

/-- The roles of a quoted string. -/
theorem roles_quoted :
    roles comments .code (quoted quote content ++ u) =
        .delimiter :: (List.replicate (content.flatMap escapeChar).length .content ++
          .delimiter :: roles comments .code u) ∧
      Mode.code.after comments (quoted quote content ++ u) = Mode.code.after comments u := by
  have hstep : ∀ t, Mode.step comments .code quote t = (.delimiter, .quoted quote) := by
    intro t
    rcases eq_of_isQuote hquote with rfl | rfl <;> simp [Mode.step, isQuote]
  obtain ⟨hroles, hafter⟩ := roles_quoted_content comments hquote hcontent u
  rw [quoted, List.cons_append, List.append_assoc, List.singleton_append, roles, after_cons,
    hstep, hroles, hafter]
  exact ⟨rfl, rfl⟩

end

theorem roles_quoted_self {quote : Char} (hquote : isQuote quote = true) {content : Text}
    (hcontent : '\n' ∉ content) (comments : Bool) :
    roles comments .code (quoted quote content) =
      .delimiter :: (List.replicate (content.flatMap escapeChar).length .content ++ [.delimiter]) := by
  have halone := (roles_quoted comments hquote hcontent []).1
  rwa [List.append_nil] at halone

/-- **A quoted string** is read on its own. -/
theorem standalone_quoted (comments : Bool) {quote : Char} (hquote : isQuote quote = true)
    {content : Text} (hcontent : '\n' ∉ content) : Standalone comments (quoted quote content) := by
  intro u
  obtain ⟨hroles, hafter⟩ := roles_quoted comments hquote hcontent u
  rw [hroles, roles_quoted_self hquote hcontent]
  exact ⟨by simp, hafter⟩

end LuaAccessors.Lexis
