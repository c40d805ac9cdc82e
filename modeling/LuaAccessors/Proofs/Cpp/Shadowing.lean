import LuaAccessors.Proofs.Cpp.Classes
import LuaAccessors.Proofs.Text.Dictionary

/-!
# Shadowed members

Of several members with one name only the last one counts, at the place of the first, and members that are
local or have no identifier for a name do not count at all. The normal form of a schema keeps what counts, at
every depth. Nothing in a header tells a schema from its normal form.

- `unshadowed`: the members of a list that count;
- `normalFields`, `ParseResult.normalForm`: fields and schemas of which only what counts is left;
- `unshadowed_map_unshadowed`, `normalForm_normalForm`: what has been left counts;
- `exposed_map`, `claim_map`: exposed members, and claims of members that are changed but keep their names;
- `tableAccessor_normalFields`: the class for a table;
- `header_and_skipped_normalForm`: the header of a script, and what is reported of it.
-/

namespace LuaAccessors

open Cpp

/-! ## §1 What counts -/

/-- What counts among elements that stand for members: of those that can be declared the last one of every
name, in the order in which the names first come. -/
def unshadowed {α : Type} (member : α → Member) (l : List α) : List α :=
  lastPerKey (fun a => (member a).name) (l.filter fun a => isExposed (member a))

section

variable {α : Type} {member : α → Member}

theorem mem_of_mem_unshadowed {l : List α} {a : α} (h : a ∈ unshadowed member l) :
    a ∈ l ∧ isExposed (member a) = true :=
  List.mem_filter.1 (mem_of_mem_lastPerKey h)

/-- **All that has been left counts**, also if it is changed in what does not matter here. -/
theorem unshadowed_map_unshadowed {f : α → α} (hname : ∀ a, (member (f a)).name = (member a).name)
    (hlocal : ∀ a, (member (f a)).isLocal = (member a).isLocal) (l : List α) :
    unshadowed member ((unshadowed member l).map f) = (unshadowed member l).map f := by
  have hexposed : ∀ a ∈ (unshadowed member l).map f, isExposed (member a) = true := by
    intro a ha
    obtain ⟨b, hb, rfl⟩ := List.mem_map.1 ha
    rw [isExposed, hname, hlocal]
    exact (mem_of_mem_unshadowed hb).2
  have hkey : (fun a => (member a).name) ∘ f = fun a => (member a).name := funext hname
  rw [unshadowed, List.filter_eq_self.2 hexposed, lastPerKey_map, hkey, unshadowed, lastPerKey_lastPerKey]

end

/-- A field of which only the fields that count are left, at every depth. -/
def Field.normalForm (f : Field) : Field :=
  { f with fields := (unshadowed .field f.fields).attach.map fun ⟨g, _⟩ => g.normalForm }
termination_by sizeOf f
decreasing_by
  have := List.sizeOf_lt_of_mem (mem_of_mem_unshadowed ‹_›).1
  cases f
  simp only [Field.mk.sizeOf_spec] at this ⊢
  omega

/-- The fields that count, each with the fields that count at every depth. -/
def normalFields (fields : List Field) : List Field := (unshadowed .field fields).map Field.normalForm

/-- A variable of which only the fields that count are left. -/
def Global.normalForm (g : Global) : Global := { g with fields := normalFields g.fields }

/-- The schema of which only the members that count are left, at every depth. -/
def ParseResult.normalForm (r : ParseResult) : ParseResult :=
  { r with
    functions := unshadowed .function r.functions
    globals := (unshadowed .global r.globals).map Global.normalForm }

theorem Field.normalForm_eq (f : Field) : f.normalForm = { f with fields := normalFields f.fields } := by
  have hfields : ((unshadowed .field f.fields).attach.map fun ⟨g, _⟩ => g.normalForm) =
      normalFields f.fields := List.attach_map_val
  rw [normalForm, hfields]

theorem Field.name_normalForm (f : Field) : f.normalForm.name = f.name := by rw [normalForm_eq]

/-- Fields in normal form are left as they are. -/
theorem normalFields_normalFields (fields : List Field) :
    normalFields (normalFields fields) = normalFields fields := by
  -- By induction on the depth. Fields of fields are in normal form, so a field in normal form stays as it is.
  have hself : ∀ f ∈ unshadowed .field fields, f.normalForm.normalForm = f.normalForm := by
    intro f hf
    have hlt := List.sizeOf_lt_of_mem (mem_of_mem_unshadowed hf).1
    have hfields := normalFields_normalFields f.fields
    rw [Field.normalForm_eq f, Field.normalForm_eq, hfields]
  -- Names are what shadows, and the normal form of a field keeps its name.
  have hcount : unshadowed .field ((unshadowed .field fields).map Field.normalForm) =
      (unshadowed .field fields).map Field.normalForm :=
    @unshadowed_map_unshadowed _ .field Field.normalForm Field.name_normalForm (fun _ => rfl) fields
  rw [normalFields, normalFields, hcount, List.map_map]
  exact List.map_congr_left hself
termination_by sizeOf fields
decreasing_by
  cases f
  simp only [Field.mk.sizeOf_spec] at hlt ⊢
  omega

/-- **The normal form of a normal form** is the normal form. -/
theorem ParseResult.normalForm_normalForm (r : ParseResult) : r.normalForm.normalForm = r.normalForm := by
  have hfunctions : unshadowed .function ((unshadowed .function r.functions).map id) =
      (unshadowed .function r.functions).map id :=
    unshadowed_map_unshadowed (f := id) (fun _ => rfl) (fun _ => rfl) _
  have hglobals : unshadowed .global ((unshadowed .global r.globals).map Global.normalForm) =
      (unshadowed .global r.globals).map Global.normalForm :=
    unshadowed_map_unshadowed (f := Global.normalForm) (fun _ => rfl) (fun _ => rfl) _
  have hself : Global.normalForm ∘ Global.normalForm = Global.normalForm := by
    funext g
    rw [Function.comp_apply, Global.normalForm, Global.normalForm, normalFields_normalFields]
  rw [List.map_id] at hfunctions
  rw [normalForm, normalForm, hfunctions, hglobals, List.map_map, hself]

namespace Cpp

/-! ## §2 Exposed members and their claims

Which of several members counts is decided before names are claimed, and claims depend on names only.
-/

/-- Exposed are the members that count. -/
theorem exposed_eq_lastPerKey (members : List Member) :
    exposed members = lastPerKey Member.name (members.filter isExposed) := by
  rw [exposed, Dictionary.ofList_eq_lastPerKey, Dictionary.values, lastPerKey_map, List.map_map]
  exact List.map_id _

theorem exposed_map {α : Type} (member : α → Member) (l : List α) :
    exposed (l.map member) = (unshadowed member l).map member := by
  rw [exposed_eq_lastPerKey, List.filter_map, lastPerKey_map]
  rfl

/-- Members that are changed, but keep their names, claim them as before. -/
theorem claim_map {f : Member → Member} (hnames : ∀ m, (f m).cppNames = m.cppNames) (taken : List Text)
    (members : List Member) :
    claim taken (members.map f) =
      { claimed := (claim taken members).claimed.map f
        leftOut := (claim taken members).leftOut.map f
        taken := (claim taken members).taken } := by
  induction members generalizing taken with
  | nil => rfl
  | cons m rest ih =>
    have hclaim : canClaim taken (f m) = canClaim taken m := by rw [canClaim, canClaim, hnames]
    rw [List.map_cons, claim, claim, hclaim, hnames]
    split <;> simp [ih]

/-! ## §3 Classes -/

/-- A member of whose fields only those that count are left. -/
def keepUnshadowed : Member → Member
  | .function f => .function f
  | .global g => .global g.normalForm
  | .field f => .field f.normalForm

theorem name_keepUnshadowed (m : Member) : (keepUnshadowed m).name = m.name := by
  cases m with
  | function f => rfl
  | global g => rfl
  | field f => exact f.name_normalForm

theorem isLocal_keepUnshadowed (m : Member) : (keepUnshadowed m).isLocal = m.isLocal := by
  cases m <;> rfl

theorem cppNames_keepUnshadowed (m : Member) : (keepUnshadowed m).cppNames = m.cppNames := by
  cases m with
  | function f => rfl
  | global g => rfl
  | field f =>
    rw [keepUnshadowed, Field.normalForm_eq]
    rfl

/-- How a member is accessed depends on its fields through the class for them. -/
theorem ofMember_keepUnshadowed {m : Member}
    (h : tableAccessor m.name (normalFields m.fields) = tableAccessor m.name m.fields) :
    Accessor.ofMember (keepUnshadowed m) = Accessor.ofMember m := by
  cases m with
  | function f => rfl
  | global g =>
    exact congrArg (fun table => if (Member.global g).isTable then table
      else .property g.name (.ofValue g.valueType g.explicitType)) h
  | field f =>
    rw [keepUnshadowed, Field.normalForm_eq]
    exact congrArg (fun table => if (Member.field f).isTable then table
      else .property f.name (.ofValue f.valueType f.explicitType)) h

/-- Of the members that are left, all are exposed. -/
theorem exposed_keepUnshadowed {α : Type} {member : α → Member} {f : α → α}
    (hf : ∀ a, member (f a) = keepUnshadowed (member a)) (l : List α) :
    exposed (((unshadowed member l).map f).map member) = (exposed (l.map member)).map keepUnshadowed := by
  have hname : ∀ a, (member (f a)).name = (member a).name := fun a => by rw [hf, name_keepUnshadowed]
  have hlocal : ∀ a, (member (f a)).isLocal = (member a).isLocal := fun a => by
    rw [hf, isLocal_keepUnshadowed]
  have hmember : member ∘ f = keepUnshadowed ∘ member := funext hf
  rw [exposed_map, unshadowed_map_unshadowed hname hlocal, exposed_map, List.map_map, List.map_map, hmember]

/-- **The class for a table** does not depend on what does not count among its fields. -/
theorem tableAccessor_normalFields (luaName : Text) (fields : List Field) :
    tableAccessor luaName (normalFields fields) = tableAccessor luaName fields := by
  have hfields : exposed ((normalFields fields).map .field) =
      (exposed (fields.map .field)).map keepUnshadowed :=
    exposed_keepUnshadowed (f := Field.normalForm) (fun _ => rfl) fields
  -- Claims only look at names, and what is left of a member keeps its name.
  have hclaims : tableClaims luaName (normalFields fields) =
      { claimed := (tableClaims luaName fields).claimed.map keepUnshadowed
        leftOut := (tableClaims luaName fields).leftOut.map keepUnshadowed
        taken := (tableClaims luaName fields).taken } := by
    rw [tableClaims, hfields]
    exact claim_map cppNames_keepUnshadowed _ _
  -- Below a field the same holds by induction.
  have hmembers : ∀ m ∈ (tableClaims luaName fields).claimed,
      Accessor.ofMember (keepUnshadowed m) = Accessor.ofMember m := by
    intro m hm
    obtain ⟨f, hf, rfl⟩ := mem_of_mem_tableClaims hm
    have hlt := List.sizeOf_lt_of_mem hf
    exact ofMember_keepUnshadowed (tableAccessor_normalFields f.name f.fields)
  have hnames : Member.name ∘ keepUnshadowed = Member.name := funext name_keepUnshadowed
  have haccessor : ∀ fields, tableAccessor luaName fields = .table luaName
      ((tableClaims luaName fields).claimed.map .ofMember)
      ((tableClaims luaName fields).leftOut.map Member.name) := HeaderClass.tableAccessor_eq [] luaName
  rw [haccessor, haccessor, hclaims, List.map_map, List.map_map, hnames]
  congr 1
  exact List.map_congr_left hmembers
termination_by sizeOf fields
decreasing_by
  cases f
  simp only [Field.mk.sizeOf_spec] at hlt ⊢
  omega

/-- **The class for a script** does not depend on what does not count in its schema. -/
theorem ofResult_normalForm (r : ParseResult) :
    ScriptClass.ofResult r.normalForm = ScriptClass.ofResult r := by
  -- Functions have no fields, so among them only whole members may fall away.
  have hfunctions : exposed (r.normalForm.functions.map .function) =
      (exposed (r.functions.map .function)).map keepUnshadowed := by
    rw [← exposed_keepUnshadowed (f := id) fun _ => rfl, List.map_id]
    rfl
  have hglobals : exposed (r.normalForm.globals.map .global) =
      (exposed (r.globals.map .global)).map keepUnshadowed :=
    exposed_keepUnshadowed (f := Global.normalForm) (fun _ => rfl) r.globals
  have hclaims : ScriptClass.claims r.normalForm =
      { claimed := (ScriptClass.claims r).claimed.map keepUnshadowed
        leftOut := (ScriptClass.claims r).leftOut.map keepUnshadowed
        taken := (ScriptClass.claims r).taken } := by
    rw [ScriptClass.claims, hfunctions, hglobals, ← List.map_append]
    exact claim_map cppNames_keepUnshadowed _ _
  have hmembers : Accessor.ofMember ∘ keepUnshadowed = Accessor.ofMember :=
    funext fun m => ofMember_keepUnshadowed (tableAccessor_normalFields m.name m.fields)
  have hnames : Member.name ∘ keepUnshadowed = Member.name := funext name_keepUnshadowed
  rw [ScriptClass.ofResult, hclaims, List.map_map, List.map_map, hmembers, hnames]
  rfl

/-- **What does not count changes nothing**: the header for a schema and what is reported as skipped are
those for its normal form. -/
theorem header_and_skipped_normalForm (ns : Text) (r : ParseResult) :
    header ns (.ofResult r.normalForm) = header ns (.ofResult r) ∧
      (ScriptClass.ofResult r.normalForm).skipped = (ScriptClass.ofResult r).skipped := by
  rw [ofResult_normalForm]
  exact ⟨rfl, rfl⟩

end Cpp

end LuaAccessors
