import Mathlib.Data.List.Nodup
import LuaAccessors.Text.Dictionary

/-!
# Entries of a dictionary

A dictionary that is made by putting entries one after the other holds, for every key, the last entry with it
at the place of the first. The same rule thins out any list whose elements have keys.

- `lastWith?`, `lastPerKey`: the last element with a key, and a list in which it stands for all of them;
- `mem_lastPerKey_iff`, `map_lastPerKey_key`: which elements are left, and in which order;
- `lastPerKey_map`, `lastPerKey_lastPerKey`: elements that are changed, and a list that has been thinned out;
- `ofList_eq_lastPerKey`: the entries of a dictionary;
- `keys_put`, `nodup_keys_put`: its keys;
- `merge`, `get?_merge`, `merge_put`: two dictionaries in one.
-/

namespace LuaAccessors

variable {α β κ : Type} [DecidableEq κ]

/-! ## §1 The last element of every key

For each key the last element counts, at the place where the key comes first. Dictionaries into which entries
are put one after the other behave in this way, and lists are easier to compute with.
-/

/-- The last element with a key. -/
def lastWith? (key : α → κ) (l : List α) (k : κ) : Option α := (l.filter fun a => key a = k).getLast?

/-- The last element of every key, in the order in which the keys first come. -/
def lastPerKey (key : α → κ) (l : List α) : List α := (l.map key).eraseDups.filterMap (lastWith? key l)

theorem of_lastWith? {key : α → κ} {l : List α} {k : κ} {a : α} (h : lastWith? key l k = some a) :
    a ∈ l ∧ key a = k := by
  simpa using List.mem_of_getLast? h

theorem exists_lastWith? (key : α → κ) {l : List α} {a : α} (h : a ∈ l) :
    ∃ b, lastWith? key l (key a) = some b := by
  have hmem : a ∈ l.filter fun b => key b = key a := by simpa using h
  exact ⟨_, List.getLast?_eq_some_getLast (List.ne_nil_of_mem hmem)⟩

/-- An element is left exactly if it is the last one with its key. -/
theorem mem_lastPerKey_iff {key : α → κ} {l : List α} {a : α} :
    a ∈ lastPerKey key l ↔ lastWith? key l (key a) = some a := by
  constructor
  · intro h
    obtain ⟨k, -, hlast⟩ := List.mem_filterMap.1 h
    obtain rfl := (of_lastWith? hlast).2
    exact hlast
  · intro hlast
    have hkey : key a ∈ l.map key := List.mem_map_of_mem (of_lastWith? hlast).1
    exact List.mem_filterMap.2 ⟨key a, List.mem_eraseDups.2 hkey, hlast⟩

theorem mem_of_mem_lastPerKey {key : α → κ} {l : List α} {a : α} (h : a ∈ lastPerKey key l) : a ∈ l :=
  (of_lastWith? (mem_lastPerKey_iff.1 h)).1

/-- The keys are kept, each once and where it first comes. -/
theorem map_lastPerKey_key (key : α → κ) (l : List α) :
    (lastPerKey key l).map key = (l.map key).eraseDups := by
  have hkey : ∀ k ∈ (l.map key).eraseDups, (lastWith? key l k).map key = some k := by
    intro k hk
    obtain ⟨a, ha, rfl⟩ := List.mem_map.1 (List.mem_eraseDups.1 hk)
    obtain ⟨b, hb⟩ := exists_lastWith? key ha
    rw [hb, Option.map_some, (of_lastWith? hb).2]
  rw [lastPerKey, List.map_filterMap, List.filterMap_congr hkey, List.filterMap_some]

/-- Elements may be changed before or after as long as they keep their keys. -/
theorem lastPerKey_map (key : β → κ) (f : α → β) (l : List α) :
    lastPerKey key (l.map f) = (lastPerKey (key ∘ f) l).map f := by
  rw [lastPerKey, lastPerKey, List.map_map, List.map_filterMap]
  congr 1
  funext k
  rw [lastWith?, List.filter_map, List.getLast?_map]
  rfl

/-- The first key is settled by all elements with it, and the other keys by the other elements. -/
theorem lastPerKey_cons (key : α → κ) (a : α) (rest : List α) :
    lastPerKey key (a :: rest) = (rest.filter fun b => key b = key a).getLastD a ::
      lastPerKey key (rest.filter fun b => key b ≠ key a) := by
  have hkeys : ((rest.map key).filter fun k => !k == key a) =
      (rest.filter fun b => key b ≠ key a).map key := by
    rw [List.filter_map]
    congr 2
    funext b
    by_cases hb : key b = key a <;> simp [hb]
  -- Under the key of the first element the last one with that key is found, which is the first one if it is alone.
  have hfirst : lastWith? key (a :: rest) (key a) =
      some ((rest.filter fun b => key b = key a).getLastD a) := by
    rw [lastWith?, List.filter_cons_of_pos (by simp), List.getLast?_cons, List.getLastD_eq_getLast?]
  -- For all other keys the elements that share it play no part.
  have hothers : ∀ k ∈ ((rest.filter fun b => key b ≠ key a).map key).eraseDups,
      lastWith? key (a :: rest) k = lastWith? key (rest.filter fun b => key b ≠ key a) k := by
    intro k hk
    obtain ⟨b, hb, rfl⟩ := List.mem_map.1 (List.mem_eraseDups.1 hk)
    have hne : key b ≠ key a := by simpa using (List.mem_filter.1 hb).2
    rw [lastWith?, lastWith?, List.filter_cons_of_neg (by simpa using hne.symm), List.filter_filter]
    congr 1
    apply List.filter_congr
    intro c _
    by_cases hc : key c = key b <;> simp [hc, hne]
  rw [lastPerKey, List.map_cons, List.eraseDups_cons, hkeys, List.filterMap_cons_some hfirst,
    List.filterMap_congr hothers, lastPerKey]

theorem eraseDups_eraseDups (l : List κ) : l.eraseDups.eraseDups = l.eraseDups := by
  match l with
  | [] => rfl
  | k :: rest =>
    have hrest := eraseDups_eraseDups (rest.filter fun k' => !k' == k)
    -- No other copy of the first key is left.
    have hne : ((rest.filter fun k' => !k' == k).eraseDups.filter fun k' => !k' == k) =
        (rest.filter fun k' => !k' == k).eraseDups :=
      List.filter_eq_self.2 fun k' hk' => (List.mem_filter.1 (List.mem_eraseDups.1 hk')).2
    rw [List.eraseDups_cons, List.eraseDups_cons, hne, hrest]
termination_by l.length
decreasing_by
  exact Nat.lt_succ_of_le (List.length_filter_le _ _)

/-- **A list that has been thinned out** is left as it is. -/
theorem lastPerKey_lastPerKey (key : α → κ) (l : List α) :
    lastPerKey key (lastPerKey key l) = lastPerKey key l := by
  -- The last element of a key is the only one that is left with it.
  have hself : ∀ a ∈ lastPerKey key l, lastWith? key (lastPerKey key l) (key a) = some a := by
    intro a ha
    obtain ⟨b, hb⟩ := exists_lastWith? key ha
    obtain ⟨hmem, hkey⟩ := of_lastWith? hb
    have hlast := mem_lastPerKey_iff.1 hmem
    rw [hkey, mem_lastPerKey_iff.1 ha] at hlast
    rw [hb, ← hlast]
  have hkeys : ((lastPerKey key l).map key).eraseDups = (lastPerKey key l).map key := by
    rw [map_lastPerKey_key, eraseDups_eraseDups]
  rw [lastPerKey, hkeys, List.filterMap_map]
  exact (List.filterMap_congr hself).trans List.filterMap_some

/-! ## §2 Dictionaries -/

namespace Dictionary

/-- The first entry of a dictionary takes the values that are put under its key, and the other ones go behind
it. -/
theorem foldl_put_cons (entries : List (Text × α)) (k : Text) (v : α) (d : Dictionary α) :
    entries.foldl (fun (d : Dictionary α) e => d.put e.1 e.2) ((k, v) :: d) =
      (entries.filter fun e => e.1 = k).getLastD (k, v) ::
        (entries.filter fun e => e.1 ≠ k).foldl (fun (d : Dictionary α) e => d.put e.1 e.2) d := by
  induction entries generalizing v d with
  | nil => rfl
  | cons e rest ih =>
    obtain ⟨key, value⟩ := e
    -- A value under the first key replaces the one that is there, and all others pass it by.
    by_cases hkey : key = k
    · subst hkey
      rw [List.foldl_cons, put, if_pos rfl, ih, List.filter_cons_of_pos (by simp),
        List.filter_cons_of_neg (by simp), List.getLastD_cons]
    · rw [List.foldl_cons, put, if_neg (Ne.symm hkey), ih, List.filter_cons_of_neg (by simpa using hkey),
        List.filter_cons_of_pos (by simpa using hkey), List.foldl_cons]

/-- **The entries of a dictionary** are the last ones that were put under their keys. -/
theorem ofList_eq_lastPerKey (entries : List (Text × α)) :
    ofList entries = lastPerKey Prod.fst entries := by
  match entries with
  | [] => rfl
  | (k, v) :: rest =>
    have hrest := ofList_eq_lastPerKey (rest.filter fun e => e.1 ≠ k)
    rw [lastPerKey_cons, ← hrest]
    exact foldl_put_cons rest k v []
termination_by entries.length
decreasing_by
  exact Nat.lt_succ_of_le (List.length_filter_le _ _)

/-! ## §3 Keys -/

/-- A put adds its key behind the others unless it is there. -/
theorem keys_put (d : Dictionary α) (key : Text) (value : α) : (d.put key value).map Prod.fst =
    if key ∈ d.map Prod.fst then d.map Prod.fst else d.map Prod.fst ++ [key] := by
  induction d with
  | nil => rfl
  | cons e rest ih =>
    obtain ⟨k, v⟩ := e
    by_cases hk : k = key
    · simp [put, hk]
    · have hk' : ¬key = k := fun h => hk h.symm
      simp only [put, hk, if_false, List.map_cons, ih, List.mem_cons, hk', false_or]
      split <;> simp

theorem nodup_keys_put {d : Dictionary α} (h : (d.map Prod.fst).Nodup) (key : Text) (value : α) :
    ((d.put key value).map Prod.fst).Nodup := by
  rw [keys_put]
  split
  · exact h
  · rename_i hkey
    apply List.nodup_append'.2
    exact ⟨h, List.nodup_singleton _, List.disjoint_singleton.2 hkey⟩

/-- Entries of a put come from the dictionary or are the new one. -/
theorem mem_put {d : Dictionary α} {key : Text} {value : α} {e : Text × α}
    (h : e ∈ d.put key value) : e = (key, value) ∨ e ∈ d := by
  induction d with
  | nil => exact .inl (List.mem_singleton.1 h)
  | cons first rest ih =>
    obtain ⟨k, v⟩ := first
    rw [put] at h
    split at h
    · rename_i hk
      rcases List.mem_cons.1 h with rfl | h
      · exact .inl (by rw [hk])
      · exact .inr (List.mem_cons_of_mem _ h)
    · rcases List.mem_cons.1 h with rfl | h
      · exact .inr List.mem_cons_self
      · exact (ih h).imp_right (List.mem_cons_of_mem _)

/-- A key that is not there has no value. -/
theorem get?_eq_none {d : Dictionary α} {key : Text} (h : key ∉ d.map Prod.fst) : d.get? key = none := by
  rw [get?, List.lookup_eq_none_iff]
  intro e he
  rw [bne_iff_ne]
  rintro rfl
  exact h (List.mem_map_of_mem he)

/-! ## §4 Merging -/

/-- The entries of both dictionaries. The values of the second one win, and its new keys come last. -/
def merge (d e : Dictionary α) : Dictionary α := e.foldl (fun d entry => d.put entry.1 entry.2) d

/-- Looking up in both is looking up in the second one first. -/
theorem get?_merge {e : Dictionary α} (he : (e.map Prod.fst).Nodup) (d : Dictionary α) (key : Text) :
    (d.merge e).get? key = (e.get? key).or (d.get? key) := by
  induction e generalizing d with
  | nil => rfl
  | cons entry rest ih =>
    obtain ⟨k, v⟩ := entry
    obtain ⟨hk, hrest⟩ := List.nodup_cons.1 he
    have hcons : d.merge ((k, v) :: rest) = (d.put k v).merge rest := rfl
    rw [hcons, ih hrest, get?_put]
    -- An entry that is put last wins. Its key does not come again, for no key is there twice.
    by_cases hkey : key = k
    · subst hkey
      have hnone : get? rest key = none := get?_eq_none hk
      rw [hnone, if_pos rfl]
      simp [get?]
    · rw [if_neg hkey]
      simp [get?, List.lookup_cons, beq_eq_false_iff_ne.2 hkey]

theorem put_put (d : Dictionary α) (key : Text) (v w : α) : (d.put key v).put key w = d.put key w := by
  induction d with
  | nil => simp [put]
  | cons entry rest ih =>
    obtain ⟨k, u⟩ := entry
    by_cases hk : k = key <;> simp [put, hk, ih]

/-- A value is replaced where it stands, so other puts may come before or after. -/
theorem put_comm {d : Dictionary α} {key other : Text} (hkey : key ∈ d.map Prod.fst) (hne : key ≠ other)
    (v w : α) : (d.put other w).put key v = (d.put key v).put other w := by
  induction d with
  | nil => cases hkey
  | cons entry rest ih =>
    obtain ⟨k, u⟩ := entry
    by_cases hk : k = key
    · subst hk
      simp [put, hne]
    · have hrest : key ∈ rest.map Prod.fst := (List.mem_cons.1 hkey).resolve_left (Ne.symm hk)
      by_cases hother : k = other <;> simp [put, hk, hother, hne.symm, ih hrest]

/-- The same for the puts of a whole dictionary. -/
theorem merge_put_left {d e : Dictionary α} {key : Text} (hkey : key ∈ d.map Prod.fst)
    (hother : key ∉ e.map Prod.fst) (v : α) : (d.put key v).merge e = (d.merge e).put key v := by
  induction e generalizing d with
  | nil => rfl
  | cons entry rest ih =>
    obtain ⟨k, w⟩ := entry
    obtain ⟨hne, hrest⟩ := not_or.1 (mt List.mem_cons.2 hother)
    have hcons : ∀ d : Dictionary α, d.merge ((k, w) :: rest) = (d.put k w).merge rest := fun _ => rfl
    have hkey' : key ∈ (d.put k w).map Prod.fst := by
      rw [keys_put]
      split
      · exact hkey
      · exact List.mem_append_left _ hkey
    rw [hcons, hcons, ← put_comm hkey hne, ih hkey' hrest]

/-- **One more entry** may be put into the second dictionary or into both of them together. -/
theorem merge_put {e : Dictionary α} (he : (e.map Prod.fst).Nodup) (d : Dictionary α) (key : Text) (v : α) :
    d.merge (e.put key v) = (d.merge e).put key v := by
  induction e generalizing d with
  | nil => rfl
  | cons entry rest ih =>
    obtain ⟨k, w⟩ := entry
    obtain ⟨hk, hrest⟩ := List.nodup_cons.1 he
    have hcons : ∀ u rest, d.merge ((k, u) :: rest) = (d.put k u).merge rest := fun _ _ => rfl
    by_cases hkey : k = key
    · subst hkey
      -- The new value stands where the old one does, and the entries behind it have other keys.
      have hmem : k ∈ (d.put k w).map Prod.fst := by
        rw [keys_put]
        split <;> simp_all
      rw [put, if_pos rfl, hcons, hcons, ← merge_put_left hmem hk, put_put]
    · rw [put, if_neg hkey, hcons, hcons, ih hrest]

end Dictionary

end LuaAccessors
