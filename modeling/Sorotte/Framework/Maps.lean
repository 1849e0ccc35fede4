import Sorotte.Protocol.Payloads

/-! # Ordered maps as partial functions

  A refinement mapping reads an ordered map as the function from keys to
  optional values.  Each lemma turns one map operation into the corresponding
  operation on that function.
-/

namespace Sorotte.Framework

section updates

variable {K V W : Type} [DecidableEq K]

/-- Updates seen through a further mapping of the values. -/
theorem map_update (f : K → Option V) (k : K) (v : Option V) (g : V → W) :
    (fun a => (Function.update f k v a).map g) =
      Function.update (fun a => (f a).map g) k (v.map g) := by
  funext a
  by_cases h : a = k
  · subst h; simp
  · simp [h]

end updates

section lookups

variable {K V : Type} [Ord K] [Std.TransOrd K] [Std.LawfulEqOrd K]

/-- Inserting a default that a total reading supplies anyway changes nothing. -/
theorem getD_insertIfNew_default (m : BTreeMap K V) (k a : K) (v : V) :
    (m.insertIfNew k v).getD a v = m.getD a v := by
  rw [Std.ExtTreeMap.getD_insertIfNew]
  split
  · next h =>
    have hka : k = a := by simpa using h.1
    subst hka
    rw [Std.ExtTreeMap.getD_eq_getD_getElem?,
      Std.ExtTreeMap.getElem?_eq_none h.2]
    rfl
  · rfl

/-- Counting the entries of a map counts keys. -/
theorem length_filter_toList (m : BTreeMap K V) (c : K × V → Bool) :
    (m.toList.filter c).length = {k : K | ∃ v, m[k]? = some v ∧ c (k, v) = true}.ncard := by
  classical
  have hnodup : ((m.toList.filter c).map Prod.fst).Nodup := by
    have hkeys : (m.toList.map Prod.fst).Nodup := by
      rw [Std.ExtTreeMap.map_fst_toList_eq_keys]
      exact Std.ExtTreeMap.nodup_keys
    exact hkeys.sublist (List.filter_sublist.map Prod.fst)
  have hset : {k : K | ∃ v, m[k]? = some v ∧ c (k, v) = true} =
      (((m.toList.filter c).map Prod.fst).toFinset : Set K) := by
    ext k
    simp [Std.ExtTreeMap.mem_toList_iff_getElem?_eq_some]
  rw [hset, Set.ncard_coe_finset, List.toFinset_card_of_nodup hnodup, List.length_map]

theorem finite_keys (m : BTreeMap K V) : {k : K | ∃ v, m[k]? = some v}.Finite := by
  apply (List.finite_toSet m.keys).subset
  rintro k ⟨v, hv⟩
  have hmem : k ∈ m := Std.ExtTreeMap.mem_iff_isSome_getElem?.mpr (by rw [hv]; rfl)
  exact Std.ExtTreeMap.mem_keys.mpr hmem

variable [DecidableEq K]

theorem lookup_insert (m : BTreeMap K V) (k : K) (v : V) :
    (fun a => (m.insert k v)[a]?) = Function.update (fun a => m[a]?) k (some v) := by
  funext a
  rw [Std.ExtTreeMap.getElem?_insert, Function.update_apply]
  by_cases h : a = k
  · simp [h]
  · simp [h, Ne.symm h]

theorem lookup_erase (m : BTreeMap K V) (k : K) :
    (fun a => (m.erase k)[a]?) = Function.update (fun a => m[a]?) k none := by
  funext a
  rw [Std.ExtTreeMap.getElem?_erase, Function.update_apply]
  by_cases h : a = k
  · simp [h]
  · simp [h, Ne.symm h]

theorem lookup_modify (m : BTreeMap K V) (k : K) (f : V → V) :
    (fun a => (m.modify k f)[a]?) = Function.update (fun a => m[a]?) k (m[k]?.map f) := by
  funext a
  rw [Std.ExtTreeMap.getElem?_modify, Function.update_apply]
  by_cases h : a = k
  · simp [h]
  · simp [h, Ne.symm h]

/-! ### Reading an edited map -/

theorem getElem?_insert_if (m : BTreeMap K V) (k a : K) (v : V) :
    (m.insert k v)[a]? = if a = k then some v else m[a]? := by
  rw [Std.ExtTreeMap.getElem?_insert]
  by_cases h : a = k
  · simp [h]
  · simp [h, Ne.symm h]

theorem getElem?_erase_if (m : BTreeMap K V) (k a : K) :
    (m.erase k)[a]? = if a = k then none else m[a]? := by
  rw [Std.ExtTreeMap.getElem?_erase]
  by_cases h : a = k
  · simp [h]
  · simp [h, Ne.symm h]

theorem getElem?_modify_if (m : BTreeMap K V) (k a : K) (f : V → V) :
    (m.modify k f)[a]? = if a = k then m[a]?.map f else m[a]? := by
  rw [Std.ExtTreeMap.getElem?_modify]
  by_cases h : a = k
  · simp [h]
  · simp [h, Ne.symm h]

theorem modify_congr {m : BTreeMap K V} {k : K} {f g : V → V}
    (h : ∀ v, m[k]? = some v → f v = g v) : m.modify k f = m.modify k g := by
  refine Std.ExtTreeMap.ext_getElem? fun a => ?_
  rw [getElem?_modify_if, getElem?_modify_if]
  by_cases ha : a = k
  · subst ha
    rw [if_pos rfl, if_pos rfl]
    cases hv : m[a]? with
    | none => rfl
    | some v => exact congrArg some (h v hv)
  · rw [if_neg ha, if_neg ha]

theorem modify_eq_self {m : BTreeMap K V} {k : K} {f : V → V}
    (h : ∀ v, m[k]? = some v → f v = v) : m.modify k f = m := by
  refine Std.ExtTreeMap.ext_getElem? fun a => ?_
  rw [getElem?_modify_if]
  by_cases ha : a = k
  · subst ha
    rw [if_pos rfl]
    cases hv : m[a]? with
    | none => rfl
    | some v => exact congrArg some (h v hv)
  · rw [if_neg ha]

theorem modify_modify (m : BTreeMap K V) (k : K) (f g : V → V) :
    (m.modify k f).modify k g = m.modify k fun v => g (f v) := by
  refine Std.ExtTreeMap.ext_getElem? fun a => ?_
  rw [getElem?_modify_if, getElem?_modify_if, getElem?_modify_if]
  by_cases ha : a = k
  · rw [if_pos ha, if_pos ha, if_pos ha, Option.map_map]
    rfl
  · rw [if_neg ha, if_neg ha, if_neg ha]

omit [DecidableEq K] in
/-- Inserting what is not there yet is inserting it if it is new. -/
theorem insertIfNew_eq_insert {m : BTreeMap K V} {k : K} {v : V} (h : m.contains k = false) :
    m.insertIfNew k v = m.insert k v := by
  have hnew : ¬k ∈ m := by
    intro hk
    rw [Std.ExtTreeMap.contains_iff_mem.mpr hk] at h
    exact absurd h (by decide)
  refine Std.ExtTreeMap.ext_getElem? fun a => ?_
  rw [Std.ExtTreeMap.getElem?_insertIfNew, Std.ExtTreeMap.getElem?_insert]
  by_cases hka : compare k a = .eq
  · rw [if_pos hka, if_pos ⟨hka, hnew⟩]
  · rw [if_neg hka, if_neg fun hc => hka hc.1]

omit [DecidableEq K] in
/-- The values of a map in the order of their keys. -/
theorem mem_map_toList {m : BTreeMap K V} {v : V} :
    v ∈ m.toList.map (·.2) ↔ ∃ k : K, m[k]? = some v := by
  simp [Std.ExtTreeMap.mem_toList_iff_getElem?_eq_some]

theorem lookup_of_mem {entries : List (K × V)} (hdistinct : entries.Pairwise fun a b => a.1 ≠ b.1)
    {k : K} {v : V} (hmem : (k, v) ∈ entries) : entries.lookup k = some v := by
  induction entries with
  | nil => exact absurd hmem List.not_mem_nil
  | cons entry entries ih =>
    obtain ⟨hhead, htail⟩ := List.pairwise_cons.mp hdistinct
    rw [List.lookup_cons]
    rcases List.mem_cons.mp hmem with rfl | hrest
    · simp
    · have hne : (k == entry.1) = false := by
        have h := hhead (k, v) hrest
        exact beq_eq_false_iff_ne.mpr (Ne.symm h)
      rw [hne]
      exact ih htail hrest

/-- The listing of a map has its lookups. -/
theorem lookup_toList (m : BTreeMap K V) (k : K) : m.toList.lookup k = m[k]? := by
  have hdistinct : m.toList.Pairwise fun a b => a.1 ≠ b.1 := by
    refine (Std.ExtTreeMap.distinct_keys_toList).imp fun {a b} h heq => h ?_
    rw [heq]
    exact Std.ReflCmp.compare_self
  cases hget : m[k]? with
  | some v =>
    exact lookup_of_mem hdistinct (Std.ExtTreeMap.mem_toList_iff_getElem?_eq_some.mpr hget)
  | none =>
    rw [List.lookup_eq_none_iff]
    intro entry hmem
    have hheld := Std.ExtTreeMap.mem_toList_iff_getElem?_eq_some.mp
      (show (entry.1, entry.2) ∈ m.toList from hmem)
    refine bne_iff_ne.mpr fun heq => ?_
    rw [← heq, hget] at hheld
    cases hheld

end lookups

/-! ### Last writers

  What a sequence of writes leaves under a key is the last write with that key.
-/

section lastWrites

variable {α K V : Type} [DecidableEq K]

/-- The last element of the list with this key. -/
def lastFor (key : α → K) (writes : List α) (k : K) : Option α :=
  writes.reverse.find? fun a => key a == k

@[simp] theorem lastFor_nil (key : α → K) (k : K) : lastFor key [] k = none := rfl

theorem lastFor_append (key : α → K) (writes : List α) (a : α) (k : K) :
    lastFor key (writes ++ [a]) k = if key a = k then some a else lastFor key writes k := by
  rw [lastFor, List.reverse_append, List.reverse_singleton, List.singleton_append,
    List.find?_cons]
  by_cases h : key a = k
  · simp [h]
  · have hfalse : (key a == k) = false := by simpa using h
    simp [h, hfalse, lastFor]

theorem lastFor_mem {key : α → K} {writes : List α} {k : K} {a : α}
    (h : lastFor key writes k = some a) : a ∈ writes ∧ key a = k := by
  have hmem := List.mem_of_find?_eq_some h
  have hkey := List.find?_some h
  exact ⟨List.mem_reverse.mp hmem, by simpa using hkey⟩

theorem lastFor_exists {key : α → K} {writes : List α} {k : K} {a : α} (h : a ∈ writes)
    (hkey : key a = k) : ∃ b, lastFor key writes k = some b := by
  have hsome : (lastFor key writes k).isSome := by
    rw [lastFor, List.find?_isSome]
    exact ⟨a, List.mem_reverse.mpr h, by simpa using hkey⟩
  exact Option.isSome_iff_exists.mp hsome

/-- With one write for each key, that write is the last one. -/
theorem lastFor_eq_some_iff {key : α → K} {writes : List α}
    (hdistinct : ∀ a ∈ writes, ∀ b ∈ writes, key a = key b → a = b) {k : K} {a : α} :
    lastFor key writes k = some a ↔ a ∈ writes ∧ key a = k := by
  refine ⟨lastFor_mem, fun ⟨hmem, hkey⟩ => ?_⟩
  obtain ⟨b, hb⟩ := lastFor_exists hmem hkey
  obtain ⟨hbmem, hbkey⟩ := lastFor_mem hb
  rw [hb, hdistinct b hbmem a hmem (hbkey.trans hkey.symm)]

variable [Ord K] [Std.TransOrd K] [Std.LawfulEqOrd K]

/-- A map filled by inserts holds the last write under each key. -/
theorem lookup_foldl_insert (key : α → K) (value : α → V) (writes : List α) (k : K) :
    (writes.foldl (fun (m : BTreeMap K V) a => m.insert (key a) (value a)) ∅)[k]? =
      (lastFor key writes k).map value := by
  induction writes using List.reverseRecOn with
  | nil => simp
  | append_singleton writes a ih =>
    rw [List.foldl_append, lastFor_append, List.foldl_cons, List.foldl_nil,
      Std.ExtTreeMap.getElem?_insert, ih]
    by_cases h : key a = k
    · simp [h]
    · simp [h]

/-- Inserting the entries of a map one by one builds the map. -/
theorem foldl_insert_toList (m : BTreeMap K V) :
    m.toList.foldl (fun (built : BTreeMap K V) entry => built.insert entry.1 entry.2) ∅ = m := by
  have hdistinct : ∀ a ∈ m.toList, ∀ b ∈ m.toList, a.1 = b.1 → a = b := by
    intro a ha b hb hkey
    have ha' : m[a.1]? = some a.2 := Std.ExtTreeMap.mem_toList_iff_getElem?_eq_some.mp ha
    have hb' : m[b.1]? = some b.2 := Std.ExtTreeMap.mem_toList_iff_getElem?_eq_some.mp hb
    rw [hkey, hb'] at ha'
    exact Prod.ext hkey (Option.some.inj ha').symm
  refine Std.ExtTreeMap.ext_getElem? fun k => Option.ext fun v => ?_
  rw [lookup_foldl_insert (fun entry : K × V => entry.1) (fun entry => entry.2),
    Option.map_eq_some_iff]
  constructor
  · rintro ⟨entry, hentry, rfl⟩
    obtain ⟨hmem, rfl⟩ := (lastFor_eq_some_iff hdistinct).mp hentry
    exact Std.ExtTreeMap.mem_toList_iff_getElem?_eq_some.mp hmem
  · intro hv
    have hmem : (k, v) ∈ m.toList := Std.ExtTreeMap.mem_toList_iff_getElem?_eq_some.mpr hv
    exact ⟨(k, v), (lastFor_eq_some_iff hdistinct).mpr ⟨hmem, rfl⟩, rfl⟩

end lastWrites

/-! ### Maps of maps -/

section nested

variable {α K L V : Type} [Ord K] [Std.TransOrd K] [Std.LawfulEqOrd K] [DecidableEq K]
  [Ord L] [Std.TransOrd L] [Std.LawfulEqOrd L] [DecidableEq L]

/-- What the inner map under `k` holds for `l`. -/
def nestedLookup (m : BTreeMap K (BTreeMap L V)) (k : K) (l : L) : Option V :=
  m[k]?.bind fun inner => inner[l]?

/-- An insert into the inner map, created when it is missing. -/
def nestedInsert (m : BTreeMap K (BTreeMap L V)) (k : K) (l : L) (v : V) :
    BTreeMap K (BTreeMap L V) :=
  m.insert k ((m.getD k ∅).insert l v)

theorem nestedLookup_insert (m : BTreeMap K (BTreeMap L V)) (k a : K) (l b : L) (v : V) :
    nestedLookup (nestedInsert m k l v) a b =
      if a = k ∧ b = l then some v else nestedLookup m a b := by
  unfold nestedLookup nestedInsert
  rw [getElem?_insert_if]
  by_cases ha : a = k
  · subst ha
    rw [if_pos rfl, Option.bind_some, getElem?_insert_if]
    by_cases hb : b = l
    · rw [if_pos hb, if_pos ⟨rfl, hb⟩]
    · rw [if_neg hb, if_neg fun h => hb h.2, Std.ExtTreeMap.getD_eq_getD_getElem?]
      cases m[a]? with
      | none => simp
      | some inner => rfl
  · rw [if_neg ha, if_neg fun h => ha h.1]

/-- A map of maps filled by inserts holds the last write under each pair of keys. -/
theorem nestedLookup_foldl (outer : α → K) (inner : α → L) (value : α → V) (writes : List α)
    (k : K) (l : L) :
    nestedLookup (writes.foldl (fun m a => nestedInsert m (outer a) (inner a) (value a)) ∅) k l =
      (lastFor (fun a => (outer a, inner a)) writes (k, l)).map value := by
  induction writes using List.reverseRecOn with
  | nil => simp [nestedLookup]
  | append_singleton writes a ih =>
    rw [List.foldl_append, lastFor_append, List.foldl_cons, List.foldl_nil, nestedLookup_insert, ih]
    by_cases h : (outer a, inner a) = (k, l)
    · obtain ⟨rfl, rfl⟩ := Prod.mk.injEq .. ▸ h
      simp
    · have hpair : ¬ (k = outer a ∧ l = inner a) := fun ⟨hk, hl⟩ => h (by rw [hk, hl])
      rw [if_neg hpair, if_neg h]

end nested

end Sorotte.Framework
