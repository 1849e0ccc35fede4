import Sorotte.PlaylistWire.Payloads

/-! # Reading back what was written

  Both codecs write one declared member, the user and the extensions.  What the
  entries of such members hold under every name decides both round trips.
-/

namespace Sorotte.PlaylistWire

open Sorotte.Framework

/-! ### Entries -/

/-- Of members with names of their own, the entries are the members. -/
theorem entriesOf_lookup {members : List Member} (hnames : (members.map Prod.fst).Nodup)
    {name : String} {value : Value} :
    (entriesOf members)[name]? = some value ↔ (name, value) ∈ members := by
  have hdistinct : ∀ a ∈ members, ∀ b ∈ members, a.1 = b.1 → a = b := by
    intro a ha b hb hname
    exact List.inj_on_of_nodup_map hnames ha hb hname
  unfold entriesOf
  rw [lookup_foldl_insert (fun member : Member => member.1) (fun member => member.2),
    Option.map_eq_some_iff]
  constructor
  · rintro ⟨member, hmember, rfl⟩
    obtain ⟨hmem, rfl⟩ := (lastFor_eq_some_iff hdistinct).mp hmember
    exact hmem
  · intro hmem
    exact ⟨(name, value), (lastFor_eq_some_iff hdistinct).mpr ⟨hmem, rfl⟩, rfl⟩

/-- Members with names of their own are equal, up to their order, when their entries are. -/
theorem members_perm {members members' : List Member} (hnames : (members.map Prod.fst).Nodup)
    (hnames' : (members'.map Prod.fst).Nodup)
    (h : ∀ name : String, (entriesOf members)[name]? = (entriesOf members')[name]?) :
    members.Perm members' := by
  rw [List.perm_ext_iff_of_nodup (List.Nodup.of_map _ hnames) (List.Nodup.of_map _ hnames')]
  intro member
  rw [← entriesOf_lookup hnames, ← entriesOf_lookup hnames', h]

section written

variable {name : String} {value : Value} {user : Option String} {userIsNull : Bool}
variable {extra : Entries}

theorem toList_names_nodup (extra : Entries) : (extra.toList.map Prod.fst).Nodup := by
  rw [Std.ExtTreeMap.map_fst_toList_eq_keys]
  exact Std.ExtTreeMap.nodup_keys

theorem serializeMembers_names (hname : name ≠ "user") :
    ((serializeMembers name value user userIsNull extra).map Prod.fst).Nodup := by
  have hextra : ((extra.toList.filter fun member =>
      !(member.1 == name || member.1 == "user")).map Prod.fst).Nodup :=
    (toList_names_nodup extra).sublist (List.filter_sublist.map Prod.fst)
  have hfresh : ∀ declared, declared = name ∨ declared = "user" →
      declared ∉ (extra.toList.filter fun member =>
        !(member.1 == name || member.1 == "user")).map Prod.fst := by
    intro declared hdeclared hmem
    obtain ⟨member, hmember, rfl⟩ := List.mem_map.mp hmem
    have hfilter := (List.mem_filter.mp hmember).2
    rcases hdeclared with heq | heq
    · simp [heq] at hfilter
    · simp [heq] at hfilter
  unfold serializeMembers
  cases hvalue : userValue user userIsNull with
  | none =>
    rw [Option.toList_none, List.map_nil, List.cons_append, List.nil_append, List.map_cons,
      List.nodup_cons]
    exact ⟨hfresh name (.inl rfl), hextra⟩
  | some user =>
    rw [Option.toList_some, List.map_singleton, List.cons_append, List.singleton_append,
      List.map_cons, List.nodup_cons, List.map_cons, List.nodup_cons]
    refine ⟨?_, hfresh "user" (.inr rfl), hextra⟩
    intro hmem
    rcases List.mem_cons.mp hmem with heq | hmem
    · exact hname heq
    · exact hfresh name (.inl rfl) hmem

/-- What is written, by name. -/
theorem serializeMembers_lookup (hname : name ≠ "user") (other : String) :
    (entriesOf (serializeMembers name value user userIsNull extra))[other]? =
      if other = name then some value
      else if other = "user" then userValue user userIsNull
      else extra[other]? := by
  apply Option.ext
  intro held
  rw [entriesOf_lookup (serializeMembers_names hname)]
  unfold serializeMembers
  simp only [List.cons_append, List.mem_cons, List.mem_append, List.mem_map, Option.mem_toList,
    List.mem_filter, Std.ExtTreeMap.mem_toList_iff_getElem?_eq_some, Prod.mk.injEq]
  by_cases hdeclared : other = name
  · subst hdeclared
    simp [hname, eq_comm]
  · by_cases huser : other = "user"
    · subst huser
      simp [hdeclared, eq_comm]
    · simp [hdeclared, huser, Ne.symm huser]

/-- The rest, without the declared names. -/
theorem serializeMembers_rest (hname : name ≠ "user") (hdeclared : name ∉ extra)
    (huser : "user" ∉ extra) :
    ((entriesOf (serializeMembers name value user userIsNull extra)).erase name).erase "user" =
      extra := by
  apply Std.ExtTreeMap.ext_getElem?
  intro other
  rw [getElem?_erase_if, getElem?_erase_if, serializeMembers_lookup hname]
  by_cases hother : other = "user"
  · rw [if_pos hother, hother, Std.ExtTreeMap.getElem?_eq_none huser]
  · rw [if_neg hother]
    by_cases hother' : other = name
    · rw [if_pos hother', hother', Std.ExtTreeMap.getElem?_eq_none hdeclared]
    · rw [if_neg hother', if_neg hother', if_neg hother]

end written

/-! ### The user -/

theorem readUser_userValue (payload : String) {user : Option String} {userIsNull : Bool}
    (h : ¬ (user.isSome = true ∧ userIsNull = true)) :
    readUser payload (userValue user userIsNull) = .ok (user, userIsNull) := by
  cases user with
  | some user =>
    have hnull : userIsNull = false := by simpa using h
    rw [hnull]
    rfl
  | none =>
    cases userIsNull with
    | false => rfl
    | true => rfl

theorem userValue_of_read {payload : String} {value : Option Value} {user : Option String}
    {userIsNull : Bool} (h : readUser payload value = .ok (user, userIsNull)) :
    userValue user userIsNull = value ∧ ¬ (user.isSome = true ∧ userIsNull = true) := by
  unfold readUser at h
  split at h
  · cases h
    exact ⟨rfl, by simp⟩
  · cases h
    exact ⟨rfl, by simp⟩
  · cases h
    exact ⟨rfl, by simp⟩
  · cases h

/-! ### Files -/

theorem stringsOf_array (files : List String) :
    stringsOf (.array (files.map .string)) = some files := by
  unfold stringsOf
  dsimp only
  induction files with
  | nil => rfl
  | cons file files ih =>
    rw [List.map_cons, List.mapM_cons, ih]
    rfl

theorem array_of_stringsOf {value : Value} {files : List String}
    (h : stringsOf value = some files) : value = .array (files.map .string) := by
  unfold stringsOf at h
  split at h
  · next items =>
    congr 1
    induction items generalizing files with
    | nil =>
      cases h
      rfl
    | cons item items ih =>
      rw [List.mapM_cons] at h
      cases item with
      | string file =>
        cases hrest : items.mapM Value.asStr with
        | none => simp [Value.asStr, hrest] at h
        | some rest =>
          have hfiles : files = file :: rest := by simpa [Value.asStr, hrest, eq_comm] using h
          rw [hfiles, ih hrest, List.map_cons]
      | _ => simp [Value.asStr] at h
  · cases h

/-! ### Indexes -/

theorem toInt64_negative (bits : UInt64) : bits.toInt64 < 0 ↔ 2 ^ 63 ≤ bits.toNat := by
  have hlt : bits.toNat < 2 ^ 64 := bits.toNat_lt
  have hint : bits.toInt64.toInt =
      if 2 * bits.toNat < 2 ^ 64 then (bits.toNat : Int) else bits.toNat - 2 ^ 64 :=
    BitVec.toInt_eq_toNat_cond bits.toBitVec
  rw [Int64.lt_iff_toInt_lt, hint]
  have hzero : (0 : Int64).toInt = 0 := rfl
  rw [hzero]
  by_cases hsmall : 2 * bits.toNat < 2 ^ 64
  · rw [if_pos hsmall]
    omega
  · rw [if_neg hsmall]
    omega

/-- An index is read as it was written. -/
theorem toI64_ofI64 (index : Int64) : (JsonNumber.ofI64 index).toI64 = some index := by
  unfold JsonNumber.ofI64
  by_cases hnegative : index < 0
  · rw [dif_pos hnegative]
    rfl
  · rw [dif_neg hnegative]
    have hsmall : index.toUInt64.toNat < 2 ^ 63 := by
      by_contra hlarge
      apply hnegative
      rw [← Int64.toInt64_toUInt64 index]
      exact (toInt64_negative _).mpr (by omega)
    unfold JsonNumber.toI64
    dsimp only
    rw [if_pos hsmall, Int64.toInt64_toUInt64]

/-- And written as it was read. -/
theorem ofI64_of_toI64 {number : JsonNumber} {index : Int64} (h : number.toI64 = some index) :
    JsonNumber.ofI64 index = number := by
  cases number with
  | posInt bits =>
    unfold JsonNumber.toI64 at h
    dsimp only at h
    by_cases hsmall : bits.toNat < 2 ^ 63
    · rw [if_pos hsmall] at h
      cases h
      have hpositive : ¬ bits.toInt64 < 0 := by
        rw [toInt64_negative]
        omega
      unfold JsonNumber.ofI64
      rw [dif_neg hpositive, UInt64.toUInt64_toInt64]
    · rw [if_neg hsmall] at h
      cases h
  | negInt value negative =>
    cases h
    unfold JsonNumber.ofI64
    rw [dif_pos negative]
  | float value finite => cases h

theorem readIndex_indexMember (index : Option Int64) :
    PlaylistIndexPayload.readIndex (some (PlaylistIndexPayload.indexMember index)) =
      .ok index := by
  cases index with
  | none => rfl
  | some index =>
    have hinteger : integerOf (.number (.ofI64 index)) = some index := toI64_ofI64 index
    unfold PlaylistIndexPayload.readIndex PlaylistIndexPayload.indexMember
    simp only [hinteger]

/-- What an index was read of: itself, or nothing. -/
theorem indexMember_of_read {value : Option Value} {index : Option Int64}
    (h : PlaylistIndexPayload.readIndex value = .ok index) :
    PlaylistIndexPayload.indexMember index = value.getD .null := by
  unfold PlaylistIndexPayload.readIndex at h
  split at h
  · cases h
    rfl
  · cases h
    rfl
  · next value hnull =>
    cases hinteger : integerOf value with
    | none =>
      rw [hinteger] at h
      cases h
    | some read =>
      rw [hinteger] at h
      cases h
      unfold integerOf at hinteger
      split at hinteger
      · exact congrArg Value.number (ofI64_of_toI64 hinteger)
      · cases hinteger

end Sorotte.PlaylistWire
