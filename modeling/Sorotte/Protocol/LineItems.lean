import Sorotte.Json.Strings
import Sorotte.Protocol.KeyScanner

/-! # Decoded lines

  What the key scanners report on a text, and what the decoder makes of it: one
  item for each distinct key, in the order of first occurrence, with the last
  value given for the key.
-/

namespace Sorotte.Protocol

open Sorotte.Json

variable {E S M : Type} {serde : SerdeJson E S M}

/-- The JSON reader reads strings as the grammar does: it decodes those whose
    surrogates are paired and refuses the others. -/
def SerdeJson.ReadsStrings (serde : SerdeJson E S M) : Prop :=
  ∀ pieces, (serde.stringFromStr (renderString pieces)).toOption = decodePieces pieces

/-! ### Names -/

theorem slice_name {line front back : Bytes} {member : Member}
    (hline : line = front ++ (member.render ++ back)) :
    strSlice line (nameStart front.length member) (nameStop front.length member) =
      some (renderPieces member.name) := by
  set behind := renderBlanks member.gap ++ [colon] ++ renderBlanks member.lead
    ++ member.value.render ++ renderBlanks member.after ++ back
  have hsplit : line = (front ++ renderBlanks member.before ++ [quote])
      ++ (renderPieces member.name ++ (quote :: behind)) := by
    rw [hline]
    simp [behind, Member.render, Member.head, renderString]
  have hstart : (front ++ renderBlanks member.before ++ [quote]).length =
      nameStart front.length member := by
    simp [nameStart, Nat.add_assoc]
  have hslice := strSlice_split hsplit (renderPieces_starts member.name behind)
    (.inl (by decide))
  rw [hstart] at hslice
  exact hslice

theorem decodeKey_name (h : serde.ReadsStrings) (pieces : Pieces) :
    decodeKey serde (renderPieces pieces) = decodePieces pieces := h pieces

theorem actAll_append {α : Type} (act : Nat → Member → α → α) (earlier later : List Member)
    (offset : Nat) (found : α) :
    actAll act offset (earlier ++ later) found =
      actAll act (offset + (renderFront earlier).length) later
        (actAll act offset earlier found) := by
  induction earlier generalizing offset found with
  | nil => rfl
  | cons member earlier ih =>
    rw [List.cons_append, actAll, actAll, ih]
    congr 1
    simp [renderFront, Nat.add_assoc, Nat.add_comm, Nat.add_left_comm]

/-- **The key order of a text**: its names that decode, in textual order. -/
theorem topLevelKeyOrder_text (h : serde.ReadsStrings) (text : ObjectText) :
    topLevelKeyOrder serde text.render =
      some (text.entries.filterMap fun member => decodePieces member.name) := by
  unfold topLevelKeyOrder
  rw [@scanKeys_text _ _ (fun _ member keys => keys ++ (decodePieces member.name).toList)]
  · congr 1
    have hfold : ∀ (members : List Member) offset (keys : List String),
        actAll (fun _ member keys => keys ++ (decodePieces member.name).toList) offset members keys
          = keys ++ members.filterMap fun member => decodePieces member.name := by
      intro members
      induction members with
      | nil =>
        intro offset keys
        rw [actAll, List.filterMap_nil, List.append_nil]
      | cons member members ih =>
        intro offset keys
        rw [actAll, ih, List.append_assoc, List.filterMap_cons]
        cases decodePieces member.name <;> rfl
    exact hfold _ _ _
  · intro front member back found hline
    simp only [slice_name hline, Option.bind_eq_bind, Option.bind_some, decodeKey_name h]
    cases decodePieces member.name with
    | none => simp
    | some key => rfl

/-! ### Spans -/

/-- The span of a value at `start`, when it is an object. -/
def objectSpan (start : Nat) : Tree → Option (Nat × Nat)
  | .object lead members => some (start, start + (Tree.object lead members).render.length)
  | _ => none

theorem valueSpan {line front back : Bytes} {member : Member}
    (hline : line = front ++ (member.render ++ back)) :
    (matchingObjectEnd line (nextNonWhitespaceIndex line (colonAt front.length member + 1))).map
        (fun stop => (nextNonWhitespaceIndex line (colonAt front.length member + 1), stop)) =
      objectSpan (front.length + member.head.length) member.value := by
  set named := front ++ renderBlanks member.before ++ renderString member.name
    ++ renderBlanks member.gap ++ [colon]
  have hnamed : named.length = colonAt front.length member + 1 := by
    simp [named, colonAt, nameStop, nameStart, renderString]
    omega
  have hhead : (named ++ renderBlanks member.lead).length = front.length + member.head.length := by
    simp [named, Member.head]
  have hvalue : line = (named ++ renderBlanks member.lead)
      ++ (member.value.render ++ (renderBlanks member.after ++ back)) := by
    rw [hline]
    simp [named, Member.render, Member.head]
  obtain ⟨byte, rest, hrender, hstarts⟩ := Tree.starts member.value
  have hstart : nextNonWhitespaceIndex line (colonAt front.length member + 1) =
      front.length + member.head.length := by
    have hsplit : line = named ++ (renderBlanks member.lead ++ byte ::
        (rest ++ (renderBlanks member.after ++ back))) := by
      rw [hvalue, hrender, List.append_assoc, List.cons_append]
    rw [← hnamed, nextNonWhitespaceIndex_split hsplit hstarts.visible, ← List.length_append, hhead]
  rw [hstart, ← hhead]
  cases hmember : member.value with
  | object lead members =>
    rw [hmember] at hvalue
    rw [matchingObjectEnd_object hvalue]
    rfl
  | literal word => rw [matchingObjectEnd_other hvalue (by simp [hmember])]; rfl
  | number number => rw [matchingObjectEnd_other hvalue (by simp [hmember])]; rfl
  | string pieces => rw [matchingObjectEnd_other hvalue (by simp [hmember])]; rfl
  | array lead elements => rw [matchingObjectEnd_other hvalue (by simp [hmember])]; rfl

/-- The span of the last member of a name, as the scanner computes it. -/
theorem topLevelObjectValueSpan_scan (h : serde.ReadsStrings) (text : ObjectText)
    (wanted : String) :
    topLevelObjectValueSpan serde text.render wanted =
      some (actAll (fun offset member span =>
        if decodePieces member.name = some wanted then
          objectSpan (offset + member.head.length) member.value
        else span)
        (renderBlanks text.before ++ [leftBrace] ++ renderBlanks text.lead).length text.entries
        none) := by
  unfold topLevelObjectValueSpan
  rw [scanKeys_text]
  intro front member back found hline
  simp only [slice_name hline, Option.bind_eq_bind, Option.bind_some, decodeKey_name h]
  split
  · rw [valueSpan hline]
    rfl
  · rfl

theorem actAll_unnamed {wanted : String} {members : List Member}
    (hmembers : ∀ member ∈ members, decodePieces member.name ≠ some wanted) (offset : Nat)
    (span : Option (Nat × Nat)) :
    actAll (fun offset member span => if decodePieces member.name = some wanted then
      objectSpan (offset + member.head.length) member.value else span) offset members span =
        span := by
  induction members generalizing offset with
  | nil => rfl
  | cons member members ih =>
    rw [actAll, if_neg (hmembers member List.mem_cons_self)]
    exact ih (fun m hm => hmembers m (List.mem_cons_of_mem _ hm)) _

theorem topLevelObjectValueSpan_missing (h : serde.ReadsStrings) {text : ObjectText}
    {wanted : String}
    (hmissing : ∀ member ∈ text.entries, decodePieces member.name ≠ some wanted) :
    topLevelObjectValueSpan serde text.render wanted = some none := by
  rw [topLevelObjectValueSpan_scan h, actAll_unnamed hmissing]

/-- **The span of the last member of a name**. -/
theorem topLevelObjectValueSpan_last (h : serde.ReadsStrings) {text : ObjectText}
    {wanted : String} {earlier later : List Member} {member : Member}
    (hentries : text.entries = earlier ++ member :: later)
    (hname : decodePieces member.name = some wanted)
    (hlater : ∀ other ∈ later, decodePieces other.name ≠ some wanted) :
    topLevelObjectValueSpan serde text.render wanted =
      some (objectSpan (text.front earlier member).length member.value) := by
  rw [topLevelObjectValueSpan_scan h, hentries, actAll_append, actAll, if_pos hname,
    actAll_unnamed hlater]
  congr 2
  simp only [ObjectText.front, List.length_append]

theorem startsCharacter_blanks (blanks : Blanks) {rest : Bytes} (h : StartsCharacter rest) :
    StartsCharacter (renderBlanks blanks ++ rest) := by
  cases blanks with
  | nil => exact h
  | cons blank blanks => exact .inl (by cases blank <;> decide)

theorem members_split {members : Members} {earlier later : List Member} {member : Member}
    (h : members.toList = earlier ++ member :: later) :
    ∃ back, members.render = renderFront earlier ++ (member.render ++ back)
      ∧ ∀ rest, StartsCharacter rest → StartsCharacter (back ++ rest) := by
  match members with
  | .nil => simp [Members.toList] at h
  | .cons before name gap lead value after rest =>
    rw [Members.toList] at h
    rw [Members.render_cons]
    cases earlier with
    | nil =>
      obtain ⟨rfl, -⟩ := List.cons.inj h
      refine ⟨_, rfl, fun following hfollowing => ?_⟩
      cases rest with
      | nil => exact hfollowing
      | cons => exact .inl (by decide)
    | cons first earlier =>
      obtain ⟨rfl, hrest⟩ := List.cons.inj h
      obtain ⟨back, hback, hstarts⟩ := members_split hrest
      refine ⟨back, ?_, hstarts⟩
      have hseparator : rest.separator = [comma] := by
        cases rest with
        | nil => simp [Members.toList] at hrest
        | cons => rfl
      rw [hseparator, hback]
      simp [renderFront]

/-- A text around the value of one of its members. -/
theorem text_split {text : ObjectText} {earlier later : List Member} {member : Member}
    (h : text.entries = earlier ++ member :: later) :
    ∃ back, text.render = text.front earlier member ++ (member.value.render ++ back)
      ∧ StartsCharacter back := by
  obtain ⟨back, hback, hstarts⟩ := members_split h
  refine ⟨renderBlanks member.after ++ (back ++ ([rightBrace] ++ renderBlanks text.after)), ?_,
    startsCharacter_blanks _ (hstarts _ (.inl (by decide)))⟩
  unfold ObjectText.render ObjectText.front
  rw [Tree.render, hback]
  simp [Member.render]

/-! ### Objects as maps -/

theorem lookup_cons {V : Type} (name : String) (value : V) (members : List (String × V))
    (key : String) :
    ((name, value) :: members).lookup key =
      if key = name then some value else members.lookup key := by
  rw [List.lookup_cons]
  by_cases hkey : key = name
  · rw [if_pos hkey, beq_iff_eq.mpr hkey]
  · rw [if_neg hkey, beq_eq_false_iff_ne.mpr hkey]

theorem lookup_insert {V : Type} (name : String) (value : V) (members : List (String × V))
    (key : String) :
    (ObjectMap.insert name value members).lookup key =
      if key = name then some value else members.lookup key := by
  induction members with
  | nil => exact lookup_cons name value [] key
  | cons entry members ih =>
    obtain ⟨other, held⟩ := entry
    rw [ObjectMap.insert]
    split
    · exact lookup_cons name value _ key
    · next hcompare =>
      have hother : name = other := Std.LawfulEqCmp.eq_of_compare hcompare
      subst hother
      rw [lookup_cons, lookup_cons]
      split <;> rfl
    · next hcompare =>
      have hother : name ≠ other := by
        rintro rfl
        simp at hcompare
      rw [lookup_cons, lookup_cons, ih]
      by_cases hkey : key = other
      · subst hkey
        rw [if_pos rfl, if_neg (Ne.symm hother), if_pos rfl]
      · rw [if_neg hkey, if_neg hkey]

/-- **The last of several equally named members wins**. -/
theorem lookup_ofEntries {V : Type} (entries : List (String × V)) (key : String) :
    (ObjectMap.ofEntries entries).lookup key = entries.reverse.lookup key := by
  unfold ObjectMap.ofEntries
  induction entries using List.reverseRecOn with
  | nil => rfl
  | append_singleton entries entry ih =>
    obtain ⟨name, value⟩ := entry
    rw [List.foldl_append, List.foldl_cons, List.foldl_nil, lookup_insert, ih,
      List.reverse_append, List.reverse_singleton, List.singleton_append, lookup_cons]

theorem isSome_lookup {V : Type} {entries : List (String × V)} {key : String} :
    (entries.lookup key).isSome = true ↔ key ∈ entries.map Prod.fst := by
  induction entries with
  | nil => simp
  | cons entry entries ih =>
    obtain ⟨name, value⟩ := entry
    rw [lookup_cons]
    by_cases hkey : key = name
    · simp [hkey]
    · rw [if_neg hkey, ih]
      simp [hkey]

theorem isSome_lookup_ofEntries {V : Type} {entries : List (String × V)} {key : String} :
    ((ObjectMap.ofEntries entries).lookup key).isSome = true ↔ key ∈ entries.map Prod.fst := by
  rw [lookup_ofEntries, isSome_lookup, List.map_reverse, List.mem_reverse]

/-! ### First occurrences -/

theorem keepUnseen_eq (seen : BTreeSet String) (keys : List String) :
    keepUnseen seen keys = (keys.filter fun key => !seen.contains key).eraseDups := by
  induction keys generalizing seen with
  | nil => rfl
  | cons key keys ih =>
    rw [keepUnseen, List.filter_cons]
    by_cases hseen : seen.contains key = true
    · rw [if_pos hseen, ih, hseen]
      rfl
    · rw [if_neg hseen, ih]
      simp only [hseen, Bool.not_false, if_true]
      rw [List.eraseDups_cons, List.filter_filter]
      congr 2
      refine List.filter_congr fun other _ => ?_
      rw [Std.ExtTreeSet.contains_insert]
      by_cases hother : key = other
      · simp [hother]
      · have hne : (other == key) = false := beq_eq_false_iff_ne.mpr (Ne.symm hother)
        have hcompare : (compare key other == .eq) = false := by
          simpa using hother
        rw [hne, hcompare]
        simp

theorem keepUnseen_empty (keys : List String) : keepUnseen ∅ keys = keys.eraseDups := by
  rw [keepUnseen_eq]
  congr 1
  rw [List.filter_eq_self]
  intro key _
  simp

/-- The keys of an object are its names, each at its first occurrence; the
    second loop of the source adds none. -/
theorem commandKeys_ofEntries (entries : List (String × Value)) :
    commandKeys (ObjectMap.ofEntries entries) (entries.map Prod.fst) =
      (entries.map Prod.fst).eraseDups := by
  have hscanned : (entries.map Prod.fst).filter (fun key =>
      ((ObjectMap.ofEntries entries).lookup key).isSome) = entries.map Prod.fst := by
    rw [List.filter_eq_self]
    exact fun key hkey => isSome_lookup_ofEntries.mpr hkey
  have hrest : keepUnseen (Std.ExtTreeSet.ofList (entries.map Prod.fst).eraseDups compare)
      ((ObjectMap.ofEntries entries).map Prod.fst) = [] := by
    have hseen : ((ObjectMap.ofEntries entries).map Prod.fst).filter (fun key =>
        !(Std.ExtTreeSet.ofList (entries.map Prod.fst).eraseDups compare).contains key) = [] := by
      rw [List.filter_eq_nil_iff]
      intro key hkey
      have hnamed : key ∈ entries.map Prod.fst :=
        isSome_lookup_ofEntries.mp (isSome_lookup.mpr hkey)
      rw [Std.ExtTreeSet.contains_ofList]
      simpa using hnamed
    rw [keepUnseen_eq, hseen]
    rfl
  unfold commandKeys
  dsimp only
  rw [hscanned, keepUnseen_empty, hrest, List.append_nil]

/-! ### Set commands -/

/-- The names of an object's members; other values have none. -/
def memberNames : Tree → List String
  | .object _ members => members.toList.filterMap fun member => decodePieces member.name
  | _ => []

/-- The order of the direct members of the text's Set value: the last one of
    several counts. -/
structure SetOrder (text : ObjectText) (order : List String) : Prop where
  missing : (∀ member ∈ text.entries, decodePieces member.name ≠ some "Set") → order = []
  last : ∀ earlier (member : Member) later, text.entries = earlier ++ member :: later →
    decodePieces member.name = some "Set" →
    (∀ other ∈ later, decodePieces other.name ≠ some "Set") →
    order = (memberNames member.value).eraseDups

theorem setCommandOrder_missing (h : serde.ReadsStrings) {text : ObjectText}
    (hmissing : ∀ member ∈ text.entries, decodePieces member.name ≠ some "Set") :
    setCommandOrder serde text.render = some [] := by
  unfold setCommandOrder
  rw [topLevelObjectValueSpan_missing h hmissing]
  rfl

theorem setCommandOrder_last (h : serde.ReadsStrings) {text : ObjectText}
    {earlier later : List Member} {member : Member}
    (hentries : text.entries = earlier ++ member :: later)
    (hname : decodePieces member.name = some "Set")
    (hlater : ∀ other ∈ later, decodePieces other.name ≠ some "Set") :
    setCommandOrder serde text.render = some (memberNames member.value).eraseDups := by
  unfold setCommandOrder
  rw [topLevelObjectValueSpan_last h hentries hname hlater]
  obtain ⟨back, hsplit, hback⟩ := text_split hentries
  cases hvalue : member.value with
  | object lead members =>
    rw [hvalue] at hsplit
    have hslice := strSlice_split hsplit (.inl (by decide)) hback
    have hkeys := topLevelKeyOrder_text h { before := [], lead, members, after := [] }
    rw [show ({ before := [], lead, members, after := [] } : ObjectText).render =
      (Tree.object lead members).render from List.append_nil _] at hkeys
    simp only [objectSpan, Option.bind_eq_bind, Option.bind_some, hslice, hkeys, keepUnseen_empty]
    rfl
  | literal word => rfl
  | number number => rfl
  | string pieces => rfl
  | array lead elements => rfl

/-- A list has no element of a kind, or a last one. -/
theorem last_of_kind {α : Type} (P : α → Prop) (l : List α) :
    (∀ a ∈ l, ¬ P a) ∨ ∃ earlier a later, l = earlier ++ a :: later ∧ P a ∧ ∀ b ∈ later, ¬ P b := by
  induction l with
  | nil => exact .inl (by simp)
  | cons a l ih =>
    rcases ih with hnone | ⟨earlier, b, later, rfl, hb, hlater⟩
    · by_cases ha : P a
      · exact .inr ⟨[], a, l, rfl, ha, hnone⟩
      · exact .inl (List.forall_mem_cons.mpr ⟨ha, hnone⟩)
    · exact .inr ⟨a :: earlier, b, later, rfl, hb, hlater⟩

theorem setCommandOrder_text (h : serde.ReadsStrings) (text : ObjectText) :
    ∃ order, setCommandOrder serde text.render = some order ∧ SetOrder text order := by
  obtain ⟨order, horder⟩ : ∃ order, setCommandOrder serde text.render = some order := by
    rcases last_of_kind (fun member => decodePieces member.name = some "Set") text.entries with
      hmissing | ⟨earlier, member, later, hentries, hname, hlater⟩
    · exact ⟨_, setCommandOrder_missing h hmissing⟩
    · exact ⟨_, setCommandOrder_last h hentries hname hlater⟩
  refine ⟨order, horder, fun hmissing => ?_, fun earlier member later hentries hname hlater => ?_⟩
  · rw [setCommandOrder_missing h hmissing] at horder
    exact (Option.some.inj horder).symm
  · rw [setCommandOrder_last h hentries hname hlater] at horder
    exact (Option.some.inj horder).symm

/-! ### Items -/

/-- What the decoder makes of a value that stands for a line: a Set message
    carries the order of the line's Set members. -/
def MessageOf (serde : SerdeJson E S M) (text : ObjectText) (value : Value)
    (message : Except E (ProtocolMessage S M)) : Prop :=
  match serde.fromValue value with
  | .ok (.set payload _) => ∃ order, message = .ok (.set payload order) ∧ SetOrder text order
  | decoded => message = decoded

theorem decodeProtocolMessage_text (h : serde.ReadsStrings) (text : ObjectText) (value : Value) :
    ∃ message, decodeProtocolMessageWithCommandOrder serde value text.render = some message
      ∧ MessageOf serde text value message := by
  unfold decodeProtocolMessageWithCommandOrder MessageOf
  cases serde.fromValue value with
  | error error => exact ⟨_, rfl, rfl⟩
  | ok decoded =>
    cases decoded with
    | set payload order =>
      obtain ⟨order, horder, hset⟩ := setCommandOrder_text h text
      exact ⟨.ok (.set payload order), by simp [horder], order, rfl, hset⟩
    | other message => exact ⟨_, rfl, rfl⟩

/-- The item of a key: the last value given for it, and what that decodes to. -/
structure ItemOf (serde : SerdeJson E S M) (text : ObjectText) (entries : List (String × Value))
    (key : String) (item : DecodedMessageLineItem E S M) : Prop where
  command : item.command = some key
  payload : entries.reverse.lookup key = some item.payload
  message : MessageOf serde text (.object [(key, item.payload)]) item.message

theorem decodeCommands_text (h : serde.ReadsStrings) (text : ObjectText)
    (entries : List (String × Value)) {keys : List String}
    (hkeys : ∀ key ∈ keys, key ∈ entries.map Prod.fst) :
    ∃ items, decodeCommands serde (ObjectMap.ofEntries entries) text.render keys = some items
      ∧ List.Forall₂ (ItemOf serde text entries) keys items := by
  induction keys with
  | nil => exact ⟨[], rfl, .nil⟩
  | cons key keys ih =>
    obtain ⟨items, hitems, hall⟩ := ih fun k hk => hkeys k (List.mem_cons_of_mem _ hk)
    have hkey := isSome_lookup_ofEntries.mpr (hkeys key List.mem_cons_self)
    obtain ⟨payload, hpayload⟩ := Option.isSome_iff_exists.mp hkey
    obtain ⟨message, hmessage, hdecoded⟩ :=
      decodeProtocolMessage_text h text (.object [(key, payload)])
    refine ⟨{ command := some key, payload, message } :: items, ?_, .cons ⟨rfl, ?_, hdecoded⟩ hall⟩
    · rw [decodeCommands, hpayload]
      simp [hmessage, hitems]
    · rw [← lookup_ofEntries, hpayload]

/-- Entries that all have one name make an object with one member. -/
theorem ofEntries_single {V : Type} {entries : List (String × V)} {key : String}
    (hall : ∀ entry ∈ entries, entry.1 = key) (hne : entries ≠ []) :
    ∃ value, ObjectMap.ofEntries entries = [(key, value)] := by
  induction entries using List.reverseRecOn with
  | nil => exact absurd rfl hne
  | append_singleton entries entry ih =>
    obtain ⟨name, value⟩ := entry
    obtain rfl : name = key := hall (name, value) (by simp)
    unfold ObjectMap.ofEntries at ih ⊢
    rw [List.foldl_append]
    by_cases hempty : entries = []
    · subst hempty
      exact ⟨value, rfl⟩
    · obtain ⟨held, hheld⟩ := ih (fun entry hentry => hall entry (by simp [hentry])) hempty
      rw [hheld]
      refine ⟨value, ?_⟩
      simp [ObjectMap.insert]

theorem toEntries_names {members : Members} {entries : List (String × Value)}
    (h : members.toEntries = some entries) :
    members.toList.map (fun member => decodePieces member.name) =
      (entries.map Prod.fst).map some := by
  match members with
  | .nil =>
    cases h
    rfl
  | .cons before name gap lead value after rest =>
    rw [Members.toEntries] at h
    obtain ⟨name', hname, h⟩ := Option.bind_eq_some_iff.mp h
    obtain ⟨item, hitem, h⟩ := Option.bind_eq_some_iff.mp h
    obtain ⟨entries', hentries, h⟩ := Option.bind_eq_some_iff.mp h
    cases h
    show decodePieces name :: rest.toList.map _ = some name' :: (entries'.map Prod.fst).map some
    rw [hname, toEntries_names hentries]

theorem topLevelKeyOrder_names (h : serde.ReadsStrings) {text : ObjectText} {names : List String}
    (hnames : text.entries.map (fun member => decodePieces member.name) = names.map some) :
    topLevelKeyOrder serde text.render = some names := by
  rw [topLevelKeyOrder_text h]
  have hfilter : text.entries.filterMap (fun member => decodePieces member.name) =
      (text.entries.map fun member => decodePieces member.name).filterMap id := by
    rw [List.filterMap_map]
    rfl
  rw [hfilter, hnames, List.filterMap_map]
  congr 1
  exact List.filterMap_some

/-- **Items of a line**: one for each distinct name, in the order of first
    occurrence; a line that names nothing has one item without a command. -/
theorem decodeMessageLineItems_text (h : serde.ReadsStrings) {text : ObjectText}
    {entries : List (String × Value)} (hentries : text.members.toEntries = some entries)
    (hread : serde.fromStr text.render = .ok (.object (ObjectMap.ofEntries entries))) :
    ∃ items, decodeMessageLineItems serde text.render = some (.ok items)
      ∧ (entries = [] → ∃ message, items = [{ command := none, payload := .object [], message }]
        ∧ MessageOf serde text (.object []) message)
      ∧ (entries ≠ [] →
        List.Forall₂ (ItemOf serde text entries) (entries.map Prod.fst).eraseDups items) := by
  have horder := topLevelKeyOrder_names h (toEntries_names hentries)
  have hmembers : ∀ key ∈ (entries.map Prod.fst).eraseDups, key ∈ entries.map Prod.fst :=
    fun key hkey => List.mem_eraseDups.mp hkey
  unfold decodeMessageLineItems
  simp only [hread, horder, Option.bind_eq_bind, Option.bind_some, commandKeys_ofEntries]
  split
  · next hshort =>
    obtain ⟨message, hmessage, hdecoded⟩ :=
      decodeProtocolMessage_text h text (.object (ObjectMap.ofEntries entries))
    simp only [hmessage, Option.bind_some]
    refine ⟨_, rfl, fun hempty => ?_, fun hne => ?_⟩
    · subst hempty
      exact ⟨message, rfl, hdecoded⟩
    · -- one distinct name: the object has one member
      obtain ⟨key, hkeys⟩ : ∃ key, (entries.map Prod.fst).eraseDups = [key] := by
        cases hkeys : (entries.map Prod.fst).eraseDups with
        | nil =>
          obtain ⟨entry, hentry⟩ := List.exists_mem_of_ne_nil _ hne
          have hmem := List.mem_eraseDups.mpr (List.mem_map_of_mem (f := Prod.fst) hentry)
          rw [hkeys] at hmem
          cases hmem
        | cons key rest =>
          rw [hkeys, List.length_cons] at hshort
          have hrest : rest = [] := List.eq_nil_of_length_eq_zero (by omega)
          exact ⟨key, by rw [hrest]⟩
      obtain ⟨value, hvalue⟩ := @ofEntries_single _ _ key (fun entry hentry => by
        have hmem := List.mem_eraseDups.mpr (List.mem_map_of_mem (f := Prod.fst) hentry)
        rw [hkeys] at hmem
        exact List.mem_singleton.mp hmem) hne
      rw [hvalue] at hdecoded
      have hlookup : [(key, value)].lookup key = some value := by simp [List.lookup]
      rw [hkeys, hvalue]
      refine .cons ⟨rfl, ?_, ?_⟩ .nil
      · rw [← lookup_ofEntries, hvalue]
        simp [List.lookup]
      · simpa [List.lookup] using hdecoded
  · next hlong =>
    obtain ⟨items, hitems, hall⟩ := decodeCommands_text h text entries hmembers
    rw [hitems]
    refine ⟨items, rfl, fun hempty => ?_, fun _ => hall⟩
    subst hempty
    exact absurd (Nat.zero_le 1) hlong

/-! ### The scanners agree with the grammar -/

/-- **The hand-written key scanner agrees with the JSON grammar**, on every text
    whose value is an object. -/
theorem key_scanner_agrees (h : serde.ReadsStrings) (text : ObjectText) :
    (∀ names, text.entries.map (fun member => decodePieces member.name) = names.map some →
      topLevelKeyOrder serde text.render = some names)
    ∧ (∀ wanted, (∀ member ∈ text.entries, decodePieces member.name ≠ some wanted) →
      topLevelObjectValueSpan serde text.render wanted = some none)
    ∧ (∀ wanted earlier (member : Member) later, text.entries = earlier ++ member :: later →
      decodePieces member.name = some wanted →
      (∀ other ∈ later, decodePieces other.name ≠ some wanted) →
      topLevelObjectValueSpan serde text.render wanted =
          some (objectSpan (text.front earlier member).length member.value)
        ∧ ∃ back, text.render = text.front earlier member ++ (member.value.render ++ back))
    ∧ (∀ entries, text.members.toEntries = some entries →
      serde.fromStr text.render = .ok (.object (ObjectMap.ofEntries entries)) →
      ∃ items, decodeMessageLineItems serde text.render = some (.ok items)
        ∧ (entries = [] → ∃ message, items = [{ command := none, payload := .object [], message }]
          ∧ MessageOf serde text (.object []) message)
        ∧ (entries ≠ [] →
          List.Forall₂ (ItemOf serde text entries) (entries.map Prod.fst).eraseDups items)) := by
  refine ⟨fun names hnames => topLevelKeyOrder_names h hnames,
    fun wanted hmissing => topLevelObjectValueSpan_missing h hmissing,
    fun wanted earlier member later hentries hname hlater =>
      ⟨topLevelObjectValueSpan_last h hentries hname hlater, ?_⟩,
    fun entries hentries hread => decodeMessageLineItems_text h hentries hread⟩
  obtain ⟨back, hback, -⟩ := text_split hentries
  exact ⟨back, hback⟩

/-- A name without escapes. -/
def plainName (name : String) : Pieces :=
  name.toList.filterMap fun c => if h : Unescaped c then some (.plain c h) else none

/-- A reader that knows the strings of the grammar and one line. -/
def lineReader (line : Bytes) (value : Value) : SerdeJson Unit Unit Unit where
  fromStr bytes := if bytes = line then .ok value else .error ()
  stringFromStr bytes := match readString bytes with
    | some string => .ok string
    | none => .error ()
  fromValue value := match value with
    | .object [("Set", .object _)] => .ok (.set () [])
    | _ => .ok (.other ())

theorem lineReader_readsStrings (line : Bytes) (value : Value) :
    (lineReader line value).ReadsStrings := by
  intro pieces
  unfold lineReader
  dsimp only
  rw [readString_render]
  cases decodePieces pieces <;> rfl

theorem lineReader_fromStr (line : Bytes) (value : Value) :
    (lineReader line value).fromStr line = .ok value := by
  simp [lineReader]

/-- `{"Set":{"room":null,"file":null},"List":null}` -/
def setLine : ObjectText where
  before := []
  lead := []
  members :=
    .cons [] (plainName "Set") [] []
      (.object [] (.cons [] (plainName "room") [] [] (.literal .null) []
        (.cons [] (plainName "file") [] [] (.literal .null) [] .nil))) []
      (.cons [] (plainName "List") [] [] (.literal .null) [] .nil)
  after := []

def setLineEntries : List (String × Value) :=
  [("Set", .object [("file", .null), ("room", .null)]), ("List", .null)]

theorem key_scanner_agrees_setLine :
    ∃ items, decodeMessageLineItems
        (lineReader setLine.render (.object (ObjectMap.ofEntries setLineEntries))) setLine.render
        = some (.ok items)
      ∧ List.Forall₂ (ItemOf (lineReader setLine.render
          (.object (ObjectMap.ofEntries setLineEntries))) setLine setLineEntries)
        ["Set", "List"] items := by
  obtain ⟨items, hitems, -, hall⟩ := (key_scanner_agrees
    (lineReader_readsStrings setLine.render (.object (ObjectMap.ofEntries setLineEntries)))
    setLine).2.2.2 setLineEntries rfl (lineReader_fromStr _ _)
  exact ⟨items, hitems, hall (List.cons_ne_nil _ _)⟩

/-- `{}` names nothing and decodes to one item. -/
theorem empty_object_has_an_item :
    let text : ObjectText := { before := [], lead := [], members := .nil, after := [] }
    text.members.toEntries = some []
      ∧ ∃ item, decodeMessageLineItems (lineReader text.render (.object [])) text.render =
        some (.ok [item]) := by
  exact ⟨rfl, _, rfl⟩

end Sorotte.Protocol
