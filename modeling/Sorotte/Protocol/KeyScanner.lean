import Sorotte.Protocol.Codec

/-! # The key scanners on JSON texts

  Both scanners walk over the members of the outermost object and treat what is
  nested in a value as opaque.  `scanKeys_text` is that walk, for any action on
  the keys; the order of keys and the span of a member are two such actions.
-/

namespace Sorotte.Protocol

open Sorotte.Json

/-! ### Positions -/

/-- The text is empty or starts with the first byte of a character. -/
def StartsCharacter : Bytes → Prop
  | [] => True
  | byte :: _ => byte < 0x80 ∨ 0xC0 ≤ byte

theorem isCharBoundary_split {line front rest : Bytes} (hline : line = front ++ rest)
    (hrest : StartsCharacter rest) : isCharBoundary line front.length = true := by
  subst hline
  unfold isCharBoundary
  cases rest with
  | nil => simp
  | cons byte rest =>
    rw [List.getElem?_append_right (le_refl _), Nat.sub_self, List.getElem?_cons_zero]
    rw [Bool.or_eq_true]
    right
    rcases hrest with h | h
    · simp [h]
    · simp [h]

theorem strSlice_split {line front middle back : Bytes} (hline : line = front ++ (middle ++ back))
    (hmiddle : StartsCharacter (middle ++ back)) (hback : StartsCharacter back) :
    strSlice line front.length (front.length + middle.length) = some middle := by
  have hstart := isCharBoundary_split hline hmiddle
  have hstop : isCharBoundary line (front.length + middle.length) = true := by
    rw [← List.length_append]
    exact isCharBoundary_split (by rw [hline, List.append_assoc]) hback
  unfold strSlice
  rw [hstart, hstop]
  subst hline
  simp [List.take_append]

theorem getElem?_split {line front back : Bytes} {byte : UInt8}
    (hline : line = front ++ byte :: back) : (line)[front.length]? = some byte := by
  subst hline
  simp

theorem isAsciiWhitespace_blank (blank : Blank) : isAsciiWhitespace blank.byte = true := by
  cases blank <;> decide

/-- White space is skipped up to what follows it. -/
theorem nextNonWhitespaceIndex_split {line front back : Bytes} {blanks : Blanks} {byte : UInt8}
    (hline : line = front ++ (renderBlanks blanks ++ byte :: back))
    (hbyte : isAsciiWhitespace byte = false) :
    nextNonWhitespaceIndex line front.length = front.length + (renderBlanks blanks).length := by
  have hfind : (renderBlanks blanks ++ byte :: back).findIdx?
      (fun byte => !isAsciiWhitespace byte) = some (renderBlanks blanks).length := by
    clear hline
    induction blanks with
    | nil => simp [renderBlanks, List.findIdx?_cons, hbyte]
    | cons blank blanks ih =>
      show ((blank.byte :: renderBlanks blanks) ++ _).findIdx? _ = some (_ + 1)
      rw [List.cons_append, List.findIdx?_cons, isAsciiWhitespace_blank]
      simp only [Bool.not_true, Bool.false_eq_true, if_false]
      rw [ih]
      rfl
  unfold nextNonWhitespaceIndex
  rw [hline, List.drop_left, hfind]

/-! ### First bytes -/

theorem utf8EncodeChar_starts (c : Char) (rest : Bytes) :
    StartsCharacter (String.utf8EncodeChar c ++ rest) := by
  unfold String.utf8EncodeChar
  show StartsCharacter ((if c.toNat ≤ 0x7f then [UInt8.ofNat c.toNat] else _) ++ rest)
  have hlead : ∀ n : Nat, n < 64 → (0xC0 : UInt8) ≤ UInt8.ofNat (n + 0xC0) := by decide
  have hascii : ∀ n : Nat, n < 128 → UInt8.ofNat n < 0x80 := by decide
  split
  · exact .inl (hascii _ (by omega))
  · split
    · exact .inr (hlead _ (by omega))
    · split
      · have := hlead (c.toNat / 4096 % 0x10 + 0x20) (by omega)
        exact .inr (by rwa [Nat.add_assoc] at this)
      · have := hlead (c.toNat / 262144 % 0x08 + 0x30) (by omega)
        exact .inr (by rwa [Nat.add_assoc] at this)

theorem renderPieces_starts (pieces : Pieces) (back : Bytes) :
    StartsCharacter (renderPieces pieces ++ quote :: back) := by
  cases pieces with
  | nil => exact .inl (by decide)
  | cons piece pieces =>
    show StartsCharacter ((piece.render ++ renderPieces pieces) ++ quote :: back)
    cases piece with
    | plain c h =>
      rw [List.append_assoc]
      exact utf8EncodeChar_starts c _
    | escape letter => exact .inl (by decide)
    | unicode a b c d => exact .inl (by decide)

/-- What a value starts with. -/
structure StartsValue (tree : Tree) (byte : UInt8) : Prop where
  visible : isAsciiWhitespace byte = false
  ascii : byte < 0x80
  brace : byte = leftBrace → ∃ lead members, tree = .object lead members

theorem Number.starts (number : Number) : ∃ byte rest, number.render = byte :: rest
    ∧ isAsciiWhitespace byte = false ∧ byte < 0x80 ∧ byte ≠ leftBrace := by
  obtain ⟨minus, whole, fraction, exponent⟩ := number
  have hfirst : ∀ first : Fin 9, isAsciiWhitespace (UInt8.ofNat (0x31 + first.val)) = false
      ∧ UInt8.ofNat (0x31 + first.val) < 0x80 ∧ UInt8.ofNat (0x31 + first.val) ≠ leftBrace := by
    decide
  cases minus with
  | true => exact ⟨0x2D, _, rfl, by decide⟩
  | false =>
    cases whole with
    | zero => exact ⟨0x30, _, rfl, by decide⟩
    | positive first rest => exact ⟨_, _, rfl, hfirst first⟩

theorem Tree.starts (tree : Tree) :
    ∃ byte rest, tree.render = byte :: rest ∧ StartsValue tree byte := by
  cases tree with
  | literal word =>
    cases word
    · exact ⟨0x6E, _, rfl, by decide, by decide, fun h => by cases h⟩
    · exact ⟨0x74, _, rfl, by decide, by decide, fun h => by cases h⟩
    · exact ⟨0x66, _, rfl, by decide, by decide, fun h => by cases h⟩
  | number number =>
    obtain ⟨byte, rest, hrender, hvisible, hascii, hbrace⟩ := Number.starts number
    exact ⟨byte, rest, hrender, hvisible, hascii, fun h => absurd h hbrace⟩
  | string pieces => exact ⟨quote, _, rfl, by decide, by decide, fun h => by cases h⟩
  | array lead elements => exact ⟨leftBracket, _, rfl, by decide, by decide, fun h => by cases h⟩
  | object lead members =>
    exact ⟨leftBrace, _, rfl, by decide, by decide, fun _ => ⟨lead, members, rfl⟩⟩

/-! ### The end of an object -/

theorem objectEnd_skips : Skips ObjectEnd.onString ObjectEnd.onByte (1 ≤ ·) (1 ≤ ·)
    (fun byte depth => if byte = leftBrace then depth + 1 else depth) where
  inner _ h := h
  string _ _ _ _ := rfl
  scalar depth index byte _ hscalar := by
    have hopen : byte ≠ leftBrace := fun h => hscalar (by simp [Structural, h])
    have hclose : byte ≠ rightBrace := fun h => hscalar (by simp [Structural, h])
    simp [ObjectEnd.onByte, hopen, hclose]
  separator depth index byte _ hbyte := by
    rcases hbyte with rfl | rfl <;> simp +decide [ObjectEnd.onByte]
  opens depth index byte _ hbyte := by
    rcases hbyte with rfl | rfl <;> simp +decide [ObjectEnd.onByte]
  enters depth byte hdepth _ := by
    show 1 ≤ if byte = leftBrace then depth + 1 else depth
    split <;> omega
  closesArray depth index _ := by simp +decide [ObjectEnd.onByte]
  closesObject depth index hdepth := by
    have hdepth : depth ≠ 0 := by
      change 1 ≤ depth at hdepth
      omega
    simp +decide [ObjectEnd.onByte, hdepth]

/-- **The end of an object**, wherever it stands in a line. -/
theorem matchingObjectEnd_object {line front back : Bytes} {lead : Blanks} {members : Members}
    (hline : line = front ++ ((Tree.object lead members).render ++ back)) :
    matchingObjectEnd line front.length =
      some (front.length + (Tree.object lead members).render.length) := by
  have hbrace : (line)[front.length]? = some leftBrace := getElem?_split hline
  unfold matchingObjectEnd
  rw [if_pos hbrace, hline, List.drop_left]
  have hscan : scan ObjectEnd.onString ObjectEnd.onByte front.length
      ((Tree.object lead members).render ++ back) .outside 0 =
        .stop (front.length + (Tree.object lead members).render.length) := by
    have hopen : scan ObjectEnd.onString ObjectEnd.onByte front.length [leftBrace] .outside 0 =
        .next (.outside, 1) := by
      rw [scan_byte (by decide)]
      rfl
    have hone : (1 : Nat) ≤ 1 := le_refl 1
    rw [Tree.render]
    simp only [List.append_assoc]
    rw [scan_append_of_next hopen,
      scan_append_of_next (objectEnd_skips.scan_scalars (blanks_scalar lead) hone _),
      scan_append_of_next (scan_members objectEnd_skips members hone _)]
    -- the closing brace is met at depth one
    rw [scan_append, scan_byte (by decide)]
    have hclose : ∀ index, ObjectEnd.onByte index rightBrace 1 = .stop (index + 1) := by
      intro index
      simp +decide [ObjectEnd.onByte]
    rw [hclose]
    simp only [Json.Flow.map_stop, Json.Flow.stop_bind, List.length_append, List.length_singleton]
    congr 1
    omega
  rw [hscan]

theorem matchingObjectEnd_other {line front back : Bytes} {tree : Tree}
    (hline : line = front ++ (tree.render ++ back))
    (htree : ∀ lead members, tree ≠ .object lead members) :
    matchingObjectEnd line front.length = none := by
  obtain ⟨byte, rest, hrender, hstarts⟩ := Tree.starts tree
  rw [hrender, List.cons_append] at hline
  unfold matchingObjectEnd
  rw [getElem?_split hline]
  refine if_neg fun hbrace => ?_
  obtain ⟨lead, members, hobject⟩ := hstarts.brace (Option.some.inj hbrace)
  exact htree lead members hobject

/-! ### The walk over the keys -/

section walk

variable {α : Type} {line : Bytes} {onKey : Nat → Nat → Nat → α → Option α}

theorem KeyScan.onByte_scalar {byte : UInt8} (h : ¬ Structural byte) (index : Nat)
    (scan : KeyScan α) : KeyScan.onByte index byte scan = .next scan := by
  have hcomma : byte ≠ comma := fun hb => h (by simp [Structural, hb])
  have hopen : byte ≠ leftBrace ∧ byte ≠ leftBracket :=
    ⟨fun hb => h (by simp [Structural, hb]), fun hb => h (by simp [Structural, hb])⟩
  have hclose : byte ≠ rightBrace ∧ byte ≠ rightBracket :=
    ⟨fun hb => h (by simp [Structural, hb]), fun hb => h (by simp [Structural, hb])⟩
  simp [KeyScan.onByte, hcomma, hopen, hclose]

theorem keyScan_skips : Skips (KeyScan.onString line onKey) KeyScan.onByte
    (fun scan => 1 ≤ scan.depth ∧ (scan.depth = 1 → scan.expectKey = false))
    (fun scan => 2 ≤ scan.depth) (fun _ scan => { scan with depth := scan.depth + 1 }) where
  inner scan h := ⟨by omega, by omega⟩
  string scan start stop h := by
    unfold KeyScan.onString
    refine if_neg fun hkey => ?_
    rw [h.2 hkey.1] at hkey
    exact absurd hkey.2 Bool.false_ne_true
  scalar scan index byte _ hscalar := KeyScan.onByte_scalar hscalar index scan
  separator scan index byte h hbyte := by
    have hdepth : scan.depth ≠ 1 := by omega
    rcases hbyte with rfl | rfl <;> simp +decide [KeyScan.onByte, hdepth]
  opens scan index byte h hbyte := by
    have hdepth : scan.depth + 1 ≠ 1 := by omega
    rcases hbyte with rfl | rfl
    · simp +decide [KeyScan.onByte]
    · simp +decide [KeyScan.onByte]
      omega
  enters scan byte h _ := by
    show 2 ≤ scan.depth + 1
    omega
  closesArray scan index h := by simp +decide [KeyScan.onByte]
  closesObject scan index h := by simp +decide [KeyScan.onByte]

/-- White space at any place of the scan. -/
theorem scan_blanks (blanks : Blanks) (index : Nat) (state : KeyScan α) :
    scan (KeyScan.onString line onKey) KeyScan.onByte index (renderBlanks blanks) .outside state =
      .next (.outside, state) :=
  scan_bytes (fun byte hbyte =>
    ⟨fun hquote => blanks_scalar blanks byte hbyte (.inl hquote),
      fun index => KeyScan.onByte_scalar (blanks_scalar blanks byte hbyte) index state⟩) index

/-- Where the content of a member's name starts and ends, and its colon, for a
    member that is written at `offset`. -/
def nameStart (offset : Nat) (member : Member) : Nat :=
  offset + (renderBlanks member.before).length + 1

def nameStop (offset : Nat) (member : Member) : Nat :=
  nameStart offset member + (renderPieces member.name).length

def colonAt (offset : Nat) (member : Member) : Nat :=
  nameStop offset member + 1 + (renderBlanks member.gap).length

/-- What follows a member's name is its colon. -/
theorem colon_found {front back : Bytes} {member : Member}
    (hline : line = front ++ (member.render ++ back)) :
    nextNonWhitespaceIndex line (nameStop front.length member + 1) = colonAt front.length member
      ∧ (line)[colonAt front.length member]? = some colon := by
  set named := front ++ renderBlanks member.before ++ renderString member.name
  have hnamed : named.length = nameStop front.length member + 1 := by
    simp only [named, nameStop, nameStart, renderString, List.length_append, List.length_singleton]
    omega
  have hgap : line = named ++ (renderBlanks member.gap ++ colon ::
      (renderBlanks member.lead ++ (member.value.render ++ (renderBlanks member.after ++ back)))) := by
    rw [hline]
    simp [named, Member.render, Member.head]
  constructor
  · rw [← hnamed, nextNonWhitespaceIndex_split hgap (by decide), hnamed]
    rfl
  · have hcolon : (named ++ renderBlanks member.gap).length = colonAt front.length member := by
      rw [List.length_append, hnamed]
      rfl
    rw [← hcolon]
    exact getElem?_split (hgap.trans (List.append_assoc _ _ _).symm)

/-- **One member**: its name is reported and the rest of it passes. -/
theorem scan_member {front back : Bytes} {member : Member} {found found' : α}
    (hline : line = front ++ (member.render ++ back))
    (hkey : onKey (nameStart front.length member) (nameStop front.length member)
      (colonAt front.length member) found = some found') :
    scan (KeyScan.onString line onKey) KeyScan.onByte front.length member.render .outside
        { depth := 1, expectKey := true, found } =
      .next (.outside, { depth := 1, expectKey := false, found := found' }) := by
  obtain ⟨hskip, hcolon⟩ := colon_found hline
  have hname : scan (KeyScan.onString line onKey) KeyScan.onByte
      (front.length + (renderBlanks member.before).length) (renderString member.name) .outside
        { depth := 1, expectKey := true, found } =
      .next (.outside, { depth := 1, expectKey := false, found := found' }) := by
    rw [scan_string]
    show (KeyScan.onString line onKey (nameStart front.length member)
      (nameStop front.length member) _).map _ = _
    simp only [KeyScan.onString, hskip, hcolon, hkey, and_self, if_true, Json.Flow.map_next]
  have hpasses : 1 ≤ 1 ∧ (1 = 1 → false = false) := ⟨le_refl 1, fun _ => rfl⟩
  have hseparator : ∀ index, scan (KeyScan.onString line onKey) KeyScan.onByte index [colon]
      .outside { depth := 1, expectKey := false, found := found' } =
        .next (.outside, { depth := 1, expectKey := false, found := found' }) := by
    intro index
    rw [scan_byte (by decide)]
    simp +decide [KeyScan.onByte]
  rw [Member.render, Member.head]
  simp only [List.append_assoc]
  rw [scan_append_of_next (scan_blanks member.before _ _), scan_append_of_next hname,
    scan_append_of_next (scan_blanks member.gap _ _), scan_append_of_next (hseparator _),
    scan_append_of_next (scan_blanks member.lead _ _),
    scan_append_of_next (scan_tree keyScan_skips member.value hpasses _)]
  exact scan_blanks member.after _ _

/-- An action on the members of an object, each with the position at which it
    is written. -/
def actAll (act : Nat → Member → α → α) : Nat → List Member → α → α
  | _, [], found => found
  | offset, member :: rest, found =>
      actAll act (offset + member.render.length + 1) rest (act offset member found)

/-- What `onKey` makes of each member's name is `act`. -/
def KeysAct (line : Bytes) (onKey : Nat → Nat → Nat → α → Option α)
    (act : Nat → Member → α → α) : Prop :=
  ∀ front (member : Member) back found, line = front ++ (member.render ++ back) →
    onKey (nameStart front.length member) (nameStop front.length member)
      (colonAt front.length member) found = some (act front.length member found)

theorem Members.render_cons (before : Blanks) (name : Pieces) (gap lead : Blanks) (value : Tree)
    (after : Blanks) (rest : Members) :
    (Members.cons before name gap lead value after rest).render =
      ({ before, name, gap, lead, value, after } : Member).render ++ (rest.separator ++ rest.render) := by
  simp [Members.render, Member.render, Member.head]

/-- **All members**, by induction on what is left of them. -/
theorem scan_keys {act : Nat → Member → α → α} (hact : KeysAct line onKey act)
    (members : Members) {front back : Bytes} {found : α}
    (hline : line = front ++ (members.render ++ back)) :
    ∃ expectKey, scan (KeyScan.onString line onKey) KeyScan.onByte front.length members.render
        .outside { depth := 1, expectKey := true, found } =
      .next (.outside, { depth := 1, expectKey,
                         found := actAll act front.length members.toList found }) := by
  match members with
  | .nil => exact ⟨true, rfl⟩
  | .cons before name gap lead value after rest =>
    set member : Member := { before, name, gap, lead, value, after }
    rw [Members.render_cons] at hline ⊢
    have hmember := @scan_member _ _ _ _ _ _ found _
      (hline.trans (by rw [List.append_assoc]))
      (hact front member _ found (hline.trans (by rw [List.append_assoc])))
    rw [scan_append_of_next hmember]
    match rest with
    | .nil => exact ⟨false, rfl⟩
    | .cons before' name' gap' lead' value' after' rest' =>
      have hcomma : scan (KeyScan.onString line onKey) KeyScan.onByte
          (front.length + member.render.length) [comma] .outside
          { depth := 1, expectKey := false, found := act front.length member found } =
            .next (.outside,
              { depth := 1, expectKey := true, found := act front.length member found }) := by
        rw [scan_byte (by decide)]
        simp +decide [KeyScan.onByte]
      show ∃ expectKey, scan _ _ _ ([comma] ++ _) _ _ = _
      rw [scan_append_of_next hcomma]
      have hrest := @scan_keys act hact (.cons before' name' gap' lead' value' after' rest')
        (front ++ member.render ++ [comma]) back (act front.length member found)
        (hline.trans (by simp [Members.separator, member]))
      rw [List.length_append, List.length_append] at hrest
      exact hrest

/-- **The walk over the keys of a text**. -/
theorem scanKeys_text {act : Nat → Member → α → α} {text : ObjectText}
    (hact : KeysAct text.render onKey act) (initial : α) :
    scanKeys text.render onKey initial =
      some (actAll act (renderBlanks text.before ++ [leftBrace] ++ renderBlanks text.lead).length
        text.entries initial) := by
  set line := text.render with hline
  set front := renderBlanks text.before ++ [leftBrace] ++ renderBlanks text.lead with hfront
  have hsplit : line = front ++ (text.members.render ++ ([rightBrace] ++ renderBlanks text.after)) := by
    rw [hline, hfront]
    simp [ObjectText.render, Tree.render]
  obtain ⟨expectKey, hkeys⟩ := @scan_keys _ _ _ _ hact text.members _ _ initial hsplit
  have hopen : scan (KeyScan.onString line onKey) KeyScan.onByte (renderBlanks text.before).length
      [leftBrace] .outside { found := initial } =
        .next (.outside, { depth := 1, expectKey := true, found := initial }) := by
    rw [scan_byte (by decide)]
    simp +decide [KeyScan.onByte]
  have hclose : ∀ index (found : α), scan (KeyScan.onString line onKey) KeyScan.onByte index
      [rightBrace] .outside { depth := 1, expectKey, found } =
        .next (.outside, { depth := 0, expectKey, found }) := by
    intro index found
    rw [scan_byte (by decide)]
    simp +decide [KeyScan.onByte]
  have hfronted : scan (KeyScan.onString line onKey) KeyScan.onByte 0 front .outside
      { found := initial } =
        .next (.outside, { depth := 1, expectKey := true, found := initial }) := by
    rw [hfront, List.append_assoc, scan_append_of_next (scan_blanks text.before 0 _), Nat.zero_add,
      scan_append_of_next hopen]
    exact scan_blanks text.lead _ _
  have hscan : scan (KeyScan.onString line onKey) KeyScan.onByte 0
      (front ++ (text.members.render ++ ([rightBrace] ++ renderBlanks text.after))) .outside
      { found := initial } = .next (.outside,
        { depth := 0, expectKey, found := actAll act front.length text.entries initial }) := by
    rw [scan_append_of_next hfronted, Nat.zero_add, scan_append_of_next hkeys,
      scan_append_of_next (hclose _ _)]
    exact scan_blanks text.after _ _
  have hwhole := (congrArg (fun bytes => scan (KeyScan.onString line onKey) KeyScan.onByte 0
    bytes .outside { found := initial }) hsplit).trans hscan
  unfold scanKeys
  rw [hwhole]

end walk

end Sorotte.Protocol
