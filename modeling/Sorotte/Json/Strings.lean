import Sorotte.Json.Scan

/-! # Reading strings

  A reader for the strings of the grammar, and that it reads back every
  rendered string: the bytes of a string determine its pieces.
-/

namespace Sorotte.Json

def readHexDigit (byte : UInt8) : Option HexDigit :=
  let n := byte.toNat
  if h : 0x30 ≤ n ∧ n < 0x3A then some (.digit ⟨n - 0x30, by omega⟩)
  else if h : 0x41 ≤ n ∧ n < 0x47 then some (.letter true ⟨n - 0x41, by omega⟩)
  else if h : 0x61 ≤ n ∧ n < 0x67 then some (.letter false ⟨n - 0x61, by omega⟩)
  else none

def readEscape (byte : UInt8) : Option Escape :=
  if byte = 0x22 then some .quote
  else if byte = 0x5C then some .backslash
  else if byte = 0x2F then some .slash
  else if byte = 0x62 then some .backspace
  else if byte = 0x66 then some .formFeed
  else if byte = 0x6E then some .lineFeed
  else if byte = 0x72 then some .carriageReturn
  else if byte = 0x74 then some .tab
  else none

/-- One piece, and what follows it. -/
def readPiece (bytes : Bytes) : Option (Piece × Bytes) :=
  match bytes with
  | 0x5C :: 0x75 :: a :: b :: c :: d :: rest => do
      let a ← readHexDigit a
      let b ← readHexDigit b
      let c ← readHexDigit c
      let d ← readHexDigit d
      pure (.unicode a b c d, rest)
  | 0x5C :: byte :: rest => (readEscape byte).map fun letter => (.escape letter, rest)
  | bytes => do
      let c ← bytes.toByteArray.utf8DecodeChar? 0
      if h : Unescaped c then pure (.plain c h, bytes.drop c.utf8Size) else none

/-- Pieces up to the closing quote, which ends the text. -/
def readPieces : Nat → Bytes → Option Pieces
  | 0, _ => none
  | fuel + 1, bytes =>
      if bytes = [quote] then some []
      else do
        let (piece, rest) ← readPiece bytes
        let pieces ← readPieces fuel rest
        pure (piece :: pieces)

def readString (bytes : Bytes) : Option String :=
  match bytes with
  | 0x22 :: content => (readPieces content.length content).bind decodePieces
  | _ => none

theorem readHexDigit_byte (digit : HexDigit) : readHexDigit digit.byte = some digit := by
  cases digit with
  | digit digit =>
    revert digit
    decide
  | letter upper letter =>
    revert upper letter
    decide

theorem readEscape_byte (letter : Escape) : readEscape letter.byte = some letter := by
  cases letter <;> rfl

theorem utf8DecodeChar?_encode (c : Char) (rest : Bytes) :
    (String.utf8EncodeChar c ++ rest).toByteArray.utf8DecodeChar? 0 = some c := by
  rw [List.toByteArray_append]
  exact ByteArray.utf8DecodeChar?_utf8EncodeChar_append

theorem readPiece_plain {c : Char} (h : Unescaped c) (rest : Bytes) :
    readPiece (String.utf8EncodeChar c ++ rest) = some (.plain c h, rest) := by
  have hdecoded := utf8DecodeChar?_encode c rest
  have hdropped : (String.utf8EncodeChar c ++ rest).drop c.utf8Size = rest := by
    rw [← String.length_utf8EncodeChar, List.drop_left]
  have hfirst : ∀ byte tail, String.utf8EncodeChar c ++ rest = byte :: tail → byte ≠ 0x5C := by
    intro byte tail hbytes
    cases hencoded : String.utf8EncodeChar c with
    | nil => exact absurd hencoded String.utf8EncodeChar_ne_nil
    | cons first others =>
      rw [hencoded, List.cons_append] at hbytes
      obtain ⟨rfl, -⟩ := List.cons.inj hbytes
      exact @utf8EncodeChar_ne c '\\' (by decide) h.2.2 first (by simp [hencoded])
  generalize String.utf8EncodeChar c ++ rest = bytes at *
  unfold readPiece
  split
  · exact absurd rfl (hfirst _ _ rfl)
  · exact absurd rfl (hfirst _ _ rfl)
  · rw [hdecoded]
    simp [h, hdropped]

theorem readPiece_render (piece : Piece) (rest : Bytes) :
    readPiece (piece.render ++ rest) = some (piece, rest) := by
  cases piece with
  | plain c h => exact readPiece_plain h rest
  | escape letter =>
    have hletter : letter.byte ≠ 0x75 := by cases letter <;> decide
    show readPiece (0x5C :: letter.byte :: rest) = _
    unfold readPiece
    split
    · next h =>
      simp only [List.cons.injEq] at h
      exact absurd h.2.1 hletter
    · next h =>
      simp only [List.cons.injEq, true_and] at h
      obtain ⟨rfl, rfl⟩ := h
      rw [readEscape_byte]
      rfl
    · next _ h => exact absurd rfl (h _ _)
  | unicode a b c d =>
    show readPiece (0x5C :: 0x75 :: a.byte :: b.byte :: c.byte :: d.byte :: rest) = _
    simp [readPiece, readHexDigit_byte]

theorem Piece.render_ne_nil (piece : Piece) : piece.render ≠ [] := by
  cases piece with
  | plain c h => exact String.utf8EncodeChar_ne_nil
  | escape letter => exact List.cons_ne_nil _ _
  | unicode a b c d => exact List.cons_ne_nil _ _

theorem Piece.render_not_quote (piece : Piece) (rest : Bytes) :
    piece.render ++ rest ≠ [quote] := by
  intro h
  cases hrender : piece.render with
  | nil => exact piece.render_ne_nil hrender
  | cons first others =>
    rw [hrender, List.cons_append] at h
    obtain ⟨rfl, -⟩ := List.cons.inj h
    cases piece with
    | plain c hc =>
      exact @utf8EncodeChar_ne c '"' (by decide) hc.2.1 quote
        (by rw [show String.utf8EncodeChar c = _ from hrender]; simp) rfl
    | escape letter => cases hrender
    | unicode a b c d => cases hrender

theorem readPieces_render (pieces : Pieces) {fuel : Nat} (hfuel : pieces.length < fuel) :
    readPieces fuel (renderPieces pieces ++ [quote]) = some pieces := by
  induction pieces generalizing fuel with
  | nil =>
    obtain ⟨fuel, rfl⟩ := Nat.exists_eq_succ_of_ne_zero (Nat.ne_of_gt hfuel)
    rfl
  | cons piece pieces ih =>
    obtain ⟨fuel, rfl⟩ := Nat.exists_eq_succ_of_ne_zero (Nat.ne_of_gt (Nat.zero_lt_of_lt hfuel))
    have hsplit : renderPieces (piece :: pieces) ++ [quote] =
        piece.render ++ (renderPieces pieces ++ [quote]) := by
      simp [renderPieces]
    rw [hsplit, readPieces, if_neg (piece.render_not_quote _), readPiece_render]
    have hshort : pieces.length < fuel := by simpa using hfuel
    simp [ih hshort]

theorem length_le_renderPieces (pieces : Pieces) : pieces.length ≤ (renderPieces pieces).length := by
  induction pieces with
  | nil => exact le_refl 0
  | cons piece pieces ih =>
    have hpiece := List.length_pos_of_ne_nil piece.render_ne_nil
    show pieces.length + 1 ≤ (piece.render ++ renderPieces pieces).length
    rw [List.length_append]
    omega

/-- **Strings are read back**. -/
theorem readString_render (pieces : Pieces) :
    readString (renderString pieces) = decodePieces pieces := by
  show (readPieces (renderPieces pieces ++ [quote]).length (renderPieces pieces ++ [quote])).bind
    decodePieces = _
  rw [readPieces_render pieces (by
    have := length_le_renderPieces pieces
    rw [List.length_append, List.length_singleton]
    omega)]
  rfl

end Sorotte.Json
