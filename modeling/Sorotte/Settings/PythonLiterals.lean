import Sorotte.Framework.TextCursor
import Sorotte.Protocol.Payloads

/-! # Python-style setting literals

  The formatters and the cursor parsers of `syncplay_ini_values.rs`.  A `str`
  is the list of its characters; a cursor is the byte offset the source keeps.
-/

namespace Sorotte.Settings

open Sorotte.Framework

abbrev Str := List Char

/-! ### Formatting -/

/-- `str::replace` of a character. -/
def replaceChar (c : Char) (replacement : Str) (value : Str) : Str :=
  value.flatMap fun x => if x = c then replacement else [x]

def formatSerializedPythonString (value : Str) : Str :=
  let escaped := replaceChar '\'' ['\\', '\''] (replaceChar '\\' ['\\', '\\'] value)
  ['\''] ++ escaped ++ ['\'']

/-- `join(", ")`. -/
def joinItems (rendered : List Str) : Str := [',', ' '].intercalate rendered

def formatSerializedStringList (values : List Str) : Str :=
  ['['] ++ joinItems (values.map formatSerializedPythonString) ++ [']']

def formatPerPlayerArguments (entry : Str × List Str) : Str :=
  formatSerializedPythonString entry.1 ++ [':', ' '] ++ formatSerializedStringList entry.2

def formatSerializedPerPlayerArgumentsMap (values : BTreeMap Str (List Str)) : Str :=
  ['{'] ++ joinItems (values.toList.map formatPerPlayerArguments) ++ ['}']

def formatPublicServer (server : Str × Str) : Str :=
  ['['] ++ formatSerializedPythonString server.1 ++ [',', ' ']
    ++ formatSerializedPythonString server.2 ++ [']']

def formatSerializedPublicServersList (values : List (Str × Str)) : Str :=
  ['['] ++ joinItems (values.map formatPublicServer) ++ [']']

/-! ### Cursors -/

def skipSerializedPythonWhitespaceCursor (input : Str) (index : Nat) :
    Except CursorStop (Scanned Unit index) := do
  match ← peekChar input index with
  | none => pure ⟨(), index, Nat.le_refl _⟩
  | some ⟨ch, _⟩ =>
      if isWhitespaceChar ch then do
        let after ← skipSerializedPythonWhitespaceCursor input (index + ch.utf8Size)
        pure (after.since (Nat.le_add_right _ _))
      else pure ⟨(), index, Nat.le_refl _⟩
termination_by byteLength input - index
decreasing_by
  have hsize := ch.utf8Size_pos
  omega

/-- The character an escape stands for. -/
def unescapedChar : Char → Char
  | 'n' => '\n'
  | 'r' => '\r'
  | 't' => '\t'
  | other => other

/-- The characters up to the closing quote. -/
def parseQuotedLoop (input : Str) (quote : Char) (index : Nat) (parsed : Str) :
    Except CursorStop (Scanned Str index) := do
  let ⟨ch, fits⟩ ← nextChar input index
  if ch = quote then pure ⟨parsed, index + ch.utf8Size, Nat.le_add_right _ _⟩
  else if ch = '\\' then do
    let ⟨escaped, fits'⟩ ← nextChar input (index + ch.utf8Size)
    let after ← parseQuotedLoop input quote (index + ch.utf8Size + escaped.utf8Size)
      (parsed ++ [unescapedChar escaped])
    pure (after.since (by omega))
  else do
    let after ← parseQuotedLoop input quote (index + ch.utf8Size) (parsed ++ [ch])
    pure (after.since (Nat.le_add_right _ _))
termination_by byteLength input - index
decreasing_by
  all_goals
    have hsize := ch.utf8Size_pos
    omega

def parseSerializedPythonStringCursor (input : Str) (index : Nat) :
    Except CursorStop (Scanned Str index) := do
  let ⟨quote, _⟩ ← nextChar input index
  if quote ≠ '\'' ∧ quote ≠ '"' then .error .refused
  else do
    let after ← parseQuotedLoop input quote (index + quote.utf8Size) []
    pure (after.since (Nat.le_add_right _ _))

/-- The loop the list, map and server parsers share: items up to the closing
    bracket, a comma after each but possibly the last. -/
def parseItemsLoop {α β : Type} (input : Str) (close : Char)
    (item : (index : Nat) → Except CursorStop (Scanned α index)) (insert : β → α → β)
    (index : Nat) (parsed : β) : Except CursorStop (Scanned β index) := do
  let start ← skipSerializedPythonWhitespaceCursor input index
  let ⟨next, _⟩ ← nextChar input start.next
  if next = close then
    pure ⟨parsed, start.next + 1, start.forward.trans (Nat.le_add_right _ _)⟩
  else do
    let value ← item start.next
    let gap ← skipSerializedPythonWhitespaceCursor input value.next
    let ⟨delim, fits⟩ ← nextChar input gap.next
    have hforward : index ≤ gap.next := start.forward.trans (value.forward.trans gap.forward)
    if delim = ',' then do
      let after ← parseItemsLoop input close item insert (gap.next + 1) (insert parsed value.value)
      pure (after.since (by omega))
    else if delim = close then
      pure ⟨insert parsed value.value, gap.next + 1, by omega⟩
    else .error .refused
termination_by byteLength input - index
decreasing_by
  have hsize := delim.utf8Size_pos
  omega

def parseSerializedPythonStringListCursor (input : Str) (index : Nat) :
    Except CursorStop (Scanned (List Str) index) := do
  let start ← skipSerializedPythonWhitespaceCursor input index
  let ⟨ch, _⟩ ← nextChar input start.next
  if ch ≠ '[' then .error .refused
  else do
    let after ← parseItemsLoop input ']' (parseSerializedPythonStringCursor input)
      (fun values value => values ++ [value]) (start.next + 1) []
    pure (after.since (start.forward.trans (Nat.le_add_right _ _)))

/-- The bracket that closes a pair. -/
def closingFor : Char → Except CursorStop Char
  | '[' => .ok ']'
  | '(' => .ok ')'
  | _ => .error .refused

def parseSerializedPythonStringPairCursor (input : Str) (index : Nat) :
    Except CursorStop (Scanned (Str × Str) index) := do
  let start ← skipSerializedPythonWhitespaceCursor input index
  let ⟨opening, _⟩ ← nextChar input start.next
  let close ← closingFor opening
  let lead ← skipSerializedPythonWhitespaceCursor input (start.next + opening.utf8Size)
  let label ← parseSerializedPythonStringCursor input lead.next
  let gap ← skipSerializedPythonWhitespaceCursor input label.next
  let ⟨comma, _⟩ ← nextChar input gap.next
  if comma ≠ ',' then .error .refused
  else do
    let second ← skipSerializedPythonWhitespaceCursor input (gap.next + 1)
    let address ← parseSerializedPythonStringCursor input second.next
    let trail ← skipSerializedPythonWhitespaceCursor input address.next
    let ⟨closing, _⟩ ← nextChar input trail.next
    if closing ≠ close then .error .refused
    else
      pure ⟨(label.value, address.value), trail.next + closing.utf8Size, by
        have h₁ := start.forward
        have h₂ := lead.forward
        have h₃ := label.forward
        have h₄ := gap.forward
        have h₅ := second.forward
        have h₆ := address.forward
        have h₇ := trail.forward
        omega⟩

/-- A player's path and its arguments, as the map's loop reads them. -/
def parsePerPlayerArgumentsCursor (input : Str) (index : Nat) :
    Except CursorStop (Scanned (Str × List Str) index) := do
  let key ← parseSerializedPythonStringCursor input index
  let gap ← skipSerializedPythonWhitespaceCursor input key.next
  let ⟨colon, _⟩ ← nextChar input gap.next
  if colon ≠ ':' then .error .refused
  else do
    let args ← parseSerializedPythonStringListCursor input (gap.next + 1)
    pure ⟨(key.value, args.value), args.next, by
      have h₁ := key.forward
      have h₂ := gap.forward
      have h₃ := args.forward
      omega⟩

/-! ### Whole values -/

/-- `str::trim`. -/
def trim (value : Str) : Str :=
  ((value.dropWhile isWhitespaceChar).reverse.dropWhile isWhitespaceChar).reverse

/-- What was scanned, when nothing but white space follows it. -/
def atEnd {α : Type} {index : Nat} (input : Str) (scanned : Scanned α index) :
    Except CursorStop α := do
  let after ← skipSerializedPythonWhitespaceCursor input scanned.next
  if after.next ≠ byteLength input then .error .refused else pure scanned.value

/-- The quote-aware reading of a bracketed list. -/
def quotedStringList (trimmed : Str) : Except CursorStop (List Str) := do
  let values ← parseSerializedPythonStringListCursor trimmed 0
  atEnd trimmed values

/-- The loop behind an opening bracket, and nothing after it. -/
def bracketedItems {α β : Type} (trimmed : Str) (opening close : Char)
    (item : (index : Nat) → Except CursorStop (Scanned α index)) (insert : β → α → β)
    (empty : β) : Except CursorStop β := do
  let start ← skipSerializedPythonWhitespaceCursor trimmed 0
  let ⟨first, _⟩ ← nextChar trimmed start.next
  if first ≠ opening then .error .refused
  else do
    let parsed ← parseItemsLoop trimmed close item insert (start.next + 1) empty
    atEnd trimmed parsed

def quotedPerPlayerArgumentsMap (trimmed : Str) : Except CursorStop (BTreeMap Str (List Str)) :=
  bracketedItems trimmed '{' '}' (parsePerPlayerArgumentsCursor trimmed)
    (fun parsed entry => parsed.insert entry.1 entry.2) ∅

def quotedPublicServersList (trimmed : Str) : Except CursorStop (List (Str × Str)) :=
  bracketedItems trimmed '[' ']' (parseSerializedPythonStringPairCursor trimmed)
    (fun parsed pair => parsed ++ [pair]) []

def parseSerializedPerPlayerArgumentsMap (value : Str) : Option (BTreeMap Str (List Str)) :=
  let trimmed := trim value
  if trimmed.isEmpty then none else (quotedPerPlayerArgumentsMap trimmed).toOption

def parseSerializedPublicServersList (value : Str) : Option (List (Str × Str)) :=
  let trimmed := trim value
  if trimmed.isEmpty then none else (quotedPublicServersList trimmed).toOption

/-! ### Unquoted lists -/

def stripPrefix (c : Char) : Str → Option Str
  | x :: rest => if x = c then some rest else none
  | [] => none

def stripSuffix (c : Char) (value : Str) : Option Str :=
  (stripPrefix c value.reverse).map List.reverse

/-- What two brackets, or two quotes, enclose. -/
def stripAround (first last : Char) (value : Str) : Option Str :=
  (stripPrefix first value).bind (stripSuffix last)

/-- `str::replace` of a pair of characters. -/
def replacePair (first second replacement : Char) : Str → Str
  | a :: b :: rest =>
      if a = first ∧ b = second then replacement :: replacePair first second replacement rest
      else a :: replacePair first second replacement (b :: rest)
  | short => short

/-- An entry of an unquoted bracketed list. -/
def unquotedEntry (entry : Str) : Str :=
  let unquoted :=
    ((stripAround '\'' '\'' entry).or (stripAround '"' '"' entry)).getD entry
  replacePair '\\' '"' '"' (replacePair '\\' '\'' '\'' (replacePair '\\' '\\' '\\' unquoted))

/-- The pieces between separators, trimmed, without the empty ones. -/
def splitEntries (separator : Char → Bool) (value : Str) : List Str :=
  ((value.splitOnP separator).map trim).filter fun entry => !entry.isEmpty

/-- Historical support for unquoted bracketed lists. -/
def unquotedStringList (inner : Str) : List Str :=
  let inner := trim inner
  if inner.isEmpty then [] else (splitEntries (· == ',') inner).map unquotedEntry

def parseUnbracketedStringListFallback (value : Str) : Option (List Str) :=
  let values := splitEntries (fun c => [',', ';', '\n', '\r'].contains c) value
  if values.isEmpty then none else some values

def parseSerializedStringList (value : Str) : Option (List Str) :=
  let trimmed := trim value
  if trimmed.isEmpty then none
  else
    match stripAround '[' ']' trimmed with
    | none => parseUnbracketedStringListFallback trimmed
    | some inner =>
        match quotedStringList trimmed with
        | .ok values => some values
        | .error _ => some (unquotedStringList inner)

end Sorotte.Settings
