import Sorotte.Json.Scan
import Sorotte.Protocol.Payloads

/-! # Line codec

  The key scanners and the line decoder of `sorotte-protocol/src/codec.rs`.  A
  line is its UTF-8 bytes.  The JSON reader is a parameter; what it returns for
  a message is opaque here, except for the command order of a Set message, which
  the codec fills in from the line.

  `none` as the result of a scanner or of the decoder is a panic: the source
  slices the line at byte positions, which must be character boundaries.
-/

namespace Sorotte.Protocol

open Sorotte.Json

/-! ### Slices of a line -/

def isAsciiWhitespace (byte : UInt8) : Bool :=
  byte == 0x20 || byte == 0x09 || byte == 0x0A || byte == 0x0C || byte == 0x0D

/-- `str::is_char_boundary`. -/
def isCharBoundary (line : Bytes) (index : Nat) : Bool :=
  index == 0 || match (line)[index]? with
    | none => index == line.length
    | some byte => byte < 0x80 || 0xC0 ≤ byte

/-- `&line[start..stop]`. -/
def strSlice (line : Bytes) (start stop : Nat) : Option Bytes :=
  if start ≤ stop && isCharBoundary line start && isCharBoundary line stop then
    some ((line.take stop).drop start)
  else none

def nextNonWhitespaceIndex (bytes : Bytes) (start : Nat) : Nat :=
  match (bytes.drop start).findIdx? fun byte => !isAsciiWhitespace byte with
  | some index => start + index
  | none => bytes.length

/-! ### The JSON reader -/

/-- A decoded message; only a Set message has an order of its commands. -/
inductive ProtocolMessage (S M : Type) where
  | set (payload : S) (commandOrder : List String)
  | other (message : M)

/-- The parts of `serde_json` that the codec calls. -/
structure SerdeJson (E S M : Type) where
  /-- `from_str::<Value>`. -/
  fromStr : Bytes → Except E Value
  /-- `from_str::<String>`. -/
  stringFromStr : Bytes → Except E String
  /-- `from_value::<ProtocolMessage>`. -/
  fromValue : Value → Except E (ProtocolMessage S M)

/-! ### Key scanners -/

/-- The scan over the keys of the outermost object; `found` is what has been
    made of them. -/
structure KeyScan (α : Type) where
  depth : Nat := 0
  expectKey : Bool := false
  found : α

section keys

variable {α : Type}

def KeyScan.onByte (_index : Nat) (byte : UInt8) (scan : KeyScan α) : Json.Flow (KeyScan α) Unit :=
  if byte = leftBrace ∨ byte = leftBracket then
    let depth := scan.depth + 1
    if byte = leftBrace ∧ depth = 1 then .next { scan with depth, expectKey := true }
    else .next { scan with depth }
  else if byte = rightBrace ∨ byte = rightBracket then
    .next { scan with depth := scan.depth - 1 }
  else if byte = comma ∧ scan.depth = 1 then .next { scan with expectKey := true }
  else .next scan

/-- At the end of a string: a string at the outermost level that a colon
    follows is a key.  `onKey` gets the bounds of its content and the position
    of the colon. -/
def KeyScan.onString (line : Bytes) (onKey : Nat → Nat → Nat → α → Option α) (start stop : Nat)
    (scan : KeyScan α) : Json.Flow (KeyScan α) Unit :=
  if scan.depth = 1 ∧ scan.expectKey then
    let afterString := nextNonWhitespaceIndex line (stop + 1)
    if (line)[afterString]? = some colon then
      match onKey start stop afterString scan.found with
      | none => .stop ()
      | some found => .next { scan with expectKey := false, found }
    else .next scan
  else .next scan

/-- The loop that `top_level_key_order` and `top_level_object_value_span`
    share. -/
def scanKeys (line : Bytes) (onKey : Nat → Nat → Nat → α → Option α) (initial : α) : Option α :=
  match scan (KeyScan.onString line onKey) KeyScan.onByte 0 line .outside { found := initial } with
  | .next result => some result.2.found
  | .stop () => none

end keys

/-- The scan for the brace that closes an object: stops behind it. -/
def ObjectEnd.onByte (index : Nat) (byte : UInt8) (depth : Nat) : Json.Flow Nat Nat :=
  if byte = leftBrace then .next (depth + 1)
  else if byte = rightBrace then
    if depth - 1 = 0 then .stop (index + 1) else .next (depth - 1)
  else .next depth

def ObjectEnd.onString (_start _stop : Nat) (depth : Nat) : Json.Flow Nat Nat := .next depth

def matchingObjectEnd (bytes : Bytes) (start : Nat) : Option Nat :=
  if bytes[start]? = some leftBrace then
    match scan ObjectEnd.onString ObjectEnd.onByte start (bytes.drop start) .outside 0 with
    | .next _ => none
    | .stop stop => some stop
  else none

section codec

variable {E S M : Type} (serde : SerdeJson E S M)

/-- The key with this content, when it decodes. -/
def decodeKey (rawKey : Bytes) : Option String :=
  (serde.stringFromStr ([quote] ++ rawKey ++ [quote])).toOption

def topLevelKeyOrder (jsonLine : Bytes) : Option (List String) :=
  scanKeys jsonLine (fun start stop _colon keys => do
    let rawKey ← strSlice jsonLine start stop
    match decodeKey serde rawKey with
    | some key => pure (keys ++ [key])
    | none => pure keys) []

def topLevelObjectValueSpan (jsonLine : Bytes) (wantedKey : String) :
    Option (Option (Nat × Nat)) :=
  scanKeys jsonLine (fun start stop afterString matchedSpan => do
    let rawKey ← strSlice jsonLine start stop
    if decodeKey serde rawKey = some wantedKey then
      let valueStart := nextNonWhitespaceIndex jsonLine (afterString + 1)
      pure ((matchingObjectEnd jsonLine valueStart).map fun valueEnd => (valueStart, valueEnd))
    else pure matchedSpan) none

/-- `filter` with a set of what has been seen: keeps first occurrences. -/
def keepUnseen (seen : BTreeSet String) : List String → List String
  | [] => []
  | key :: rest =>
      if seen.contains key then keepUnseen seen rest
      else key :: keepUnseen (seen.insert key) rest

def setCommandOrder (jsonLine : Bytes) : Option (List String) := do
  match ← topLevelObjectValueSpan serde jsonLine "Set" with
  | none => pure []
  | some (start, stop) =>
      let object ← strSlice jsonLine start stop
      let keys ← topLevelKeyOrder serde object
      pure (keepUnseen ∅ keys)

def decodeProtocolMessageWithCommandOrder (value : Value) (originalLine : Bytes) :
    Option (Except E (ProtocolMessage S M)) :=
  match serde.fromValue value with
  | .error error => pure (.error error)
  | .ok (.set payload _) => do
      let commandOrder ← setCommandOrder serde originalLine
      pure (.ok (.set payload commandOrder))
  | .ok (.other message) => pure (.ok (.other message))

/-! ### Decoding a line -/

structure DecodedMessageLineItem (E S M : Type) where
  command : Option String
  payload : Value
  message : Except E (ProtocolMessage S M)

/-- The keys of the object in the order of the line, and then those that the
    scanner did not report. -/
def commandKeys (object : List (String × Value)) (order : List String) : List String :=
  let scanned := keepUnseen ∅ (order.filter fun key => (object.lookup key).isSome)
  scanned ++ keepUnseen (Std.ExtTreeSet.ofList scanned compare) (object.map Prod.fst)

/-- One item for each of several command keys. -/
def decodeCommands (object : List (String × Value)) (line : Bytes) :
    List String → Option (List (DecodedMessageLineItem E S M))
  | [] => pure []
  | commandKey :: rest =>
      match object.lookup commandKey with
      | none => decodeCommands object line rest
      | some payload => do
          let message ← decodeProtocolMessageWithCommandOrder serde
            (.object [(commandKey, payload)]) line
          let items ← decodeCommands object line rest
          pure ({ command := some commandKey, payload, message } :: items)

def decodeMessageLineItems (line : Bytes) :
    Option (Except E (List (DecodedMessageLineItem E S M))) :=
  match serde.fromStr line with
  | .error error => pure (.error error)
  | .ok (.object object) => do
      let order ← topLevelKeyOrder serde line
      let keys := commandKeys object order
      if keys.length ≤ 1 then
        let command := keys.head?
        let payload := (command.bind fun command => object.lookup command).getD (.object object)
        let message ← decodeProtocolMessageWithCommandOrder serde (.object object) line
        pure (.ok [{ command, payload, message }])
      else
        let items ← decodeCommands serde object line keys
        pure (.ok items)
  | .ok value => do
      let message ← decodeProtocolMessageWithCommandOrder serde value line
      pure (.ok [{ command := none, payload := value, message }])

end codec

end Sorotte.Protocol
