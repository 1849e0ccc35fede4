import Mathlib

/-! # JSON concrete syntax

  The grammar as syntax trees: a tree says which alternatives a text takes and
  where its white space stands, and renders as UTF-8.  Every tree renders as a
  well-formed text, and every well-formed text is rendered by some tree.

  The value of a tree is what a reader that lets the last of several equally
  named members win makes of it.  A text whose strings contain lone surrogates
  is well formed and has no value.
-/

namespace Sorotte.Json

abbrev Bytes := List UInt8

/-! ### Bytes -/

abbrev quote : UInt8 := 0x22
abbrev comma : UInt8 := 0x2C
abbrev colon : UInt8 := 0x3A
abbrev leftBracket : UInt8 := 0x5B
abbrev backslash : UInt8 := 0x5C
abbrev rightBracket : UInt8 := 0x5D
abbrev leftBrace : UInt8 := 0x7B
abbrev rightBrace : UInt8 := 0x7D

/-! ### White space -/

inductive Blank where
  | space | tab | lineFeed | carriageReturn
  deriving DecidableEq, Repr

def Blank.byte : Blank → UInt8
  | .space => 0x20
  | .tab => 0x09
  | .lineFeed => 0x0A
  | .carriageReturn => 0x0D

abbrev Blanks := List Blank

def renderBlanks (blanks : Blanks) : Bytes := blanks.map Blank.byte

/-! ### Strings -/

/-- What may follow a backslash, `u` apart. -/
inductive Escape where
  | quote | backslash | slash | backspace | formFeed | lineFeed | carriageReturn | tab
  deriving DecidableEq, Repr

namespace Escape

def byte : Escape → UInt8
  | .quote => 0x22
  | .backslash => 0x5C
  | .slash => 0x2F
  | .backspace => 0x62
  | .formFeed => 0x66
  | .lineFeed => 0x6E
  | .carriageReturn => 0x72
  | .tab => 0x74

def char : Escape → Char
  | .quote => '"'
  | .backslash => '\\'
  | .slash => '/'
  | .backspace => '\x08'
  | .formFeed => '\x0C'
  | .lineFeed => '\n'
  | .carriageReturn => '\r'
  | .tab => '\t'

end Escape

inductive HexDigit where
  | digit (n : Fin 10)
  | letter (upper : Bool) (n : Fin 6)
  deriving DecidableEq, Repr

namespace HexDigit

def value : HexDigit → Nat
  | .digit n => n.val
  | .letter _ n => 10 + n.val

def byte : HexDigit → UInt8
  | .digit n => UInt8.ofNat (0x30 + n.val)
  | .letter upper n => UInt8.ofNat ((if upper then 0x41 else 0x61) + n.val)

end HexDigit

/-- A character that may stand for itself. -/
def Unescaped (c : Char) : Prop := 0x20 ≤ c.toNat ∧ c ≠ '"' ∧ c ≠ '\\'

instance (c : Char) : Decidable (Unescaped c) := inferInstanceAs (Decidable (_ ∧ _))

inductive Piece where
  | plain (c : Char) (h : Unescaped c)
  | escape (letter : Escape)
  | unicode (a b c d : HexDigit)

abbrev Pieces := List Piece

def Piece.render : Piece → Bytes
  | .plain c _ => String.utf8EncodeChar c
  | .escape letter => [backslash, letter.byte]
  | .unicode a b c d => [backslash, 0x75, a.byte, b.byte, c.byte, d.byte]

def renderPieces (pieces : Pieces) : Bytes := pieces.flatMap Piece.render

def renderString (pieces : Pieces) : Bytes := [quote] ++ renderPieces pieces ++ [quote]

/-- The code unit of four hexadecimal digits. -/
def codeUnit (a b c d : HexDigit) : Nat :=
  ((a.value * 16 + b.value) * 16 + c.value) * 16 + d.value

/-- Reads pieces behind a high surrogate that waits for its low one. -/
def decodeFrom : Option Nat → Pieces → Option (List Char)
  | none, [] => some []
  | none, .plain c _ :: rest => (decodeFrom none rest).map (c :: ·)
  | none, .escape letter :: rest => (decodeFrom none rest).map (letter.char :: ·)
  | none, .unicode a b c d :: rest =>
      let unit := codeUnit a b c d
      if 0xD800 ≤ unit ∧ unit < 0xDC00 then decodeFrom (some unit) rest
      else if 0xDC00 ≤ unit ∧ unit < 0xE000 then none
      else (decodeFrom none rest).map (Char.ofNat unit :: ·)
  | some high, .unicode a b c d :: rest =>
      let unit := codeUnit a b c d
      if 0xDC00 ≤ unit ∧ unit < 0xE000 then
        (decodeFrom none rest).map
          (Char.ofNat (0x10000 + (high - 0xD800) * 0x400 + (unit - 0xDC00)) :: ·)
      else none
  | some _, _ => none

/-- The string that pieces denote, when every surrogate is paired. -/
def decodePieces (pieces : Pieces) : Option String := (decodeFrom none pieces).map String.ofList

/-! ### Numbers -/

abbrev Digit := Fin 10

def Digit.byte (digit : Digit) : UInt8 := UInt8.ofNat (0x30 + digit.val)

structure Digits where
  first : Digit
  rest : List Digit
  deriving DecidableEq, Repr

def Digits.render (digits : Digits) : Bytes :=
  Digit.byte digits.first :: digits.rest.map Digit.byte

/-- An integer without leading zeros. -/
inductive Whole where
  | zero
  /-- Starts with the digit `first + 1`. -/
  | positive (first : Fin 9) (rest : List Digit)
  deriving DecidableEq, Repr

def Whole.render : Whole → Bytes
  | .zero => [0x30]
  | .positive first rest => UInt8.ofNat (0x31 + first.val) :: rest.map Digit.byte

structure Exponent where
  upper : Bool
  /-- Whether a written sign is a minus. -/
  sign : Option Bool
  digits : Digits
  deriving DecidableEq, Repr

def Exponent.render (exponent : Exponent) : Bytes :=
  [(if exponent.upper then 0x45 else 0x65 : UInt8)]
    ++ (match exponent.sign with
      | none => []
      | some minus => [if minus then 0x2D else 0x2B])
    ++ exponent.digits.render

structure Number where
  minus : Bool
  whole : Whole
  fraction : Option Digits
  exponent : Option Exponent
  deriving DecidableEq, Repr

def Number.render (number : Number) : Bytes :=
  (if number.minus then [0x2D] else []) ++ number.whole.render
    ++ (match number.fraction with
      | none => []
      | some digits => 0x2E :: digits.render)
    ++ (match number.exponent with
      | none => []
      | some exponent => exponent.render)

/-! ### Trees -/

inductive Literal where
  | null | true | false
  deriving DecidableEq, Repr

def Literal.render : Literal → Bytes
  | .null => [0x6E, 0x75, 0x6C, 0x6C]
  | .true => [0x74, 0x72, 0x75, 0x65]
  | .false => [0x66, 0x61, 0x6C, 0x73, 0x65]

mutual

inductive Tree where
  | literal (word : Literal)
  | number (number : Number)
  | string (pieces : Pieces)
  | array (lead : Blanks) (elements : Elements)
  | object (lead : Blanks) (members : Members)

/-- Elements of an array, each with the white space around it. -/
inductive Elements where
  | nil
  | cons (before : Blanks) (value : Tree) (after : Blanks) (rest : Elements)

/-- Members of an object: white space, name, white space, colon, white space,
    value, white space. -/
inductive Members where
  | nil
  | cons (before : Blanks) (name : Pieces) (gap lead : Blanks) (value : Tree) (after : Blanks)
      (rest : Members)

end

/-- The comma in front of what is left of a list. -/
def Elements.separator : Elements → Bytes
  | .nil => []
  | .cons .. => [comma]

def Members.separator : Members → Bytes
  | .nil => []
  | .cons .. => [comma]

mutual

def Tree.render : Tree → Bytes
  | .literal word => word.render
  | .number number => number.render
  | .string pieces => renderString pieces
  | .array lead elements =>
      [leftBracket] ++ renderBlanks lead ++ elements.render ++ [rightBracket]
  | .object lead members =>
      [leftBrace] ++ renderBlanks lead ++ members.render ++ [rightBrace]

def Elements.render : Elements → Bytes
  | .nil => []
  | .cons before value after rest =>
      renderBlanks before ++ value.render ++ renderBlanks after ++ rest.separator ++ rest.render

def Members.render : Members → Bytes
  | .nil => []
  | .cons before name gap lead value after rest =>
      renderBlanks before ++ renderString name ++ renderBlanks gap ++ [colon] ++ renderBlanks lead
        ++ value.render ++ renderBlanks after ++ rest.separator ++ rest.render

end

/-! ### Members -/

structure Member where
  before : Blanks
  name : Pieces
  gap : Blanks
  lead : Blanks
  value : Tree
  after : Blanks

/-- The text of a member up to its value. -/
def Member.head (member : Member) : Bytes :=
  renderBlanks member.before ++ renderString member.name ++ renderBlanks member.gap
    ++ [colon] ++ renderBlanks member.lead

def Member.render (member : Member) : Bytes :=
  member.head ++ member.value.render ++ renderBlanks member.after

def Members.toList : Members → List Member
  | .nil => []
  | .cons before name gap lead value after rest =>
      { before, name, gap, lead, value, after } :: rest.toList

/-- The text of members that others follow. -/
def renderFront (members : List Member) : Bytes :=
  members.flatMap fun member => member.render ++ [comma]

/-- A text whose value is an object. -/
structure ObjectText where
  before : Blanks
  lead : Blanks
  members : Members
  after : Blanks

namespace ObjectText

def render (text : ObjectText) : Bytes :=
  renderBlanks text.before ++ (Tree.object text.lead text.members).render
    ++ renderBlanks text.after

/-- The members of the object, in textual order. -/
def entries (text : ObjectText) : List Member := text.members.toList

/-- The text in front of the value of the member that follows `earlier`. -/
def front (text : ObjectText) (earlier : List Member) (member : Member) : Bytes :=
  renderBlanks text.before ++ [leftBrace] ++ renderBlanks text.lead ++ renderFront earlier
    ++ member.head

end ObjectText

/-! ### Meaning -/

/-- A JSON value; an object holds its members in the order of their names. -/
inductive Value where
  | null
  | bool (value : Bool)
  | number (number : Number)
  | string (value : String)
  | array (items : List Value)
  | object (members : List (String × Value))

namespace ObjectMap

/-- Puts a member in its place among ordered members; it replaces one of the
    same name. -/
def insert {V : Type} (name : String) (value : V) : List (String × V) → List (String × V)
  | [] => [(name, value)]
  | (other, held) :: rest =>
      match compare name other with
      | .lt => (name, value) :: (other, held) :: rest
      | .eq => (name, value) :: rest
      | .gt => (other, held) :: insert name value rest

def ofEntries {V : Type} (entries : List (String × V)) : List (String × V) :=
  entries.foldl (fun members entry => insert entry.1 entry.2 members) []

end ObjectMap

def Literal.toValue : Literal → Value
  | .null => .null
  | .true => .bool Bool.true
  | .false => .bool Bool.false

mutual

def Tree.toValue : Tree → Option Value
  | .literal word => some word.toValue
  | .number number => some (.number number)
  | .string pieces => (decodePieces pieces).map .string
  | .array _ elements => elements.toValues.map .array
  | .object _ members => members.toEntries.map fun entries =>
      .object (ObjectMap.ofEntries entries)

def Elements.toValues : Elements → Option (List Value)
  | .nil => some []
  | .cons _ value _ rest => do
      let item ← value.toValue
      let items ← rest.toValues
      pure (item :: items)

/-- The members as they are written, duplicates included. -/
def Members.toEntries : Members → Option (List (String × Value))
  | .nil => some []
  | .cons _ name _ _ value _ rest => do
      let name ← decodePieces name
      let item ← value.toValue
      let entries ← rest.toEntries
      pure ((name, item) :: entries)

end

end Sorotte.Json
