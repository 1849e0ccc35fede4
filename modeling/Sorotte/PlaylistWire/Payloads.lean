import Sorotte.Framework.FloatBits
import Sorotte.Framework.Maps

/-! # Playlist payloads on the wire

  The hand-written codecs of `sorotte-protocol/src/set.rs`.  A JSON value is the
  value of `serde_json`; what a codec writes is the sequence of the members of
  an object.
-/

namespace Sorotte.PlaylistWire

open Sorotte.Framework

/-! ### JSON values -/

/-- The number of `serde_json`: without a sign, negative, or a finite float. -/
inductive JsonNumber where
  | posInt (value : UInt64)
  | negInt (value : Int64) (negative : value < 0)
  | float (value : Binary64) (finite : value.isFinite = true)
  deriving DecidableEq

inductive Value where
  | null
  | bool (value : Bool)
  | number (number : JsonNumber)
  | string (value : String)
  | array (items : List Value)
  | object (members : List (String × Value))

abbrev Member := String × Value

/-- Members by name; the last of a name counts. -/
abbrev Entries := BTreeMap String Value

namespace Value

def asStr : Value → Option String
  | .string value => some value
  | _ => none

def asArray : Value → Option (List Value)
  | .array items => some items
  | _ => none

end Value

/-- `Number::from(value: i64)`. -/
def JsonNumber.ofI64 (value : Int64) : JsonNumber :=
  if negative : value < 0 then .negInt value negative else .posInt value.toUInt64

/-- What deserializes as an `i64`. -/
def JsonNumber.toI64 : JsonNumber → Option Int64
  | .posInt value => if value.toNat < 2 ^ 63 then some value.toInt64 else none
  | .negInt value _ => some value
  | .float _ _ => none

/-- `from_value::<Vec<String>>`. -/
def stringsOf (value : Value) : Option (List String) :=
  match value with
  | .array items => items.mapM Value.asStr
  | _ => none

/-- `from_value::<i64>`. -/
def integerOf (value : Value) : Option Int64 :=
  match value with
  | .number number => number.toI64
  | _ => none

/-- `BTreeMap::<String, Value>::deserialize`, of the members of an object. -/
def entriesOf (members : List Member) : Entries :=
  members.foldl (fun entries member => entries.insert member.1 member.2) ∅

/-! ### Payloads -/

structure PlaylistChangePayload where
  files : List String
  user : Option String
  userIsNull : Bool
  extra : Entries

structure PlaylistIndexPayload where
  index : Int64
  indexIsNull : Bool
  user : Option String
  userIsNull : Bool
  extra : Entries

/-- Why a value is not a payload. -/
inductive DeserializeError where
  /-- "invalid type: …, expected a map" -/
  | notAnObject (value : Value)
  | missingField (field : String)
  /-- "invalid type: …", of the member. -/
  | invalidType (field : String) (value : Value)
  /-- "….user must be a string or null, got …" -/
  | invalidUser (payload : String) (value : Value)

/-- What is written for the user: its name, null, or nothing. -/
def userValue (user : Option String) (userIsNull : Bool) : Option Value :=
  match user with
  | some user => some (.string user)
  | none => if userIsNull then some .null else none

/-- What a payload holds of the user. -/
def readUser (payload : String) : Option Value → Except DeserializeError (Option String × Bool)
  | none => .ok (none, false)
  | some (.string user) => .ok (some user, false)
  | some .null => .ok (none, true)
  | some other => .error (.invalidUser payload other)

/-- The members of a payload: the declared one, the user, and the extensions but those with
    a declared name. -/
def serializeMembers (name : String) (value : Value) (user : Option String) (userIsNull : Bool)
    (extra : Entries) : List Member :=
  (name, value) :: ((userValue user userIsNull).toList.map fun user => ("user", user))
    ++ extra.toList.filter fun member => !(member.1 == name || member.1 == "user")

/-! ### Playlist changes -/

namespace PlaylistChangePayload

/-- `PlaylistChangePayload::new`. -/
def ofFiles (files : List String) : PlaylistChangePayload :=
  { files, user := none, userIsNull := false, extra := ∅ }

/-- The members that are written. -/
def serialize (payload : PlaylistChangePayload) : List Member :=
  serializeMembers "files" (.array (payload.files.map .string)) payload.user payload.userIsNull
    payload.extra

def deserialize : Value → Except DeserializeError PlaylistChangePayload
  | .object members =>
    let entries := entriesOf members
    match entries["files"]? with
    | none => .error (.missingField "files")
    | some filesValue =>
      match stringsOf filesValue with
      | none => .error (.invalidType "files" filesValue)
      | some files =>
        let entries := entries.erase "files"
        match readUser "playlistChange" entries["user"]? with
        | .error error => .error error
        | .ok (user, userIsNull) =>
          .ok { files, user, userIsNull, extra := entries.erase "user" }
  | other => .error (.notAnObject other)

/-- One way to say who changed the playlist, and no declared name among the extensions. -/
structure WellFormed (payload : PlaylistChangePayload) : Prop where
  user : ¬ (payload.user.isSome = true ∧ payload.userIsNull = true)
  files_undeclared : "files" ∉ payload.extra
  user_undeclared : "user" ∉ payload.extra

end PlaylistChangePayload

/-! ### Playlist indexes -/

namespace PlaylistIndexPayload

/-- `PlaylistIndexPayload::new`. -/
def ofIndex (index : Int64) : PlaylistIndexPayload :=
  { index, indexIsNull := false, user := none, userIsNull := false, extra := ∅ }

/-- `PlaylistIndexPayload::null`. -/
def ofNull : PlaylistIndexPayload :=
  { index := 0, indexIsNull := true, user := none, userIsNull := false, extra := ∅ }

def fromOptional : Option Int64 → PlaylistIndexPayload
  | none => ofNull
  | some index => ofIndex index

def indexValue (payload : PlaylistIndexPayload) : Option Int64 :=
  if payload.indexIsNull then none else some payload.index

/-- The value of an index, or null. -/
def indexMember : Option Int64 → Value
  | none => .null
  | some index => .number (.ofI64 index)

def serialize (payload : PlaylistIndexPayload) : List Member :=
  serializeMembers "index" (indexMember payload.indexValue) payload.user payload.userIsNull
    payload.extra

/-- The index that is read of the member: null and absence are no index. -/
def readIndex : Option Value → Except DeserializeError (Option Int64)
  | none => .ok none
  | some .null => .ok none
  | some value =>
    match integerOf value with
    | none => .error (.invalidType "index" value)
    | some index => .ok (some index)

def deserialize : Value → Except DeserializeError PlaylistIndexPayload
  | .object members =>
    let entries := entriesOf members
    match readIndex entries["index"]? with
    | .error error => .error error
    | .ok index =>
      let entries := entries.erase "index"
      let payload := fromOptional index
      match readUser "playlistIndex" entries["user"]? with
      | .error error => .error error
      | .ok (user, userIsNull) =>
        .ok { payload with user, userIsNull, extra := entries.erase "user" }
  | other => .error (.notAnObject other)

/-- As of a playlist change, and no index beside null. -/
structure WellFormed (payload : PlaylistIndexPayload) : Prop where
  user : ¬ (payload.user.isSome = true ∧ payload.userIsNull = true)
  index : payload.indexIsNull = true → payload.index = 0
  index_undeclared : "index" ∉ payload.extra
  user_undeclared : "user" ∉ payload.extra

end PlaylistIndexPayload

end Sorotte.PlaylistWire
