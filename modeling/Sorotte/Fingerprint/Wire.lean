import Mathlib.Data.Int.Log
import Sorotte.Fingerprint.Decision

/-! # Wire signatures

  What a peer sends of its fingerprint, and how a file is matched against it.
  Base64 and the JSON library are parameters.
-/

namespace Sorotte.Fingerprint

/-! ### Data -/

/-- The part of a fingerprint record that is matched. -/
structure MediaFingerprintRecord where
  durationSeconds : Option F64
  audioAnchors : List AudioAnchor

structure MediaMatchWireAnchorBlock where
  algorithm : String
  timeBaseMs : Nat
  anchors : String
  deriving DecidableEq

structure MediaMatchWireProfile where
  profile : String
  algorithmVersion : Nat
  durationMs : Option Nat
  audio : Option MediaMatchWireAnchorBlock
  deriving DecidableEq

/-- `MEDIA_MATCH_WIRE_SCHEMA_V3`. -/
def mediaMatchWireSchemaV3 : String := "sorotte.mediaMatch.v3"

/-- `MEDIA_MATCH_WIRE_MAX_BYTES`. -/
def mediaMatchWireMaxBytes : Nat := 32 * 1024

/-- `MEDIA_MATCH_ANCHOR_VERSION`. -/
def mediaMatchAnchorVersion : Nat := 3

/-- `MEDIA_MATCH_V3_PROFILE_LABEL`. -/
def mediaMatchV3ProfileLabel : String := "audio-constellation-v3"

/-- `MEDIA_MATCH_V3_AUDIO_ALGORITHM`. -/
def mediaMatchV3AudioAlgorithm : String := "sorotte-audio-constellation-v3-sampled-fast"

structure MediaMatchWireSignature where
  schema : String := mediaMatchWireSchemaV3
  profiles : List MediaMatchWireProfile := []
  deriving DecidableEq

/-- The standard base64 engine. -/
structure Base64 where
  encode : List UInt8 → String
  decode : String → Except String (List UInt8)

def Base64.RoundTrips (base64 : Base64) : Prop :=
  ∀ bytes, base64.decode (base64.encode bytes) = .ok bytes

/-- What is used of the JSON library, for values of type `V`. -/
structure SignatureJson (V : Type) where
  toValue : MediaMatchWireSignature → Except String V
  fromValue : V → Except String MediaMatchWireSignature
  /-- `to_vec`. -/
  toVec : V → Except String (List UInt8)
  /-- `value.get("schema").and_then(Value::as_str)`. -/
  schemaOf : V → Option String

def SignatureJson.RoundTrips {V : Type} (json : SignatureJson V) : Prop :=
  ∀ signature value, json.toValue signature = .ok value →
    json.fromValue value = .ok signature ∧ json.schemaOf value = some signature.schema

/-! ### Profiles -/

/-- The nearest whole number; of two, the even one. -/
def roundHalfEven (x : ℚ) : Int :=
  if x - ⌊x⌋ < 1 / 2 then ⌊x⌋
  else if 1 / 2 < x - ⌊x⌋ then ⌊x⌋ + 1
  else if ⌊x⌋ % 2 = 0 then ⌊x⌋ else ⌊x⌋ + 1

/-- A positive product as an `f64` holds it, with 53 bits.  The bounds of the exponent do
    not show after the rounding to milliseconds. -/
def floatProduct (x : ℚ) : ℚ :=
  let unit : ℚ := 2 ^ (Int.log 2 x - 52)
  roundHalfEven (x / unit) * unit

/-- `duration_seconds_to_millis`. -/
def durationSecondsToMillis (durationSeconds : F64) : Option Nat :=
  (durationSeconds.finite?.filter fun value => 0 ≤ value).map fun value =>
    min ⌊floatProduct (value * 1000) + 1 / 2⌋.toNat u32Max

/-- `media_anchor_profile_from_record`. -/
def mediaAnchorProfileFromRecord (record : MediaFingerprintRecord) : MediaAnchorProfile :=
  { version := mediaMatchAnchorVersion
    profile := mediaMatchV3ProfileLabel
    durationMs := record.durationSeconds.bind durationSecondsToMillis
    audioAnchors := record.audioAnchors }

/-- `media_anchor_profile_from_wire_summaries`. -/
def mediaAnchorProfileFromWireSummaries (profile : String) (durationMs : Option Nat)
    (audioSummary : Option (List UInt8)) :
    Except MediaWireAnchorDecodeError MediaAnchorProfile := do
  let audioAnchors ← match audioSummary with
    | none => pure []
    | some summary => decodeWireAudioAnchorSummary summary
  return { version := mediaMatchAnchorVersion, profile, durationMs, audioAnchors }

section Engine

variable (base64 : Base64)

/-- `media_match_wire_anchor_profile_from_anchor_profile`. -/
def mediaMatchWireAnchorProfileFromAnchorProfile (profile : MediaAnchorProfile) :
    Option MediaMatchWireProfile :=
  if profile.audioAnchors.isEmpty then none
  else
    let audioSummary :=
      if profile.audioAnchors.isEmpty then none
      else some (encodeWireAudioAnchorSummary profile.audioAnchors)
    some
      { profile := profile.profile
        algorithmVersion := profile.version
        durationMs := profile.durationMs
        audio := audioSummary.map fun summary =>
          { algorithm := mediaMatchV3AudioAlgorithm
            timeBaseMs := 1
            anchors := base64.encode summary } }

/-- Why a wire profile is refused. -/
inductive WireProfileError where
  | unsupportedVersion (profile : String) (version : Nat)
  | unknownProfile (label : String)
  | unsupportedAlgorithm (algorithm profile : String)
  | unsupportedTimeBase (timeBaseMs : Nat)
  | notBase64 (error : String)
  | undecodable (error : MediaWireAnchorDecodeError)
  deriving DecidableEq

/-- `validate_wire_anchor_block`, of the audio. -/
def validateWireAnchorBlock (block : MediaMatchWireAnchorBlock) (expectedAlgorithm
    profileLabel : String) : Except WireProfileError Unit :=
  if block.algorithm ≠ expectedAlgorithm then
    .error (.unsupportedAlgorithm block.algorithm profileLabel)
  else if block.timeBaseMs ≠ 1 then .error (.unsupportedTimeBase block.timeBaseMs)
  else .ok ()

/-- The checked and decoded summary of a wire profile. -/
def wireAudioSummary (profile : MediaMatchWireProfile) :
    Except WireProfileError (Option (List UInt8)) :=
  match profile.audio with
  | none => .ok none
  | some block =>
    match validateWireAnchorBlock block mediaMatchV3AudioAlgorithm profile.profile with
    | .error error => .error error
    | .ok () =>
      match base64.decode block.anchors with
      | .error error => .error (.notBase64 error)
      | .ok summary => .ok (some summary)

/-- `media_anchor_profile_from_wire_profile`. -/
def mediaAnchorProfileFromWireProfile (profile : MediaMatchWireProfile) :
    Except WireProfileError MediaAnchorProfile :=
  if profile.algorithmVersion ≠ mediaMatchAnchorVersion then
    .error (.unsupportedVersion profile.profile profile.algorithmVersion)
  else if profile.profile ≠ mediaMatchV3ProfileLabel then
    .error (.unknownProfile profile.profile)
  else
    match wireAudioSummary base64 profile with
    | .error error => .error error
    | .ok audioSummary =>
      (mediaAnchorProfileFromWireSummaries profile.profile profile.durationMs
        audioSummary).mapError WireProfileError.undecodable

/-! ### Signatures -/

/-- `media_match_wire_signature_from_records`. -/
def mediaMatchWireSignatureFromRecords (records : List MediaFingerprintRecord) :
    MediaMatchWireSignature :=
  { profiles := records.filterMap fun record =>
      mediaMatchWireAnchorProfileFromAnchorProfile base64 (mediaAnchorProfileFromRecord record) }

/-- Why a wire value is refused. -/
inductive WireSignatureError where
  | unserializable (error : String)
  | tooLarge
  | noSchema
  | unsupportedSchema
  | invalid (error : String)
  | noProfiles
  | profile (error : WireProfileError)
  deriving DecidableEq

variable {V : Type} (json : SignatureJson V)

/-- `media_match_wire_value_from_records`. -/
def mediaMatchWireValueFromRecords (records : List MediaFingerprintRecord) : Option V := do
  let signature := mediaMatchWireSignatureFromRecords base64 records
  if signature.profiles.isEmpty then none
  else
    let value ← (json.toValue signature).toOption
    let bytes ← (json.toVec value).toOption
    if bytes.length ≤ mediaMatchWireMaxBytes then some value else none

/-- `media_match_wire_signature_from_value`. -/
def mediaMatchWireSignatureFromValue (value : V) :
    Except WireSignatureError MediaMatchWireSignature :=
  match json.toVec value with
  | .error error => .error (.unserializable error)
  | .ok bytes =>
    if mediaMatchWireMaxBytes < bytes.length then .error .tooLarge
    else
      match json.schemaOf value with
      | none => .error .noSchema
      | some schema =>
        if schema ≠ mediaMatchWireSchemaV3 then .error .unsupportedSchema
        else
          match json.fromValue value with
          | .error error => .error (.invalid error)
          | .ok signature =>
            if signature.profiles.isEmpty then .error .noProfiles
            else
              match signature.profiles.mapM (mediaAnchorProfileFromWireProfile base64) with
              | .error error => .error (.profile error)
              | .ok _ => .ok signature

/-- `decide_media_match_against_wire_signature`. -/
def decideMediaMatchAgainstWireSignature (query : MediaFingerprintRecord)
    (signature : MediaMatchWireSignature) (settings : MediaMatchSettings) : MediaMatchDecision :=
  let queryProfile := mediaAnchorProfileFromRecord query
  let ranked := (signature.profiles.filterMap fun profile =>
    (mediaAnchorProfileFromWireProfile base64 profile).toOption).map fun candidate =>
      decideMediaMatchAnchors queryProfile candidate settings
  let ranked := ranked.insertionSort fun left right =>
    mediaMatchTierRank right.tier ≤ mediaMatchTierRank left.tier
  match ranked with
  | [] => .ofUnknown "no comparable media match wire profiles"
  | decision :: _ => decision

end Engine

end Sorotte.Fingerprint
