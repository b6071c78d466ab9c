import Teale.Lib.Bytes
import Teale.Lib.JsonText
import Teale.Lib.RustText

/-!
# Netmaps

`protocol/src/pin.rs`: the members of a private network, signed by the gateway over the canonical
JSON text. Ed25519 is a parameter.
-/

namespace Teale.Protocol

open Serde

def netmapMaxAgeSeconds : ℤ := 24 * 60 * 60

structure PinEndpoint where
  kind : String
  addr : String
  deriving DecidableEq, Repr

structure PinNetmapMember where
  deviceId : String
  nodePubkey : String
  wgPubkey : String
  displayName : Option String
  servesModels : Bool
  offersExit : Bool
  disabled : Bool
  endpoints : List PinEndpoint
  loadedModels : List String
  lastSeen : Option ℤ
  deriving DecidableEq, Repr

structure PinNetmap where
  pinId : String
  name : String
  generation : ℤ
  issuedAt : ℤ
  members : List PinNetmapMember
  deriving DecidableEq, Repr

structure SignedPinNetmap where
  netmap : PinNetmap
  gatewayPubkey : String
  signature : String
  deriving DecidableEq, Repr

/-! ## Serialization -/

abbrev Json := Value Empty

def jsonInt (value : ℤ) : Json :=
  if value < 0 then .number (.negative value) else .nat value.toNat

def PinEndpoint.toValue (endpoint : PinEndpoint) : Json :=
  .object [("kind", .string endpoint.kind), ("addr", .string endpoint.addr)]

/-- `Serialize` for members: a field that is absent or false may be left out. -/
def PinNetmapMember.toValue (member : PinNetmapMember) : Json := .object
    ([("deviceId", .string member.deviceId), ("nodePubkey", .string member.nodePubkey),
      ("wgPubkey", .string member.wgPubkey)] ++
    (member.displayName.map fun name => ("displayName", .string name)).toList ++
    [("servesModels", .bool member.servesModels)] ++
    (if member.offersExit then [("offersExit", .bool true)] else []) ++
    [("disabled", .bool member.disabled),
      ("endpoints", .array (member.endpoints.map PinEndpoint.toValue)),
      ("loadedModels", .array (member.loadedModels.map Value.string))] ++
    (member.lastSeen.map fun time => ("lastSeen", jsonInt time)).toList)

def PinNetmap.toValue (netmap : PinNetmap) : Json := .object
    [("pinId", .string netmap.pinId), ("name", .string netmap.name),
      ("generation", jsonInt netmap.generation),
      ("issuedAt", jsonInt netmap.issuedAt),
      ("members", .array (netmap.members.map PinNetmapMember.toValue))]

def unicodeEscape (char : Char) : List Char :=
  ['\\', 'u', '0', '0', Bytes.hexDigit (char.toNat / 16), Bytes.hexDigit (char.toNat % 16)]

def escapeChar (char : Char) : List Char :=
  if char = '"' then ['\\', '"']
  else if char = '\\' then ['\\', '\\']
  else if char = '\x08' then ['\\', 'b']
  else if char = '\x0c' then ['\\', 'f']
  else if char = '\n' then ['\\', 'n']
  else if char = '\r' then ['\\', 'r']
  else if char = '\t' then ['\\', 't']
  else if char.toNat < 0x20 then unicodeEscape char
  else [char]

def quoteWith (escape : Char → List Char) (text : String) : List Char :=
  '"' :: text.toList.flatMap escape ++ ['"']

def printNumber : Number Empty → List Char
  | .natural value => (toString value).toList
  | .negative value => (toString value).toList

def toVec (value : Json) : List UInt8 :=
  Bytes.ofText (String.ofList (value.render (quoteWith escapeChar) printNumber))

/-- `canonical_json`; `sort_json` is `sortKeys`. -/
def canonicalJson (netmap : PinNetmap) : List UInt8 := toVec netmap.toValue.sortKeys

/-! ## Signatures -/

/-- The check of a signature by key, message and signature; it fails for bytes
that are no key. -/
abbrev SignatureCheck := List UInt8 → List UInt8 → List UInt8 → Bool

namespace SignedPinNetmap

def verify (check : SignatureCheck) (signed : SignedPinNetmap)
    (pinnedGatewayPubkey : String) : Bool :=
  if RustText.eqIgnoreAsciiCase signed.gatewayPubkey pinnedGatewayPubkey then
    match Bytes.hexDecode signed.gatewayPubkey, Bytes.hexDecode signed.signature with
    | some key, some signature =>
      key.length = 32 && signature.length = 64 && check key (canonicalJson signed.netmap) signature
    | _, _ => false
  else
    false

def isStale (signed : SignedPinNetmap) (nowUnix : ℤ) : Bool :=
  netmapMaxAgeSeconds < nowUnix - signed.netmap.issuedAt

end SignedPinNetmap

end Teale.Protocol
