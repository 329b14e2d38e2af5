import GhostLayer.Foundation.Fallible
import GhostLayer.Foundation.Serde

/-! # What the network crate takes from its dependencies

Identities, key agreement, signatures, the cipher, the JSON parser and the texts
of addresses come from other crates or from the platform. They enter the model
as one record of functions. What the code relies on is stated separately, one
property per concern, so that a result names the ones it needs.
-/

namespace Network

open Foundation

structure PeerId where
  bytes : Bytes
  deriving DecidableEq

structure PublicKey where
  bytes : Bytes
  deriving DecidableEq

structure Keypair where
  secret : Bytes
  deriving DecidableEq

structure SessionId where
  bytes : Vector UInt8 16
  deriving DecidableEq

abbrev Bytes32 := Vector UInt8 32

inductive IpAddr where
  | v4 (octets : Vector UInt8 4)
  | v6 (octets : Vector UInt8 16)
  deriving DecidableEq

/-! ### Addresses of the platform -/

namespace Ipv4Addr

def new (a b c d : UInt8) : Vector UInt8 4 := ⟨#[a, b, c, d], rfl⟩

def isPrivate (octets : Vector UInt8 4) : Bool :=
  octets[0] = 10 ∨ (octets[0] = 172 ∧ octets[1] ≥ 16 ∧ octets[1] ≤ 31) ∨
    (octets[0] = 192 ∧ octets[1] = 168)

def isLinkLocal (octets : Vector UInt8 4) : Bool := octets[0] = 169 ∧ octets[1] = 254

end Ipv4Addr

namespace Ipv6Addr

def isUniqueLocal (octets : Vector UInt8 16) : Bool := octets[0] &&& 0xfe = 0xfc

def isUnicastLinkLocal (octets : Vector UInt8 16) : Bool :=
  octets[0] = 0xfe ∧ octets[1] &&& 0xc0 = 0x80

end Ipv6Addr

namespace IpAddr

def isLoopback : IpAddr → Bool
  | .v4 octets => octets[0] == 127
  | .v6 octets => octets.toList == List.replicate 15 0 ++ [1]

def isUnspecified : IpAddr → Bool
  | .v4 octets => octets.toList.all (· == 0)
  | .v6 octets => octets.toList.all (· == 0)

def isMulticast : IpAddr → Bool
  | .v4 octets => octets[0] >>> 4 == 14
  | .v6 octets => octets[0] == 255

def isBroadcast : IpAddr → Bool
  | .v4 octets => octets.toList.all (· == 255)
  | .v6 _ => false

end IpAddr

/-- A socket address. The flow information of an IPv6 address has no text form and is left out. -/
inductive SocketAddr where
  | v4 (ip : Vector UInt8 4) (port : UInt16)
  | v6 (ip : Vector UInt8 16) (scopeId : UInt32) (port : UInt16)
  deriving DecidableEq

namespace SocketAddr

def new : IpAddr → UInt16 → SocketAddr
  | .v4 octets, port => .v4 octets port
  | .v6 octets, port => .v6 octets 0 port

def port : SocketAddr → UInt16
  | .v4 _ port => port
  | .v6 _ _ port => port

@[simp] theorem port_new (address : IpAddr) (port : UInt16) : (new address port).port = port := by
  cases address <;> rfl

def ip : SocketAddr → IpAddr
  | .v4 ip _ => .v4 ip
  | .v6 ip _ _ => .v6 ip

end SocketAddr

structure Externals where
  parseJson : Bytes → Option Json
  peerText : PeerId → String
  parsePeer : String → Option PeerId
  publicKey : Keypair → PublicKey
  encodePublic : PublicKey → Bytes
  decodePublic : Bytes → Option PublicKey
  toPeerId : PublicKey → PeerId
  sign : Keypair → Bytes → Bytes
  verify : PublicKey → Bytes → Bytes → Bool
  ephemeralPublic : Bytes32 → Bytes32
  diffieHellman : Bytes32 → Bytes32 → Bytes32
  sha256 : Bytes → Bytes32
  /-- 64 bytes of key material from a salt, a secret and a label, split in the middle. -/
  hkdf : Bytes32 → Bytes32 → String → Bytes32 × Bytes32
  /-- Key, nonce, message and associated data. -/
  aeadEncrypt : Bytes32 → Bytes → Bytes → Bytes → Option Bytes
  aeadDecrypt : Bytes32 → Bytes → Bytes → Bytes → Option Bytes
  socketText : SocketAddr → String
  parseSocket : String → Option SocketAddr

namespace Externals

variable (ext : Externals)

def peerOf (identity : Keypair) : PeerId := ext.toPeerId (ext.publicKey identity)

/-- Decode a message from its JSON text. -/
def fromSlice {α : Type} (decode : Serde.Decoder α) (payload : Bytes) : Option α :=
  (ext.parseJson payload).bind decode

/-- The parser reads printed values back, up to its nesting limit. -/
def ParsesJson : Prop :=
  ∀ json, Json.readable 127 json = true → ext.parseJson json.render = some json

/-- Texts of peers and encodings of public keys are read back. -/
structure ReadsIdentities : Prop where
  peer : ∀ peer, ext.parsePeer (ext.peerText peer) = some peer
  publicKey : ∀ key, ext.decodePublic (ext.encodePublic key) = some key

/-- Texts of socket addresses are read back. -/
def ReadsSockets : Prop := ∀ address, ext.parseSocket (ext.socketText address) = some address

def SignaturesVerify : Prop :=
  ∀ identity message,
    ext.verify (ext.publicKey identity) message (ext.sign identity message) = true

/-- A signature is one of a single message. -/
def SignaturesBind : Prop :=
  ∀ identity message message',
    ext.verify (ext.publicKey identity) message' (ext.sign identity message) = true →
      message' = message

def DiffieHellmanCommutes : Prop :=
  ∀ first second, ext.diffieHellman first (ext.ephemeralPublic second) =
    ext.diffieHellman second (ext.ephemeralPublic first)

/-- What was sealed is opened under the same key, nonce and associated data. -/
def CipherOpens : Prop :=
  ∀ key nonce message associatedData ciphertext,
    ext.aeadEncrypt key nonce message associatedData = some ciphertext →
      ext.aeadDecrypt key nonce ciphertext associatedData = some message

variable {ext}

theorem fromSlice_render {α : Type} {decode : Serde.Decoder α} {json : Json} {value : α}
    (hparse : ext.ParsesJson) (hreadable : Json.readable 127 json = true)
    (hdecode : decode json = some value) : ext.fromSlice decode json.render = some value := by
  rw [fromSlice, hparse json hreadable, Option.bind_some, hdecode]

end Externals

/-! ## Calls of the cipher -/

/-- What the cipher was called with and the ciphertext, to seal it or to open it. -/
structure CipherCall where
  key : Bytes32
  nonce : Bytes
  message : Bytes
  associatedData : Bytes
  ciphertext : Bytes

namespace CipherCall

def Seals (ext : Externals) (call : CipherCall) : Prop :=
  ext.aeadEncrypt call.key call.nonce call.message call.associatedData = some call.ciphertext

def Opens (ext : Externals) (call : CipherCall) : Prop :=
  ext.aeadDecrypt call.key call.nonce call.ciphertext call.associatedData = some call.message

/-- Among some calls, a ciphertext that was sealed is opened as what it was sealed as, and under
nothing else. -/
def Ideal (sealed opened : CipherCall → Prop) : Prop :=
  ∀ first second, sealed first → opened second → second.ciphertext = first.ciphertext →
    second = first

theorem Ideal.mono {sealed opened sealed' opened' : CipherCall → Prop}
    (hideal : Ideal sealed opened) (hsealed : ∀ call, sealed' call → sealed call)
    (hopened : ∀ call, opened' call → opened call) : Ideal sealed' opened' :=
  fun first second hfirst hsecond =>
    hideal first second (hsealed first hfirst) (hopened second hsecond)

end CipherCall

/-! ## Checked counters -/

/-- `checked_add(1)` on 64-bit counters. -/
def checkedSucc (counter : UInt64) : Option UInt64 :=
  if counter.toNat + 1 < 2 ^ 64 then some (counter + 1) else none

theorem checkedSucc_eq_some {counter next : UInt64} :
    checkedSucc counter = some next ↔ next.toNat = counter.toNat + 1 := by
  have hcounter : counter.toNat < 2 ^ 64 := counter.toNat_lt
  have hnext : next.toNat < 2 ^ 64 := next.toNat_lt
  unfold checkedSucc
  split_ifs with hfits
  · rw [Option.some.injEq, ← UInt64.toNat_inj, UInt64.toNat_add, UInt64.toNat_one,
      Nat.mod_eq_of_lt hfits]
    exact eq_comm
  · simp only [false_iff]
    omega

theorem checkedSucc_isSome {counter : UInt64} :
    (∃ next, checkedSucc counter = some next) ↔ counter.toNat + 1 < 2 ^ 64 := by
  simp [checkedSucc]

end Network
