import GhostLayer.Network.Externals
import Mathlib.Logic.Function.Basic

/-! # A reference instance of the dependencies

Transparent stand-ins for the dependencies: texts and ciphertexts that show
everything they were made from, signatures that repeat what they sign. They have
all the properties that results of this development ask of the dependencies, so
those properties can hold together.
-/

namespace Network

open Foundation

/-- The value an injective encoding was made from. -/
noncomputable def invert {α β : Type} (encode : α → β) (code : β) : Option α :=
  open Classical in if hcode : ∃ value, encode value = code then some hcode.choose else none

theorem invert_apply {α β : Type} {encode : α → β} (hinjective : Function.Injective encode)
    (value : α) : invert encode (encode value) = some value := by
  have hcode : ∃ other, encode other = encode value := ⟨value, rfl⟩
  rw [invert, dif_pos hcode, hinjective hcode.choose_spec]

theorem apply_of_invert {α β : Type} {encode : α → β} {code : β} {value : α}
    (hinvert : invert encode code = some value) : encode value = code := by
  rw [invert] at hinvert
  split_ifs at hinvert with hcode
  obtain rfl := Option.some.inj hinvert
  exact hcode.choose_spec

/-- A text with one character for each byte. -/
def bytesText (bytes : Bytes) : String :=
  String.ofList (bytes.map (fun byte => Char.ofNat byte.toNat))

theorem char_ofNat_injective {first second : UInt8}
    (hchar : Char.ofNat first.toNat = Char.ofNat second.toNat) : first = second := by
  have hvalid : ∀ byte : UInt8, (Char.ofNat byte.toNat).toNat = byte.toNat := by
    intro byte
    have hlt : byte.toNat < 256 := byte.toNat_lt
    have hscalar : byte.toNat.isValidChar := .inl (by omega)
    rw [Char.ofNat, dif_pos hscalar]
    rfl
  have hnat := congrArg Char.toNat hchar
  rw [hvalid, hvalid] at hnat
  exact UInt8.toNat_inj.mp hnat

theorem bytesText_injective : Function.Injective bytesText := by
  intro first second htext
  have hchars := congrArg String.toList htext
  simp only [bytesText, String.toList_ofList] at hchars
  exact List.map_injective_iff.mpr (fun _ _ => char_ofNat_injective) hchars

def socketBytes : SocketAddr → Bytes
  | .v4 ip port => 4 :: (ip.toList ++ Bytes.bigEndian 2 port.toNat)
  | .v6 ip scopeId port =>
      6 :: (ip.toList ++ (Bytes.bigEndian 4 scopeId.toNat ++ Bytes.bigEndian 2 port.toNat))

theorem bigEndian_injective {width first second : Nat} (hfirst : first < 256 ^ width)
    (hsecond : second < 256 ^ width)
    (hbytes : Bytes.bigEndian width first = Bytes.bigEndian width second) : first = second := by
  rw [← Bytes.toNat_bigEndian_of_lt hfirst, hbytes, Bytes.toNat_bigEndian_of_lt hsecond]

theorem socketBytes_injective : Function.Injective socketBytes := by
  have hport : ∀ first second : UInt16,
      Bytes.bigEndian 2 first.toNat = Bytes.bigEndian 2 second.toNat → first = second :=
    fun first second hbytes =>
      UInt16.toNat_inj.mp (bigEndian_injective first.toNat_lt second.toNat_lt hbytes)
  have hscope : ∀ first second : UInt32,
      Bytes.bigEndian 4 first.toNat = Bytes.bigEndian 4 second.toNat → first = second :=
    fun first second hbytes =>
      UInt32.toNat_inj.mp (bigEndian_injective first.toNat_lt second.toNat_lt hbytes)
  intro first second hbytes
  rcases first with ⟨ip, port⟩ | ⟨ip, scopeId, port⟩ <;>
    rcases second with ⟨ip', port'⟩ | ⟨ip', scopeId', port'⟩
  · simp only [socketBytes, List.cons.injEq, true_and] at hbytes
    obtain ⟨hip, hrest⟩ := List.append_inj hbytes (by simp)
    rw [Vector.toList_inj.mp hip, hport _ _ hrest]
  · simp [socketBytes] at hbytes
  · simp [socketBytes] at hbytes
  · simp only [socketBytes, List.cons.injEq, true_and] at hbytes
    obtain ⟨hip, hrest⟩ := List.append_inj hbytes (by simp)
    obtain ⟨hid, hrest⟩ := List.append_inj hrest (by simp)
    rw [Vector.toList_inj.mp hip, hscope _ _ hid, hport _ _ hrest]

/-- A ciphertext that shows its key, nonce, associated data and message. -/
def transparentCipher (call : Bytes32 × Bytes × Bytes × Bytes) : Bytes :=
  (Json.arr [Serde.ofBytes call.1.toList, Serde.ofBytes call.2.1, Serde.ofBytes call.2.2.1,
    Serde.ofBytes call.2.2.2]).render

theorem ofBytes_injective : Function.Injective Serde.ofBytes := by
  intro first second hjson
  have hread := congrArg Serde.bytes hjson
  simpa using hread

theorem transparentCipher_injective : Function.Injective transparentCipher := by
  rintro ⟨key, nonce, message, data⟩ ⟨key', nonce', message', data'⟩ hbytes
  have hjson := Json.render_injective hbytes
  simp only [Json.arr.injEq, List.cons.injEq, ofBytes_injective.eq_iff, and_true] at hjson
  obtain ⟨hkey, rfl, rfl, rfl⟩ := hjson
  rw [Vector.toList_inj.mp hkey]

noncomputable def reference : Externals where
  parseJson := invert Json.render
  peerText peer := bytesText peer.bytes
  parsePeer := invert (fun peer : PeerId => bytesText peer.bytes)
  publicKey identity := ⟨identity.secret⟩
  encodePublic key := key.bytes
  decodePublic bytes := some ⟨bytes⟩
  toPeerId key := ⟨key.bytes⟩
  sign identity message := identity.secret ++ message
  verify key message signature := signature == key.bytes ++ message
  ephemeralPublic secret := secret
  diffieHellman secret ephemeral := Vector.zipWith (· + ·) secret ephemeral
  sha256 bytes := Vector.ofFn (fun index => bytes.getD index 0)
  hkdf _ shared _ := (shared, shared.map (· + 1))
  aeadEncrypt key nonce message data := some (transparentCipher (key, nonce, message, data))
  aeadDecrypt key nonce ciphertext data :=
    invert (fun message => transparentCipher (key, nonce, message, data)) ciphertext
  socketText address := bytesText (socketBytes address)
  parseSocket := invert (fun address => bytesText (socketBytes address))

namespace reference

theorem parsesJson : reference.ParsesJson :=
  fun json _ => invert_apply Json.render_injective json

theorem readsIdentities : reference.ReadsIdentities where
  peer peer := by
    refine invert_apply ?_ peer
    rintro ⟨first⟩ ⟨second⟩ htext
    exact congrArg PeerId.mk (bytesText_injective htext)
  publicKey _ := rfl

theorem readsSockets : reference.ReadsSockets :=
  fun address => invert_apply (bytesText_injective.comp socketBytes_injective) address

theorem signaturesVerify : reference.SignaturesVerify := by
  intro identity message
  simp [reference]

theorem signaturesBind : reference.SignaturesBind := by
  intro identity message message' hverify
  simp only [reference, beq_iff_eq] at hverify
  exact (List.append_cancel_left hverify).symm

theorem diffieHellmanCommutes : reference.DiffieHellmanCommutes := by
  intro first second
  simp only [reference]
  ext index
  simp [UInt8.add_comm]

theorem cipherOpens : reference.CipherOpens := by
  intro key nonce message data ciphertext hsealed
  obtain rfl := Option.some.inj hsealed
  refine invert_apply ?_ message
  intro first second hbytes
  simpa using transparentCipher_injective hbytes

/-- The ciphertext shows the call that it was sealed with. -/
theorem cipherIdeal : CipherCall.Ideal (CipherCall.Seals reference)
    (CipherCall.Opens reference) := by
  rintro ⟨key, nonce, message, data, ciphertext⟩
    ⟨key', nonce', message', data', ciphertext'⟩ hsealed hopened hsame
  have hcipher : transparentCipher (key, nonce, message, data) = ciphertext :=
    Option.some.inj hsealed
  have hcipher' : transparentCipher (key', nonce', message', data') = ciphertext' :=
    @apply_of_invert _ _ (fun text => transparentCipher (key', nonce', text, data')) _ _ hopened
  have hcall := transparentCipher_injective (hcipher'.trans (hsame.trans hcipher.symm))
  simp only [Prod.mk.injEq] at hcall
  obtain ⟨rfl, rfl, rfl, rfl⟩ := hcall
  exact congrArg (CipherCall.mk key' nonce' message' data') hsame

end reference

end Network
