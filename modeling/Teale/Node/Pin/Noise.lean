import Mathlib.Data.Vector.Defs
import Teale.Lib.Bytes
import Teale.Lib.Transaction

/-!
# The handshake of a private network

`node/src/pin/noise.rs` up to the transport keys: `Noise_IK` with its two deviations. The
cryptography is taken from `Primitives`, and so is the alphabet `β`: the same functions run on
bytes and on symbolic bytes.
-/

namespace Teale.Node.Pin

open Transactional
open List hiding Vector

variable {β σ : Type}

abbrev Key (β : Type) := Vector β 32

def Key.ofSlice (slice : List β) : Option (Key β) :=
  if size : slice.length = 32 then some ⟨slice.toArray, size⟩ else none

/-- BLAKE2s, X25519, HKDF-SHA256 without salt and info, and ChaCha20-Poly1305
by key, nonce and associated data. `literal` is a byte of the program text and
`xor` combines a byte with one. -/
structure Primitives (β σ : Type) where
  literal : UInt8 → β
  xor : β → UInt8 → β
  blake2s : List β → Key β
  publicKey : σ → Key β
  diffieHellman : σ → Key β → Key β
  hkdfSha256 : List β → Key β
  sealAead : Key β → List UInt8 → List β → List β → List β
  openAead : Key β → List UInt8 → List β → List β → Option (List β)

def protocolName : String := "Noise_IK_25519_ChaChaPoly_BLAKE2s"

def blake2sBlockSize : ℕ := 64

def tagLen : ℕ := 16

def aeadNonce (counter : UInt64) : List UInt8 := [0, 0, 0, 0] ++ Bytes.littleEndian 8 counter.toNat

structure TransportKeys (β : Type) where
  sendKey : Key β
  receiveKey : Key β
  handshakeHash : Key β

structure InitiatorState (β σ : Type) where
  ck : Key β
  h : Key β
  localEphemeral : σ
  remoteStatic : Key β

namespace Primitives

variable (P : Primitives β σ)

/-! ## Hashes and ciphers -/

def mixHash (h : Key β) (data : List β) : Key β := P.blake2s (h.toList ++ data)

def hmacBlake2s (key data : List β) : Key β :=
  let normalized := if blake2sBlockSize < key.length then (P.blake2s key).toList
    else key
  let block := normalized.take blake2sBlockSize ++
    List.replicate (blake2sBlockSize - normalized.length) (P.literal 0)
  let ipad := block.map fun byte => P.xor byte 0x36
  let opad := block.map fun byte => P.xor byte 0x5c
  let inner := P.blake2s (ipad ++ data)
  P.blake2s (opad ++ inner.toList)

def noiseHkdf (chainingKey : Key β) (ikm : List β) : Key β × Key β :=
  let temp := P.hmacBlake2s chainingKey.toList ikm
  let out1 := P.hmacBlake2s temp.toList [P.literal 1]
  let out2 := P.hmacBlake2s temp.toList (out1.toList ++ [P.literal 2])
  (out1, out2)

def dh (secret : σ) (remote : Key β) : Key β := P.hkdfSha256 (P.diffieHellman secret remote).toList

def encrypt (key : Key β) (counter : UInt64) (ad plaintext : List β) : List β :=
  P.sealAead key (aeadNonce counter) ad plaintext

def decrypt (key : Key β) (counter : UInt64) (ad ciphertextAndTag : List β) :
    Except String (List β) := do
  failIf (ciphertextAndTag.length < tagLen) "ciphertext shorter than tag"
  getOr (P.openAead key (aeadNonce counter) ad ciphertextAndTag) "AEAD decryption failed"

/-- `initialize_symmetric`: a name of up to 32 bytes is padded, a longer one
hashed. -/
def initializeSymmetric : Key β × Key β :=
  let name := (Bytes.ofText protocolName).map P.literal
  let h :=
    if name.length ≤ 32 then
      (Key.ofSlice (name ++ List.replicate (32 - name.length) (P.literal 0))).getD (P.blake2s name)
    else
      P.blake2s name
  (h, h)

/-! ## The two sides -/

def initiatorBegin (localStatic : σ) (remoteStatic : Key β) (ephemeral : σ)
    (payload : List β) : List β × InitiatorState β σ :=
  let (ck, h) := P.initializeSymmetric
  let h := P.mixHash h remoteStatic.toList
  -- -> e
  let ephPub := P.publicKey ephemeral
  let h := P.mixHash h ephPub.toList
  -- -> es
  let es := P.dh ephemeral remoteStatic
  let (ck, k1) := P.noiseHkdf ck es.toList
  -- -> s
  let encryptedStatic := P.encrypt k1 0 h.toList (P.publicKey localStatic).toList
  let h := P.mixHash h encryptedStatic
  -- -> ss
  let ss := P.dh localStatic remoteStatic
  let (ck, k2) := P.noiseHkdf ck ss.toList
  let encryptedPayload := P.encrypt k2 0 h.toList payload
  let h := P.mixHash h encryptedPayload
  (ephPub.toList ++ encryptedStatic ++ encryptedPayload,
    { ck, h, localEphemeral := ephemeral, remoteStatic })

/-- The payload that ends a handshake message: it is checked and hashed unless
it is missing. -/
def checkPayload (key h : Key β) (encryptedPayload : List β)
    (context : String) : Except String (Key β) :=
  if encryptedPayload.isEmpty then
    pure h
  else do
    let _ ← (P.decrypt key 0 h.toList encryptedPayload).mapError fun _ => context
    pure (P.mixHash h encryptedPayload)

def initiatorFinish (state : InitiatorState β σ) (message2 : List β) :
    Except String (TransportKeys β) := do
  failIf (message2.length < 32) "message2 too short"
  -- <- e
  let remoteEph ← getOr (Key.ofSlice (message2.take 32)) "checked length above"
  let h := P.mixHash state.h remoteEph.toList
  -- <- ee
  let ee := P.dh state.localEphemeral remoteEph
  let (ck, _) := P.noiseHkdf state.ck ee.toList
  -- <- "se", the value of es once more
  let se := P.dh state.localEphemeral state.remoteStatic
  let (ck, k2) := P.noiseHkdf ck se.toList
  let h ← P.checkPayload k2 h (message2.drop 32) "msg2 payload decryption failed"
  let (sendKey, receiveKey) := P.noiseHkdf ck []
  pure { sendKey, receiveKey, handshakeHash := h }

/-- `responder_complete`: the reply, the transport keys and the static key of
the initiator. -/
def responderComplete (localStatic : σ) (message1 : List β) (ephemeral : σ) (payload : List β) :
    Except String (List β × TransportKeys β × Key β) := do
  failIf (message1.length < 32 + 32 + tagLen) "message1 too short"
  let (ck, h) := P.initializeSymmetric
  let h := P.mixHash h (P.publicKey localStatic).toList
  -- -> e
  let remoteEph ← getOr (Key.ofSlice (message1.take 32)) "checked length above"
  let h := P.mixHash h remoteEph.toList
  -- -> es
  let es := P.dh localStatic remoteEph
  let (ck, k1) := P.noiseHkdf ck es.toList
  -- -> s
  let encryptedStatic := (message1.drop 32).take (32 + tagLen)
  let remoteStaticBytes ← (P.decrypt k1 0 h.toList encryptedStatic).mapError
    fun _ => "initiator static key decryption failed"
  let remoteStatic ← getOr (Key.ofSlice remoteStaticBytes)
    "initiator static key has wrong length"
  let h := P.mixHash h encryptedStatic
  -- -> ss
  let ss := P.dh localStatic remoteStatic
  let (ck, k2) := P.noiseHkdf ck ss.toList
  let h ← P.checkPayload k2 h (message1.drop (32 + 32 + tagLen))
    "msg1 payload decryption failed"
  -- <- e
  let ephPub := P.publicKey ephemeral
  let h := P.mixHash h ephPub.toList
  -- <- ee
  let ee := P.dh ephemeral remoteEph
  let (ck, _) := P.noiseHkdf ck ee.toList
  -- <- "se", the value of es once more
  let se := P.dh localStatic remoteEph
  let (ck, k4) := P.noiseHkdf ck se.toList
  let encryptedReplyPayload := P.encrypt k4 0 h.toList payload
  let h := P.mixHash h encryptedReplyPayload
  let (initiatorSend, initiatorReceive) := P.noiseHkdf ck []
  pure (ephPub.toList ++ encryptedReplyPayload,
      { sendKey := initiatorReceive, receiveKey := initiatorSend,
        handshakeHash := h },
      remoteStatic)

/-! ## The key schedule

What the two sides hash and derive, by the values they exchange. -/

/-- The hash after the static key of the responder and the ephemeral key of the
initiator. -/
def openingHash (responder ephemeral : Key β) : Key β :=
  P.mixHash (P.mixHash P.initializeSymmetric.2 responder.toList) ephemeral.toList

/-- The chaining key and the key for the static key of the initiator. -/
def openingKeys (es : Key β) : Key β × Key β := P.noiseHkdf P.initializeSymmetric.1 es.toList

/-- The chaining key and the key for the payload of the first message. -/
def payloadKeys (es ss : Key β) : Key β × Key β := P.noiseHkdf (P.openingKeys es).1 ss.toList

/-- The chaining key and the key for the payload of the second message. -/
def replyKeys (ck ee es : Key β) : Key β × Key β :=
  P.noiseHkdf (P.noiseHkdf ck ee.toList).1 es.toList

def reply (ck ee es h ephPub : Key β) (payload : List β) : List β × TransportKeys β :=
  let keys := P.replyKeys ck ee es
  let h := P.mixHash h ephPub.toList
  let encrypted := P.encrypt keys.2 0 h.toList payload
  let transport := P.noiseHkdf keys.1 []
  (ephPub.toList ++ encrypted,
    { sendKey := transport.2, receiveKey := transport.1,
      handshakeHash := P.mixHash h encrypted })

theorem initiatorBegin_eq (localStatic ephemeral : σ) (remoteStatic : Key β) (payload : List β) :
    P.initiatorBegin localStatic remoteStatic ephemeral payload =
      let es := P.dh ephemeral remoteStatic
      let opened := P.openingHash remoteStatic (P.publicKey ephemeral)
      let encryptedStatic := P.encrypt (P.openingKeys es).2 0 opened.toList
        (P.publicKey localStatic).toList
      let keys := P.payloadKeys es (P.dh localStatic remoteStatic)
      let h := P.mixHash opened encryptedStatic
      let encryptedPayload := P.encrypt keys.2 0 h.toList payload
      ((P.publicKey ephemeral).toList ++ encryptedStatic ++ encryptedPayload,
        { ck := keys.1, h := P.mixHash h encryptedPayload,
          localEphemeral := ephemeral, remoteStatic }) :=
  rfl

theorem responderComplete_eq_ok_iff :
    P.responderComplete localStatic message1 ephemeral payload = .ok result ↔
      32 + 32 + tagLen ≤ message1.length ∧ ∃ remoteEph remoteStaticBytes remoteStatic h,
          let es := P.dh localStatic remoteEph
          let encryptedStatic := (message1.drop 32).take (32 + tagLen)
          let opened := P.openingHash (P.publicKey localStatic) remoteEph
          let keys := P.payloadKeys es (P.dh localStatic remoteStatic)
          Key.ofSlice (message1.take 32) = some remoteEph ∧
            P.decrypt (P.openingKeys es).2 0 opened.toList encryptedStatic = .ok remoteStaticBytes ∧
            Key.ofSlice remoteStaticBytes = some remoteStatic ∧
            P.checkPayload keys.2 (P.mixHash opened encryptedStatic)
              (message1.drop (32 + 32 + tagLen))
              "msg1 payload decryption failed" = .ok h ∧
            (let answer := P.reply keys.1 (P.dh ephemeral remoteEph) es h
              (P.publicKey ephemeral) payload
            (answer.1, answer.2, remoteStatic)) = result := by
  unfold responderComplete
  simp only [bind_eq_ok, failIf_eq_ok, getOr_eq_ok, mapError_eq_ok, pure_eq_ok, Nat.not_lt]
  constructor
  · rintro ⟨-, long, remoteEph, sliced, bytes, opened, remoteStatic, isKey, h, checked, answered⟩
    exact ⟨long, remoteEph, bytes, remoteStatic, h, sliced, opened, isKey, checked, answered⟩
  · rintro ⟨long, remoteEph, bytes, remoteStatic, h, sliced, opened, isKey, checked, answered⟩
    exact ⟨⟨⟩, long, remoteEph, sliced, bytes, opened, remoteStatic, isKey, h, checked, answered⟩

theorem initiatorFinish_eq_ok_iff : P.initiatorFinish state message2 = .ok result ↔
      32 ≤ message2.length ∧ ∃ remoteEph h,
          let keys := P.replyKeys state.ck (P.dh state.localEphemeral remoteEph)
            (P.dh state.localEphemeral state.remoteStatic)
          let transport := P.noiseHkdf keys.1 []
          Key.ofSlice (message2.take 32) = some remoteEph ∧
            P.checkPayload keys.2 (P.mixHash state.h remoteEph.toList)
              (message2.drop 32) "msg2 payload decryption failed" = .ok h ∧
            ({ sendKey := transport.1, receiveKey := transport.2,
               handshakeHash := h } : TransportKeys β) = result := by
  unfold initiatorFinish
  simp only [bind_eq_ok, failIf_eq_ok, getOr_eq_ok, pure_eq_ok, Nat.not_lt]
  constructor
  · rintro ⟨-, long, remoteEph, sliced, h, checked, answered⟩
    exact ⟨long, remoteEph, h, sliced, checked, answered⟩
  · rintro ⟨long, remoteEph, h, sliced, checked, answered⟩
    exact ⟨⟨⟩, long, remoteEph, sliced, h, checked, answered⟩

/-! ## Agreement -/

/-- What the handshake relies on: both sides of a Diffie-Hellman exchange get
the same value, and what was sealed is opened again, 16 bytes longer. -/
structure Correct : Prop where
  diffieHellman_comm : ∀ first second, P.diffieHellman first (P.publicKey second) =
      P.diffieHellman second (P.publicKey first)
  open_seal : ∀ key nonce ad plaintext,
    P.openAead key nonce ad (P.sealAead key nonce ad plaintext) = some plaintext
  length_seal : ∀ key nonce ad plaintext,
    (P.sealAead key nonce ad plaintext).length = plaintext.length + tagLen

end Primitives

variable (key : Key β)

@[simp] theorem Key.ofSlice_toList : Key.ofSlice key.toList = some key := by
  rw [Key.ofSlice, dif_pos key.length_toList]
  rfl

namespace Primitives

variable {P : Primitives β σ}

section

variable (correct : P.Correct)

include correct

theorem Correct.dh_comm (first second : σ) :
    P.dh first (P.publicKey second) = P.dh second (P.publicKey first) := by
  rw [dh, correct.diffieHellman_comm, dh]

theorem Correct.length_encrypt (key : Key β) (counter : UInt64) (ad plaintext : List β) :
    (P.encrypt key counter ad plaintext).length = plaintext.length + tagLen :=
  correct.length_seal _ _ _ _

theorem Correct.decrypt_encrypt (key : Key β) (counter : UInt64)
    (ad plaintext : List β) : P.decrypt key counter ad (P.encrypt key counter ad plaintext) =
      .ok plaintext := by
  have long : ¬ (P.encrypt key counter ad plaintext).length < tagLen := by
    rw [correct.length_encrypt]
    omega
  rw [decrypt, encrypt, correct.open_seal]
  exact bind_eq_ok.mpr ⟨⟨⟩, failIf_eq_ok.mpr long, rfl⟩

theorem Correct.checkPayload_encrypt (key h : Key β) (payload : List β)
    (context : String) : P.checkPayload key h (P.encrypt key 0 h.toList payload) context =
      .ok (P.mixHash h (P.encrypt key 0 h.toList payload)) := by
  have sealed : (P.encrypt key 0 h.toList payload).isEmpty = false := by
    rw [isEmpty_eq_false_iff, ← length_pos_iff, correct.length_encrypt, tagLen]
    omega
  rw [checkPayload, sealed, if_neg Bool.false_ne_true, correct.decrypt_encrypt]
  rfl

end

theorem take_key_append (rest : List β) : (key.toList ++ rest).take 32 = key.toList :=
  take_left' key.length_toList

theorem drop_key_append (rest : List β) : (key.toList ++ rest).drop 32 = rest :=
  drop_left' key.length_toList

section

variable (correct : P.Correct)

include correct

theorem Correct.parts_of_message1 (ephPub key staticKey : Key β) (counter : UInt64)
    (ad encryptedPayload : List β) :
    let encryptedStatic := P.encrypt key counter ad staticKey.toList
    let message1 := ephPub.toList ++ encryptedStatic ++ encryptedPayload
    32 + 32 + tagLen ≤ message1.length ∧ message1.take 32 = ephPub.toList ∧
      (message1.drop 32).take (32 + tagLen) = encryptedStatic ∧
      message1.drop (32 + 32 + tagLen) = encryptedPayload := by
  intro encryptedStatic message1
  have size : encryptedStatic.length = 32 + tagLen := by
    rw [correct.length_encrypt, staticKey.length_toList]
  have parts : message1 = ephPub.toList ++ (encryptedStatic ++ encryptedPayload) :=
    append_assoc _ _ _
  have headSize : (ephPub.toList ++ encryptedStatic).length = 32 + 32 + tagLen := by
    rw [length_append, ephPub.length_toList, size, Nat.add_assoc]
  refine ⟨?_, ?_, ?_, ?_⟩
  · rw [length_append, headSize]
    exact Nat.le_add_right _ _
  · rw [parts]
    exact take_key_append ephPub _
  · rw [parts, drop_key_append]
    exact take_left' size
  · exact drop_left' headSize

/-- A responder answers the first message of an initiator, from the chaining
key and the hash that the initiator keeps. -/
theorem Correct.responderComplete_initiatorBegin
    (initiatorStatic responderStatic initiatorEphemeral responderEphemeral : σ)
    (payload1 payload2 : List β) :
    let begun := P.initiatorBegin initiatorStatic (P.publicKey responderStatic)
      initiatorEphemeral payload1
    let answer := P.reply begun.2.ck
      (P.dh responderEphemeral (P.publicKey initiatorEphemeral))
      (P.dh responderStatic (P.publicKey initiatorEphemeral)) begun.2.h
      (P.publicKey responderEphemeral) payload2
    P.responderComplete responderStatic begun.1 responderEphemeral payload2 =
      .ok (answer.1, answer.2, P.publicKey initiatorStatic) := by
  have es := correct.dh_comm initiatorEphemeral responderStatic
  have ss := correct.dh_comm initiatorStatic responderStatic
  rw [initiatorBegin_eq, es, ss]
  intro begun answer
  obtain ⟨long, first, second, third⟩ := correct.parts_of_message1 (P.publicKey initiatorEphemeral)
    (P.openingKeys (P.dh responderStatic (P.publicKey initiatorEphemeral))).2
    (P.publicKey initiatorStatic) 0
    (P.openingHash (P.publicKey responderStatic) (P.publicKey initiatorEphemeral)).toList
    _
  refine (responderComplete_eq_ok_iff P).mpr ⟨long,
    P.publicKey initiatorEphemeral, (P.publicKey initiatorStatic).toList,
    P.publicKey initiatorStatic, begun.2.h, ?_, ?_, Key.ofSlice_toList _, ?_, rfl⟩
  · rw [first, Key.ofSlice_toList]
  · rw [second, correct.decrypt_encrypt]
  · rw [second, third]
    exact correct.checkPayload_encrypt _ _ payload1 _

theorem Correct.initiatorFinish_reply (state : InitiatorState β σ) (ephPub : Key β)
    (payload : List β) (sameEe : P.dh state.localEphemeral ephPub = ee)
    (sameEs : P.dh state.localEphemeral state.remoteStatic = es) :
    let answer := P.reply state.ck ee es state.h ephPub payload
    P.initiatorFinish state answer.1 =
      .ok { sendKey := answer.2.receiveKey, receiveKey := answer.2.sendKey,
            handshakeHash := answer.2.handshakeHash } := by
  subst sameEe sameEs
  intro answer
  have parts : answer.1 = ephPub.toList ++ _ := rfl
  have long : 32 ≤ answer.1.length := by
    rw [parts, length_append, ephPub.length_toList]
    exact Nat.le_add_right _ _
  have first : answer.1.take 32 = ephPub.toList := take_key_append ephPub _
  have rest : answer.1.drop 32 = _ := drop_key_append ephPub _
  refine (initiatorFinish_eq_ok_iff P).mpr ⟨long, ephPub, answer.2.handshakeHash, ?_, ?_, rfl⟩
  · rw [first, Key.ofSlice_toList]
  · rw [rest]
    exact correct.checkPayload_encrypt _ _ payload _

/-- An exchange that nobody interferes with: both sides finish, the responder
learns the static key of the initiator, and they agree on the hash of the
handshake and on the keys. -/
theorem handshake_agrees
    (initiatorStatic responderStatic initiatorEphemeral responderEphemeral : σ)
    (payload1 payload2 : List β) :
    let begun : List β × InitiatorState β σ :=
      P.initiatorBegin initiatorStatic (P.publicKey responderStatic) initiatorEphemeral payload1
    ∃ reply responderKeys initiatorKeys,
      P.responderComplete responderStatic begun.1 responderEphemeral payload2 =
          .ok (reply, responderKeys, P.publicKey initiatorStatic) ∧
        P.initiatorFinish begun.2 reply = .ok initiatorKeys ∧
        initiatorKeys.handshakeHash = responderKeys.handshakeHash ∧
        initiatorKeys.sendKey = responderKeys.receiveKey ∧
        responderKeys.sendKey = initiatorKeys.receiveKey := by
  intro begun
  have responds := correct.responderComplete_initiatorBegin initiatorStatic
    responderStatic initiatorEphemeral responderEphemeral payload1 payload2
  have finishes := correct.initiatorFinish_reply begun.2 (P.publicKey responderEphemeral) payload2
    (correct.dh_comm initiatorEphemeral responderEphemeral)
    (correct.dh_comm initiatorEphemeral responderStatic)
  exact ⟨_, _, _, responds, finishes, rfl, rfl, rfl⟩

end

end Primitives

/-! ## A suite to compute with -/

def checksum (data : List UInt8) : UInt8 :=
  data.foldl (fun sum byte => (sum ^^^ byte) * 167 + sum / 8 + 1) 7

/-- Keys of one repeated byte, checksums for hashes, and a tag that is half of
the key. -/
def checksumSuite : Primitives UInt8 UInt8 where
  literal := id
  xor := fun byte mask => byte ^^^ mask
  blake2s data := Vector.replicate 32 (checksum data)
  publicKey secret := Vector.replicate 32 secret
  diffieHellman secret remote := remote.map fun byte => byte ^^^ secret
  hkdfSha256 data := Vector.replicate 32 (checksum data)
  sealAead key _ _ plaintext := plaintext ++ key.toList.take tagLen
  openAead key _ _ sealed :=
    if sealed.drop (sealed.length - tagLen) = key.toList.take tagLen then
      some (sealed.take (sealed.length - tagLen))
    else
      none

theorem checksumSuite_correct : checksumSuite.Correct where
  diffieHellman_comm first second := by simp [checksumSuite, UInt8.xor_comm]
  open_seal key nonce ad plaintext := by
    have tag : (key.toList.take tagLen).length = tagLen := by simp [tagLen]
    simp [checksumSuite, tag]
  length_seal key nonce ad plaintext := by simp [checksumSuite, tagLen]

theorem handshake_agrees_checksumSuite :
    let begun := checksumSuite.initiatorBegin 3 (checksumSuite.publicKey 5) 7 [1, 2]
    ∃ reply responderKeys initiatorKeys, checksumSuite.responderComplete 5 begun.1 11 [] =
          .ok (reply, responderKeys, checksumSuite.publicKey 3) ∧
        checksumSuite.initiatorFinish begun.2 reply = .ok initiatorKeys ∧
        initiatorKeys.handshakeHash = responderKeys.handshakeHash ∧
        initiatorKeys.sendKey = responderKeys.receiveKey ∧
        responderKeys.sendKey = initiatorKeys.receiveKey :=
  Primitives.handshake_agrees checksumSuite_correct 3 5 7 11 [1, 2] []

end Teale.Node.Pin
