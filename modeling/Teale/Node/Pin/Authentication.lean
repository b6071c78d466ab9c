import Teale.Lib.Symbolic
import Teale.Node.Pin.Noise

/-!
# Who takes part in a handshake

The handshake on symbolic bytes. A message whose payload is there is tied to the private keys; one
that ends before its payload is accepted from anybody.
-/

namespace Teale.Node.Pin

open Transactional Symbolic Primitives
open List hiding Vector

inductive Hash where
  | blake2s
  | hkdfSha256

noncomputable def symbolicSuite : Primitives (Byte Hash) ℕ where
  literal := .raw
  xor := xor
  blake2s := digest .blake2s
  publicKey := publicKey
  diffieHellman := agree
  hkdfSha256 := digest .hkdfSha256
  sealAead := encipher
  openAead := decipher

@[simp] theorem symbolicSuite_publicKey (secret : ℕ) :
    symbolicSuite.publicKey secret = publicKey secret :=
  rfl

@[simp] theorem symbolicSuite_encrypt (key : Key (Byte Hash)) (counter : UInt64)
    (ad plaintext : List (Byte Hash)) : symbolicSuite.encrypt key counter ad plaintext =
      encipher key (aeadNonce counter) ad plaintext :=
  rfl

theorem symbolicSuite_correct : symbolicSuite.Correct where
  diffieHellman_comm := agree_comm
  open_seal _ _ _ _ := decipher_eq_some_iff.mpr rfl
  length_seal := length_encipher

/-! ## What a key shows -/

section Discreet

variable {secret : ℕ} {remote : Block Hash} {chainingKey : Key (Byte Hash)}
  {key data : List (Byte Hash)}

theorem discreet_of_hmacBlake2s
    (discreet : ∀ byte ∈ (symbolicSuite.hmacBlake2s key data).toList, Discreet secret remote byte) :
    (∀ byte ∈ data, Discreet secret remote byte) ∧
      (key.length ≤ blake2sBlockSize → ∀ byte ∈ key, Discreet secret remote byte) := by
  have outer := discreet_digest_iff.mp discreet
  have inner := discreet_digest_iff.mp fun byte member =>
    outer byte (mem_append_right _ member)
  refine ⟨fun byte member => inner byte (mem_append_right _ member), ?_⟩
  intro fits byte member
  rw [← xor_xor byte 0x36]
  apply discreet_xor
  apply inner
  apply mem_append_left
  rw [if_neg (Nat.not_lt.mpr fits), take_of_length_le fits]
  exact mem_map_of_mem (mem_append_left _ member)

theorem discreet_of_noiseHkdf {ikm : List (Byte Hash)}
    (discreet : ∀ byte ∈ (symbolicSuite.noiseHkdf chainingKey ikm).2.toList,
      Discreet secret remote byte) : ∀ byte ∈ ikm, Discreet secret remote byte := by
  have temp := (discreet_of_hmacBlake2s discreet).2 (by
    rw [Vector.length_toList]
    decide)
  exact (discreet_of_hmacBlake2s temp).1

theorem not_discreet_noiseHkdf_dh (chainingKey : Key (Byte Hash)) :
    ¬ ∀ byte ∈ (symbolicSuite.noiseHkdf chainingKey
        (symbolicSuite.dh secret remote).toList).2.toList, Discreet secret remote byte := by
  intro discreet
  have mixed := discreet_of_noiseHkdf discreet
  exact not_discreet_agree (discreet_digest_iff.mp mixed)

end Discreet

/-! ## Payloads -/

theorem eq_encipher_of_decrypt {key : Key (Byte Hash)} {counter : UInt64}
    {ad ciphertext plaintext : List (Byte Hash)}
    (opened : symbolicSuite.decrypt key counter ad ciphertext = .ok plaintext) :
    ciphertext = encipher key (aeadNonce counter) ad plaintext := by
  simp only [decrypt, bind_eq_ok, getOr_eq_ok] at opened
  obtain ⟨_, _, opened⟩ := opened
  exact decipher_eq_some_iff.mp opened

variable {remoteStatic : Key (Byte Hash)} {sent : List (Transmission Hash)}

/-- A payload that is accepted comes from a holder of a key of the exchange. -/
theorem exists_holder_of_checkPayload
    {ck h h' : Key (Byte Hash)} {message : List (Byte Hash)} {front : ℕ} {context : String}
    (traffic : Traffic secret remoteStatic sent) (arrived : ∀ byte ∈ message, byte ∈ heard sent)
    (checked : symbolicSuite.checkPayload (symbolicSuite.noiseHkdf ck
      (symbolicSuite.dh secret remoteStatic).toList).2 h (message.drop front) context = .ok h')
    (long : front < message.length) :
    ∃ transmission ∈ sent, Holds transmission.keys secret remoteStatic ∧
      ∃ sealing : Sealing Hash, sealing.ad = h.toList ∧ message.drop front = sealing.ciphertext ∧
        ∃ byte ∈ transmission.message, sealing.OccursIn byte := by
  have present : message.drop front ≠ [] := by
    rw [ne_eq, drop_eq_nil_iff]
    omega
  unfold checkPayload at checked
  rw [if_neg (by simpa using present)] at checked
  simp only [bind_eq_ok, mapError_eq_ok] at checked
  obtain ⟨plaintext, opened, -⟩ := checked
  have inside : ∀ byte ∈ message.drop front, byte ∈ heard sent :=
    fun byte member => arrived byte (mem_of_mem_drop member)
  rw [eq_encipher_of_decrypt opened] at inside ⊢
  obtain ⟨transmission, member, holds, sealing, same, carries⟩ :=
    traffic.exists_holder (not_discreet_noiseHkdf_dh _) inside
  exact ⟨transmission, member, holds, sealing, (encipher_inj same).2.2.1.symm, same, carries⟩

theorem discreet_publicKey (owner : ℕ) :
    ∀ byte ∈ (publicKey owner).toList, Discreet secret remote byte := by
  intro byte member
  obtain ⟨index, -, rfl⟩ := mem_publicKey.mp member
  exact .publicKey owner index 0

variable {payload : List (Byte Hash)}

theorem discreet_initiatorBegin (discreet : ∀ byte ∈ payload, Discreet secret remote byte)
    (localStatic ephemeral : ℕ) (remoteStatic : Key (Byte Hash)) :
    ∀ byte ∈ (symbolicSuite.initiatorBegin localStatic remoteStatic ephemeral
      payload).1, Discreet secret remote byte := by
  intro byte member
  simp only [initiatorBegin_eq, symbolicSuite_encrypt, symbolicSuite_publicKey] at member
  rcases mem_append.mp member with inFront | inPayload
  · rcases mem_append.mp inFront with inEphemeral | inStatic
    · exact discreet_publicKey ephemeral byte inEphemeral
    · exact discreet_encipher_iff.mpr (discreet_publicKey localStatic) byte inStatic
  · exact discreet_encipher_iff.mpr discreet byte inPayload

theorem discreet_reply (discreet : ∀ byte ∈ payload, Discreet secret remote byte)
    (ck ee es h : Key (Byte Hash)) (ephemeral : ℕ) :
    ∀ byte ∈ (symbolicSuite.reply ck ee es h (publicKey ephemeral) payload).1,
      Discreet secret remote byte := by
  intro byte member
  rcases mem_append.mp member with inEphemeral | inPayload
  · exact discreet_publicKey ephemeral byte inEphemeral
  · exact discreet_encipher_iff.mpr discreet byte inPayload

/-! ## The transcript -/

theorem exists_larger_of_mixHash (inside : part ∈ h.toList ++ data) :
    ∃ entry ∈ (symbolicSuite.mixHash h data).toList,
      sizeOf part < sizeOf entry := by
  have member : Byte.digest Hash.blake2s (h.toList ++ data) 0 0 ∈
      (digest Hash.blake2s (h.toList ++ data)).toList :=
    mem_digest.mpr ⟨0, by decide, rfl⟩
  exact ⟨_, member, sizeOf_lt_of_mem_digest inside member⟩

theorem sizeOf_lt_transcript (member : part ∈ encryptedStatic ++ encryptedPayload) :
    sizeOf part < sizeOf (symbolicSuite.mixHash
      (symbolicSuite.mixHash (symbolicSuite.mixHash opened encryptedStatic)
        encryptedPayload) last).toList := by
  have hashed : ∃ entry ∈ (symbolicSuite.mixHash
      (symbolicSuite.mixHash opened encryptedStatic) encryptedPayload).toList,
      sizeOf part < sizeOf entry := by
    rcases mem_append.mp member with inStatic | inPayload
    · obtain ⟨first, inFirst, less⟩ := exists_larger_of_mixHash
        (mem_append_right opened.toList inStatic)
      obtain ⟨second, inSecond, less'⟩ := exists_larger_of_mixHash
        (mem_append_left encryptedPayload inFirst)
      exact ⟨second, inSecond, less.trans less'⟩
    · exact exists_larger_of_mixHash (mem_append_right _ inPayload)
  obtain ⟨entry, inHash, less⟩ := hashed
  obtain ⟨final, inFinal, less'⟩ := exists_larger_of_mixHash (mem_append_left last inHash)
  have below := sizeOf_lt_of_mem inFinal
  omega

theorem not_occursIn_initiatorBegin (localStatic ephemeral : ℕ) (remoteStatic : Key (Byte Hash))
    (payload last : List (Byte Hash)) {sealing : Sealing Hash}
    (answers : sealing.ad = (symbolicSuite.mixHash
      (symbolicSuite.initiatorBegin localStatic remoteStatic ephemeral payload).2.h last).toList) :
    ∀ byte ∈ (symbolicSuite.initiatorBegin localStatic remoteStatic ephemeral
      payload).1, ¬ sealing.OccursIn byte := by
  intro byte member occurs
  have larger := Sealing.sizeOf_ad_lt_of_occursIn occurs
  simp only [initiatorBegin_eq, append_assoc] at answers member
  rcases mem_append.mp member with inEphemeral | inRest
  · obtain ⟨index, -, rfl⟩ := mem_publicKey.mp inEphemeral
    cases occurs
  · rw [answers] at larger
    exact Nat.lt_asymm larger (sizeOf_lt_transcript inRest)

/-! ## What anybody can compute -/

section Knows

variable {keys : Set ℕ} {heard : Set (Byte Hash)}

theorem knows_append {first second : List (Byte Hash)}
    (knowsFirst : ∀ byte ∈ first, Knows keys heard byte)
    (knowsSecond : ∀ byte ∈ second, Knows keys heard byte) :
    ∀ byte ∈ first ++ second, Knows keys heard byte := by
  exact forall_mem_append.mpr ⟨knowsFirst, knowsSecond⟩

theorem knows_publicKey (secret : ℕ) :
    ∀ byte ∈ (symbolicSuite.publicKey secret).toList, Knows keys heard byte :=
  fun _ => .publicKey secret

theorem knows_literals (literals : List UInt8) :
    ∀ byte ∈ literals.map symbolicSuite.literal, Knows keys heard byte := by
  intro byte member
  obtain ⟨value, -, rfl⟩ := mem_map.mp member
  exact .raw value

theorem knows_mixHash {h : Key (Byte Hash)} (knowsHash : ∀ byte ∈ h.toList, Knows keys heard byte)
    (knowsData : ∀ byte ∈ data, Knows keys heard byte) :
    ∀ byte ∈ (symbolicSuite.mixHash h data).toList, Knows keys heard byte :=
  fun _ => .digest (knows_append knowsHash knowsData)

theorem knows_hmacBlake2s (knowsKey : ∀ byte ∈ key, Knows keys heard byte)
    (knowsData : ∀ byte ∈ data, Knows keys heard byte) :
    ∀ byte ∈ (symbolicSuite.hmacBlake2s key data).toList, Knows keys heard byte := by
  unfold hmacBlake2s
  extract_lets normalized block ipad opad inner
  have knowsNormalized : ∀ byte ∈ normalized, Knows keys heard byte := by
    by_cases long : blake2sBlockSize < key.length
    · simp only [normalized, if_pos long]
      exact fun _ => .digest knowsKey
    · simp only [normalized, if_neg long]
      exact knowsKey
  have knowsBlock : ∀ byte ∈ block, Knows keys heard byte := by
    apply knows_append
    · exact fun byte member => knowsNormalized byte (mem_of_mem_take member)
    · intro byte member
      rw [eq_of_mem_replicate member]
      exact .raw 0
  have knowsMasked : ∀ mask : UInt8, ∀ byte ∈ block.map
      (fun byte => symbolicSuite.xor byte mask), Knows keys heard byte := by
    intro mask byte member
    obtain ⟨plain, inBlock, rfl⟩ := mem_map.mp member
    exact .xor mask (knowsBlock plain inBlock)
  have knowsInner : ∀ byte ∈ inner.toList, Knows keys heard byte :=
    fun _ => .digest (knows_append (knowsMasked 0x36) knowsData)
  exact fun _ => .digest (knows_append (knowsMasked 0x5c) knowsInner)

theorem knows_noiseHkdf {ikm : List (Byte Hash)}
    (knowsKey : ∀ byte ∈ chainingKey.toList, Knows keys heard byte)
    (knowsInput : ∀ byte ∈ ikm, Knows keys heard byte) :
    ∀ byte ∈ (symbolicSuite.noiseHkdf chainingKey ikm).2.toList, Knows keys heard byte := by
  have temp := knows_hmacBlake2s knowsKey knowsInput
  have first := knows_hmacBlake2s temp (knows_literals [1])
  exact knows_hmacBlake2s temp (knows_append first (knows_literals [2]))

noncomputable def truncatedMessage1 (responder ephemeral : ℕ)
    (remoteStatic : Key (Byte Hash)) : List (Byte Hash) :=
  let ephPub := symbolicSuite.publicKey ephemeral
  let es := symbolicSuite.dh ephemeral (symbolicSuite.publicKey responder)
  let opened := symbolicSuite.openingHash (symbolicSuite.publicKey responder) ephPub
  ephPub.toList ++ symbolicSuite.encrypt (symbolicSuite.openingKeys es).2 0
    opened.toList remoteStatic.toList ++ []

theorem knows_truncatedMessage1 {ephemeral : ℕ} (held : ephemeral ∈ keys)
    (knowsStatic : ∀ byte ∈ remoteStatic.toList, Knows keys heard byte) (responder : ℕ) :
    ∀ byte ∈ truncatedMessage1 responder ephemeral remoteStatic, Knows keys heard byte := by
  have name : ∀ byte ∈ symbolicSuite.initializeSymmetric.1.toList, Knows keys heard byte := by
    exact fun _ => .digest (knows_literals _)
  have opened := knows_mixHash
    (knows_mixHash (h := symbolicSuite.initializeSymmetric.2) name (knows_publicKey responder))
    (knows_publicKey ephemeral)
  have shared : ∀ byte ∈ (symbolicSuite.dh ephemeral (symbolicSuite.publicKey responder)).toList,
      Knows keys heard byte := fun _ => .digest fun _ => .agree held (knows_publicKey responder)
  have key := knows_noiseHkdf name shared
  rw [truncatedMessage1, append_nil]
  exact knows_append (knows_publicKey ephemeral) fun _ => .encipher key opened knowsStatic

end Knows

/-- The responder takes the truncated message for one of whoever it names. -/
theorem responderComplete_truncatedMessage1
    (responder ephemeral replyEphemeral : ℕ) (remoteStatic : Key (Byte Hash))
    (payload : List (Byte Hash)) : ∃ reply keys, symbolicSuite.responderComplete responder
      (truncatedMessage1 responder ephemeral remoteStatic) replyEphemeral payload =
        .ok (reply, keys, remoteStatic) := by
  let opened := symbolicSuite.openingHash (symbolicSuite.publicKey responder)
    (symbolicSuite.publicKey ephemeral)
  let key := (symbolicSuite.openingKeys
    (symbolicSuite.dh responder (symbolicSuite.publicKey ephemeral))).2
  let encryptedStatic :=
    symbolicSuite.encrypt key 0 opened.toList remoteStatic.toList
  obtain ⟨long, first, second, third⟩ := symbolicSuite_correct.parts_of_message1
    (symbolicSuite.publicKey ephemeral) key remoteStatic 0 opened.toList []
  rw [truncatedMessage1, symbolicSuite_correct.dh_comm ephemeral responder]
  refine ⟨_, _, (responderComplete_eq_ok_iff _).mpr ⟨long,
    symbolicSuite.publicKey ephemeral, remoteStatic.toList, remoteStatic,
    symbolicSuite.mixHash opened encryptedStatic,
    ?_, ?_, Key.ofSlice_toList _, ?_, rfl⟩⟩
  · rw [first, Key.ofSlice_toList]
  · rw [second, symbolicSuite_correct.decrypt_encrypt]
  · rw [second, third]
    rfl

/-- An initiator takes any 32 bytes for an answer. -/
theorem initiatorFinish_of_length_eq
    (state : InitiatorState (Byte Hash) ℕ) (remoteEph : Key (Byte Hash)) :
    ∃ keys, symbolicSuite.initiatorFinish state remoteEph.toList = .ok keys := by
  refine ⟨_, (initiatorFinish_eq_ok_iff _).mpr ⟨remoteEph.length_toList.ge, remoteEph,
      symbolicSuite.mixHash state.h remoteEph.toList, ?_, ?_, rfl⟩⟩
  · rw [take_of_length_le remoteEph.length_toList.le, Key.ofSlice_toList]
  · rw [drop_of_length_le remoteEph.length_toList.le]
    rfl

/-! ## Authentication -/

/-- Among parties that show the values they share to nobody: a first message
with a payload that is accepted in the name of a static key repeats what a
holder of its private key or of the responder's has sent, and a second message
with a payload that is accepted repeats what a holder of the responder's private
key has sent. -/
theorem handshake_authenticates (ephemeral : ℕ) (payload : List (Byte Hash))
    (keys : TransportKeys (Byte Hash)) (remoteStatic : Key (Byte Hash))
    (sent : List (Transmission Hash)) :
    (∀ (responder : ℕ) (message1 reply : List (Byte Hash)), Traffic responder remoteStatic sent →
      (∀ byte ∈ message1, byte ∈ heard sent) →
      symbolicSuite.responderComplete responder message1 ephemeral payload =
        .ok (reply, keys, remoteStatic) → 32 + 32 + tagLen < message1.length →
      ∃ transmission ∈ sent, Holds transmission.keys responder remoteStatic ∧
        transmission.Carries (message1.drop (32 + 32 + tagLen))) ∧
    (∀ (initiator : ℕ) (message2 : List (Byte Hash)),
      let begun := symbolicSuite.initiatorBegin initiator remoteStatic ephemeral
        payload
      Traffic ephemeral remoteStatic sent →
      (∀ transmission ∈ sent, ephemeral ∈ transmission.keys → transmission.message = begun.1) →
      (∀ byte ∈ message2, byte ∈ heard sent) →
      symbolicSuite.initiatorFinish begun.2 message2 = .ok keys →
      32 < message2.length →
      ∃ transmission ∈ sent, (∃ responder ∈ transmission.keys, remoteStatic = publicKey responder) ∧
        transmission.Carries (message2.drop 32)) := by
  constructor
  · intro responder message1 reply traffic arrived accepts long
    obtain ⟨-, remoteEph, _, named, h, -, -, -, checked, answered⟩ :=
      (responderComplete_eq_ok_iff _).mp accepts
    obtain rfl : named = remoteStatic := congrArg (fun result => result.2.2) answered
    obtain ⟨transmission, member, holds, sealing, -, carries⟩ :=
      exists_holder_of_checkPayload traffic arrived checked long
    exact ⟨transmission, member, holds, sealing, carries⟩
  · intro initiator message2 begun traffic usedOnce arrived accepts long
    obtain ⟨-, remoteEph, h, -, checked, -⟩ := (initiatorFinish_eq_ok_iff _).mp accepts
    obtain ⟨transmission, member, held | owner, sealing, isAd, same, byte, inMessage, occurs⟩ :=
      exists_holder_of_checkPayload traffic arrived checked long
    · -- The initiator itself has sent nothing but its first message.
      rw [usedOnce transmission member held] at inMessage
      exact absurd occurs (not_occursIn_initiatorBegin _ _ _ _ _ isAd byte inMessage)
    · exact ⟨transmission, member, owner, sealing, same, byte, inMessage, occurs⟩

/-- The messages of the exchange between the keys 3 and 5, whose ephemeral keys
are 7 and 11. The first one is replayed by the holder of key 9. -/
theorem handshake_authenticates_exchange :
    let begun := symbolicSuite.initiatorBegin 3 (publicKey 5) 7 [.raw 1]
    let answer := symbolicSuite.reply begun.2.ck
      (symbolicSuite.dh 11 (publicKey 7)) (symbolicSuite.dh 5 (publicKey 7))
      begun.2.h (publicKey 11) [.raw 2]
    let first : Transmission Hash := { keys := {3, 7}, message := begun.1 }
    let replayed : Transmission Hash := { keys := {9}, message := begun.1 }
    let second : Transmission Hash := { keys := {5, 11}, message := answer.1 }
    (∃ transmission ∈ [replayed, first], Holds transmission.keys 5 (publicKey 3 : Block Hash) ∧
        transmission.Carries (begun.1.drop (32 + 32 + tagLen))) ∧
    (∃ transmission ∈ [second, first], (∃ responder ∈ transmission.keys,
        (publicKey 5 : Block Hash) = publicKey responder) ∧
        transmission.Carries (answer.1.drop 32)) := by
  intro begun answer first replayed second
  have plain : ∀ (secret : ℕ) (remote : Block Hash) (value : UInt8),
      ∀ byte ∈ [Byte.raw value], Discreet secret remote byte := by
    intro secret remote value byte member
    rw [mem_singleton.mp member]
    exact .raw value
  have sentFirst : ∀ secret owner, secret ∈ first.keys ∨ owner ∈ first.keys →
      Traffic secret (publicKey owner) [first] :=
    fun secret owner holds => Traffic.cons_holder trivial (holds_publicKey_iff.mpr holds)
      (discreet_initiatorBegin (plain _ _ 1) 3 7 (publicKey 5))
  have responds := symbolicSuite_correct.responderComplete_initiatorBegin 3 5 7 11 [.raw 1] [.raw 2]
  have finishes := symbolicSuite_correct.initiatorFinish_reply begun.2
    (publicKey 11) [.raw 2] (symbolicSuite_correct.dh_comm 7 11)
    (symbolicSuite_correct.dh_comm 7 5)
  constructor
  · have traffic : Traffic 5 (publicKey 3) [replayed, first] :=
      (sentFirst 5 3 (by simp [first])).cons_outsider (by simp [holds_publicKey_iff, replayed])
        fun byte part => .heard (mem_heard_cons first [] byte part)
    apply (handshake_authenticates 11 [.raw 2] _ (publicKey 3) _).1 5 begun.1 _
      traffic (mem_heard_cons replayed [first]) responds
    simp [begun, initiatorBegin_eq, tagLen]
  · have traffic : Traffic 7 (publicKey 5) [second, first] :=
      (sentFirst 7 5 (by simp [first])).cons_holder (by simp [holds_publicKey_iff, second])
        (discreet_reply (plain _ _ 2) _ _ _ _ 11)
    apply (handshake_authenticates 7 [.raw 1] _ (publicKey 5) _).2 3 answer.1
      traffic _ (mem_heard_cons second [first]) finishes
    · simp [answer, reply]
    · intro transmission member used
      rcases mem_cons.mp member with rfl | member
      · simp [second] at used
      · rw [mem_singleton.mp member]

/-- The holder of key 7 alone is accepted as the owner of key 3, and 32 bytes of
the holder of key 13 as the answer of the owner of key 5. -/
theorem truncated_handshake_accepted : (let message1 := truncatedMessage1 5 7 (publicKey 3)
      let sent : List (Transmission Hash) := [{ keys := {7}, message := message1 }]
      Traffic 5 (publicKey 3) sent ∧ (∀ byte ∈ message1, byte ∈ heard sent) ∧
        (∃ reply keys, symbolicSuite.responderComplete 5 message1 11 [] =
          .ok (reply, keys, publicKey 3)) ∧
        ∀ transmission ∈ sent, ¬ Holds transmission.keys 5 (publicKey 3 : Block Hash)) ∧
    (let begun := symbolicSuite.initiatorBegin 3 (publicKey 5) 7 []
      let message2 := (publicKey 13).toList
      let sent : List (Transmission Hash) :=
        [{ keys := {13}, message := message2 }, { keys := {3, 7}, message := begun.1 }]
      Traffic 7 (publicKey 5) sent ∧
        (∀ transmission ∈ sent, 7 ∈ transmission.keys → transmission.message = begun.1) ∧
        (∀ byte ∈ message2, byte ∈ heard sent) ∧
        (∃ keys, symbolicSuite.initiatorFinish begun.2 message2 = .ok keys) ∧
        ∀ transmission ∈ sent, ¬ ∃ responder ∈ transmission.keys,
          (publicKey 5 : Block Hash) = publicKey responder) := by
  constructor
  · intro message1 sent
    have outside : ¬ Holds {7} 5 (publicKey 3 : Block Hash) := by simp [holds_publicKey_iff]
    refine ⟨Traffic.cons_outsider trivial outside ?_, ?_, ?_, ?_⟩
    · exact knows_truncatedMessage1 (Set.mem_singleton 7) (knows_publicKey 3) 5
    · exact mem_heard_cons { keys := {7}, message := message1 } []
    · exact responderComplete_truncatedMessage1 5 7 11 (publicKey 3) []
    · intro transmission member
      rw [mem_singleton.mp member]
      exact outside
  · intro begun message2 sent
    have begins : Traffic 7 (publicKey 5) [{ keys := {3, 7}, message := begun.1 }] :=
      Traffic.cons_holder trivial (holds_publicKey_iff.mpr (by simp))
        (discreet_initiatorBegin (by simp) 3 7 (publicKey 5))
    refine ⟨begins.cons_outsider ?_ (knows_publicKey 13), ?_, ?_, ?_, ?_⟩
    · simp [holds_publicKey_iff]
    · intro transmission member used
      rcases mem_cons.mp member with rfl | member
      · simp at used
      · rw [mem_singleton.mp member]
    · exact mem_heard_cons { keys := {13}, message := message2 } _
    · exact initiatorFinish_of_length_eq begun.2 (publicKey 13)
    · rintro transmission member ⟨responder, held, same⟩
      rw [← publicKey_injective same] at held
      rcases mem_cons.mp member with rfl | member
      · simp at held
      · rw [mem_singleton.mp member] at held
        simp at held

end Teale.Node.Pin
