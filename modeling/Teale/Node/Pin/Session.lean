import Mathlib.Order.Interval.Finset.Nat
import Teale.Lib.Bitmap
import Teale.Node.Pin.Noise

/-!
# Transport sessions

`NoiseSession` of `node/src/pin/noise.rs`. The bitmap is the set of the counters that were
accepted: a packet that opens is accepted if and only if its counter is new and not too old.
-/

namespace Teale.Node.Pin

open Transactional Bitmap
open List hiding Vector

variable {position : ℕ} {counter : UInt64} {packet : List UInt8}

variable {σ : Type}

def replayWindow : UInt64 := 2048

structure NoiseSession where
  sendKey : Key UInt8
  receiveKey : Key UInt8
  handshakeHash : Key UInt8
  sendCounter : UInt64
  replayHighWater : UInt64
  replayBitmap : Words 64 32

def shiftWindow (bitmap : Words 64 32) (count : UInt64) : Words 64 32 :=
  let wordShift := (count / 64).toNat
  let bitShift := (count % 64).toNat
  let bitmap := if 0 < wordShift then moveWords bitmap wordShift else bitmap
  if 0 < bitShift then moveBits bitmap bitShift else bitmap

namespace NoiseSession

def new (keys : TransportKeys UInt8) : NoiseSession where
  sendKey := keys.sendKey
  receiveKey := keys.receiveKey
  handshakeHash := keys.handshakeHash
  sendCounter := 0
  replayHighWater := 0
  replayBitmap := Vector.replicate 32 0

def isReplay (session : NoiseSession) (counter : UInt64) : Bool :=
  if session.replayHighWater < counter then
    false
  else
    let distance := session.replayHighWater - counter
    if replayWindow ≤ distance then
      true
    else
      test session.replayBitmap (distance / 64).toNat (distance % 64).toNat

def markReceived (session : NoiseSession) (counter : UInt64) : NoiseSession :=
  if session.replayHighWater < counter then
    let shift := counter - session.replayHighWater
    let bitmap :=
      if replayWindow ≤ shift then Vector.replicate 32 0
      else shiftWindow session.replayBitmap shift
    { session with
      replayHighWater := counter
      replayBitmap := mark bitmap 0 0 }
  else
    let distance := session.replayHighWater - counter
    { session with
      replayBitmap := mark session.replayBitmap (distance / 64).toNat
        (distance % 64).toNat }

def encrypt (P : Primitives UInt8 σ) (session : NoiseSession)
    (plaintext : List UInt8) : NoiseSession × List UInt8 :=
  let counter := session.sendCounter
  ({ session with sendCounter := counter + 1 }, Bytes.littleEndian 8 counter.toNat ++
      P.encrypt session.sendKey counter [] plaintext)

def packetCounter (packet : List UInt8) : UInt64 := .ofNat (Bytes.ofLittleEndian (packet.take 8))

def decrypt (P : Primitives UInt8 σ) (session : NoiseSession)
    (packet : List UInt8) : NoiseSession × Except String (List UInt8) :=
  if packet.length < 8 + tagLen then
    (session, .error "packet too short")
  else
    let counter := packetCounter packet
    if session.isReplay counter then
      (session, .error "replayed packet")
    else
      match P.decrypt session.receiveKey counter [] (packet.drop 8) with
      | .error failure => (session, .error failure)
      | .ok plaintext => (session.markReceived counter, .ok plaintext)

end NoiseSession

/-! ## Moving the window -/

variable (bitmap : Words 64 32)

theorem has_moveWords_or_same (shift : ℕ) (fits : position < 2048) :
    has (if 0 < shift then moveWords bitmap shift else bitmap) position =
      (decide (shift * 64 ≤ position) && has bitmap (position - shift * 64)) := by
  by_cases shifts : 0 < shift
  · rw [if_pos shifts, has_moveWords (by decide) bitmap shift fits]
  · simp [Nat.eq_zero_of_not_pos shifts]

theorem has_moveBits_or_same (small : shift < 64) (fits : position < 2048) :
    has (if 0 < shift then moveBits bitmap shift else bitmap) position =
      (decide (shift ≤ position) && has bitmap (position - shift)) := by
  by_cases shifts : 0 < shift
  · rw [if_pos shifts, has_moveBits bitmap small fits]
  · simp [Nat.eq_zero_of_not_pos shifts]

theorem has_shiftWindow (count : UInt64) (fits : position < 2048) :
    has (shiftWindow bitmap count) position =
      (decide (count.toNat ≤ position) && has bitmap (position - count.toNat)) := by
  have words : (count / 64).toNat = count.toNat / 64 := UInt64.toNat_div _ _
  have bits : (count % 64).toNat = count.toNat % 64 := UInt64.toNat_mod _ _
  have whole := Nat.div_add_mod' count.toNat 64
  unfold shiftWindow
  rw [bits, words, has_moveBits_or_same _ (Nat.mod_lt _ (by decide)) fits]
  by_cases within : count.toNat % 64 ≤ position
  · rw [has_moveWords_or_same _ _ (by omega), Nat.sub_sub, Nat.add_comm, whole,
      ← Bool.and_assoc, ← Bool.decide_and]
    congr 2
    rw [eq_iff_iff]
    omega
  · have beyond : ¬ count.toNat ≤ position := by omega
    rw [decide_eq_false within, decide_eq_false beyond, Bool.false_and, Bool.false_and]

/-! ## The set of accepted counters -/

def highest (accepted : List UInt64) : ℕ :=
  accepted.foldr (fun counter above => max counter.toNat above) 0

@[simp] theorem highest_cons (counter : UInt64) (accepted : List UInt64) :
    highest (counter :: accepted) = max counter.toNat (highest accepted) :=
  rfl

theorem le_highest (known : counter ∈ accepted) : counter.toNat ≤ highest accepted := by
  induction accepted with
  | nil => cases known
  | cons head tail ih =>
    rcases mem_cons.mp known with rfl | inTail
    · exact le_max_left _ _
    · exact le_max_of_le_right (ih inTail)

/-- What the window is for: a counter is new and less than 2048 below the
highest one. -/
def Admits (accepted : List UInt64) (counter : UInt64) : Prop :=
  counter ∉ accepted ∧ (highest accepted : ℤ) - 2048 < counter.toNat

instance (accepted : List UInt64) (counter : UInt64) : Decidable (Admits accepted counter) :=
  inferInstanceAs (Decidable (_ ∧ _))

/-- The window holds the counters that have been accepted, newest first. -/
structure Tracks (session : NoiseSession) (accepted : List UInt64) : Prop where
  highWater : session.replayHighWater.toNat = highest accepted
  bits : ∀ distance < 2048, has session.replayBitmap distance = true ↔
    ∃ counter ∈ accepted, counter.toNat + distance = highest accepted

theorem tracks_new (keys : TransportKeys UInt8) : Tracks (NoiseSession.new keys) [] where
  highWater := rfl
  bits := by
    intro distance _
    have empty : has (NoiseSession.new keys).replayBitmap distance = false := has_zero distance
    simp [empty]

theorem toNat_replayWindow : replayWindow.toNat = 2048 := rfl

namespace Tracks

variable {session : NoiseSession} {accepted : List UInt64}

section

variable (tracks : Tracks session accepted)

include tracks

theorem has_distance_iff
    (below : counter.toNat ≤ highest accepted) (near : highest accepted - counter.toNat < 2048) :
    has session.replayBitmap (highest accepted - counter.toNat) = true ↔ counter ∈ accepted := by
  rw [tracks.bits _ near]
  constructor
  · rintro ⟨other, known, located⟩
    have same : other = counter := UInt64.toNat_inj.mp (by omega)
    rwa [← same]
  · intro known
    exact ⟨counter, known, by omega⟩

theorem toNat_distance
    (below : counter.toNat ≤ highest accepted) : (session.replayHighWater - counter).toNat =
      highest accepted - counter.toNat := by
  rw [← tracks.highWater] at below ⊢
  exact UInt64.toNat_sub_of_le _ _ (UInt64.le_iff_toNat_le.mpr below)

theorem highWater_lt_iff (counter : UInt64) :
    session.replayHighWater < counter ↔ highest accepted < counter.toNat := by
  rw [UInt64.lt_iff_toNat_lt, tracks.highWater]

theorem isReplay_eq_false_iff (counter : UInt64) :
    session.isReplay counter = false ↔ Admits accepted counter := by
  unfold NoiseSession.isReplay Admits
  by_cases above : highest accepted < counter.toNat
  · have fresh : counter ∉ accepted := fun known => absurd (le_highest known) (Nat.not_le.mpr above)
    rw [if_pos ((tracks.highWater_lt_iff counter).mpr above)]
    simp only [fresh, not_false_eq_true, true_and, true_iff]
    omega
  · have below : counter.toNat ≤ highest accepted := Nat.le_of_not_lt above
    have distance := tracks.toNat_distance below
    have farIff : replayWindow ≤ session.replayHighWater - counter ↔
        2048 ≤ highest accepted - counter.toNat := by
      rw [UInt64.le_iff_toNat_le, distance, toNat_replayWindow]
    rw [if_neg (mt (tracks.highWater_lt_iff counter).mp above)]
    by_cases far : 2048 ≤ highest accepted - counter.toNat
    · simp only [if_pos (farIff.mpr far)]
      simp only [Bool.true_eq_false, false_iff, not_and]
      omega
    · have near : highest accepted - counter.toNat < 2048 := Nat.lt_of_not_le far
      have tested : test session.replayBitmap ((session.replayHighWater - counter) / 64).toNat
            ((session.replayHighWater - counter) % 64).toNat =
          has session.replayBitmap (highest accepted - counter.toNat) := by
        rw [UInt64.toNat_div, UInt64.toNat_mod, distance]
        exact test_eq_has (by decide) _ _
      simp only [if_neg (mt farIff.mp far)]
      rw [tested, ← Bool.not_eq_true, tracks.has_distance_iff below near]
      constructor
      · intro fresh
        exact ⟨fresh, by omega⟩
      · exact And.left

theorem markReceived_above (above : highest accepted < counter.toNat) :
    Tracks (session.markReceived counter) (counter :: accepted) := by
  have newHighest : highest (counter :: accepted) = counter.toNat :=
    max_eq_left (Nat.le_of_lt above)
  have isAbove : session.replayHighWater < counter := (tracks.highWater_lt_iff counter).mpr above
  have shift : (counter - session.replayHighWater).toNat = counter.toNat - highest accepted := by
    rw [UInt64.toNat_sub_of_le _ _ (UInt64.le_of_lt isAbove), tracks.highWater]
  unfold NoiseSession.markReceived
  rw [if_pos isAbove]
  refine ⟨newHighest.symm, ?_⟩
  intro distance near
  have marked := has_mark (if replayWindow ≤ counter - session.replayHighWater then
      Vector.replicate 32 0
    else shiftWindow session.replayBitmap (counter - session.replayHighWater))
    (show 0 < 32 * 64 by decide) distance
  -- Bit `distance` of the moved window is bit `distance - shift` of the old.
  have moved : has (if replayWindow ≤ counter - session.replayHighWater then
        Vector.replicate 32 0
      else shiftWindow session.replayBitmap (counter - session.replayHighWater)) distance = true ↔
      ∃ known ∈ accepted, known.toNat + distance = counter.toNat := by
    by_cases far : replayWindow ≤ counter - session.replayHighWater
    · rw [if_pos far, has_zero]
      rw [UInt64.le_iff_toNat_le, shift, toNat_replayWindow] at far
      simp only [Bool.false_eq_true, false_iff, not_exists, not_and]
      intro known isKnown
      have := le_highest isKnown
      omega
    · rw [if_neg far, has_shiftWindow _ _ near, shift, Bool.and_eq_true,
        decide_eq_true_iff, tracks.bits _ (by omega)]
      constructor
      · rintro ⟨reaches, known, isKnown, located⟩
        exact ⟨known, isKnown, by omega⟩
      · rintro ⟨known, isKnown, located⟩
        have := le_highest isKnown
        exact ⟨by omega, known, isKnown, by omega⟩
  rw [newHighest]
  refine (Bool.eq_iff_iff.mp marked).trans ?_
  rw [Bool.or_eq_true, decide_eq_true_iff, moved]
  simp only [mem_cons, exists_eq_or_imp]
  exact or_congr_left (by omega)

theorem markReceived_inside
    (below : counter.toNat ≤ highest accepted) (near : highest accepted - counter.toNat < 2048) :
    Tracks (session.markReceived counter) (counter :: accepted) := by
  have sameHighest : highest (counter :: accepted) = highest accepted := max_eq_right below
  have notAbove : ¬ session.replayHighWater < counter :=
    mt (tracks.highWater_lt_iff counter).mp (Nat.not_lt.mpr below)
  have word : ((session.replayHighWater - counter) / 64).toNat =
      (highest accepted - counter.toNat) / 64 := by
    rw [UInt64.toNat_div, tracks.toNat_distance below]
    rfl
  have bit : ((session.replayHighWater - counter) % 64).toNat =
      (highest accepted - counter.toNat) % 64 := by
    rw [UInt64.toNat_mod, tracks.toNat_distance below]
    rfl
  unfold NoiseSession.markReceived
  rw [if_neg notAbove]
  refine ⟨tracks.highWater.trans sameHighest.symm, ?_⟩
  intro distance isNear
  simp only [word, bit]
  rw [has_mark _ near, Bool.or_eq_true, decide_eq_true_iff, tracks.bits _ isNear, sameHighest]
  simp only [mem_cons, exists_eq_or_imp]
  exact or_congr_left (by omega)

theorem markReceived (admitted : Admits accepted counter) :
    Tracks (session.markReceived counter) (counter :: accepted) := by
  have bound := admitted.2
  by_cases above : highest accepted < counter.toNat
  · exact tracks.markReceived_above above
  · exact tracks.markReceived_inside (by omega) (by omega)

end

end Tracks

/-! ## Packets -/

def Opens (P : Primitives UInt8 σ) (key : Key UInt8) (packet plaintext : List UInt8) : Prop :=
  8 + tagLen ≤ packet.length ∧
    P.decrypt key (NoiseSession.packetCounter packet) [] (packet.drop 8) = .ok plaintext

/-- The accepted counters after a packet, by what the window is for. -/
def acceptedAfter (P : Primitives UInt8 σ) (key : Key UInt8) (accepted : List UInt64)
    (packet : List UInt8) : List UInt64 :=
  let counter := NoiseSession.packetCounter packet
  if 8 + tagLen ≤ packet.length ∧ Admits accepted counter ∧
      (P.decrypt key counter [] (packet.drop 8)).isOk then
    counter :: accepted
  else
    accepted

theorem acceptedAfter_of_opens (opens : Opens P key packet plaintext)
    (admitted : Admits accepted (NoiseSession.packetCounter packet)) :
    acceptedAfter P key accepted packet = NoiseSession.packetCounter packet :: accepted := by
  apply if_pos
  refine ⟨opens.1, admitted, ?_⟩
  rw [opens.2]
  rfl

theorem acceptedAfter_of_refused {key : Key UInt8}
    (refused : ∀ plaintext, Opens P key packet plaintext →
      ¬ Admits accepted (NoiseSession.packetCounter packet)) :
    acceptedAfter P key accepted packet = accepted := by
  apply if_neg
  rintro ⟨long, admitted, succeeds⟩
  cases opened : P.decrypt key (NoiseSession.packetCounter packet) [] (packet.drop 8) with
  | error failure =>
    rw [opened] at succeeds
    cases succeeds
  | ok plaintext => exact refused plaintext ⟨long, opened⟩ admitted

namespace NoiseSession

variable {P : Primitives UInt8 σ}

theorem decrypt_of_opens {session : NoiseSession} {plaintext : List UInt8}
    (opens : Opens P session.receiveKey packet plaintext)
    (fresh : session.isReplay (packetCounter packet) = false) : session.decrypt P packet =
      (session.markReceived (packetCounter packet), .ok plaintext) := by
  simp [decrypt, Nat.not_lt.mpr opens.1, fresh, opens.2]

theorem decrypt_cases (P : Primitives UInt8 σ) (session : NoiseSession) (packet : List UInt8) :
    (∃ plaintext, Opens P session.receiveKey packet plaintext ∧
      session.isReplay (packetCounter packet) = false ∧ session.decrypt P packet =
        (session.markReceived (packetCounter packet), .ok plaintext)) ∨
    ∃ failure, session.decrypt P packet = (session, .error failure) := by
  by_cases short : packet.length < 8 + tagLen
  · simp [decrypt, short]
  · cases replayed : session.isReplay (packetCounter packet) with
    | true =>
      simp [decrypt, short, replayed]
    | false =>
      cases opened : P.decrypt session.receiveKey (packetCounter packet) [] (packet.drop 8) with
      | error failure =>
        simp [decrypt, short, replayed, opened]
      | ok plaintext =>
        left
        have opens : Opens P session.receiveKey packet plaintext := ⟨Nat.le_of_not_lt short, opened⟩
        exact ⟨plaintext, opens, rfl, decrypt_of_opens opens replayed⟩

@[simp] theorem receiveKey_markReceived (session : NoiseSession) (counter : UInt64) :
    (session.markReceived counter).receiveKey = session.receiveKey := by
  unfold markReceived
  split <;> rfl

def receive (P : Primitives UInt8 σ) (state : NoiseSession × List UInt64)
    (packet : List UInt8) : NoiseSession × List UInt64 :=
  match state.1.decrypt P packet with
  | (session, .ok _) => (session, packetCounter packet :: state.2)
  | (session, .error _) => (session, state.2)

/-- The session after packets, and the counters it accepted, newest first. -/
def receiveAll (P : Primitives UInt8 σ) (keys : TransportKeys UInt8)
    (packets : List (List UInt8)) : NoiseSession × List UInt64 :=
  packets.foldl (receive P) (new keys, [])

end NoiseSession

/-- A session and the counters it has accepted, at any point of a run. -/
structure Received (keys : TransportKeys UInt8) (session : NoiseSession)
    (accepted : List UInt64) : Prop where
  receiveKey : session.receiveKey = keys.receiveKey
  tracks : Tracks session accepted
  nodup : accepted.Nodup

namespace Received

variable {P : Primitives UInt8 σ} {keys : TransportKeys UInt8}
  {session : NoiseSession} {accepted : List UInt64}

theorem receive (received : Received keys session accepted) (packet : List UInt8) :
    Received keys (NoiseSession.receive P (session, accepted) packet).1
      (NoiseSession.receive P (session, accepted) packet).2 := by
  rcases session.decrypt_cases P packet with
    ⟨plaintext, _, fresh, decrypted⟩ | ⟨failure, decrypted⟩
  · have admitted := (received.tracks.isReplay_eq_false_iff _).mp fresh
    simp only [NoiseSession.receive, decrypted]
    exact ⟨(session.receiveKey_markReceived _).trans received.receiveKey,
      received.tracks.markReceived admitted,
      nodup_cons.mpr ⟨admitted.1, received.nodup⟩⟩
  · simpa only [NoiseSession.receive, decrypted] using received

theorem foldl (received : Received keys session accepted) (packets : List (List UInt8)) :
    Received keys (packets.foldl (NoiseSession.receive P) (session, accepted)).1
      (packets.foldl (NoiseSession.receive P) (session, accepted)).2 := by
  induction packets generalizing session accepted with
  | nil => exact received
  | cons packet rest ih => exact ih (received.receive packet)

theorem receiveAll (P : Primitives UInt8 σ) (keys : TransportKeys UInt8)
    (packets : List (List UInt8)) : Received keys (NoiseSession.receiveAll P keys packets).1
      (NoiseSession.receiveAll P keys packets).2 := by
  have fresh : Received keys (NoiseSession.new keys) [] := ⟨rfl, tracks_new keys, nodup_nil⟩
  exact fresh.foldl packets

theorem decrypt_eq_ok_iff (received : Received keys session accepted)
    (packet plaintext : List UInt8) : (session.decrypt P packet).2 = .ok plaintext ↔
      Opens P keys.receiveKey packet plaintext ∧
        Admits accepted (NoiseSession.packetCounter packet) := by
  rw [← received.receiveKey]
  constructor
  · intro accepts
    rcases session.decrypt_cases P packet with
      ⟨opened, opens, fresh, decrypted⟩ | ⟨failure, decrypted⟩
    · rw [decrypted] at accepts
      rw [← Except.ok.inj accepts]
      exact ⟨opens, (received.tracks.isReplay_eq_false_iff _).mp fresh⟩
    · rw [decrypted] at accepts
      cases accepts
  · rintro ⟨opens, admitted⟩
    have fresh := (received.tracks.isReplay_eq_false_iff _).mpr admitted
    rw [NoiseSession.decrypt_of_opens opens fresh]

theorem decrypt (received : Received keys session accepted) (packet : List UInt8) :
    Received keys (session.decrypt P packet).1
      (acceptedAfter P keys.receiveKey accepted packet) := by
  have next := received.receive (P := P) packet
  rcases session.decrypt_cases P packet with
    ⟨plaintext, opens, fresh, decrypted⟩ | ⟨failure, decrypted⟩
  · have admitted := (received.tracks.isReplay_eq_false_iff _).mp fresh
    rw [received.receiveKey] at opens
    rw [acceptedAfter_of_opens opens admitted]
    simpa only [NoiseSession.receive, decrypted] using next
  · have refused : ∀ plaintext, Opens P keys.receiveKey packet plaintext →
        ¬ Admits accepted (NoiseSession.packetCounter packet) := by
      intro plaintext opens admitted
      have accepts := (received.decrypt_eq_ok_iff packet plaintext).mpr ⟨opens, admitted⟩
      rw [decrypted] at accepts
      cases accepts
    rw [acceptedAfter_of_refused refused]
    simpa only [NoiseSession.receive, decrypted] using next

end Received

/-- Whatever packets a session is fed, it accepts no counter twice; the next
packet is accepted if and only if it opens and its counter is new and above the
highest accepted one less 2048; and a packet it rejects changes nothing. -/
theorem decrypt_refines_window (P : Primitives UInt8 σ) (keys : TransportKeys UInt8)
    (packets : List (List UInt8)) :
    let session := (NoiseSession.receiveAll P keys packets).1
    let accepted := (NoiseSession.receiveAll P keys packets).2
    accepted.Nodup ∧ ∀ packet, (∀ plaintext, (session.decrypt P packet).2 = .ok plaintext ↔
            Opens P keys.receiveKey packet plaintext ∧
              NoiseSession.packetCounter packet ∉ accepted ∧
              (highest accepted : ℤ) - 2048 < (NoiseSession.packetCounter packet).toNat) ∧
        ∀ failure, (session.decrypt P packet).2 = .error failure →
          (session.decrypt P packet).1 = session := by
  intro session accepted
  have received := Received.receiveAll P keys packets
  refine ⟨received.nodup, fun packet => ⟨received.decrypt_eq_ok_iff packet, ?_⟩⟩
  intro failure rejected
  rcases session.decrypt_cases P packet with
    ⟨plaintext, _, _, decrypted⟩ | ⟨_, decrypted⟩
  · rw [decrypted] at rejected
    cases rejected
  · rw [decrypted]

end Teale.Node.Pin
