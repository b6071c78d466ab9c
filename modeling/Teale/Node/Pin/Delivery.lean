import Teale.Lib.Reassembly
import Teale.Node.Pin.Transport

/-!
# Messages from one end of a session to the other

`PeerConnection::send` and `handle_datagram` of `node/src/pin/transport.rs` together. The packets
of concurrent calls of `send` may be mixed, lost, repeated and reordered. A cut message carries
the number of its chunks in 16 bits, so one of 65536 chunks is never delivered.
-/

namespace Teale.Node.Pin

open Transactional Option Bytes Function NoiseSession Reassembly Layout
open List hiding Vector

variable {position number : ℕ} {segment : UInt8 × List UInt8}

variable {σ μ ι : Type} {P : Primitives UInt8 σ} {print : μ → List UInt8}
  {parse : List UInt8 → Option μ}

/-! ## What is sent -/

def frameMessage (print : μ → List UInt8) (message : μ) : List UInt8 :=
  bigEndian 4 (print message).length ++ print message

/-- The packets of a framed message before they are encrypted, each with its
type. -/
def segments (framed : List UInt8) (fragmentId : UInt32) : List (UInt8 × List UInt8) :=
  if framed.length ≤ maxPayload then
    [(typeData, framed)]
  else
    let chunks := framed.toChunks maxPayload
    chunks.zipIdx.map fun (chunk, index) =>
      (typeFragment, bigEndian 4 fragmentId.toNat ++ bigEndian 2 index ++
          bigEndian 2 chunks.length ++ chunk)

def transmit (P : Primitives UInt8 σ) (session : NoiseSession) :
    List (UInt8 × List UInt8) → NoiseSession × List (List UInt8)
  | [] => (session, [])
  | segment :: rest =>
    let encrypted := session.encrypt P segment.2
    let others := transmit P encrypted.1 rest
    (others.1, (segment.1 :: encrypted.2) :: others.2)

theorem foldl_transmit {α : Type} (entries : List α) (segment : α → UInt8 × List UInt8)
    (session : NoiseSession) (packets : List (List UInt8)) :
    entries.foldl (fun (session, packets) entry =>
        let (session, encrypted) := session.encrypt P (segment entry).2
        (session, packets ++ [(segment entry).1 :: encrypted]))
      (session, packets) =
    ((transmit P session (entries.map segment)).1,
      packets ++ (transmit P session (entries.map segment)).2) := by
  induction entries generalizing session packets with
  | nil => simp [transmit]
  | cons entry rest ih =>
    refine (ih _ _).trans ?_
    rw [map_cons, transmit, append_assoc]
    rfl

theorem sendPackets_eq_transmit
    (session : NoiseSession) (framed : List UInt8) (fragmentId : UInt32) :
    sendPackets P session framed fragmentId = transmit P session (segments framed fragmentId) := by
  rw [sendPackets, segments]
  by_cases small : framed.length ≤ maxPayload
  · rw [if_pos small, if_pos small]
    rfl
  · rw [if_neg small, if_neg small]
    exact foldl_transmit (framed.toChunks maxPayload).zipIdx (fun (chunk, index) => (typeFragment,
        bigEndian 4 fragmentId.toNat ++ bigEndian 2 index ++
          bigEndian 2 (framed.toChunks maxPayload).length ++ chunk))
      session []

def sealSegment (P : Primitives UInt8 σ) (key : Key UInt8) (counter : UInt64)
    (segment : UInt8 × List UInt8) : List UInt8 :=
  segment.1 :: (littleEndian 8 counter.toNat ++ P.encrypt key counter [] segment.2)

theorem getElem?_transmit
    (session : NoiseSession) (list : List (UInt8 × List UInt8)) (position : ℕ) :
    (transmit P session list).2[position]? = list[position]?.map
      (sealSegment P session.sendKey (session.sendCounter + .ofNat position)) := by
  induction list generalizing session position with
  | nil => rfl
  | cons segment rest ih =>
    cases position with
    | zero => simp [transmit, sealSegment, encrypt]
    | succ position =>
      rw [transmit, getElem?_cons_succ, ih, getElem?_cons_succ, UInt64.ofNat_add]
      simp [encrypt, UInt64.add_comm, UInt64.add_assoc]

theorem length_transmit (session : NoiseSession) (list : List (UInt8 × List UInt8)) :
    (transmit P session list).2.length = list.length := by
  induction list generalizing session with
  | nil => rfl
  | cons segment rest ih =>
    rw [transmit, length_cons, ih, length_cons]

structure Send (μ : Type) where
  message : μ
  fragmentId : UInt32

namespace Send

def framed (print : μ → List UInt8) (send : Send μ) : List UInt8 := frameMessage print send.message

def segments (print : μ → List UInt8) (send : Send μ) : List (UInt8 × List UInt8) :=
  Pin.segments (send.framed print) send.fragmentId

def Fits (print : μ → List UInt8) (send : Send μ) : Prop :=
  (send.framed print).length ≤ 65535 * maxPayload

end Send

/-- The packets that calls of `send` have sent, in the order they were
encrypted: the place of a packet is its call and its number in the call. -/
structure Wire (print : μ → List UInt8) (sends : ι → Send μ) where
  places : List (ι × ℕ)
  nodup : places.Nodup
  valid : ∀ place ∈ places, place.2 < ((sends place.1).segments print).length

namespace Wire

variable {sends : ι → Send μ} {item : ι}

def packets (P : Primitives UInt8 σ) (keys : TransportKeys UInt8)
    (wire : Wire print sends) : List (List UInt8) :=
  (transmit P (NoiseSession.new keys) (wire.places.map fun place =>
    ((sends place.1).segments print).getD place.2 (0, []))).2

theorem getElem?_packets
    (P : Primitives UInt8 σ) (keys : TransportKeys UInt8) (wire : Wire print sends)
    (located : wire.places[position]? = some (item, number)) :
    ∃ segment, ((sends item).segments print)[number]? = some segment ∧
      (wire.packets P keys)[position]? =
        some (sealSegment P keys.sendKey (.ofNat position) segment) := by
  have valid := wire.valid _ (mem_of_getElem? located)
  refine ⟨((sends item).segments print)[number], getElem?_eq_getElem valid, ?_⟩
  have counter : (NoiseSession.new keys).sendCounter + .ofNat position =
      UInt64.ofNat position := UInt64.zero_add _
  rw [packets, getElem?_transmit, getElem?_map, located, counter]
  simp [valid, new]

end Wire

/-! ## What arrives -/

/-- A packet of the session, by its position on the wire, or something else. -/
inductive Packet
  | copy (position : ℕ)
  | foreign (bytes : List UInt8)

def Packet.bytes (packets : List (List UInt8)) : Packet → List UInt8
  | .copy position => packets.getD position []
  | .foreign bytes => bytes

structure Arrival where
  now : ℕ
  packet : Packet

/-- The receiving end of a session, with the messages it has delivered. -/
structure Receiver (μ : Type) where
  session : NoiseSession
  fragments : Fragments
  delivered : List μ

def Receiver.new (keys : TransportKeys UInt8) : Receiver μ where
  session := NoiseSession.new keys
  fragments := fun _ => none
  delivered := []

def hear (P : Primitives UInt8 σ) (parse : List UInt8 → Option μ)
    (packets : List (List UInt8)) (receiver : Receiver μ) (arrival : Arrival) : Receiver μ :=
  let (session, fragments, message) := handleDatagram P parse arrival.now
    (arrival.packet.bytes packets) receiver.session receiver.fragments
  { session, fragments, delivered := receiver.delivered ++ message.toList }

/-! ## What becomes of a packet -/

theorem opens_seal (correct : P.Correct) (key : Key UInt8) (counter : UInt64)
    (plaintext : List UInt8) :
    Opens P key (littleEndian 8 counter.toNat ++
      P.encrypt key counter [] plaintext) plaintext ∧
    packetCounter (littleEndian 8 counter.toNat ++
      P.encrypt key counter [] plaintext) = counter := by
  have small : counter.toNat < 256 ^ 8 := counter.toNat_lt
  have isCounter : packetCounter
      (littleEndian 8 counter.toNat ++ P.encrypt key counter [] plaintext) = counter := by
    rw [packetCounter, take_left' (length_littleEndian 8 _),
      ofLittleEndian_littleEndian small, UInt64.ofNat_toNat]
  refine ⟨⟨?_, ?_⟩, isCounter⟩
  · rw [length_append, length_littleEndian, correct.length_encrypt]
    omega
  · rw [isCounter, drop_left' (length_littleEndian 8 _)]
    exact correct.decrypt_encrypt key counter [] plaintext

/-- The part of `handle_datagram` after the decryption. -/
def receiveSegment (parse : List UInt8 → Option μ) (now : ℕ)
    (segment : UInt8 × List UInt8) (fragments : Fragments) : Fragments × Option μ :=
  if segment.1 = typeData then
    (fragments, (deframeMessage parse segment.2).toOption)
  else
    receiveFragment parse now segment.2 fragments

section Datagrams

variable {session session' : NoiseSession} {fragments : Fragments}
  {kind : UInt8} {body plaintext : List UInt8} {now : ℕ}

theorem handleDatagram_ok (known : kind = typeData ∨ kind = typeFragment)
    (opened : session.decrypt P body = (session', .ok plaintext)) :
    handleDatagram P parse now (kind :: body) session fragments =
      (session', receiveSegment parse now (kind, plaintext) fragments) := by
  rcases known with rfl | rfl
  · simp [handleDatagram, receiveSegment, opened]
  · simp [handleDatagram, receiveSegment, opened, typeFragment, typeData]

theorem handleDatagram_error {failure : String}
    (refused : session.decrypt P body = (session, .error failure)) :
    handleDatagram P parse now (kind :: body) session fragments = (session, fragments, none) := by
  rw [handleDatagram, refused]
  split
  · rfl
  · split <;> rfl

end Datagrams

theorem hear_of_refused {packets : List (List UInt8)} {arrival : Arrival}
    (refused : ∀ kind body, arrival.packet.bytes packets = kind :: body →
      ∃ failure, receiver.session.decrypt P body =
        (receiver.session, .error failure)) : hear P parse packets receiver arrival = receiver := by
  rw [hear]
  cases arrived : arrival.packet.bytes packets with
  | nil => simp [handleDatagram]
  | cons kind body =>
    obtain ⟨failure, isError⟩ := refused kind body arrived
    rw [handleDatagram_error isError]
    simp

/-! ## Reading a fragment -/

theorem fragment_fields (fragmentId : UInt32) (index total : ℕ) (chunk : List UInt8) :
    let plaintext := bigEndian 4 fragmentId.toNat ++ bigEndian 2 index ++ bigEndian 2 total ++ chunk
    ¬ plaintext.length < 8 ∧ plaintext.take 4 = bigEndian 4 fragmentId.toNat ∧
      (plaintext.drop 4).take 2 = bigEndian 2 index ∧
      (plaintext.drop 6).take 2 = bigEndian 2 total ∧ plaintext.drop 8 = chunk := by
  simp only [take_append, drop_append, length_append, length_bigEndian]
  refine ⟨by omega, ?_, ?_, ?_, ?_⟩ <;> simp [drop_of_length_le, length_bigEndian]

/-- The part of `handle_datagram` after the header of a fragment. -/
def storeFragment (parse : List UInt8 → Option μ) (now : ℕ) (fragmentId : UInt32)
    (index total : ℕ) (chunk : List UInt8) (fragments : Fragments) : Fragments × Option μ :=
  let retained : Fragments := fun id =>
    (fragments id).filter fun buffer => now - buffer.created < fragmentTtl
  let buffer := ((retained fragmentId).getD
    { total, chunks := [], created := now }).insert index chunk
  if buffer.isComplete then
    (update retained fragmentId none, (deframeMessage parse buffer.reassemble).toOption)
  else
    (update retained fragmentId (some buffer), none)

theorem receiveFragment_of_fits
    (fragmentId : UInt32) {index total : ℕ} (chunk : List UInt8) (now : ℕ)
    (fragments : Fragments) (below : index < total) (small : total < 256 ^ 2) :
    receiveFragment parse now (bigEndian 4 fragmentId.toNat ++ bigEndian 2 index ++
          bigEndian 2 total ++ chunk) fragments =
      storeFragment parse now fragmentId index total chunk fragments := by
  obtain ⟨long, isId, isIndex, isTotal, isChunk⟩ := fragment_fields fragmentId index total chunk
  have id : UInt32.ofNat (ofBigEndian (bigEndian 4 fragmentId.toNat)) = fragmentId := by
    rw [ofBigEndian_bigEndian fragmentId.toNat_lt, UInt32.ofNat_toNat]
  rw [receiveFragment, if_neg long, isId, isIndex, isTotal, isChunk,
    ofBigEndian_bigEndian (lt_trans below small),
    ofBigEndian_bigEndian small, id, if_neg (by omega)]
  rfl

/-! ## Putting a message together -/

namespace Send

variable {send : Send μ}

def chunks (print : μ → List UInt8) (send : Send μ) : List (List UInt8) :=
  (send.framed print).toChunks maxPayload

theorem segments_short (short : (send.framed print).length ≤ maxPayload) :
    send.segments print = [(typeData, send.framed print)] := by
  rw [segments, Pin.segments, if_pos short]

theorem getElem?_segments (long : ¬ (send.framed print).length ≤ maxPayload) (number : ℕ) :
    (send.segments print)[number]? = (send.chunks print)[number]?.map fun chunk => (typeFragment,
        bigEndian 4 send.fragmentId.toNat ++ bigEndian 2 number ++
          bigEndian 2 (send.chunks print).length ++ chunk) := by
  rw [segments, Pin.segments, if_neg long]
  simp only [getElem?_map, getElem?_zipIdx, Option.map_map]
  simp [chunks, comp_def]

theorem segment_kind (listed : segment ∈ send.segments print) :
    segment.1 = typeData ∨ segment.1 = typeFragment := by
  rw [segments, Pin.segments] at listed
  split at listed
  · exact Or.inl (congrArg Prod.fst (mem_singleton.mp listed))
  · obtain ⟨_, -, rfl⟩ := mem_map.mp listed
    exact Or.inr rfl

theorem length_segments (long : ¬ (send.framed print).length ≤ maxPayload) :
    (send.segments print).length = (send.chunks print).length := by
  rw [segments, Pin.segments, if_neg long]
  simp [chunks]

theorem length_framed : (send.framed print).length = 4 + (print send.message).length := by
  rw [framed, frameMessage, length_append, length_bigEndian]

theorem chunks_spec (send : Send μ) : (send.chunks print).flatten = send.framed print ∧
    ∃ count, (send.chunks print).length = count + 1 ∧
      (send.framed print).length ≤ count * maxPayload + maxPayload ∧
      count * maxPayload < (send.framed print).length := by
  obtain ⟨first, rest, isCons⟩ := exists_cons_of_length_pos (l := send.framed print)
    (by rw [length_framed]; omega)
  rw [chunks, isCons]
  exact toChunks_spec (by decide) first rest

theorem segments_pos : 0 < (send.segments print).length := by
  by_cases short : (send.framed print).length ≤ maxPayload
  · rw [segments_short short]
    exact Nat.one_pos
  · obtain ⟨-, count, counted, -⟩ := @chunks_spec _ print send
    rw [length_segments short, counted]
    exact Nat.succ_pos _

theorem Fits.chunks (fits : send.Fits print) :
    (send.chunks print).flatten = send.framed print ∧ (send.chunks print).length < 256 ^ 2 := by
  obtain ⟨flat, count, counted, -, lower⟩ := @chunks_spec _ print send
  have below : count < 65535 := by
    apply Nat.lt_of_mul_lt_mul_right
    exact lt_of_lt_of_le lower fits
  exact ⟨flat, by omega⟩

theorem length_chunks {count : ℕ} (lower : count * maxPayload < (send.framed print).length)
    (upper : (send.framed print).length ≤ count * maxPayload + maxPayload) :
    (send.chunks print).length = count + 1 := by
  obtain ⟨-, cuts, counted, cutsUpper, cutsLower⟩ := @chunks_spec _ print send
  rw [maxPayload] at lower upper cutsUpper cutsLower
  omega

theorem length_chunks_oversized (oversized : (send.framed print).length = 65536 * maxPayload) :
    (send.chunks print).length = 65536 := by
  apply send.length_chunks <;> rw [oversized] <;> decide

theorem Fits.deframe (roundTrip : ∀ message, parse (print message) = some message)
    (fits : send.Fits print) : deframeMessage parse (send.framed print) = .ok send.message := by
  have total : (send.framed print).length = 4 + (print send.message).length := send.length_framed
  have small : (print send.message).length < 256 ^ 4 := by
    rw [Fits, total, maxPayload] at fits
    omega
  have isLength : ofBigEndian ((send.framed print).take 4) = (print send.message).length := by
    rw [framed, frameMessage, take_left' (length_bigEndian _ _),
      ofBigEndian_bigEndian small]
  have isJson : (send.framed print).drop 4 = print send.message := by
    rw [framed, frameMessage, drop_left' (length_bigEndian _ _)]
  simp only [deframeMessage, isLength, isJson, take_length, roundTrip,
    bind_eq_ok, failIf_eq_ok, getOr_eq_ok]
  exact ⟨(), by omega, (), by omega, trivial⟩

end Send

section Layout

variable {sends : ι → Send μ} {part : Reassembly.Part ι}

/-- A message that is cut is kept under its fragment id until it is complete. -/
def layout (print : μ → List UInt8) (sends : ι → Send μ) : Layout ι UInt32 where
  tag item :=
    if ((sends item).framed print).length ≤ maxPayload then none
    else some (sends item).fragmentId
  total item := ((sends item).segments print).length
  lifetime := fragmentTtl
  whole := by
    intro item untagged
    have short : ((sends item).framed print).length ≤ maxPayload := by
      by_contra long
      simp [long] at untagged
    rw [Send.segments_short short, length_singleton]

def bufferOf (print : μ → List UInt8) (sends : ι → Send μ)
    (pending : Pending ι) : FragmentBuffer where
  total := ((sends pending.item).segments print).length
  chunks := pending.parts.map fun number =>
    (number, ((sends pending.item).chunks print).getD number [])
  created := pending.created

def buffers (print : μ → List UInt8) (sends : ι → Send μ) (shelf : Shelf ι UInt32) : Fragments :=
  fun fragmentId => (shelf fragmentId).map (bufferOf print sends)

theorem buffers_retained (shelf : Shelf ι UInt32) (now : ℕ) :
    (fun fragmentId => (buffers print sends shelf fragmentId).filter
      fun buffer => now - buffer.created < fragmentTtl) =
    buffers print sends ((layout print sends).retained shelf now) := by
  funext fragmentId
  rw [buffers, Option.filter_map]
  rfl

theorem buffers_update (shelf : Shelf ι UInt32) (fragmentId : UInt32)
    (pending : Option (Pending ι)) :
    buffers print sends (update shelf fragmentId pending) =
      update (buffers print sends shelf) fragmentId
        (pending.map (bufferOf print sends)) := by
  funext other
  by_cases same : other = fragmentId
  · rw [buffers, same, update_self, update_self]
  · rw [buffers, update_of_ne same, update_of_ne same, buffers]

theorem insert_bufferOf {shelf : Shelf ι UInt32} {fragmentId : UInt32}
    (sameItem : ∀ pending, (layout print sends).retained shelf part.now fragmentId = some pending →
        pending.item = part.item)
    (nodup : ((layout print sends).extended shelf fragmentId part).parts.Nodup) :
    ((buffers print sends ((layout print sends).retained shelf part.now) fragmentId).getD
      { total := ((sends part.item).segments print).length, chunks := [],
        created := part.now }).insert part.number
          (((sends part.item).chunks print).getD part.number []) =
      bufferOf print sends ((layout print sends).extended shelf fragmentId part) := by
  rw [extended] at nodup ⊢
  rw [buffers]
  cases kept : (layout print sends).retained shelf part.now fragmentId with
  | none => rfl
  | some pending =>
    have own := sameItem pending kept
    rw [kept, getD_some] at nodup
    have new : part.number ∉ pending.parts := (nodup_cons.mp nodup).1
    have others : ∀ entry ∈ (bufferOf print sends pending).chunks,
        decide (entry.1 ≠ part.number) = true := by
      intro entry listed
      obtain ⟨number, isPart, rfl⟩ := mem_map.mp listed
      rw [decide_eq_true_iff]
      rintro rfl
      exact new isPart
    simp only [map_some, getD_some, FragmentBuffer.insert]
    rw [filter_eq_self.mpr others]
    simp [bufferOf, own]

theorem isComplete_bufferOf {pending : Pending ι} :
    (bufferOf print sends pending).isComplete = true ↔
      pending.parts.length = (layout print sends).total pending.item := by
  simp [FragmentBuffer.isComplete, bufferOf, layout]

theorem lookup_map_of_mem {numbers : List ℕ} (read : ℕ → List UInt8) (listed : number ∈ numbers) :
    (numbers.map fun number => (number, read number)).lookup number = some (read number) := by
  induction numbers with
  | nil => cases listed
  | cons head rest ih =>
    rw [map_cons, lookup_cons]
    by_cases here : number = head
    · simp [here]
    · have inRest := (mem_cons.mp listed).resolve_left here
      rw [beq_eq_false_iff_ne.mpr here]
      exact ih inRest

theorem reassemble_bufferOf {pending : Pending ι} (isItem : pending.item = item)
    (fits : (sends item).Fits print) (long : ¬ ((sends item).framed print).length ≤ maxPayload)
    (all : ∀ number < ((sends item).segments print).length, number ∈ pending.parts) :
    (bufferOf print sends pending).reassemble = (sends item).framed print := by
  subst isItem
  have cut : (range ((sends pending.item).chunks print).length).map
      (fun number => ((sends pending.item).chunks print).getD number []) =
        (sends pending.item).chunks print := by
    apply ext_getElem
    · simp
    · intro number _ inChunks
      simp [inChunks]
  have found : ∀ number ∈ range ((sends pending.item).segments print).length,
      ((bufferOf print sends pending).chunks.lookup number).getD [] =
        ((sends pending.item).chunks print).getD number [] := by
    intro number inRange
    rw [bufferOf, lookup_map_of_mem _ (all number (mem_range.mp inRange)), getD_some]
  rw [FragmentBuffer.reassemble, flatMap_def]
  refine (congrArg flatten (map_congr_left found)).trans ?_
  rw [Send.length_segments long, cut]
  exact fits.chunks.1

theorem receiveSegment_put (roundTrip : ∀ message, parse (print message) = some message)
    (fits : (sends part.item).Fits print) (sound : (layout print sends).Sound fed collection)
    (undisturbed : (layout print sends).Undisturbed collection part)
    (fresh : (part.item, part.number) ∉ fed)
    (numbered : ((sends part.item).segments print)[part.number]? = some segment) :
    receiveSegment parse part.now segment (buffers print sends collection.shelf) =
      (buffers print sends ((layout print sends).put collection.shelf part).1,
        ((layout print sends).put collection.shelf part).2.map
          fun item => (sends item).message) := by
  have valid : part.number < ((sends part.item).segments print).length :=
    (List.getElem?_eq_some_iff.mp numbered).1
  by_cases long : ((sends part.item).framed print).length ≤ maxPayload
  · have untagged : (layout print sends).tag part.item = none := if_pos long
    rw [Send.segments_short long] at numbered
    have isFramed : (typeData, (sends part.item).framed print) = segment :=
      mem_singleton.mp (mem_of_getElem? numbered) ▸ rfl
    rw [← isFramed, receiveSegment, if_pos rfl, fits.deframe roundTrip, put, untagged]
    rfl
  · have tagged : (layout print sends).tag part.item =
        some (sends part.item).fragmentId := if_neg long
    have grown := sound.extended undisturbed tagged fresh valid
    have inChunks : part.number < ((sends part.item).chunks print).length := by
      rwa [← Send.length_segments long]
    rw [Send.getElem?_segments long, getElem?_eq_getElem inChunks,
      map_some, some.injEq] at numbered
    have chunk : ((sends part.item).chunks print)[part.number] =
        ((sends part.item).chunks print).getD part.number [] := by
      simp [inChunks]
    have notData : typeFragment ≠ typeData := by decide
    rw [← numbered, receiveSegment, if_neg notData,
      receiveFragment_of_fits _ _ _ _ inChunks fits.chunks.2, chunk,
      ← Send.length_segments long, storeFragment, buffers_retained,
      insert_bufferOf (fun pending kept => undisturbed _ tagged pending kept)
        grown.nodup, put, tagged]
    by_cases complete : ((layout print sends).extended collection.shelf
          (sends part.item).fragmentId part).parts.length =
        (layout print sends).total ((layout print sends).extended
          collection.shelf (sends part.item).fragmentId part).item
    · have all := mem_of_length_eq grown.nodup
        (fun number listed => (grown.parts number listed).1)
        (le_of_eq (complete.trans (congrArg _ grown.item)).symm)
      rw [if_pos (isComplete_bufferOf.mpr complete),
        reassemble_bufferOf grown.item fits long all, fits.deframe roundTrip]
      dsimp only
      rw [if_pos complete, buffers_update, grown.item]
      rfl
    · rw [if_neg (mt isComplete_bufferOf.mp complete)]
      dsimp only
      rw [if_neg complete, buffers_update]
      rfl

end Layout

/-! ## Runs -/

section Runs

variable {sends : ι → Send μ} {wire : Wire print sends}
  {sender keys : TransportKeys UInt8}

/-- The parts of messages that are accepted, when the counters of the packets on
the wire are their positions. -/
def Wire.heard (wire : Wire print sends) : List UInt64 → List Arrival → List (Reassembly.Part ι)
  | _, [] => []
  | accepted, ⟨now, .copy position⟩ :: rest =>
    match wire.places[position]? with
    | none => wire.heard accepted rest
    | some (item, number) =>
      if Admits accepted (.ofNat position) then
        ⟨now, item, number⟩ :: wire.heard (.ofNat position :: accepted) rest
      else
        wire.heard accepted rest
  | accepted, ⟨_, .foreign _⟩ :: rest => wire.heard accepted rest

def Unforged (P : Primitives UInt8 σ) (keys : TransportKeys UInt8) (arrival : Arrival) : Prop :=
  ∀ kind body plaintext, arrival.packet = .foreign (kind :: body) →
    ¬ Opens P keys.receiveKey body plaintext

structure Matches (keys : TransportKeys UInt8) (print : μ → List UInt8)
    (sends : ι → Send μ) (accepted : List UInt64) (fed : List (ι × ℕ))
    (receiver : Receiver μ) (collection : Collection ι UInt32) : Prop where
  received : Received keys receiver.session accepted
  sound : (layout print sends).Sound fed collection
  fragments : receiver.fragments = buffers print sends collection.shelf
  delivered : receiver.delivered = collection.completed.map fun item => (sends item).message

variable {accepted : List UInt64} {fed : List (ι × ℕ)} {receiver : Receiver μ}
  {collection : Collection ι UInt32} {arrivals : List Arrival}

theorem matches_new : Matches keys print sends [] [] (Receiver.new keys)
      ({} : Collection ι UInt32) where
  received := ⟨rfl, tracks_new keys, nodup_nil⟩
  sound := sound_empty
  fragments := rfl
  delivered := rfl

theorem Received.decrypt_of_not_admitted (received : Received keys session accepted)
    (refused : ∀ plaintext, Opens P keys.receiveKey body plaintext →
      ¬ Admits accepted (packetCounter body)) :
    ∃ failure, session.decrypt P body = (session, .error failure) := by
  rcases session.decrypt_cases P body with ⟨plaintext, opens, fresh, -⟩ | error
  · rw [received.receiveKey] at opens
    exact absurd ((received.tracks.isReplay_eq_false_iff _).mp fresh) (refused plaintext opens)
  · exact error

namespace Matches

variable (correct : P.Correct) (agrees : Matches keys print sends accepted fed receiver collection)

include correct agrees

theorem accept (roundTrip : ∀ message, parse (print message) = some message)
    (paired : keys.receiveKey = sender.sendKey) (fits : (sends item).Fits print) (located : wire.places[position]? = some (item, number))
    (admitted : Admits accepted (.ofNat position))
    (undisturbed : (layout print sends).Undisturbed collection ⟨now, item, number⟩)
    (fresh : (item, number) ∉ fed) :
    Matches keys print sends (.ofNat position :: accepted) ((item, number) :: fed)
      (hear P parse (wire.packets P sender) receiver ⟨now, .copy position⟩)
      ((layout print sends).collect collection ⟨now, item, number⟩) := by
  obtain ⟨segment, numbered, isSealed⟩ := wire.getElem?_packets P sender located
  have valid := (List.getElem?_eq_some_iff.mp numbered).1
  have known := Send.segment_kind (mem_of_getElem? numbered)
  obtain ⟨opens, isCounter⟩ := opens_seal correct keys.receiveKey (.ofNat position) segment.2
  rw [← isCounter] at admitted
  have accepts := (agrees.received.decrypt_eq_ok_iff _ _).mpr ⟨opens, admitted⟩
  have next : Received keys (receiver.session.decrypt P _).1
      (acceptedAfter P keys.receiveKey accepted _) :=
    agrees.received.decrypt (littleEndian 8 (UInt64.ofNat position).toNat ++
      P.encrypt keys.receiveKey (.ofNat position) [] segment.2)
  rw [acceptedAfter_of_opens opens admitted, isCounter] at next
  have bytes : (wire.packets P sender).getD position [] =
      segment.1 :: (littleEndian 8 (UInt64.ofNat position).toNat ++
        P.encrypt keys.receiveKey (.ofNat position) [] segment.2) := by
    rw [getD_eq_getElem?_getD, isSealed, getD_some, paired]
    rfl
  have heard : handleDatagram P parse now (segment.1 :: _) receiver.session
      receiver.fragments = _ := handleDatagram_ok known (Prod.ext rfl accepts)
  have stored := receiveSegment_put roundTrip fits agrees.sound undisturbed fresh numbered
  rw [agrees.fragments, stored] at heard
  rw [hear, Packet.bytes, bytes, agrees.fragments, heard]
  exact {
    received := next
    sound := agrees.sound.collect undisturbed fresh valid
    fragments := rfl
    delivered := by simp [agrees.delivered, collect, toList_map] }

theorem hear_refused {arrival : Arrival} (unforged : Unforged P keys arrival)
    (refused : ∀ position, arrival.packet = .copy position →
      wire.places[position]? = none ∨ ¬ Admits accepted (.ofNat position)) :
    hear P parse (wire.packets P sender) receiver arrival = receiver := by
  apply hear_of_refused
  intro kind body isBytes
  apply agrees.received.decrypt_of_not_admitted
  intro plaintext opens admitted
  cases isPacket : arrival.packet with
  | foreign bytes =>
    rw [isPacket, Packet.bytes] at isBytes
    exact unforged kind body plaintext (isBytes ▸ isPacket) opens
  | copy position =>
    rw [isPacket, Packet.bytes] at isBytes
    cases located : wire.places[position]? with
    | none =>
      have absent : (wire.packets P sender)[position]? = none := by
        rw [Wire.packets, getElem?_transmit, getElem?_map, located]
        rfl
      rw [getD_eq_getElem?_getD, absent] at isBytes
      cases isBytes
    | some place =>
      obtain ⟨segment, -, isSealed⟩ := wire.getElem?_packets P sender located
      rw [getD_eq_getElem?_getD, isSealed, getD_some, sealSegment,
        cons.injEq] at isBytes
      have isCounter := (opens_seal correct sender.sendKey (.ofNat position) segment.2).2
      rw [isBytes.2] at isCounter
      rw [isCounter] at admitted
      rcases refused position isPacket with absent | notAdmitted
      · rw [absent] at located
        cases located
      · exact notAdmitted admitted

/-- A whole run: the receiver does what the collection does with the parts that
are heard. -/
theorem run (roundTrip : ∀ message, parse (print message) = some message)
    (paired : keys.receiveKey = sender.sendKey) (fits : ∀ item, (sends item).Fits print)
    (unforged : ∀ arrival ∈ arrivals, Unforged P keys arrival)
    (fresh : Layout.Fresh (layout print sends) fed (wire.heard accepted arrivals))
    (undisturbed : Admissible (layout print sends).Undisturbed
      (layout print sends).collect collection (wire.heard accepted arrivals)) :
    ∃ accepted' fed', Matches keys print sends accepted' fed'
      (run (hear P parse (wire.packets P sender)) receiver arrivals)
      (run (layout print sends).collect collection
        (wire.heard accepted arrivals)) := by
  fun_induction Wire.heard wire accepted arrivals generalizing fed receiver collection with
  | case1 accepted => exact ⟨accepted, fed, agrees⟩
  | case2 accepted now position rest located ih =>
    rw [run_cons, agrees.hear_refused correct (unforged _ mem_cons_self)
      (by rintro _ ⟨⟩; exact Or.inl located)]
    exact ih agrees (forall_mem_cons.mp unforged).2 fresh undisturbed
  | case3 accepted now position rest item number located admitted ih =>
    exact ih (agrees.accept correct roundTrip paired (fits item) located
        admitted undisturbed.1 (fresh.new _ mem_cons_self))
      (forall_mem_cons.mp unforged).2 fresh.tail undisturbed.2
  | case4 accepted now position rest item number located refused ih =>
    rw [run_cons, agrees.hear_refused correct (unforged _ mem_cons_self)
      (by rintro _ ⟨⟩; exact Or.inr refused)]
    exact ih agrees (forall_mem_cons.mp unforged).2 fresh undisturbed
  | case5 accepted now bytes rest ih =>
    rw [run_cons, agrees.hear_refused correct (unforged _ mem_cons_self) (by rintro _ ⟨⟩)]
    exact ih agrees (forall_mem_cons.mp unforged).2 fresh undisturbed

end Matches

/-! ## The parts that are heard -/

theorem mem_places_of_heard (listed : part ∈ wire.heard accepted arrivals) :
    (part.item, part.number) ∈ wire.places := by
  fun_induction Wire.heard wire accepted arrivals with
  | case1 => cases listed
  | case3 accepted now position rest item number located admitted ih =>
    rcases mem_cons.mp listed with rfl | inRest
    · exact mem_of_getElem? located
    · exact ih inRest
  | case2 | case4 | case5 =>
    rename_i ih
    exact ih listed

theorem fresh_heard (arrivals : List Arrival)
    (known : ∀ position place, wire.places[position]? = some place →
      place ∈ fed → UInt64.ofNat position ∈ accepted) :
    Layout.Fresh (layout print sends) fed (wire.heard accepted arrivals) := by
  fun_induction Wire.heard wire accepted arrivals generalizing fed with
  | case1 => exact ⟨nofun, List.Pairwise.nil, nofun⟩
  | case3 accepted now position rest item number located admitted ih =>
    apply Layout.Fresh.cons
    · intro listed
      exact admitted.1 (known position _ located listed)
    · exact wire.valid _ (mem_of_getElem? located)
    · apply ih
      intro other place found listed
      rcases mem_cons.mp listed with rfl | old
      · have same : other = position :=
          (getElem?_inj (List.getElem?_eq_some_iff.mp found).1
            wire.nodup).mp (found.trans located.symm)
        rw [same]
        exact mem_cons_self
      · exact mem_cons_of_mem _ (known other place found old)
  | case2 | case4 | case5 =>
    rename_i ih
    exact ih known

theorem times_heard (wire : Wire print sends) (accepted : List UInt64) (arrivals : List Arrival) :
    (wire.heard accepted arrivals).map Reassembly.Part.now <+ arrivals.map Arrival.now := by
  fun_induction Wire.heard wire accepted arrivals with
  | case1 => exact .slnil
  | case3 accepted now position rest item number located admitted ih => exact ih.cons_cons now
  | case2 | case4 | case5 =>
    rename_i ih
    exact ih.cons _

theorem highest_lt (positive : 0 < bound) (below : ∀ counter ∈ accepted, counter.toNat < bound) :
    highest accepted < bound := by
  induction accepted with
  | nil => exact positive
  | cons counter rest ih =>
    apply max_lt (below counter mem_cons_self)
    exact ih (forall_mem_cons.mp below).2

theorem Wire.toNat_position (short : wire.places.length ≤ 2 ^ 64)
    (located : wire.places[position]? = some place) : (UInt64.ofNat position).toNat = position := by
  have isBelow := (List.getElem?_eq_some_iff.mp located).1
  exact UInt64.toNat_ofNat_of_lt (lt_of_lt_of_le isBelow short)

/-- A packet is heard when it comes for the first time and no packet that came
before it is 2048 or more places ahead of it. -/
theorem mem_heard_of_first (short : wire.places.length ≤ 2 ^ 64)
    (located : wire.places[position]? = some (item, number)) (before after : List Arrival)
    (first : ∀ earlier ∈ before, ∀ other, earlier.packet = .copy other →
      other ≠ position ∧ other < position + 2048) (near : ∀ counter ∈ accepted,
      counter.toNat ≠ position ∧ counter.toNat < position + 2048) : ⟨now, item, number⟩ ∈
      wire.heard accepted (before ++ ⟨now, .copy position⟩ :: after) := by
  induction before generalizing accepted with
  | nil =>
    have isPosition := Wire.toNat_position short located
    have window : highest accepted < position + 2048 :=
      highest_lt (by omega) fun counter listed => (near counter listed).2
    have admitted : Admits accepted (.ofNat position) := by
      refine ⟨fun listed => (near _ listed).1 isPosition, ?_⟩
      omega
    simp only [nil_append, Wire.heard, located, if_pos admitted]
    exact mem_cons_self
  | cons earlier rest ih =>
    have later : ∀ {accepted : List UInt64}, (∀ counter ∈ accepted,
          counter.toNat ≠ position ∧ counter.toNat < position + 2048) →
        ⟨now, item, number⟩ ∈ wire.heard accepted (rest ++ ⟨now, .copy position⟩ :: after) :=
      ih (forall_mem_cons.mp first).2
    obtain ⟨time, other | bytes⟩ := earlier
    · rw [cons_append, Wire.heard]
      split
      · exact later near
      · rename_i _ _ found
        split
        case isFalse => exact later near
        case isTrue =>
          apply mem_cons_of_mem
          apply later
          intro counter listed
          rcases mem_cons.mp listed with rfl | old
          · rw [Wire.toNat_position short found]
            exact first _ mem_cons_self other rfl
          · exact near counter old
    · exact later near

/-- Every packet of the message arrives while the window still admits it, and
they first do so within the lifetime of a fragment buffer. -/
def Wire.InTime (wire : Wire print sends) (arrivals : List Arrival) (item : ι) : Prop :=
  ∃ start, ∀ number < ((sends item).segments print).length, ∃ position before now after,
      wire.places[position]? = some (item, number) ∧
      arrivals = before ++ ⟨now, .copy position⟩ :: after ∧
      (∀ earlier ∈ before, ∀ other, earlier.packet = .copy other →
        other ≠ position ∧ other < position + 2048) ∧
      start ≤ now ∧ now < start + fragmentTtl

/-- A fragment never meets pending fragments of another message under its
fragment id. -/
def Wire.IdsDistinct (wire : Wire print sends) (arrivals : List Arrival) : Prop :=
  Admissible (layout print sends).Undisturbed (layout print sends).collect {}
    (wire.heard [] arrivals)

theorem Wire.InTime.heard (inTime : wire.InTime arrivals item)
    (short : wire.places.length ≤ 2 ^ 64) : ∃ start,
      (∀ part ∈ wire.heard [] arrivals, part.item = item →
        start ≤ part.now ∧ part.now < start + fragmentTtl) ∧
      ∀ number < ((sends item).segments print).length, ∃ part ∈ wire.heard [] arrivals,
          part.item = item ∧ part.number = number := by
  obtain ⟨start, arrives⟩ := inTime
  have listed : ∀ number < ((sends item).segments print).length,
      ∃ now, ⟨now, item, number⟩ ∈ wire.heard [] arrivals ∧
        start ≤ now ∧ now < start + fragmentTtl := by
    intro number isBelow
    obtain ⟨position, before, now, after, located, rfl, first, timely⟩ := arrives number isBelow
    exact ⟨now, mem_heard_of_first short located before after first nofun, timely⟩
  have fresh : Layout.Fresh (layout print sends) [] (wire.heard [] arrivals) :=
    fresh_heard arrivals nofun
  refine ⟨start, ?_, ?_⟩
  · rintro ⟨time, _, number⟩ isHeard rfl
    obtain ⟨now, isFirst, timely⟩ := listed number (fresh.valid _ isHeard)
    have places : ((wire.heard [] arrivals).map fun part =>
        (part.item, part.number)).Nodup := pairwise_map.mpr fresh.distinct
    cases inj_on_of_nodup_map places isFirst isHeard rfl
    exact timely
  · intro number isBelow
    obtain ⟨now, isHeard, -⟩ := listed number isBelow
    exact ⟨_, isHeard, rfl, rfl⟩

/-- No message is delivered twice and none that was not sent, and every message
whose packets arrive in time is delivered. -/
theorem transport_delivers (correct : P.Correct)
    (roundTrip : ∀ message, parse (print message) = some message)
    (paired : keys.receiveKey = sender.sendKey) (fits : ∀ item, (sends item).Fits print)
    (short : wire.places.length ≤ 2 ^ 64) {arrivals : List Arrival}
    (ordered : arrivals.Pairwise fun arrival later => arrival.now ≤ later.now)
    (unforged : ∀ arrival ∈ arrivals, Unforged P keys arrival)
    (distinct : wire.IdsDistinct arrivals) : ∃ delivered : List ι, delivered.Nodup ∧
      (run (hear P parse (wire.packets P sender)) (Receiver.new keys)
        arrivals).delivered = delivered.map (fun item => (sends item).message) ∧
      (∀ item ∈ delivered, ∀ number < ((sends item).segments print).length,
        (item, number) ∈ wire.places) ∧ ∀ item, wire.InTime arrivals item → item ∈ delivered := by
  have fresh : Layout.Fresh (layout print sends) [] (wire.heard [] arrivals) :=
    fresh_heard arrivals nofun
  have sound := sound_empty.run fresh distinct
  obtain ⟨_, _, final⟩ := matches_new.run correct roundTrip paired fits unforged fresh distinct
  refine ⟨_, sound.nodup, final.delivered, ?_, ?_⟩
  · intro item listed number isBelow
    have came := sound.completed item listed number isBelow
    rw [append_nil, mem_reverse] at came
    obtain ⟨part, isHeard, isPlace⟩ := mem_map.mp came
    have onWire := mem_places_of_heard isHeard
    rwa [isPlace] at onWire
  · intro item inTime
    obtain ⟨start, timely, all⟩ := inTime.heard short
    have nothing : Layout.InHand (layout print sends) start [] item {} := Or.inr (Or.inl nofun)
    have orderedParts := pairwise_map.mp ((pairwise_map.mpr ordered).sublist (times_heard wire [] _))
    exact nothing.run sound_empty fresh distinct orderedParts
      timely Send.segments_pos fun number isBelow => Or.inr (all number isBelow)

def twoChunks (_ : Unit) : Send (List UInt8) where
  message := replicate 2000 7
  fragmentId := 5

theorem length_framed_twoChunks (item : Unit) : ((twoChunks item).framed id).length = 2004 := by
  rw [Send.length_framed, twoChunks, id_eq, length_replicate]

theorem length_segments_twoChunks : ((twoChunks ()).segments id).length = 2 := by
  have long : ¬ ((twoChunks ()).framed id).length ≤ maxPayload := by
    rw [length_framed_twoChunks]
    decide
  rw [Send.length_segments long]
  apply Send.length_chunks <;> rw [length_framed_twoChunks] <;> decide

def twoPackets : Wire id twoChunks where
  places := [((), 0), ((), 1)]
  nodup := by decide
  valid := by
    intro place listed
    rw [length_segments_twoChunks]
    revert place
    decide

def oneKey : TransportKeys UInt8 where
  sendKey := Vector.replicate 32 1
  receiveKey := Vector.replicate 32 1
  handshakeHash := Vector.replicate 32 0

/-- The second packet comes first, and comes again. -/
def twoArrivals : List Arrival := [⟨0, .copy 1⟩, ⟨5, .copy 1⟩, ⟨9, .copy 0⟩]

theorem transport_delivers_twoArrivals : twoPackets.InTime twoArrivals () ∧
    ∃ delivered : List Unit, delivered.Nodup ∧
      (run (hear checksumSuite some (twoPackets.packets checksumSuite oneKey))
        (Receiver.new oneKey) twoArrivals).delivered =
          delivered.map (fun item => (twoChunks item).message) ∧
      (∀ item ∈ delivered, ∀ number < ((twoChunks item).segments id).length,
          (item, number) ∈ twoPackets.places) ∧
      ∀ item, twoPackets.InTime twoArrivals item → item ∈ delivered := by
  constructor
  · refine ⟨0, ?_⟩
    rw [length_segments_twoChunks]
    intro number isBelow
    match number, isBelow with
    | 0, _ =>
      exact ⟨0, [⟨0, .copy 1⟩, ⟨5, .copy 1⟩], 9, [], rfl, rfl, by simp, by decide, by decide⟩
    | 1, _ =>
      exact ⟨1, [], 0, [⟨5, .copy 1⟩, ⟨9, .copy 0⟩], rfl, rfl, by simp, by decide, by decide⟩
  · apply transport_delivers checksumSuite_correct (fun _ => rfl) rfl
    · intro item
      exact (length_framed_twoChunks item).trans_le (by decide)
    · decide
    · simp [twoArrivals]
    · intro arrival listed kind body plaintext foreign
      simp only [twoArrivals, mem_cons, not_mem_nil, or_false] at listed
      rcases listed with rfl | rfl | rfl <;> cases foreign
    · exact admissible_of_forall fun _ _ _ _ _ _ _ => rfl

/-! ## A message of too many chunks -/

/-- With 65536 chunks the field for their number reads 0. -/
theorem receiveSegment_oversized {send : Send μ}
    (oversized : (send.framed print).length = 65536 * maxPayload)
    (listed : segment ∈ send.segments print) (now : ℕ) (fragments : Fragments) :
    receiveSegment parse now segment fragments = (fragments, none) := by
  have long : ¬ (send.framed print).length ≤ maxPayload := by
    rw [oversized]
    decide
  have counted := send.length_chunks_oversized oversized
  obtain ⟨number, isSegment⟩ := mem_iff_getElem?.mp listed
  rw [Send.getElem?_segments long, counted] at isSegment
  obtain ⟨chunk, -, rfl⟩ := map_eq_some_iff.mp isSegment
  obtain ⟨whole, -, -, isTotal, -⟩ := fragment_fields send.fragmentId number 65536 chunk
  have zero : ofBigEndian (bigEndian 2 65536) = 0 := by decide
  have notData : typeFragment ≠ typeData := by decide
  rw [receiveSegment, if_neg notData, receiveFragment, if_neg whole, isTotal, zero]
  exact if_pos (Or.inl rfl)

theorem hear_oversized (correct : P.Correct) (paired : keys.receiveKey = sender.sendKey)
    {send : Send μ} (oversized : (send.framed print).length = 65536 * maxPayload)
    (received : Received keys receiver.session accepted) (now position : ℕ) :
    let packets := (sendPackets P (NoiseSession.new sender) (send.framed print)
      send.fragmentId).2
    let next := hear P parse packets receiver ⟨now, .copy position⟩
    (∃ accepted, Received keys next.session accepted) ∧ next.delivered = receiver.delivered := by
  intro packets next
  have isPacket : packets[position]? = (send.segments print)[position]?.map
      (sealSegment P sender.sendKey (.ofNat position)) := by
    have counter : (NoiseSession.new sender).sendCounter + .ofNat position =
        UInt64.ofNat position := UInt64.zero_add _
    rw [← counter]
    exact (congrArg (fun sent => sent.2[position]?)
      (sendPackets_eq_transmit ..)).trans (getElem?_transmit ..)
  cases located : (send.segments print)[position]? with
  | none =>
    have same : next = receiver := by
      refine hear_of_refused fun kind body isBytes => ?_
      rw [Packet.bytes, getD_eq_getElem?_getD, isPacket, located] at isBytes
      cases isBytes
    rw [same]
    exact ⟨⟨accepted, received⟩, rfl⟩
  | some segment =>
    have listed := mem_of_getElem? located
    have bytes : packets.getD position [] = sealSegment P keys.receiveKey (.ofNat position)
        segment := by
      rw [getD_eq_getElem?_getD, isPacket, located, paired]
      rfl
    rw [sealSegment] at bytes
    have own := (opens_seal correct keys.receiveKey (.ofNat position) segment.2).1
    generalize littleEndian 8 _ ++ P.encrypt keys.receiveKey _ [] segment.2 = body at own bytes
    have moved := received.decrypt (P := P) body
    have isNext : next = { receiver with session := (receiver.session.decrypt P body).1 } := by
      dsimp only [next]
      rw [hear, Packet.bytes, bytes]
      rcases receiver.session.decrypt_cases P body with
        ⟨plaintext, opens, -, decrypted⟩ | ⟨failure, isError⟩
      · rw [received.receiveKey] at opens
        cases own.2.symm.trans opens.2
        rw [handleDatagram_ok (Send.segment_kind listed) decrypted,
          receiveSegment_oversized oversized listed, decrypted]
        simp
      · rw [handleDatagram_error isError, isError]
        simp
    rw [isNext]
    exact ⟨⟨_, moved⟩, rfl⟩

end Runs

def longMessage : Send (List UInt8) where
  message := replicate (65536 * maxPayload - 4) 0
  fragmentId := 0

/-- All its packets arrive at once and in order. -/
theorem longMessage_not_delivered :
    let sent := sendPackets checksumSuite (NoiseSession.new oneKey)
      (longMessage.framed id) longMessage.fragmentId
    sent.2.length = 65536 ∧ (run (hear checksumSuite some sent.2) (Receiver.new oneKey)
        ((range 65536).map fun position => ⟨0, .copy position⟩)).delivered = [] := by
  have oversized : (longMessage.framed id).length = 65536 * maxPayload := by
    have isLength : longMessage.message.length = 65536 * maxPayload - 4 := length_replicate
    rw [Send.length_framed, id_eq, isLength]
    decide
  have long : ¬ (longMessage.framed id).length ≤ maxPayload := by
    rw [oversized]
    decide
  constructor
  · rw [sendPackets_eq_transmit, length_transmit]
    exact (Send.length_segments long).trans (longMessage.length_chunks_oversized oversized)
  · generalize range 65536 = positions
    refine (foldl_preserves (fun receiver : Receiver (List UInt8) =>
      (∃ accepted, Received oneKey receiver.session accepted) ∧ receiver.delivered = [])
      ?_ ⟨⟨[], rfl, tracks_new oneKey, nodup_nil⟩, rfl⟩).2
    rintro receiver arrival listed ⟨⟨accepted, received⟩, silent⟩
    obtain ⟨position, -, rfl⟩ := mem_map.mp listed
    have paired : oneKey.receiveKey = oneKey.sendKey := rfl
    refine (hear_oversized checksumSuite_correct paired oversized received 0 position).imp_right ?_
    exact fun same => same.trans silent

end Teale.Node.Pin
