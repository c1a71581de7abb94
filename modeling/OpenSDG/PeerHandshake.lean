import OpenSDG.FrameEngine
import OpenSDG.Bounds

/-!
# The peer handshake, frame by frame

The specification's third scenario: a peer connection with a tunnel id calls
`start_connection`, which sends the `ForwardRemote` request, and the grid answers with a
`FORWARD_HOLD`, a `FORWARD_REPLY` carrying the forwarding signature, then the server's `WELC`,
`COOK` and `REDY` packets.  The frames may arrive split at any byte.

* `packetImage` / `dataPacketImage` — the frames as the server and the grid send them.
* `frameStep_welc`, `frameStep_cook`, `frameStep_redy` — one whole frame of each kind, when its
  boxes seal and open, stated as its effect on the `Session` (the keys, the cookie, the counter,
  the mode, the status and the images sent).
* `peer_frames_connect` — the five frames in order, on the frame-level engine.
* `peer_handshake_completes` — the scenario on `receive_packet` itself: for every schedule of
  arrivals in which each call receives a byte and that has at least as many calls as the stream has
  bytes, the connection ends connected, holding the server's key, the keypair drawn by the call
  that completes `WELC`, the cookie and the session key, its counter advanced twice, having sent
  exactly the `ForwardRemote` request, `TELL`, `HELO` and `VOCH`.
-/

set_option autoImplicit false

namespace OpenSDG

section Branches

variable (L : Lib) (e : Env) (c : Connection)

/-- `sendTELL` whose send succeeds. -/
theorem sendTELL_eq : sendTELL L .noError c =
    let tell := buildHeader L.PACKET_MAGIC CMD_TELL sizeofPacketHeader
    (0, { c with trace := c.trace ++ [.send tell (packetSize tell)] }) := rfl

/-- The `WELC` branch when its box seals: the server key and the drawn keypair are kept, and
`HELO` is sent under the next counter value. -/
theorem onWELC_sealed (hsent : e.sendResult = .noError) (hbox : ∀ m n pk sk, L.box m n pk sk ≠ none) :
    ∃ helo, onWELC L e c =
      (0, { c with serverPubkey := c.receiveBuffer.block 8 32, clientTempPubkey := e.tempPubkey,
                   clientTempSecret := e.tempSecret, nonce := c.nonce + 1,
                   trace := c.trace ++ [.seal (buildShortTermNonce "CurveCP-client-H" (be64 c.nonce)) true,
                                        .send helo (packetSize helo)] }) ∧
        (helo.drop 4).take 4 = CMD_HELO := by
  obtain ⟨boxed, hb⟩ := Option.ne_none_iff_exists'.mp (hbox (List.replicate 96 0)
    (buildShortTermNonce "CurveCP-client-H" (be64 c.nonce)) (c.receiveBuffer.block 8 32) e.tempSecret)
  refine ⟨buildHeader L.PACKET_MAGIC CMD_HELO sizeofPacketHELO ++ e.tempPubkey.toBytes ++
    (buildShortTermNonce "CurveCP-client-H" (be64 c.nonce)).toMem.read 16 8 ++ boxed.toMem.read 16 80, ?_,
    by simp only [List.append_assoc]; exact buildHeader_command _ CMD_HELO_length _ _⟩
  simp only [onWELC, clientGetNonce_fst, clientGetNonce_snd, hb, logSeal_eq, sendPacket_snd, sendPacket_fst, hsent,
    connectionSetResult_noError, Option.isSome_some, List.append_assoc, List.singleton_append]

/-- The `VOCH` builder when both its boxes seal: two sealing calls, the second under the next
counter value, the `VOCH` frame sent, and the buffer back on the freelist. -/
theorem sendVOCH_sealed (voch : Nat) (hsent : e.sendResult = .noError) (hbox : ∀ m n pk sk, L.box m n pk sk ≠ none)
    (hafter : ∀ m n k, L.boxAfternm m n k ≠ none) :
    ∃ image, sendVOCH L e voch c =
      (0, { c with nonce := c.nonce + 1, bufferQueue := c.bufferQueue ++ [voch],
                   trace := c.trace ++ [.seal (buildLongTermNonce "CurveCPV" e.vouchNonce.toBytes) true,
                                        .seal (buildShortTermNonce "CurveCP-client-I" (be64 c.nonce)) true,
                                        .send image (packetSize image)] }) ∧
        (image.drop 4).take 4 = CMD_VOCH := by
  unfold sendVOCH
  simp only [logSeal_eq, clientGetNonce_fst, clientGetNonce_snd]
  split
  · exact (hbox _ _ _ _ ‹_›).elim
  split
  · exact (hafter _ _ _ ‹_›).elim
  · exact ⟨_, by simp only [sendPacket_snd, sendPacket_fst, hsent, clientPutBuffer_eq, connectionSetResult_noError,
        Option.isSome_some, *]; simp only [List.append_assoc, List.singleton_append]; rfl,
      buildHeader_command _ CMD_VOCH_length _ _⟩

/-- The `COOK` branch when the cookie box opens and the session key derives: the cookie and the
session key are kept, and the `VOCH` builder runs on a send buffer. -/
theorem onCOOK_opened {cookie : Bytes} {k : Key}
    (hopen : L.boxOpen ((c.receiveBuffer.write 8 (List.replicate crypto_box_BOXZEROBYTES 0)).read 8 160)
      (buildLongTermNonce "CurveCPK" (c.receiveBuffer.read 8 16)) c.serverPubkey c.clientTempSecret = some cookie)
    (hk : L.boxBeforenm (cookie.toMem.block 32 32) c.clientTempSecret = some k) :
    onCOOK L e c = sendVOCH L e (c.bufferQueue.headD c.buffersAllocated)
      (clientGetBuffer { c with receiveBuffer := c.receiveBuffer.write 8 (List.replicate crypto_box_BOXZEROBYTES 0),
                                serverCookie := cookie.toMem.block 64 96, beforenmData := k }).2 := by
  simp only [onCOOK, hopen, hk]; rfl

/-- `decryptMESG` when the box opens: the plaintext lies at the start of the buffer. -/
theorem decryptMESG_opened (pfx : String) {plain : Bytes}
    (h : L.boxOpenAfternm ((c.receiveBuffer.write 0 (List.replicate crypto_box_BOXZEROBYTES 0)).read 0
      (toU32 ((mesgCiphertextSize c.receiveBuffer : Int) + crypto_box_BOXZEROBYTES)))
      (buildShortTermNonce pfx (c.receiveBuffer.read 8 8)) c.beforenmData = some plain) :
    decryptMESG L pfx c =
      (true, { c with receiveBuffer := (c.receiveBuffer.write 0 (List.replicate crypto_box_BOXZEROBYTES 0)).write 0 plain }) := by
  simp only [decryptMESG, h]

/-- The `REDY` branch of a peer connection whose box opens: it is connected, and sends nothing. -/
theorem onREDY_peer (res : ErrorKind) (hd : (decryptMESG L "CurveCP-server-R" c).1 = true) (hm : c.mode = .peer) :
    onREDY L res c = (0, { (decryptMESG L "CurveCP-server-R" c).2 with status := .connected }) := by
  have hm' : (decryptMESG L "CurveCP-server-R" c).2.mode = .peer := (decryptMESG_untouched L c _).mode.trans hm
  simp only [onREDY, hd, hm', Bool.not_true, ne_eq, reduceCtorEq, not_false_eq_true, if_true, if_false,
    connectionSetStatus_eq]

end Branches

/-! ## The server's frames -/

/-- A packet as the server sends it (specification §6): the length, the magic, the command tag,
the payload. -/
def packetImage (magic : UInt8 × UInt8) (cmd payload : Bytes) : Bytes :=
  buildHeader magic cmd (sizeofPacketHeader + payload.length) ++ payload

/-- A forwarding message as the grid sends it: `struct DataPacket`, its 16-bit size, then its
data, the type byte first. -/
def dataPacketImage (type : UInt8) (msg : Bytes) : Bytes := be16 (msg.length + 1) ++ type :: msg

/-- A frame whose body is a forwarding message. -/
theorem Frame.bytes_dataPacket {n : Nat} (fr : Frame n) {type : UInt8} {msg : Bytes} (h : fr.body = type :: msg) :
    fr.bytes = dataPacketImage type msg := by
  simp [Frame.bytes, dataPacketImage, h]

/-- A frame whose body is a packet. -/
theorem Frame.bytes_packet {n : Nat} (fr : Frame n) {magic : UInt8 × UInt8} {cmd p : Bytes} (hcmd : cmd.length = 4)
    (h : fr.body = [magic.1, magic.2] ++ cmd ++ p) : fr.bytes = packetImage magic cmd p := by
  simp only [Frame.bytes, packetImage, buildHeader, h, List.length_append, hcmd, sizeofPacketHeader, List.append_assoc]
  congr 2
  simp; omega

/-- The bytes of a frame of a stream are shorter than `2 ^ 16 + 2`. -/
theorem Frame.length_lt_of_mem {n : Nat} {fs : List (Frame n)} {f : Bytes} (h : f ∈ fs.map Frame.bytes) :
    f.length < 65538 := by
  obtain ⟨fr, -, rfl⟩ := List.mem_map.mp h
  have := fr.length_lt
  simp only [Frame.bytes_length]
  omega

section Frames

variable (L : Lib) (e : Env) (d : Connection)

/-- The dispatch of a frame that reaches a command branch. -/
theorem dispatchPacket_reaches {n : Nat} {c : Connection} {cmd : Bytes} (h : Reaches L n c cmd) :
    dispatchPacket L e n c =
      if cmd = CMD_WELC then onWELC L e c else if cmd = CMD_COOK then onCOOK L e c
      else if cmd = CMD_REDY then onREDY L e.sendResult c else if cmd = CMD_MESG then onMESG L c else (0, c) := by
  obtain ⟨h₁, h₂, h₃, h₄, h₅, h₆⟩ := h
  simp only [dispatchPacket, if_neg h₁, if_neg h₂, if_neg h₃, if_neg (Nat.not_lt.mpr h₄), h₅, h₆, ne_eq,
    not_true_eq_false, if_false]

/-- The header of a packet taken whole: its magic and its command. -/
theorem packetImage_header (magic : UInt8 × UInt8) {cmd p : Bytes} (hcmd : cmd.length = 4) :
    (d.takeFrame (packetImage magic cmd p)).receiveBuffer.read 2 2 = [magic.1, magic.2] ∧
      (d.takeFrame (packetImage magic cmd p)).receiveBuffer.read 4 4 = cmd := by
  have hlen : (packetImage magic cmd p).length = 8 + p.length := by simp [packetImage, hcmd]
  simp only [Connection.takeFrame]
  rw [Mem.read_write_zero _ (by omega), Mem.read_write_zero _ (by omega)]
  simp [packetImage, buildHeader, be16, beBytes, hcmd]

/-- A packet with the library's magic, whose first byte is no forwarding type, taken whole reaches
the branch of its command. -/
theorem packetImage_reaches {cmd p : Bytes} (hcmd : cmd.length = 4)
    (hmagic : L.PACKET_MAGIC.1 ≠ MSG_FORWARD_HOLD ∧ L.PACKET_MAGIC.1 ≠ MSG_FORWARD_REPLY ∧
      L.PACKET_MAGIC.1 ≠ MSG_FORWARD_ERROR) :
    Reaches L (packetImage L.PACKET_MAGIC cmd p).length (d.takeFrame (packetImage L.PACKET_MAGIC cmd p)) cmd := by
  have hlen : (packetImage L.PACKET_MAGIC cmd p).length = 8 + p.length := by
    simp [packetImage, hcmd]
  have h₂ : (d.takeFrame (packetImage L.PACKET_MAGIC cmd p)).receiveBuffer 2 = L.PACKET_MAGIC.1 := by
    simp only [Connection.takeFrame]
    rw [Mem.write_inside _ _ (Nat.zero_le _) (by omega)]
    simp [packetImage, buildHeader, be16, beBytes]
  obtain ⟨hm, hc⟩ := packetImage_header d L.PACKET_MAGIC hcmd
  exact ⟨h₂ ▸ hmagic.1, h₂ ▸ hmagic.2.1, h₂ ▸ hmagic.2.2, by rw [hlen]; simp [sizeofPacketHeader], hm, hc⟩

/-- A length field laid at the start of a buffer reads back modulo `2 ^ 16`. -/
theorem be16Value_write_zero (m : Mem) (n : Nat) (rest : Bytes) :
    be16Value (m.write 0 (be16 n ++ rest)) 0 = n % 65536 := by
  simp [be16Value, Mem.write, be16, beBytes, toNat_toUInt8]
  omega

/-- A `FORWARD_HOLD` is taken and ignored. -/
theorem frameStep_hold : frameStep L d (dataPacketImage MSG_FORWARD_HOLD []) e =
    d.takeFrame (dataPacketImage MSG_FORWARD_HOLD []) := by
  have h : (d.takeFrame (dataPacketImage MSG_FORWARD_HOLD [])).receiveBuffer 2 = MSG_FORWARD_HOLD := by
    simp [Connection.takeFrame, Mem.write, dataPacketImage, be16, beBytes]
  simp only [frameStep, dispatchPacket, h, if_true]

/-- A forwarding message taken whole: its type byte, and the message after it where the
forwarding branches read it. -/
theorem dataPacketImage_read (type : UInt8) {msg : Bytes} (hlen : msg.length + 1 < 65536) :
    (d.takeFrame (dataPacketImage type msg)).receiveBuffer 2 = type ∧
      (d.takeFrame (dataPacketImage type msg)).receiveBuffer.read 3
        (forwardLength (d.takeFrame (dataPacketImage type msg)).receiveBuffer) = msg := by
  have hl : (dataPacketImage type msg).length = msg.length + 3 := by
    simp [dataPacketImage]; omega
  have hfl : forwardLength (d.takeFrame (dataPacketImage type msg)).receiveBuffer = msg.length := by
    simp only [forwardLength, Connection.takeFrame, dataPacketImage, be16Value_write_zero, Nat.mod_eq_of_lt hlen,
      Nat.cast_add, Nat.cast_one, add_sub_cancel_right, toU32]
    omega
  refine ⟨by simp [Connection.takeFrame, Mem.write, dataPacketImage, be16, beBytes], ?_⟩
  rw [hfl, Connection.takeFrame, Mem.read_write_zero _ (by omega)]
  simp [dataPacketImage, be16, beBytes]

/-- A `FORWARD_REPLY` whose reply carries the forwarding signature sends `TELL`. -/
theorem frameStep_reply {msg : Bytes} {r : ForwardReply} (hlen : msg.length + 1 < 65536)
    (hreply : L.forwardReplyUnpack msg = some r) (hsig : r.signature = L.FORWARD_REMOTE_SIGNATURE) :
    frameStep L d (dataPacketImage MSG_FORWARD_REPLY msg) e =
      (sendTELL L e.sendResult (d.takeFrame (dataPacketImage MSG_FORWARD_REPLY msg))).2 := by
  obtain ⟨h, hf⟩ := dataPacketImage_read d MSG_FORWARD_REPLY hlen
  simp only [frameStep, dispatchPacket, h, onForwardReply, hf, hreply, hsig, if_true,
    show MSG_FORWARD_REPLY ≠ MSG_FORWARD_HOLD by decide, if_false]

/-- A `FORWARD_ERROR` whose error decodes: the error kind its code names is recorded, and nothing
else changes. -/
theorem frameStep_error {msg : Bytes} {err : ForwardError} (hlen : msg.length + 1 < 65536)
    (herr : L.forwardErrorUnpack msg = some err) :
    frameStep L d (dataPacketImage MSG_FORWARD_ERROR msg) e =
      { d.takeFrame (dataPacketImage MSG_FORWARD_ERROR msg) with errorKind := forwardErrorKind L err.code } := by
  obtain ⟨h, hf⟩ := dataPacketImage_read d MSG_FORWARD_ERROR hlen
  simp only [frameStep, dispatchPacket, h, onForwardError, hf, herr, if_true,
    show MSG_FORWARD_ERROR ≠ MSG_FORWARD_HOLD by decide, show MSG_FORWARD_ERROR ≠ MSG_FORWARD_REPLY by decide, if_false]

/-- The payload of a packet taken whole, read back from the buffer. -/
theorem packetImage_read {magic : UInt8 × UInt8} {cmd p : Bytes} (hcmd : cmd.length = 4) (m : Mem)
    (off n : Nat) (h : off + n ≤ p.length) :
    (m.write 0 (packetImage magic cmd p)).read (8 + off) n = (p.drop off).take n := by
  have hh : (buildHeader magic cmd (sizeofPacketHeader + p.length)).length = 8 := by simp [hcmd]
  rw [Mem.read_write_zero _ (by simp [packetImage, hh]; omega), ← List.drop_drop, packetImage,
    List.drop_left' hh]

/-- The length field of a packet taken whole. -/
theorem packetImage_be16Value {magic : UInt8 × UInt8} {cmd p : Bytes} (m : Mem) :
    be16Value (m.write 0 (packetImage magic cmd p)) 0 = (6 + p.length) % 65536 := by
  rw [packetImage, buildHeader, List.append_assoc, List.append_assoc, be16Value_write_zero]
  simp [sizeofPacketHeader]; omega

/-- A packet of the `MESG` layout taken whole, whose box opens under `pfx` and the session key:
`decryptMESG` finds the nonce tail and the box where the packet put them. -/
theorem packetImage_decryptMESG {cmd nonce box plain : Bytes} (pfx : String) (hcmd : cmd.length = 4)
    (hn : nonce.length = 8) (hlen : 14 + box.length < 65536)
    (hopen : L.boxOpenAfternm (List.replicate 16 0 ++ box) (buildShortTermNonce pfx nonce) d.beforenmData = some plain) :
    decryptMESG L pfx (d.takeFrame (packetImage L.PACKET_MAGIC cmd (nonce ++ box))) =
      (true, { d.takeFrame (packetImage L.PACKET_MAGIC cmd (nonce ++ box)) with
        receiveBuffer := ((d.takeFrame (packetImage L.PACKET_MAGIC cmd (nonce ++ box))).receiveBuffer.write 0
          (List.replicate crypto_box_BOXZEROBYTES 0)).write 0 plain }) := by
  have hread := @packetImage_read L.PACKET_MAGIC _ (nonce ++ box) hcmd d.receiveBuffer
  have hnonce : (d.takeFrame (packetImage L.PACKET_MAGIC cmd (nonce ++ box))).receiveBuffer.read 8 8 = nonce := by
    rw [Connection.takeFrame, ← Nat.add_zero 8, hread 0 8 (by simp; omega)]; simp [← hn]
  have hclen : toU32 ((mesgCiphertextSize (d.takeFrame (packetImage L.PACKET_MAGIC cmd (nonce ++ box))).receiveBuffer : Int) +
      crypto_box_BOXZEROBYTES) = 16 + box.length := by
    simp only [mesgCiphertextSize, Connection.takeFrame, packetImage_be16Value, List.length_append, hn, toU32,
      crypto_box_BOXZEROBYTES]
    omega
  have hcipher : ((d.takeFrame (packetImage L.PACKET_MAGIC cmd (nonce ++ box))).receiveBuffer.write 0
      (List.replicate crypto_box_BOXZEROBYTES 0)).read 0 (16 + box.length) = List.replicate 16 0 ++ box := by
    have hpayload : ((nonce ++ box).drop 8).take box.length = box := by rw [← hn, List.drop_left, List.take_length]
    refine (Mem.read_write_prefix _ (List.length_replicate 16 0) box.length).trans ?_
    rw [Connection.takeFrame, show 0 + 16 = 8 + 8 from rfl, hread 8 box.length (by simp; omega), hpayload]
  exact decryptMESG_opened L _ pfx (by rw [hclen, hcipher, hnonce]; exact hopen)

end Frames

/-! ## The session a run establishes -/

/-- What the handshake establishes on a connection: the server's key, the short-term keypair, the
cookie, the session key, the counter, the mode, the status, and the images sent so far. -/
structure Session where
  serverPubkey : Key
  clientTempPubkey : Key
  clientTempSecret : Key
  serverCookie : Block 96
  beforenmData : Key
  nonce : UInt64
  mode : Mode
  status : Status
  sent : List Bytes

/-- The session of a connection. -/
def Connection.session (c : Connection) : Session :=
  ⟨c.serverPubkey, c.clientTempPubkey, c.clientTempSecret, c.serverCookie, c.beforenmData, c.nonce, c.mode,
    c.status, sends c.trace⟩

@[simp] theorem session_takeFrame (c : Connection) (f : Bytes) : (c.takeFrame f).session = c.session := rfl

section Steps

variable (L : Lib) (e : Env) (d : Connection)
  (hmagic : L.PACKET_MAGIC.1 ≠ MSG_FORWARD_HOLD ∧ L.PACKET_MAGIC.1 ≠ MSG_FORWARD_REPLY ∧
    L.PACKET_MAGIC.1 ≠ MSG_FORWARD_ERROR)
  (hbox : ∀ m n pk sk, L.box m n pk sk ≠ none) (hafter : ∀ m n k, L.boxAfternm m n k ≠ none)

include hmagic hbox in
/-- A `WELC` whose `HELO` seals and goes out: the server key and the drawn keypair are kept, and
`HELO` is sent under the next counter value. -/
theorem frameStep_welc (hsent : e.sendResult = .noError) (key : Key) (rest : Bytes) :
    ∃ helo, (frameStep L d (packetImage L.PACKET_MAGIC CMD_WELC (key.toBytes ++ rest)) e).session =
      { d.session with serverPubkey := key, clientTempPubkey := e.tempPubkey, clientTempSecret := e.tempSecret,
                       nonce := d.nonce + 1, sent := d.session.sent ++ [helo] } ∧
        (helo.drop 4).take 4 = CMD_HELO := by
  have hkey : (d.takeFrame (packetImage L.PACKET_MAGIC CMD_WELC (key.toBytes ++ rest))).receiveBuffer.block 8 32 = key :=
    Mem.block_eq_of_read (by
      rw [Connection.takeFrame, ← Nat.add_zero 8, packetImage_read CMD_WELC_length _ 0 32 (by simp)]
      simp)
  obtain ⟨helo, heq, hcmd⟩ :=
    onWELC_sealed L e (d.takeFrame (packetImage L.PACKET_MAGIC CMD_WELC (key.toBytes ++ rest))) hsent hbox
  refine ⟨helo, ?_, hcmd⟩
  rw [frameStep, dispatchPacket_reaches L e (packetImage_reaches L d CMD_WELC_length hmagic), if_pos rfl, heq, hkey]
  simp [Connection.session, Connection.takeFrame]

include hmagic hbox hafter in
/-- A `COOK` whose cookie box opens under the server's key and the short-term secret the
connection holds, whose session key derives, and whose `VOCH` seals and goes out: the cookie and
the session key are kept, and `VOCH` is sent under the next counter value. -/
theorem frameStep_cook (hsent : e.sendResult = .noError) {nonce box cookie : Bytes} {k : Key} (hn : nonce.length = 16)
    (hb : box.length = 144)
    (hopen : L.boxOpen (List.replicate 16 0 ++ box) (buildLongTermNonce "CurveCPK" nonce) d.serverPubkey
      d.clientTempSecret = some cookie)
    (hk : L.boxBeforenm (cookie.toMem.block 32 32) d.clientTempSecret = some k) :
    ∃ voch, (frameStep L d (packetImage L.PACKET_MAGIC CMD_COOK (nonce ++ box)) e).session =
      { d.session with serverCookie := cookie.toMem.block 64 96, beforenmData := k, nonce := d.nonce + 1,
                       sent := d.session.sent ++ [voch] } ∧ (voch.drop 4).take 4 = CMD_VOCH := by
  have hread := @packetImage_read L.PACKET_MAGIC _ (nonce ++ box) CMD_COOK_length d.receiveBuffer
  have hnonce : (d.takeFrame (packetImage L.PACKET_MAGIC CMD_COOK (nonce ++ box))).receiveBuffer.read 8 16 = nonce := by
    rw [Connection.takeFrame, ← Nat.add_zero 8, hread 0 16 (by simp; omega)]; simp [← hn]
  have hcipher : ((d.takeFrame (packetImage L.PACKET_MAGIC CMD_COOK (nonce ++ box))).receiveBuffer.write 8
      (List.replicate crypto_box_BOXZEROBYTES 0)).read 8 160 = List.replicate 16 0 ++ box := by
    have hpayload : ((nonce ++ box).drop 16).take 144 = box := by rw [← hn, List.drop_left, ← hb, List.take_length]
    refine (Mem.read_write_prefix _ (List.length_replicate 16 0) 144).trans ?_
    rw [Connection.takeFrame, hread 16 144 (by simp; omega), hpayload]
  obtain ⟨voch, heq, hcmd⟩ := sendVOCH_sealed L e _ _ hsent hbox hafter
  refine ⟨voch, ?_, hcmd⟩
  rw [frameStep, dispatchPacket_reaches L e (packetImage_reaches L d CMD_COOK_length hmagic), if_neg (by decide),
    if_pos rfl, onCOOK_opened L e (d.takeFrame _) (by rw [hcipher, hnonce]; exact hopen) hk, heq]
  simp [Connection.session, Connection.takeFrame, clientGetBuffer]

include hmagic in
/-- A `REDY` of a peer connection whose box opens under the session key: the connection is
connected. -/
theorem frameStep_redy {nonce box plain : Bytes} (hn : nonce.length = 8) (hlen : 14 + box.length < 65536)
    (hm : d.mode = .peer)
    (hopen : L.boxOpenAfternm (List.replicate 16 0 ++ box) (buildShortTermNonce "CurveCP-server-R" nonce)
      d.beforenmData = some plain) :
    (frameStep L d (packetImage L.PACKET_MAGIC CMD_REDY (nonce ++ box)) e).session =
      { d.session with status := .connected } := by
  have hd := packetImage_decryptMESG L d "CurveCP-server-R" CMD_REDY_length hn hlen hopen
  rw [frameStep, dispatchPacket_reaches L e (packetImage_reaches L d CMD_REDY_length hmagic), if_neg (by decide),
    if_neg (by decide), if_pos rfl, onREDY_peer L (d.takeFrame _) _ (by rw [hd]) hm, hd]
  simp [Connection.session, Connection.takeFrame]

include hmagic hbox hafter in
/-- The specification's peer scenario on whole frames, the calls that complete `FORWARD_REPLY`,
`WELC` and `COOK` sending with success. -/
theorem peer_frames_connect (e₁ e₂ e₃ e₄ e₅ : Env) (welcRest : Bytes) {reply : Bytes} {r : ForwardReply} {key : Key}
    {cookNonce cookBox redyNonce redyBox cookie plain : Bytes} {k : Key} (hmode : d.mode = .peer)
    (hsent : e₂.sendResult = .noError ∧ e₃.sendResult = .noError ∧ e₄.sendResult = .noError)
    (hrl : reply.length + 1 < 65536) (hreply : L.forwardReplyUnpack reply = some r)
    (hsig : r.signature = L.FORWARD_REMOTE_SIGNATURE) (hcn : cookNonce.length = 16) (hcb : cookBox.length = 144)
    (hrn : redyNonce.length = 8) (hrb : 14 + redyBox.length < 65536)
    (hopen : L.boxOpen (List.replicate 16 0 ++ cookBox) (buildLongTermNonce "CurveCPK" cookNonce) key e₃.tempSecret =
      some cookie)
    (hk : L.boxBeforenm (cookie.toMem.block 32 32) e₃.tempSecret = some k)
    (hredy : L.boxOpenAfternm (List.replicate 16 0 ++ redyBox) (buildShortTermNonce "CurveCP-server-R" redyNonce) k =
      some plain) :
    ∃ helo voch, (frameRun L d [(dataPacketImage MSG_FORWARD_HOLD [], e₁), (dataPacketImage MSG_FORWARD_REPLY reply, e₂),
        (packetImage L.PACKET_MAGIC CMD_WELC (key.toBytes ++ welcRest), e₃),
        (packetImage L.PACKET_MAGIC CMD_COOK (cookNonce ++ cookBox), e₄),
        (packetImage L.PACKET_MAGIC CMD_REDY (redyNonce ++ redyBox), e₅)]).session =
      { d.session with serverPubkey := key, clientTempPubkey := e₃.tempPubkey, clientTempSecret := e₃.tempSecret,
                       serverCookie := cookie.toMem.block 64 96, beforenmData := k, nonce := d.nonce + 1 + 1,
                       status := .connected,
                       sent := d.session.sent ++ [buildHeader L.PACKET_MAGIC CMD_TELL sizeofPacketHeader, helo, voch] } ∧
      (helo.drop 4).take 4 = CMD_HELO ∧ (voch.drop 4).take 4 = CMD_VOCH := by
  simp only [frameRun]
  generalize hs₂ : frameStep L (frameStep L d (dataPacketImage MSG_FORWARD_HOLD []) e₁)
    (dataPacketImage MSG_FORWARD_REPLY reply) e₂ = s₂
  have h₂ : s₂.session = { d.session with sent := d.session.sent ++ [buildHeader L.PACKET_MAGIC CMD_TELL sizeofPacketHeader] } := by
    rw [← hs₂, frameStep_reply L e₂ _ hrl hreply hsig, hsent.1, sendTELL_eq, frameStep_hold]
    simp [Connection.session, Connection.takeFrame]
  obtain ⟨helo, h₃, hhelo⟩ := frameStep_welc L e₃ s₂ hmagic hbox hsent.2.1 key welcRest
  generalize frameStep L s₂ (packetImage L.PACKET_MAGIC CMD_WELC (key.toBytes ++ welcRest)) e₃ = s₃ at h₃ ⊢
  have hkey : s₃.serverPubkey = key ∧ s₃.clientTempSecret = e₃.tempSecret := by
    simpa [Connection.session] using And.intro (congrArg Session.serverPubkey h₃) (congrArg Session.clientTempSecret h₃)
  obtain ⟨voch, h₄, hvoch⟩ := frameStep_cook L e₄ s₃ hmagic hbox hafter hsent.2.2 hcn hcb
    (by rw [hkey.1, hkey.2]; exact hopen) (by rw [hkey.2]; exact hk)
  generalize frameStep L s₃ (packetImage L.PACKET_MAGIC CMD_COOK (cookNonce ++ cookBox)) e₄ = s₄ at h₄ ⊢
  have hs₄ : s₄.mode = .peer ∧ s₄.beforenmData = k := by
    have h₄m := congrArg Session.mode h₄
    have h₃m := congrArg Session.mode h₃
    have h₂m := congrArg Session.mode h₂
    have h₄k := congrArg Session.beforenmData h₄
    simp only [Connection.session] at h₄m h₃m h₂m h₄k
    exact ⟨h₄m.trans (h₃m.trans (h₂m.trans hmode)), h₄k⟩
  have hn₂ : s₂.nonce = d.nonce := congrArg Session.nonce h₂
  have hn₃ : s₃.nonce = s₂.nonce + 1 := congrArg Session.nonce h₃
  refine ⟨helo, voch, ?_, hhelo, hvoch⟩
  rw [frameStep_redy L e₅ s₄ hmagic hrn hrb hs₄.1 (by rw [hs₄.2]; exact hredy), h₄, h₃, h₂, hn₃, hn₂]
  simp only [List.append_assoc, List.singleton_append, List.cons_append, List.nil_append]

end Steps

/-- The reader's progress leaves the session alone. -/
theorem Progressed.session {d c : Connection} (h : Progressed d c) : c.session = d.session := by
  unfold Progressed at h; rw [h]; rfl

/-- `start_connection` with a tunnel id, whose send succeeds, sends the `ForwardRemote` request,
and leaves the session and the reader as they were. -/
theorem startConnection_forward (L : Lib) (c : Connection) (htid : c.tunnelId.isSome) :
    ∃ fwd, (startConnection L .noError c).2.session = { c.session with sent := c.session.sent ++ [fwd] } ∧
      fwd.getD 2 0 = MSG_FORWARD_REMOTE ∧ (startConnection L .noError c).2.bytesLeft = c.bytesLeft ∧
      (startConnection L .noError c).2.rx = c.rx ∧ (startConnection L .noError c).2.bufferSize = c.bufferSize := by
  have htr := sendForward_image L .noError c
  simp only [startConnection, htid, if_true]
  refine ⟨be16 (toSizeT ((forwardRequest L c).length + 1)) ++ [MSG_FORWARD_REMOTE] ++ forwardRequest L c, ?_,
    by simp [be16, beBytes], rfl, rfl, rfl⟩
  simp only [Connection.session, htr, sends_append, sends_send, sends_nil]
  rfl

/-- **The peer handshake completes** (specification §8, scenario 3).  A peer connection with a
tunnel id, idle, whose stream holds the grid's `FORWARD_HOLD` and `FORWARD_REPLY` and the
server's `WELC`, `COOK` and `REDY`, calls `start_connection` and then `receive_packet` once per
entry of a schedule of arrivals in which every call receives at least one byte and that has at
least as many calls as the stream has bytes.  If the sends succeed and every box seals and opens, the
connection is connected, holds the server's key, the keypair drawn by the call that completes
`WELC`, the cookie and the session key, has advanced its counter twice, and has sent exactly the
`ForwardRemote` request, `TELL`, `HELO` and `VOCH`, in that order. -/
theorem peer_handshake_completes (L : Lib) (c : Connection) (fs : List (Frame c.bufferSize)) (sched : List Env)
    {reply : Bytes} {r : ForwardReply} {key pk sk k : Key} {welcRest cookNonce cookBox redyNonce redyBox cookie plain : Bytes}
    (hmode : c.mode = .peer) (htid : c.tunnelId.isSome) (hidle : c.bytesLeft = 0)
    (hrx : c.rx = (fs.map Frame.bytes).flatten)
    (hfs : fs.map Frame.bytes = [dataPacketImage MSG_FORWARD_HOLD [], dataPacketImage MSG_FORWARD_REPLY reply,
      packetImage L.PACKET_MAGIC CMD_WELC (key.toBytes ++ welcRest),
      packetImage L.PACKET_MAGIC CMD_COOK (cookNonce ++ cookBox), packetImage L.PACKET_MAGIC CMD_REDY (redyNonce ++ redyBox)])
    (hsched : ∀ e ∈ sched, 0 < e.firstRead) (hlen : c.rx.length ≤ sched.length)
    (hkeys : ∀ e, (completing L (startConnection L .noError c).2 sched)[2]? = some e →
      e.tempPubkey = pk ∧ e.tempSecret = sk)
    (hsent : ∀ e ∈ completing L (startConnection L .noError c).2 sched, e.sendResult = .noError)
    (hmagic : L.PACKET_MAGIC.1 ≠ MSG_FORWARD_HOLD ∧ L.PACKET_MAGIC.1 ≠ MSG_FORWARD_REPLY ∧
      L.PACKET_MAGIC.1 ≠ MSG_FORWARD_ERROR)
    (hbox : ∀ m n pk sk, L.box m n pk sk ≠ none) (hafter : ∀ m n k, L.boxAfternm m n k ≠ none)
    (hreply : L.forwardReplyUnpack reply = some r) (hsig : r.signature = L.FORWARD_REMOTE_SIGNATURE)
    (hcn : cookNonce.length = 16) (hcb : cookBox.length = 144) (hrn : redyNonce.length = 8)
    (hopen : L.boxOpen (List.replicate 16 0 ++ cookBox) (buildLongTermNonce "CurveCPK" cookNonce) key sk = some cookie)
    (hk : L.boxBeforenm (cookie.toMem.block 32 32) sk = some k)
    (hredy : L.boxOpenAfternm (List.replicate 16 0 ++ redyBox) (buildShortTermNonce "CurveCP-server-R" redyNonce) k =
      some plain) :
    ∃ fwd helo voch, (receiveRun L (startConnection L .noError c).2 sched).session =
      { c.session with serverPubkey := key, clientTempPubkey := pk, clientTempSecret := sk,
                       serverCookie := cookie.toMem.block 64 96, beforenmData := k, nonce := c.nonce + 1 + 1,
                       status := .connected,
                       sent := c.session.sent ++ [fwd, buildHeader L.PACKET_MAGIC CMD_TELL sizeofPacketHeader, helo, voch] } ∧
      fwd.getD 2 0 = MSG_FORWARD_REMOTE ∧ (helo.drop 4).take 4 = CMD_HELO ∧ (voch.drop 4).take 4 = CMD_VOCH := by
  obtain ⟨fwd, hstart, hfwd, hl, hrx₁, hbs⟩ := startConnection_forward L c htid
  obtain ⟨hall, hrun⟩ := receiveRun_complete L _ fs sched hbs.ge (hl.trans hidle) (hrx₁.trans hrx) hsched
    (hrx₁ ▸ hlen)
  rw [show fs.length = 5 by simpa using congrArg List.length hfs] at hall
  have hrl : reply.length + 1 < 65536 := by
    have hm : dataPacketImage MSG_FORWARD_REPLY reply ∈ fs.map Frame.bytes := by rw [hfs]; simp
    have := Frame.length_lt_of_mem hm
    simp [dataPacketImage] at this; omega
  have hrb : 14 + redyBox.length < 65536 := by
    have hm : packetImage L.PACKET_MAGIC CMD_REDY (redyNonce ++ redyBox) ∈ fs.map Frame.bytes := by rw [hfs]; simp
    have := Frame.length_lt_of_mem hm
    simp [packetImage, hrn] at this; omega
  generalize completing L (startConnection L .noError c).2 sched = es at hall hrun hkeys hsent
  match es, hall, hrun, hkeys, hsent with
  | [e₁, e₂, e₃, e₄, e₅], _, hrun, hkeys, hsent =>
    have h₃ := hkeys e₃ rfl
    obtain ⟨helo, voch, hd, hhelo, hvoch⟩ := peer_frames_connect L (startConnection L .noError c).2 hmagic hbox hafter
      e₁ e₂ e₃ e₄ e₅ welcRest ((congrArg Session.mode hstart).trans hmode)
      ⟨hsent e₂ (by simp), hsent e₃ (by simp), hsent e₄ (by simp)⟩ hrl hreply hsig hcn hcb hrn hrb
      (h₃.2 ▸ hopen) (h₃.2 ▸ hk) hredy
    refine ⟨fwd, helo, voch, ?_, hfwd, hhelo, hvoch⟩
    rw [hrun.session, hfs]
    simp only [List.zip_cons_cons, List.zip_nil_right]
    rw [hd, h₃.1, h₃.2, show (startConnection L .noError c).2.nonce = c.nonce from congrArg Session.nonce hstart, hstart]
    simp only [List.append_assoc, List.singleton_append, List.cons_append, List.nil_append]

/-- The scenario's stream for the transparent collaborators: the key in `WELC`, the cookie box
and the `REDY` box all zero, `OK` as the forwarding signature. -/
def peerScenarioFrames : List (Frame 256) :=
  [⟨[0x0F], by decide, by decide⟩, ⟨[0x11, 79, 75], by decide, by decide⟩,
    ⟨[0, 1] ++ CMD_WELC ++ List.replicate 32 0, by rw [List.length_append, List.length_replicate]; decide,
      by rw [List.length_append, List.length_replicate]; decide⟩,
    ⟨[0, 1] ++ CMD_COOK ++ List.replicate 160 0, by rw [List.length_append, List.length_replicate]; decide,
      by rw [List.length_append, List.length_replicate]; decide⟩,
    ⟨[0, 1] ++ CMD_REDY ++ List.replicate 8 0, by rw [List.length_append, List.length_replicate]; decide,
      by rw [List.length_append, List.length_replicate]; decide⟩]

theorem peerScenarioFrames_bytes : peerScenarioFrames.map Frame.bytes =
    [dataPacketImage MSG_FORWARD_HOLD [], dataPacketImage MSG_FORWARD_REPLY [79, 75],
      packetImage Lib.transparent.PACKET_MAGIC CMD_WELC (Block.toBytes (fun _ => 0 : Key) ++ []),
      packetImage Lib.transparent.PACKET_MAGIC CMD_COOK (List.replicate 16 0 ++ List.replicate 144 0),
      packetImage Lib.transparent.PACKET_MAGIC CMD_REDY (List.replicate 8 0 ++ [])] := by
  simp only [peerScenarioFrames, List.map_cons, List.map_nil]
  rw [Frame.bytes_dataPacket _ rfl, Frame.bytes_dataPacket _ rfl,
    @Frame.bytes_packet _ _ Lib.transparent.PACKET_MAGIC _ _ CMD_WELC_length rfl,
    @Frame.bytes_packet _ _ Lib.transparent.PACKET_MAGIC _ _ CMD_COOK_length rfl,
    @Frame.bytes_packet _ _ Lib.transparent.PACKET_MAGIC _ _ CMD_REDY_length rfl]
  rfl

/-- The scenario's stream is 232 bytes long. -/
theorem peerScenarioFrames_length : ((peerScenarioFrames.map Frame.bytes).flatten).length = 232 := by
  simp only [peerScenarioFrames, List.map_cons, List.map_nil, List.flatten_cons, List.flatten_nil, List.length_append,
    Frame.bytes_length, List.length_replicate, List.length_cons, List.length_nil, CMD_WELC_length, CMD_COOK_length,
    CMD_REDY_length, List.append_nil]

theorem peer_handshake_completes_transparent :
    let c : Connection := { connectionCreate (fun _ => 0) (fun _ => 0) 256 with
      mode := .peer, tunnelId := some [1, 2, 3], rx := (peerScenarioFrames.map Frame.bytes).flatten }
    let sched := List.replicate 232 (⟨2, 256, fun _ => 0, fun _ => 0, fun _ => 0, .noError⟩ : Env)
    let cookie : Bytes := List.replicate 16 0 ++ List.replicate 144 0
    (c.mode = .peer ∧ c.tunnelId.isSome ∧ c.rx.length ≤ sched.length) ∧
      ∃ fwd helo voch, (receiveRun Lib.transparent (startConnection Lib.transparent .noError c).2 sched).session =
        { c.session with serverPubkey := fun _ => 0, clientTempPubkey := fun _ => 0,
                         clientTempSecret := fun _ => 0, serverCookie := cookie.toMem.block 64 96,
                         beforenmData := cookie.toMem.block 32 32, nonce := c.nonce + 1 + 1, status := .connected,
                         sent := c.session.sent ++
                           [fwd, buildHeader Lib.transparent.PACKET_MAGIC CMD_TELL sizeofPacketHeader, helo, voch] } ∧
        fwd.getD 2 0 = MSG_FORWARD_REMOTE ∧ (helo.drop 4).take 4 = CMD_HELO ∧ (voch.drop 4).take 4 = CMD_VOCH := by
  intro c sched cookie
  have hmem : ∀ e ∈ completing Lib.transparent (startConnection Lib.transparent .noError c).2 sched,
      e = ⟨2, 256, fun _ => 0, fun _ => 0, fun _ => 0, .noError⟩ := fun e he =>
    List.eq_of_mem_replicate ((completing_sublist _ sched _).subset he)
  have hlen : c.rx.length ≤ sched.length := by
    show ((peerScenarioFrames.map Frame.bytes).flatten).length ≤ (List.replicate 232 _).length
    rw [peerScenarioFrames_length, List.length_replicate]
  exact ⟨⟨rfl, rfl, hlen⟩, peer_handshake_completes Lib.transparent c peerScenarioFrames sched rfl rfl rfl rfl
    peerScenarioFrames_bytes (fun e he => by rw [List.eq_of_mem_replicate he]; decide) hlen
    (fun e he => by rw [hmem e (List.getElem?_mem he)]; exact ⟨rfl, rfl⟩) (fun e he => by rw [hmem e he])
    (by decide) (fun _ _ _ _ => nofun) (fun _ _ _ => nofun) rfl (by decide) rfl rfl rfl rfl rfl rfl⟩

end OpenSDG
