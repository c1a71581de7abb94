import OpenSDG.Reader

/-!
# The handshake engine and the frame builders of `tunnel_protocol.c`

Literal transcriptions of `sendTELL`, `decryptMESG`, `receive_packet`, `sendMESG`,
`get_MESG_packet`, `send_MESG_packet`, `sendForward` and `start_connection`.
`receivePacket` is `readPacket` (`Reader.lean`) followed by `dispatchPacket`, which tests the
type byte `receiveBuffer[2]` for the forwarding envelope, then the length and the magic, then the
command; each branch is a definition of its own (`onForwardReply`, `onForwardError`, `onWELC`,
`onCOOK`, `onREDY`, `onMESG`).

A frame is built as the image of the struct or buffer the code fills, with the sizes of
`Wire.lean`; a box is cut out of the output of its sealing call at the offset where the code lets
that call write in place, and a nonce tail is `nonce.value[2]`, bytes 16 to 24 of the nonce.

`Untouched` lists what none of this code writes: the long-term keys, the mode, the tunnel id
(apart from `sendForward`) and the reader's fields; `dispatchPacket_untouched` proves it for
every branch.
-/

set_option autoImplicit false

namespace OpenSDG

section Engine

variable (L : Lib)

/-- The two bytes of `PACKET_MAGIC`. -/
def Lib.magicBytes : Bytes := [L.PACKET_MAGIC.1, L.PACKET_MAGIC.2]

/-- `sendTELL`: a bare header; `send_data` returns `res`. -/
def sendTELL (res : ErrorKind) (c : Connection) : Int × Connection :=
  let s := sendPacket res (buildHeader L.PACKET_MAGIC CMD_TELL sizeofPacketHeader) c
  connectionSetResult s.2 s.1

/-- `MESG_CIPHERTEXT_SIZE(header)`: the frame after the header and the 8-byte nonce, as an
`unsigned int`. -/
def mesgCiphertextSize (m : Mem) : Nat := toU32 ((be16Value m 0 : Int) + 2 - 16)

/-- `decryptMESG`: builds the nonce from the packet, zeroes the 16 bytes before the box and opens
the box in place under `beforenmData`; a failure records `osdg_decryption_error`.  The plaintext
lies at the start of `receiveBuffer`; the result says whether the box opened. -/
def decryptMESG (pfx : String) (c : Connection) : Bool × Connection :=
  let nonce := buildShortTermNonce pfx (c.receiveBuffer.read 8 8)
  let buf := c.receiveBuffer.write 0 (List.replicate crypto_box_BOXZEROBYTES 0)
  let clen := toU32 ((mesgCiphertextSize c.receiveBuffer : Int) + crypto_box_BOXZEROBYTES)
  match L.boxOpenAfternm (buf.read 0 clen) nonce c.beforenmData with
  | none => (false, { c with receiveBuffer := buf, errorKind := .decryptionError })
  | some plain => (true, { c with receiveBuffer := buf.write 0 plain })

/-- `SWAP_16(pkt->size) - 1`, the length of a forwarding message after its type byte, as an
`unsigned int`. -/
def forwardLength (m : Mem) : Nat := toU32 ((be16Value m 0 : Int) - 1)

/-- The `MSG_FORWARD_REPLY` branch: a reply with the expected signature is answered by `TELL`. -/
def onForwardReply (res : ErrorKind) (c : Connection) : Int × Connection :=
  match L.forwardReplyUnpack (c.receiveBuffer.read 3 (forwardLength c.receiveBuffer)) with
  | none => (-1, { c with errorKind := .protocolError })
  | some reply => if reply.signature = L.FORWARD_REMOTE_SIGNATURE then sendTELL L res c else (-1, c)

/-- The `switch (reply->code)` of the `MSG_FORWARD_ERROR` branch. -/
def forwardErrorKind (code : Int) : ErrorKind :=
  if code = L.FORWARD_SERVER_ERROR then .serverError
  else if code = L.FORWARD_PEER_TIMEOUT then .peerTimeout
  else .protocolError

/-- The `MSG_FORWARD_ERROR` branch. -/
def onForwardError (c : Connection) : Int × Connection :=
  match L.forwardErrorUnpack (c.receiveBuffer.read 3 (forwardLength c.receiveBuffer)) with
  | none => (-1, { c with errorKind := .protocolError })
  | some reply => (-1, { c with errorKind := forwardErrorKind L reply.code })

/-- The `WELC` branch: take the server key, draw the short-term keypair, and send `HELO`, a box of
64 zero bytes under `CurveCP-client-H` and the next counter value. -/
def onWELC (e : Env) (c : Connection) : Int × Connection :=
  let c := { c with serverPubkey := c.receiveBuffer.block 8 32,
                    clientTempPubkey := e.tempPubkey, clientTempSecret := e.tempSecret }
  let n := clientGetNonce c
  let nonce := buildShortTermNonce "CurveCP-client-H" n.1
  let r := L.box (List.replicate 96 0) nonce n.2.serverPubkey n.2.clientTempSecret
  let c := n.2.logSeal nonce r
  match r with
  | none => (-1, { c with errorKind := .cryptoCoreError })
  | some boxed =>
    let helo := buildHeader L.PACKET_MAGIC CMD_HELO sizeofPacketHELO ++ c.clientTempPubkey.toBytes ++
      nonce.toMem.read 16 8 ++ boxed.toMem.read 16 80
    let s := sendPacket e.sendResult helo c
    connectionSetResult s.2 s.1

/-- The `certificate` key-value record appended to a grid `VOCH`. -/
def certificateData : Bytes := [11] ++ ascii "certificate" ++ [32] ++ List.replicate 32 0

/-- The `VOCH` half of the `COOK` branch, in the send buffer `voch`: the inner box, which vouches
for the short-term key under the long-term keys and a random long-term nonce `CurveCPV`; the outer
box under `CurveCP-client-I`, holding the long-term key, the long-term nonce, the inner box and
(grid) the `certificate` record; the send; and the buffer's return. -/
def sendVOCH (e : Env) (voch : Nat) (c : Connection) : Int × Connection :=
  let vnonce := buildLongTermNonce "CurveCPV" e.vouchNonce.toBytes
  let r := L.box (List.replicate 32 0 ++ c.clientTempPubkey.toBytes) vnonce c.serverPubkey c.clientSecret
  let c := c.logSeal vnonce r
  match r with
  | none => (-1, { clientPutBuffer c voch with errorKind := .cryptoCoreError })
  | some inner =>
    let certDataSize := if c.mode = .grid then sizeofCertificateData else 0
    let outer := List.replicate 32 0 ++ c.clientPubkey.toBytes ++ vnonce.toMem.read 8 16 ++
      inner.toMem.read 16 48 ++ (if c.mode = .grid then 1 :: certificateData else [0])
    let header := buildHeader L.PACKET_MAGIC CMD_VOCH (sizeofPacketVOCH + certDataSize)
    let n := clientGetNonce c
    let nonce := buildShortTermNonce "CurveCP-client-I" n.1
    let r := L.boxAfternm outer nonce n.2.beforenmData
    let c := n.2.logSeal nonce r
    match r with
    | none => (-1, { clientPutBuffer c voch with errorKind := .cryptoCoreError })
    | some boxed =>
      let image := header ++ c.serverCookie.toBytes ++ nonce.toMem.read 16 8 ++
        boxed.toMem.read 16 (sizeofCurvecpVouchOuter + certDataSize - 16)
      let s := sendPacket e.sendResult image c
      connectionSetResult (clientPutBuffer s.2 voch) s.1

/-- The `COOK` branch: open the cookie box under the server's long-term key and the short-term
secret, keep the cookie, derive `beforenmData` from the server's short-term key, and send `VOCH`
from a send buffer. -/
def onCOOK (e : Env) (c : Connection) : Int × Connection :=
  let nonce := buildLongTermNonce "CurveCPK" (c.receiveBuffer.read 8 16)
  let c := { c with receiveBuffer := c.receiveBuffer.write 8 (List.replicate crypto_box_BOXZEROBYTES 0) }
  match L.boxOpen (c.receiveBuffer.read 8 160) nonce c.serverPubkey c.clientTempSecret with
  | none => (-1, { c with errorKind := .decryptionError })
  | some cookie =>
    let c := { c with serverCookie := cookie.toMem.block 64 96 }
    match L.boxBeforenm (cookie.toMem.block 32 32) c.clientTempSecret with
    | none => (-1, { c with errorKind := .cryptoCoreError })
    | some k =>
      let g := clientGetBuffer { c with beforenmData := k }
      sendVOCH L e g.1 g.2

/-- `mesg_payload` in a send buffer: the buffer, the `data.size` field `get_MESG_packet` set, and
the bytes the caller wrote at `data.data`. -/
structure MesgPacket where
  buffer : Nat
  size : Nat
  data : Bytes

/-- `get_MESG_packet`: refuses a packet larger than a send buffer, else takes a buffer and sets
its `data.size`. -/
def getMESGPacket (c : Connection) (dataSize : Nat) : Option MesgPacket × Connection :=
  if c.bufferSize < toSizeT (sizeofPacketMESG + dataSize) then (none, { c with errorKind := .bufferExceeded })
  else
    let g := clientGetBuffer c
    (some ⟨g.1, dataSize % 65536, []⟩, g.2)

/-- `send_MESG_packet`: seals the payload in place under `CurveCP-client-M` and the next counter
value, sends it, and returns the buffer; `send_data` returns `res`. -/
def sendMESGPacket (res : ErrorKind) (c : Connection) (mesg : MesgPacket) : ErrorKind × Connection :=
  let dataSize := mesg.size
  let payload := List.replicate 32 0 ++ be16 mesg.size ++ mesg.data.toMem.read 0 dataSize
  let n := clientGetNonce c
  let nonce := buildShortTermNonce "CurveCP-client-M" n.1
  let r := L.boxAfternm payload nonce n.2.beforenmData
  let c := n.2.logSeal nonce r
  match r with
  | none => (.cryptoCoreError, clientPutBuffer c mesg.buffer)
  | some boxed =>
    let image := buildHeader L.PACKET_MAGIC CMD_MESG (sizeofPacketMESG + dataSize) ++ nonce.toMem.read 16 8 ++
      boxed.toMem.read 16 (sizeofMesgPayload + dataSize - 16)
    let s := sendPacket res image c
    (s.1, clientPutBuffer s.2 mesg.buffer)

/-- `sendMESG`: a message whose packed bytes are `msg`, after its type byte. -/
def sendMESG (res : ErrorKind) (c : Connection) (dataType : UInt8) (msg : Bytes) : ErrorKind × Connection :=
  let g := getMESGPacket c (toSizeT (msg.length + 1))
  match g.1 with
  | none => (.bufferExceeded, g.2)
  | some mesg => sendMESGPacket L res g.2 { mesg with data := dataType :: msg }

/-- The `REDY` branch: open the box; a peer connection is then connected, a grid connection
sends its `ProtocolVersion`. -/
def onREDY (res : ErrorKind) (c : Connection) : Int × Connection :=
  let d := decryptMESG L "CurveCP-server-R" c
  if !d.1 then (-1, d.2)
  else if d.2.mode ≠ .grid then
    (0, if d.2.mode = .peer then connectionSetStatus d.2 .connected else d.2)
  else
    let pv : ProtocolVersion := ⟨L.PROTOCOL_VERSION_MAGIC, PROTOCOL_VERSION_MAJOR, PROTOCOL_VERSION_MINOR⟩
    let s := sendMESG L res d.2 MSG_PROTOCOL_VERSION (L.protocolVersionPack pv)
    connectionSetResult s.2 s.1

/-- The `MESG` branch: open the box and hand `data.size` bytes of `data.data` to the upper
layer. -/
def onMESG (c : Connection) : Int × Connection :=
  let d := decryptMESG L "CurveCP-server-M" c
  if !d.1 then (-1, d.2)
  else
    let length := be16Value d.2.receiveBuffer 32
    let h := connectionHandleData L d.2 (d.2.receiveBuffer.read 34 length)
    connectionSetResult h.2 h.1

/-- `receive_packet` after the reader has returned `ret > 0`. -/
def dispatchPacket (e : Env) (ret : Nat) (c : Connection) : Int × Connection :=
  if c.receiveBuffer 2 = MSG_FORWARD_HOLD then (0, c)
  else if c.receiveBuffer 2 = MSG_FORWARD_REPLY then onForwardReply L e.sendResult c
  else if c.receiveBuffer 2 = MSG_FORWARD_ERROR then onForwardError L c
  else if ret < sizeofPacketHeader then (-1, { c with errorKind := .protocolError })
  else if c.receiveBuffer.read 2 2 ≠ L.magicBytes then (-1, { c with errorKind := .protocolError })
  else if c.receiveBuffer.read 4 4 = CMD_WELC then onWELC L e c
  else if c.receiveBuffer.read 4 4 = CMD_COOK then onCOOK L e c
  else if c.receiveBuffer.read 4 4 = CMD_REDY then onREDY L e.sendResult c
  else if c.receiveBuffer.read 4 4 = CMD_MESG then onMESG L c
  else (0, c)

/-- `receive_packet`. -/
def receivePacket (e : Env) (c : Connection) : Int × Connection :=
  let r := readPacket e c
  if r.1 ≤ 0 then r else dispatchPacket L e r.1.toNat r.2

/-- `sendForward`: the `ForwardRemote` request, unencrypted, from a send buffer; `send_data`
returns `res`. -/
def sendForward (res : ErrorKind) (c : Connection) : Int × Connection :=
  let g := clientGetBuffer c
  let fwd : ForwardRemote := ⟨L.FORWARD_REMOTE_MAGIC, PROTOCOL_VERSION_MAJOR, PROTOCOL_VERSION_MINOR,
    g.2.tunnelId.getD [], L.FORWARD_REMOTE_SIGNATURE⟩
  let packed := L.forwardRemotePack fwd
  let dataSize := toSizeT (packed.length + 1)
  let image := be16 dataSize ++ [MSG_FORWARD_REMOTE] ++ packed
  let s := sendData res image (sizeofDataPacket + dataSize) { g.2 with tunnelId := none }
  connectionSetResult s.2 s.1

/-- `start_connection`; `send_data` returns `res`. -/
def startConnection (res : ErrorKind) (c : Connection) : Int × Connection :=
  if c.tunnelId.isSome then sendForward L res c else sendTELL L res c

/-- What a connection undergoes after its creation: a `receive_packet` call, a `sendMESG`
call, a `get_MESG_packet` call followed by `send_MESG_packet` with the caller's data, or
`start_connection`.  An operation that sends carries what `send_data` returns. -/
inductive Op
  | receive (e : Env)
  | message (dataType : UInt8) (msg : Bytes) (res : ErrorKind)
  | messageData (dataSize : Nat) (data : Bytes) (res : ErrorKind)
  | start (res : ErrorKind)

/-- The connection after one operation. -/
def Op.apply (c : Connection) : Op → Connection
  | .receive e => (receivePacket L e c).2
  | .message t msg res => (sendMESG L res c t msg).2
  | .messageData n data res =>
    match getMESGPacket c n with
    | (none, c') => c'
    | (some mesg, c') => (sendMESGPacket L res c' { mesg with data := data }).2
  | .start res => (startConnection L res c).2

/-- A run of operations. -/
def run : Connection → List Op → Connection
  | c, [] => c
  | c, op :: ops => run (op.apply L c) ops

end Engine

/-! ## What the engine never writes -/

/-- `c'` keeps the long-term keys, the mode, the tunnel id, the buffer size and the reader's
fields of `c`. -/
structure Untouched (c c' : Connection) : Prop where
  clientPubkey : c'.clientPubkey = c.clientPubkey
  clientSecret : c'.clientSecret = c.clientSecret
  mode : c'.mode = c.mode
  tunnelId : c'.tunnelId = c.tunnelId
  bufferSize : c'.bufferSize = c.bufferSize
  bytesReceived : c'.bytesReceived = c.bytesReceived
  bytesLeft : c'.bytesLeft = c.bytesLeft
  rx : c'.rx = c.rx

theorem Untouched.refl (c : Connection) : Untouched c c := ⟨rfl, rfl, rfl, rfl, rfl, rfl, rfl, rfl⟩

theorem Untouched.trans {c c' c'' : Connection} (h₁ : Untouched c c') (h₂ : Untouched c' c'') :
    Untouched c c'' :=
  ⟨h₂.1.trans h₁.1, h₂.2.trans h₁.2, h₂.3.trans h₁.3, h₂.4.trans h₁.4, h₂.5.trans h₁.5,
    h₂.6.trans h₁.6, h₂.7.trans h₁.7, h₂.8.trans h₁.8⟩

section Frame

variable (L : Lib) (e : Env) (c : Connection)

/-- `sendMESG` is `get_MESG_packet`'s size check, then `send_MESG_packet` on a fresh buffer
holding the type byte and the message. -/
theorem sendMESG_eq (res : ErrorKind) (t : UInt8) (msg : Bytes) : sendMESG L res c t msg =
    if c.bufferSize < toSizeT (sizeofPacketMESG + toSizeT (msg.length + 1)) then
      (.bufferExceeded, { c with errorKind := .bufferExceeded })
    else sendMESGPacket L res (clientGetBuffer c).2
      ⟨(clientGetBuffer c).1, toSizeT (msg.length + 1) % 65536, t :: msg⟩ := by
  unfold sendMESG getMESGPacket; split <;> rfl

/-- A caller's `get_MESG_packet` + `send_MESG_packet`, like `sendMESG_eq`. -/
theorem apply_messageData (n : Nat) (data : Bytes) (res : ErrorKind) : (Op.messageData n data res).apply L c =
    if c.bufferSize < toSizeT (sizeofPacketMESG + n) then { c with errorKind := .bufferExceeded }
    else (sendMESGPacket L res (clientGetBuffer c).2 ⟨(clientGetBuffer c).1, n % 65536, data⟩).2 := by
  rw [Op.apply, getMESGPacket]; split_ifs <;> rfl

theorem connectionSetResult_untouched (r : ErrorKind) : Untouched c (connectionSetResult c r).2 := by
  unfold connectionSetResult; split <;> constructor <;> rfl

theorem Untouched.setResult {c c' : Connection} (h : Untouched c c') (r : ErrorKind) :
    Untouched c (connectionSetResult c' r).2 :=
  h.trans (connectionSetResult_untouched c' r)

theorem sendMESGPacket_untouched (res : ErrorKind) (m : MesgPacket) : Untouched c (sendMESGPacket L res c m).2 := by
  unfold sendMESGPacket; dsimp only
  split <;> constructor <;> dsimp only [clientPutBuffer, Connection.logSeal, clientGetNonce, sendPacket, sendData]

theorem sendMESG_untouched (res : ErrorKind) (t : UInt8) (msg : Bytes) : Untouched c (sendMESG L res c t msg).2 := by
  rw [sendMESG_eq]; split
  · constructor <;> rfl
  · exact (show Untouched c (clientGetBuffer c).2 by constructor <;> rfl).trans (sendMESGPacket_untouched L _ _ _)

theorem decryptMESG_untouched (pfx : String) : Untouched c (decryptMESG L pfx c).2 := by
  unfold decryptMESG; dsimp only; split <;> constructor <;> rfl

theorem onForwardReply_untouched (res : ErrorKind) : Untouched c (onForwardReply L res c).2 := by
  unfold onForwardReply sendTELL; dsimp only
  split
  · constructor <;> rfl
  · split
    · exact Untouched.setResult (by constructor <;> rfl) _
    · exact .refl c

theorem onForwardError_untouched : Untouched c (onForwardError L c).2 := by
  unfold onForwardError; split <;> constructor <;> rfl

theorem onWELC_untouched : Untouched c (onWELC L e c).2 := by
  unfold onWELC; dsimp only
  split
  · constructor <;> dsimp only [Connection.logSeal, clientGetNonce]
  · exact Untouched.setResult
      (by constructor <;> dsimp only [Connection.logSeal, clientGetNonce, sendPacket, sendData]) _

theorem sendVOCH_untouched (voch : Nat) : Untouched c (sendVOCH L e voch c).2 := by
  unfold sendVOCH; dsimp only
  split
  · constructor <;> dsimp only [clientPutBuffer, Connection.logSeal]
  split
  · constructor <;> dsimp only [clientPutBuffer, Connection.logSeal, clientGetNonce]
  · exact Untouched.setResult (by constructor <;> dsimp only [clientPutBuffer, Connection.logSeal,
      clientGetNonce, sendPacket, sendData]) _

theorem onCOOK_untouched : Untouched c (onCOOK L e c).2 := by
  unfold onCOOK; dsimp only
  split
  · constructor <;> rfl
  split
  · constructor <;> rfl
  · exact (show Untouched c _ by constructor <;> dsimp only [clientGetBuffer]).trans (sendVOCH_untouched L e _ _)

theorem onREDY_untouched (res : ErrorKind) : Untouched c (onREDY L res c).2 := by
  have hd := decryptMESG_untouched L c "CurveCP-server-R"
  unfold onREDY; dsimp only
  split
  · exact hd
  split
  · split
    · exact hd.trans (by constructor <;> rfl)
    · exact hd
  · exact (hd.trans (sendMESG_untouched L _ _ _ _)).setResult _

theorem onMESG_untouched : Untouched c (onMESG L c).2 := by
  have hd := decryptMESG_untouched L c "CurveCP-server-M"
  unfold onMESG connectionHandleData; dsimp only
  split
  · exact hd
  · exact (hd.trans (by constructor <;> rfl)).setResult _

/-- The dispatch reaches the branch of the command `cmd`: the frame is no forwarding message, it
is at least a header long, and it carries the magic and the command. -/
structure Reaches (L : Lib) (n : Nat) (c : Connection) (cmd : Bytes) : Prop where
  notHold : c.receiveBuffer 2 ≠ MSG_FORWARD_HOLD
  notReply : c.receiveBuffer 2 ≠ MSG_FORWARD_REPLY
  notError : c.receiveBuffer 2 ≠ MSG_FORWARD_ERROR
  long : sizeofPacketHeader ≤ n
  magic : c.receiveBuffer.read 2 2 = L.magicBytes
  command : c.receiveBuffer.read 4 4 = cmd

/-- The branches of `dispatchPacket`: a property of every branch's result, under the branch's
guard, holds of the dispatch. -/
theorem dispatchPacket_of_branches (P : Int × Connection → Prop) (n : Nat) (hzero : P (0, c))
    (hproto : P (-1, { c with errorKind := .protocolError }))
    (hfr : c.receiveBuffer 2 = MSG_FORWARD_REPLY → P (onForwardReply L e.sendResult c))
    (hfe : P (onForwardError L c)) (hw : Reaches L n c CMD_WELC → P (onWELC L e c))
    (hc : Reaches L n c CMD_COOK → P (onCOOK L e c)) (hr : Reaches L n c CMD_REDY → P (onREDY L e.sendResult c))
    (hm : Reaches L n c CMD_MESG → P (onMESG L c)) : P (dispatchPacket L e n c) := by
  unfold dispatchPacket
  refine iteInduction (fun _ => hzero) fun h₁ => iteInduction hfr fun h₂ =>
    iteInduction (fun _ => hfe) fun h₃ => iteInduction (fun _ => hproto) fun h₄ =>
    iteInduction (fun _ => hproto) fun h₅ => ?_
  have reach {cmd : Bytes} (h : c.receiveBuffer.read 4 4 = cmd) : Reaches L n c cmd :=
    ⟨h₁, h₂, h₃, Nat.le_of_not_lt h₄, Decidable.of_not_not h₅, h⟩
  exact iteInduction (hw ∘ reach) fun _ => iteInduction (hc ∘ reach) fun _ =>
    iteInduction (hr ∘ reach) fun _ => iteInduction (hm ∘ reach) fun _ => hzero

theorem dispatchPacket_untouched (n : Nat) : Untouched c (dispatchPacket L e n c).2 :=
  dispatchPacket_of_branches L e c (fun r => Untouched c r.2) n (.refl c) (by constructor <;> rfl)
    (fun _ => onForwardReply_untouched L c _) (onForwardError_untouched L c) (fun _ => onWELC_untouched L e c)
    (fun _ => onCOOK_untouched L e c) (fun _ => onREDY_untouched L c _) (fun _ => onMESG_untouched L c)

end Frame

end OpenSDG
