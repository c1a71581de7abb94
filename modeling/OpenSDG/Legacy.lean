import OpenSDG.Tunnel

/-!
# The older `protocol.c`

The earlier version of the engine, on `struct _osdg_client`.  Its reader (lines 73–100),
`decryptMESG`, `client_get_nonce` and `send_packet` are those of `tunnel_protocol.c` and are
reused (`readPacket`, `decryptMESG`, `clientGetNonce`, `sendPacket`).  What differs:

* no forwarding envelope and no `ret < sizeof(struct packet_header)` check: the magic is read at
  once;
* sealing failures record `osdg_encryption_error`, and replies are sent without a send buffer
  except `sendMESG`, which checks its size itself;
* a reply's branch returns what `send_packet` returns, the number of the `osdg_result_t` that
  `send_data` gave back, and records no error kind when the send fails;
* the `VOCH` outer box always carries the key-value record `certificate`, with a `valueType`
  byte the newer `certificate_data` lacks: 47 bytes where the newer has 46, so the older `VOCH`
  is 271 bytes long;
* the `MESG` branch reads the `ProtocolVersion` reply itself.  A wrong magic is logged and
  leaves `ret` as the reader returned it, so `if (ret)` records `osdg_protocol_error` and returns
  the positive frame length; and `payload->dataType = MSG_PEER_REPLY` is an assignment, so every
  other type is read as a `PeerReply` (`peer_reply__unpack` is called by code outside the
  connection, and is not modelled).

`peer_handle_connect_reply` and `client_find_peer` (peer.c) act on the peer objects, not on the
connection; the branch that calls them returns `0`.
-/

set_option autoImplicit false

namespace OpenSDG

namespace Legacy

/-- `sizeof(struct packetMESG)` of `protocol.h`: header, nonce, and the wire part of a
`mesg_payload` that holds `dataSize` and `dataType`. -/
def sizeofPacketMESG : Nat := 35

/-- The key-value record of the older `curvecp_vouch_outer` (lines 202–207): `certStrType = 1`,
`certStrLength = 11`, `"certificate"`, `valueType = 0`, `valueLength = 32`, and a licence of 32
zero bytes. -/
def certificateRecord : Bytes := [1, 11] ++ ascii "certificate" ++ [0, 32] ++ List.replicate 32 0

/-- `sizeof(struct curvecp_vouch_outer)` of `protocol.h`, which is absent: the bytes the code
writes, padding, long-term key, nonce halves, the 48-byte inner box, and the 47-byte record. -/
def sizeofCurvecpVouchOuter : Nat := 175

/-- `sizeof(struct packetVOCH)` of `protocol.h`: header, cookie, nonce, and the wire part of the
outer box. -/
def sizeofPacketVOCH : Nat := 271

section Engine

variable (L : Lib)

/-- `sendTELL`: `send_data` returns `res`. -/
def sendTELL (res : ErrorKind) (c : Connection) : Int × Connection :=
  (res.code, (sendPacket res (buildHeader L.PACKET_MAGIC CMD_TELL sizeofPacketHeader) c).2)

/-- `sendMESG`: checks the packet against `bufferSize`, then seals `dataSize + 1` bytes of
payload in a send buffer under `CurveCP-client-M`, sends it and returns the buffer; `send_data`
returns `res`. -/
def sendMESG (res : ErrorKind) (c : Connection) (dataType : UInt8) (msg : Bytes) : Int × Connection :=
  let dataSize := msg.length
  let packetSize := toSizeT (sizeofPacketMESG + dataSize)
  if c.bufferSize < packetSize then (-1, { c with errorKind := .bufferExceeded })
  else
    let g := clientGetBuffer c
    let payload := List.replicate 32 0 ++ be16 (dataSize + 1) ++ dataType :: msg
    let n := clientGetNonce g.2
    let nonce := buildShortTermNonce "CurveCP-client-M" n.1
    let r := L.boxAfternm payload nonce n.2.beforenmData
    let c := n.2.logSeal nonce r
    match r with
    | none => (-1, clientPutBuffer { c with errorKind := .encryptionError } g.1)
    | some boxed =>
      let image := buildHeader L.PACKET_MAGIC CMD_MESG packetSize ++ nonce.toMem.read 16 8 ++
        boxed.toMem.read 16 (packetSize - 16)
      (res.code, clientPutBuffer (sendPacket res image c).2 g.1)

/-- The `WELC` branch. -/
def onWELC (e : Env) (c : Connection) : Int × Connection :=
  let c := { c with serverPubkey := c.receiveBuffer.block 8 32,
                    clientTempPubkey := e.tempPubkey, clientTempSecret := e.tempSecret }
  let n := clientGetNonce c
  let nonce := buildShortTermNonce "CurveCP-client-H" n.1
  let r := L.box (List.replicate 96 0) nonce n.2.serverPubkey n.2.clientTempSecret
  let c := n.2.logSeal nonce r
  match r with
  | none => (-1, { c with errorKind := .encryptionError })
  | some boxed =>
    let helo := buildHeader L.PACKET_MAGIC CMD_HELO sizeofPacketHELO ++ c.clientTempPubkey.toBytes ++
      nonce.toMem.read 16 8 ++ boxed.toMem.read 16 80
    (e.sendResult.code, (sendPacket e.sendResult helo c).2)

/-- The `COOK` branch: `VOCH` is built on the stack and always carries the `certificate`
record. -/
def onCOOK (e : Env) (c : Connection) : Int × Connection :=
  let nonce := buildLongTermNonce "CurveCPK" (c.receiveBuffer.read 8 16)
  let c := { c with receiveBuffer := c.receiveBuffer.write 8 (List.replicate crypto_box_BOXZEROBYTES 0) }
  match L.boxOpen (c.receiveBuffer.read 8 160) nonce c.serverPubkey c.clientTempSecret with
  | none => (-1, { c with errorKind := .decryptionError })
  | some cookie =>
    let c := { c with serverCookie := cookie.toMem.block 64 96 }
    match L.boxBeforenm (cookie.toMem.block 32 32) c.clientTempSecret with
    | none => (-1, { c with errorKind := .encryptionError })
    | some k =>
      let c := { c with beforenmData := k }
      let vnonce := buildLongTermNonce "CurveCPV" e.vouchNonce.toBytes
      let r := L.box (List.replicate 32 0 ++ c.clientTempPubkey.toBytes) vnonce c.serverPubkey c.clientSecret
      let c := c.logSeal vnonce r
      match r with
      | none => (-1, { c with errorKind := .encryptionError })
      | some inner =>
        let outer := List.replicate 32 0 ++ c.clientPubkey.toBytes ++ vnonce.toMem.read 8 16 ++
          inner.toMem.read 16 48 ++ certificateRecord
        let n := clientGetNonce c
        let nonce := buildShortTermNonce "CurveCP-client-I" n.1
        let r := L.boxAfternm outer nonce n.2.beforenmData
        let c := n.2.logSeal nonce r
        match r with
        | none => (-1, { c with errorKind := .encryptionError })
        | some boxed =>
          let image := buildHeader L.PACKET_MAGIC CMD_VOCH sizeofPacketVOCH ++ c.serverCookie.toBytes ++
            nonce.toMem.read 16 8 ++ boxed.toMem.read 16 (sizeofCurvecpVouchOuter - 16)
          (e.sendResult.code, (sendPacket e.sendResult image c).2)

/-- The `REDY` branch: open the box and send `ProtocolVersion`. -/
def onREDY (res : ErrorKind) (c : Connection) : Int × Connection :=
  let d := decryptMESG L "CurveCP-server-R" c
  if !d.1 then (-1, d.2)
  else
    let pv : ProtocolVersion := ⟨L.PROTOCOL_VERSION_MAGIC, PROTOCOL_VERSION_MAJOR, PROTOCOL_VERSION_MINOR⟩
    sendMESG L res d.2 MSG_PROTOCOL_VERSION (L.protocolVersionPack pv)

/-- `SWAP_16(payload->dataSize) - sizeof(payload->dataType)`, as an `unsigned int`. -/
def dataLength (m : Mem) : Nat := toU32 ((be16Value m 32 : Int) - 1)

/-- The `MESG` branch, where `ret` is what the reader returned. -/
def onMESG (ret : Nat) (c : Connection) : Int × Connection :=
  let d := decryptMESG L "CurveCP-server-M" c
  if !d.1 then (-1, d.2)
  else
    let c := d.2
    let length := dataLength c.receiveBuffer
    if c.receiveBuffer 34 = MSG_PROTOCOL_VERSION then
      match L.protocolVersionUnpack (c.receiveBuffer.read 35 length) with
      | none => (-1, { c with errorKind := .protocolError })
      | some pv =>
        let ret : Int :=
          if pv.magic ≠ L.PROTOCOL_VERSION_MAGIC then ret
          else if pv.major ≠ PROTOCOL_VERSION_MAJOR ∨ pv.minor ≠ PROTOCOL_VERSION_MINOR then -1
          else 0
        if ret ≠ 0 then (ret, { c with errorKind := .protocolError }) else (0, c)
    else (0, { c with receiveBuffer := c.receiveBuffer.write 34 [MSG_PEER_REPLY] })

/-- `receive_packet` after the reader has returned `ret > 0`. -/
def dispatchPacket (e : Env) (ret : Nat) (c : Connection) : Int × Connection :=
  if c.receiveBuffer.read 2 2 ≠ L.magicBytes then (-1, { c with errorKind := .protocolError })
  else if c.receiveBuffer.read 4 4 = CMD_WELC then onWELC L e c
  else if c.receiveBuffer.read 4 4 = CMD_COOK then onCOOK L e c
  else if c.receiveBuffer.read 4 4 = CMD_REDY then onREDY L e.sendResult c
  else if c.receiveBuffer.read 4 4 = CMD_MESG then onMESG L ret c
  else (0, c)

/-- `receive_packet`. -/
def receivePacket (e : Env) (c : Connection) : Int × Connection :=
  let r := readPacket e c
  if r.1 ≤ 0 then r else dispatchPacket L e r.1.toNat r.2

end Engine

end Legacy

end OpenSDG
