import OpenSDG.Tunnel

/-!
# Reads past a frame and frames past a buffer

The reader hands the dispatch `ret = L + 2` bytes, but the dispatch tests the type byte
`receiveBuffer[2]` before it checks `ret` against the header size, and computes
`SWAP_16(pkt->size) - 1` as an `unsigned int`.  On the sending side, `get_MESG_packet` checks its
packet against `bufferSize`, while `sendForward` writes its whole request into a send buffer with
no check, and the 16-bit length fields are stored modulo `2 ^ 16`.

* `sendForward_image` — `sendForward` sends the `ForwardRemote` request whole, `3 + n` bytes for
  a request packed to `n` bytes, whatever `bufferSize`;
* `receivePacket_empty_frame` — the frame `00 00` is dispatched on the byte the buffer held at
  index `2` before the call, and a forwarding reading of it has length `2 ^ 32 - 1`;
* `dispatch_reads_past_frame` — the same frame ignored, rejected or read as a forwarding reply,
  depending on that byte;
* `outbound_frame_unchecked` — a forwarding request larger than the send buffer is sent, and
  `get_MESG_packet` admits a payload whose `data.size` wraps to `0`.
-/

set_option autoImplicit false

namespace OpenSDG

/-- The `MSG_FORWARD_REMOTE` request of a connection, packed. -/
def forwardRequest (L : Lib) (c : Connection) : Bytes :=
  L.forwardRemotePack ⟨L.FORWARD_REMOTE_MAGIC, PROTOCOL_VERSION_MAJOR, PROTOCOL_VERSION_MINOR,
    c.tunnelId.getD [], L.FORWARD_REMOTE_SIGNATURE⟩

/-- `sendForward` sends its whole request with no check against `bufferSize`: the image is the
16-bit size, `MSG_FORWARD_REMOTE` and the packed request, whatever `send_data` returns. -/
theorem sendForward_image (L : Lib) (res : ErrorKind) (c : Connection) :
    (sendForward L res c).2.trace = c.trace ++
      [.send (be16 (toSizeT ((forwardRequest L c).length + 1)) ++ [MSG_FORWARD_REMOTE] ++ forwardRequest L c)
        (sizeofDataPacket + toSizeT ((forwardRequest L c).length + 1))] := by
  unfold sendForward; exact connectionSetResult_trace _ _

/-- A peer connection with a 16-byte tunnel id and an 8-byte send buffer sends a 19-byte
request; and with a 70000-byte buffer, `get_MESG_packet` admits 65536 bytes of data and sets
`data.size` to `0`. -/
theorem outbound_frame_unchecked :
    let c : Connection := { connectionCreate (fun _ => 0) (fun _ => 0) 8 with
      mode := .peer, tunnelId := some (List.replicate 16 7) }
    (startConnection Lib.transparent .noError c).1 = 0 ∧
      (startConnection Lib.transparent .noError c).2.trace =
        [.send (be16 17 ++ [MSG_FORWARD_REMOTE] ++ List.replicate 16 7) 19] ∧
      ((getMESGPacket (connectionCreate (fun _ => 0) (fun _ => 0) 70000) 65536).1.map (·.size)) = some 0 := by
  decide

/-- **An empty frame is dispatched on a byte it does not contain.**  When the reader returns `2`
(the frame `00 00`), the dispatch tests `receiveBuffer[2]`, which the call did not write: the
byte left there before the call decides whether the frame is ignored as `MSG_FORWARD_HOLD`,
taken as a `FORWARD_REPLY` or a `FORWARD_ERROR` of `SWAP_16(0) - 1 = 2 ^ 32 - 1` bytes, or
rejected as shorter than a header. -/
theorem receivePacket_empty_frame (L : Lib) (e : Env) (c : Connection) (h : (readPacket e c).1 = 2) :
    receivePacket L e c =
        (if c.receiveBuffer 2 = MSG_FORWARD_HOLD then (0, (readPacket e c).2)
        else if c.receiveBuffer 2 = MSG_FORWARD_REPLY then onForwardReply L e.sendResult (readPacket e c).2
        else if c.receiveBuffer 2 = MSG_FORWARD_ERROR then onForwardError L (readPacket e c).2
        else (-1, { (readPacket e c).2 with errorKind := .protocolError })) ∧
      forwardLength (readPacket e c).2.receiveBuffer = 2 ^ 32 - 1 := by
  obtain ⟨hsize, hstale⟩ := readPacket_empty_frame e c h
  refine ⟨?_, by rw [forwardLength, hsize]; rfl⟩
  dsimp only [receivePacket]
  rw [if_neg (by omega), h, dispatchPacket, hstale 2 le_rfl]
  simp only [if_pos (show (2 : Int).toNat < sizeofPacketHeader by decide)]

theorem receivePacket_empty_frame_after_hold :
    let c : Connection := { connectionCreate (fun _ => 0) (fun _ => 0) 64 with
      receiveBuffer := fun i => if i = 2 then MSG_FORWARD_HOLD else 0, rx := [0x00, 0x00] }
    let e : Env := ⟨2, 0, fun _ => 0, fun _ => 0, fun _ => 0, .noError⟩
    (readPacket e c).1 = 2 ∧
      (receivePacket Lib.transparent e c =
          (if c.receiveBuffer 2 = MSG_FORWARD_HOLD then (0, (readPacket e c).2)
          else if c.receiveBuffer 2 = MSG_FORWARD_REPLY then onForwardReply Lib.transparent e.sendResult (readPacket e c).2
          else if c.receiveBuffer 2 = MSG_FORWARD_ERROR then onForwardError Lib.transparent (readPacket e c).2
          else (-1, { (readPacket e c).2 with errorKind := .protocolError })) ∧
        forwardLength (readPacket e c).2.receiveBuffer = 2 ^ 32 - 1) := by
  intro c e
  exact ⟨by decide, receivePacket_empty_frame Lib.transparent e c (by decide)⟩

/-- The frame `00 00` arrives after a frame whose third byte was `stale`: it is dispatched on
that byte — ignored as `MSG_FORWARD_HOLD` after `0x0F`, rejected as too short after `0x00`,
and after `0x11` read as a `FORWARD_REPLY` of `SWAP_16(0) - 1 = 2 ^ 32 - 1` bytes. -/
theorem dispatch_reads_past_frame :
    let c : UInt8 → Connection := fun stale =>
      { connectionCreate (fun _ => 0) (fun _ => 0) 64 with
        receiveBuffer := fun i => if i = 2 then stale else 0, rx := [0x00, 0x00] }
    let e : Env := ⟨2, 0, fun _ => 0, fun _ => 0, fun _ => 0, .noError⟩
    (readPacket e (c 0x0F)).1 = 2 ∧ (readPacket e (c 0x00)).1 = 2 ∧
      (readPacket e (c 0x0F)).2.receiveBuffer.read 0 2 = (readPacket e (c 0x00)).2.receiveBuffer.read 0 2 ∧
      (receivePacket Lib.transparent e (c 0x0F)).1 = 0 ∧ (receivePacket Lib.transparent e (c 0x00)).1 = -1 ∧
      forwardLength (readPacket e (c 0x11)).2.receiveBuffer = 4294967295 := by
  decide

end OpenSDG
