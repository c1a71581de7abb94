import OpenSDG.PeerHandshake

/-!
# The grid handshake and the peer timeout

Two more of the specification's scenarios (§8), on `tunnel_protocol.c`, with the frames of
`OpenSDG.PeerHandshake`.

* Scenario 1, the grid happy path.  A grid connection calls `start_connection`, which sends
  `TELL`, and the server answers with `WELC`, `COOK` and `REDY`.  In grid mode `REDY` does not
  connect: the engine answers it with a `MESG` sealing the packed `ProtocolVersion`
  (`PROTOCOL_VERSION_MAGIC`, major, minor) under the session key and the next counter value, and
  the server's own `ProtocolVersion` goes through the `MESG` branch to `connection_handle_data`.
  `frameStep_redy_grid` is the `REDY` step, `grid_frames_ready` the three frames on the
  frame-level engine, and `grid_handshake_sends_version` the scenario on `receive_packet`, for
  every schedule of arrivals that delivers the stream a byte or more per call.
* Scenario 4, the peer timeout.  `peer_timeout_recorded`: after the `ForwardRemote` request, a
  `FORWARD_HOLD` and a `FORWARD_ERROR` with code `FORWARD_PEER_TIMEOUT` leave the error kind
  `osdg_peer_timeout`, send nothing more, and leave the status as it was — the forwarding
  branch records the error kind itself and returns `-1` without `connection_set_result`.
-/

set_option autoImplicit false

namespace OpenSDG

/-- The `ProtocolVersion` the `REDY` branch of a grid connection packs: `PROTOCOL_VERSION_MAGIC`,
`PROTOCOL_VERSION_MAJOR`, `PROTOCOL_VERSION_MINOR`. -/
def Lib.clientVersion (L : Lib) : ProtocolVersion :=
  ⟨L.PROTOCOL_VERSION_MAGIC, PROTOCOL_VERSION_MAJOR, PROTOCOL_VERSION_MINOR⟩

section Branches

variable (L : Lib) (c : Connection)

/-- The `MESG` frame `send_MESG_packet` sends for a payload of `dataSize` bytes sealed to `boxed`
under the counter value `n`: the header, the nonce tail, and the wire part of the box. -/
def mesgFrame (L : Lib) (dataSize : Nat) (n : UInt64) (boxed : Bytes) : Bytes :=
  buildHeader L.PACKET_MAGIC CMD_MESG (sizeofPacketMESG + dataSize) ++
    ((buildShortTermNonce "CurveCP-client-M" (be64 n)).toMem.read 16 8 ++
      boxed.toMem.read 16 (sizeofMesgPayload + dataSize - 16))

/-- The `REDY` branch of a grid connection whose box opens: it sends its `ProtocolVersion`. -/
theorem onREDY_grid (res : ErrorKind) (hd : (decryptMESG L "CurveCP-server-R" c).1 = true) (hm : c.mode = .grid) :
    onREDY L res c = connectionSetResult
      (sendMESG L res (decryptMESG L "CurveCP-server-R" c).2 MSG_PROTOCOL_VERSION (L.protocolVersionPack L.clientVersion)).2
      (sendMESG L res (decryptMESG L "CurveCP-server-R" c).2 MSG_PROTOCOL_VERSION (L.protocolVersionPack L.clientVersion)).1 := by
  have hm' : (decryptMESG L "CurveCP-server-R" c).2.mode = .grid := (decryptMESG_untouched L c _).mode.trans hm
  simp only [onREDY, hd, hm', Bool.not_true, ne_eq, not_true_eq_false, if_false]
  rfl

/-- `sendMESG` of a message that fits a send buffer, when its box seals and the send succeeds:
the payload `data.size`, type, message sealed under `CurveCP-client-M` and the next counter value,
the `MESG` frame of that box sent, and the buffer back on the freelist. -/
theorem sendMESG_sealed (t : UInt8) (msg : Bytes) (hsmall : msg.length + 1 < 65536)
    (hfit : sizeofPacketMESG + (msg.length + 1) ≤ c.bufferSize) (hafter : ∀ m n k, L.boxAfternm m n k ≠ none) :
    ∃ boxed, L.boxAfternm (List.replicate 32 0 ++ be16 (msg.length + 1) ++ t :: msg)
        (buildShortTermNonce "CurveCP-client-M" (be64 c.nonce)) c.beforenmData = some boxed ∧
      sendMESG L .noError c t msg = (.noError, { clientPutBuffer (clientGetBuffer c).2 (clientGetBuffer c).1 with
        nonce := c.nonce + 1,
        trace := c.trace ++ [.seal (buildShortTermNonce "CurveCP-client-M" (be64 c.nonce)) true,
          .send (mesgFrame L (msg.length + 1) c.nonce boxed) (packetSize (mesgFrame L (msg.length + 1) c.nonce boxed))] }) := by
  have hs : toSizeT (msg.length + 1) = msg.length + 1 := Nat.mod_eq_of_lt (by omega)
  have hdata : (Bytes.toMem (t :: msg)).read 0 (msg.length + 1) = t :: msg := Bytes.toMem_read_append [] (t :: msg)
  obtain ⟨boxed, hb⟩ := Option.ne_none_iff_exists'.mp (hafter (List.replicate 32 0 ++ be16 (msg.length + 1) ++ t :: msg)
    (buildShortTermNonce "CurveCP-client-M" (be64 c.nonce)) c.beforenmData)
  refine ⟨boxed, hb, ?_⟩
  rw [sendMESG_eq, if_neg (by rw [hs, toSizeT, Nat.mod_eq_of_lt (by simp only [sizeofPacketMESG]; omega)]; omega)]
  simp only [sendMESGPacket, clientGetBuffer, hs, Nat.mod_eq_of_lt hsmall, hdata, clientGetNonce_fst, clientGetNonce_snd, logSeal_eq,
    hb, sendPacket_snd, sendPacket_fst, clientPutBuffer_eq, Option.isSome_some, mesgFrame]
  simp only [List.append_assoc, List.singleton_append]

end Branches

section Steps

variable (L : Lib) (e : Env) (d : Connection)
  (hmagic : L.PACKET_MAGIC.1 ≠ MSG_FORWARD_HOLD ∧ L.PACKET_MAGIC.1 ≠ MSG_FORWARD_REPLY ∧
    L.PACKET_MAGIC.1 ≠ MSG_FORWARD_ERROR)
  (hbox : ∀ m n pk sk, L.box m n pk sk ≠ none) (hafter : ∀ m n k, L.boxAfternm m n k ≠ none)

include hmagic hafter in
/-- A `REDY` of a grid connection whose box opens under the session key: the connection answers
with the `MESG` frame of its `ProtocolVersion`, sealed under the next counter value, and stays as
it was. -/
theorem frameStep_redy_grid (hsent : e.sendResult = .noError) {nonce box plain : Bytes} (hn : nonce.length = 8)
    (hlen : 14 + box.length < 65536) (hm : d.mode = .grid)
    (hopen : L.boxOpenAfternm (List.replicate 16 0 ++ box) (buildShortTermNonce "CurveCP-server-R" nonce)
      d.beforenmData = some plain)
    (hsmall : (L.protocolVersionPack L.clientVersion).length + 1 < 65536)
    (hfit : sizeofPacketMESG + ((L.protocolVersionPack L.clientVersion).length + 1) ≤ d.bufferSize) :
    ∃ boxed, L.boxAfternm (List.replicate 32 0 ++ be16 ((L.protocolVersionPack L.clientVersion).length + 1) ++
        MSG_PROTOCOL_VERSION :: L.protocolVersionPack L.clientVersion)
        (buildShortTermNonce "CurveCP-client-M" (be64 d.nonce)) d.beforenmData = some boxed ∧
      (frameStep L d (packetImage L.PACKET_MAGIC CMD_REDY (nonce ++ box)) e).session =
        { d.session with nonce := d.nonce + 1, sent := d.session.sent ++
          [mesgFrame L ((L.protocolVersionPack L.clientVersion).length + 1) d.nonce boxed] } := by
  have hd := packetImage_decryptMESG L d "CurveCP-server-R" CMD_REDY_length hn hlen hopen
  obtain ⟨boxed, hb, hs⟩ := sendMESG_sealed L (decryptMESG L "CurveCP-server-R"
    (d.takeFrame (packetImage L.PACKET_MAGIC CMD_REDY (nonce ++ box)))).2 MSG_PROTOCOL_VERSION _ hsmall
    (by rw [hd]; exact hfit) hafter
  rw [hd] at hb hs
  refine ⟨boxed, hb, ?_⟩
  rw [frameStep, dispatchPacket_reaches L e (packetImage_reaches L d CMD_REDY_length hmagic), if_neg (by decide),
    if_neg (by decide), if_pos rfl, hsent, onREDY_grid L (d.takeFrame _) _ (by rw [hd]) hm, hd, hs,
    connectionSetResult_noError]
  simp [Connection.session, Connection.takeFrame, clientGetBuffer, clientPutBuffer]

include hmagic hbox hafter in
/-- The specification's grid scenario on whole frames: `WELC`, `COOK`, `REDY`, each completed by
a call whose send succeeds. -/
theorem grid_frames_ready (e₁ e₂ e₃ : Env) (welcRest : Bytes) {key k : Key}
    {cookNonce cookBox redyNonce redyBox cookie plain : Bytes} (hmode : d.mode = .grid)
    (hsent : e₁.sendResult = .noError ∧ e₂.sendResult = .noError ∧ e₃.sendResult = .noError)
    (hcn : cookNonce.length = 16) (hcb : cookBox.length = 144) (hrn : redyNonce.length = 8)
    (hrb : 14 + redyBox.length < 65536)
    (hopen : L.boxOpen (List.replicate 16 0 ++ cookBox) (buildLongTermNonce "CurveCPK" cookNonce) key e₁.tempSecret =
      some cookie)
    (hk : L.boxBeforenm (cookie.toMem.block 32 32) e₁.tempSecret = some k)
    (hredy : L.boxOpenAfternm (List.replicate 16 0 ++ redyBox) (buildShortTermNonce "CurveCP-server-R" redyNonce) k =
      some plain)
    (hsmall : (L.protocolVersionPack L.clientVersion).length + 1 < 65536)
    (hfit : sizeofPacketMESG + ((L.protocolVersionPack L.clientVersion).length + 1) ≤ d.bufferSize) :
    ∃ helo voch boxed, L.boxAfternm (List.replicate 32 0 ++ be16 ((L.protocolVersionPack L.clientVersion).length + 1) ++
        MSG_PROTOCOL_VERSION :: L.protocolVersionPack L.clientVersion)
        (buildShortTermNonce "CurveCP-client-M" (be64 (d.nonce + 1 + 1))) k = some boxed ∧
      (frameRun L d [(packetImage L.PACKET_MAGIC CMD_WELC (key.toBytes ++ welcRest), e₁),
        (packetImage L.PACKET_MAGIC CMD_COOK (cookNonce ++ cookBox), e₂),
        (packetImage L.PACKET_MAGIC CMD_REDY (redyNonce ++ redyBox), e₃)]).session =
      { d.session with serverPubkey := key, clientTempPubkey := e₁.tempPubkey, clientTempSecret := e₁.tempSecret,
                       serverCookie := cookie.toMem.block 64 96, beforenmData := k, nonce := d.nonce + 1 + 1 + 1,
                       sent := d.session.sent ++ [helo, voch,
                         mesgFrame L ((L.protocolVersionPack L.clientVersion).length + 1) (d.nonce + 1 + 1) boxed] } ∧
      (helo.drop 4).take 4 = CMD_HELO ∧ (voch.drop 4).take 4 = CMD_VOCH := by
  simp only [frameRun]
  obtain ⟨helo, h₁, hhelo⟩ := frameStep_welc L e₁ d hmagic hbox hsent.1 key welcRest
  have hb₁ := frameStep_bufferSize L d (packetImage L.PACKET_MAGIC CMD_WELC (key.toBytes ++ welcRest)) e₁
  generalize frameStep L d (packetImage L.PACKET_MAGIC CMD_WELC (key.toBytes ++ welcRest)) e₁ = s₁ at h₁ hb₁ ⊢
  have hkey : s₁.serverPubkey = key ∧ s₁.clientTempSecret = e₁.tempSecret :=
    ⟨congrArg Session.serverPubkey h₁, congrArg Session.clientTempSecret h₁⟩
  obtain ⟨voch, h₂, hvoch⟩ := frameStep_cook L e₂ s₁ hmagic hbox hafter hsent.2.1 hcn hcb
    (by rw [hkey.1, hkey.2]; exact hopen) (by rw [hkey.2]; exact hk)
  have hb₂ := frameStep_bufferSize L s₁ (packetImage L.PACKET_MAGIC CMD_COOK (cookNonce ++ cookBox)) e₂
  generalize frameStep L s₁ (packetImage L.PACKET_MAGIC CMD_COOK (cookNonce ++ cookBox)) e₂ = s₂ at h₂ hb₂ ⊢
  have hm₂ : s₂.mode = .grid := (congrArg Session.mode h₂).trans ((congrArg Session.mode h₁).trans hmode)
  have hk₂ : s₂.beforenmData = k := congrArg Session.beforenmData h₂
  have hn₂ : s₂.nonce = d.nonce + 1 + 1 := (congrArg Session.nonce h₂).trans (congrArg (· + 1) (congrArg Session.nonce h₁))
  obtain ⟨boxed, hb, h₃⟩ := frameStep_redy_grid L e₃ s₂ hmagic hafter hsent.2.2 hrn hrb hm₂
    (by rw [hk₂]; exact hredy) hsmall (by rw [hb₂, hb₁]; exact hfit)
  refine ⟨helo, voch, boxed, by rw [← hn₂, ← hk₂]; exact hb, ?_, hhelo, hvoch⟩
  rw [h₃, h₂, h₁, hn₂]
  simp only [List.append_assoc, List.singleton_append, List.cons_append, List.nil_append]

end Steps

/-- `start_connection` without a tunnel id, whose send succeeds, sends `TELL`, and leaves the
session and the reader as they were. -/
theorem startConnection_tell (L : Lib) (c : Connection) (htid : c.tunnelId = none) :
    (startConnection L .noError c).2.session =
        { c.session with sent := c.session.sent ++ [buildHeader L.PACKET_MAGIC CMD_TELL sizeofPacketHeader] } ∧
      (startConnection L .noError c).2.bytesLeft = c.bytesLeft ∧ (startConnection L .noError c).2.rx = c.rx ∧
      (startConnection L .noError c).2.bufferSize = c.bufferSize := by
  rw [startConnection, if_neg (by simp [htid]), sendTELL_eq]
  exact ⟨by simp [Connection.session], rfl, rfl, rfl⟩

/-- **The grid handshake reaches the version exchange** (specification §8, scenario 1).  A grid
connection without a tunnel id, idle, whose stream holds the server's `WELC`, `COOK` and `REDY`,
calls `start_connection` and then `receive_packet` once per entry of a schedule of arrivals in
which every call receives at least one byte and that has at least as many calls as the stream has bytes.
If the sends succeed, every box seals and opens, and the packed `ProtocolVersion` fits a send
buffer, the connection holds the server's key, the keypair drawn by the call that completes
`WELC`, the cookie and the session key, has advanced its counter three times, and has sent
exactly `TELL`, `HELO`, `VOCH` and the `MESG` frame whose box seals `MSG_PROTOCOL_VERSION` and
its `ProtocolVersion` under the session key and the third counter value, with that value's tail
as its nonce.  Its status is the one it had: in grid mode `REDY` connects nothing, the server's
own `ProtocolVersion` is left to `connection_handle_data`. -/
theorem grid_handshake_sends_version (L : Lib) (c : Connection) (fs : List (Frame c.bufferSize)) (sched : List Env)
    {key pk sk k : Key} {welcRest cookNonce cookBox redyNonce redyBox cookie plain : Bytes}
    (hmode : c.mode = .grid) (htid : c.tunnelId = none) (hidle : c.bytesLeft = 0)
    (hrx : c.rx = (fs.map Frame.bytes).flatten)
    (hfs : fs.map Frame.bytes = [packetImage L.PACKET_MAGIC CMD_WELC (key.toBytes ++ welcRest),
      packetImage L.PACKET_MAGIC CMD_COOK (cookNonce ++ cookBox), packetImage L.PACKET_MAGIC CMD_REDY (redyNonce ++ redyBox)])
    (hsched : ∀ e ∈ sched, 0 < e.firstRead) (hlen : c.rx.length ≤ sched.length)
    (hkeys : ∀ e, (completing L (startConnection L .noError c).2 sched)[0]? = some e →
      e.tempPubkey = pk ∧ e.tempSecret = sk)
    (hsent : ∀ e ∈ completing L (startConnection L .noError c).2 sched, e.sendResult = .noError)
    (hmagic : L.PACKET_MAGIC.1 ≠ MSG_FORWARD_HOLD ∧ L.PACKET_MAGIC.1 ≠ MSG_FORWARD_REPLY ∧
      L.PACKET_MAGIC.1 ≠ MSG_FORWARD_ERROR)
    (hbox : ∀ m n pk sk, L.box m n pk sk ≠ none) (hafter : ∀ m n k, L.boxAfternm m n k ≠ none)
    (hcn : cookNonce.length = 16) (hcb : cookBox.length = 144) (hrn : redyNonce.length = 8)
    (hopen : L.boxOpen (List.replicate 16 0 ++ cookBox) (buildLongTermNonce "CurveCPK" cookNonce) key sk = some cookie)
    (hk : L.boxBeforenm (cookie.toMem.block 32 32) sk = some k)
    (hredy : L.boxOpenAfternm (List.replicate 16 0 ++ redyBox) (buildShortTermNonce "CurveCP-server-R" redyNonce) k =
      some plain)
    (hsmall : (L.protocolVersionPack L.clientVersion).length + 1 < 65536)
    (hfit : sizeofPacketMESG + ((L.protocolVersionPack L.clientVersion).length + 1) ≤ c.bufferSize) :
    ∃ helo voch boxed, L.boxAfternm (List.replicate 32 0 ++ be16 ((L.protocolVersionPack L.clientVersion).length + 1) ++
        MSG_PROTOCOL_VERSION :: L.protocolVersionPack L.clientVersion)
        (buildShortTermNonce "CurveCP-client-M" (be64 (c.nonce + 1 + 1))) k = some boxed ∧
      (receiveRun L (startConnection L .noError c).2 sched).session =
        { c.session with serverPubkey := key, clientTempPubkey := pk, clientTempSecret := sk,
                         serverCookie := cookie.toMem.block 64 96, beforenmData := k, nonce := c.nonce + 1 + 1 + 1,
                         sent := c.session.sent ++ [buildHeader L.PACKET_MAGIC CMD_TELL sizeofPacketHeader, helo, voch,
                           mesgFrame L ((L.protocolVersionPack L.clientVersion).length + 1) (c.nonce + 1 + 1) boxed] } ∧
      (helo.drop 4).take 4 = CMD_HELO ∧ (voch.drop 4).take 4 = CMD_VOCH := by
  obtain ⟨hstart, hl, hrx₁, hbs⟩ := startConnection_tell L c htid
  obtain ⟨hall, hrun⟩ := receiveRun_complete L _ fs sched hbs.ge (hl.trans hidle) (hrx₁.trans hrx) hsched
    (hrx₁ ▸ hlen)
  rw [show fs.length = 3 by simpa using congrArg List.length hfs] at hall
  have hrb : 14 + redyBox.length < 65536 := by
    have hm : packetImage L.PACKET_MAGIC CMD_REDY (redyNonce ++ redyBox) ∈ fs.map Frame.bytes := by rw [hfs]; simp
    have := Frame.length_lt_of_mem hm
    simp [packetImage, hrn] at this; omega
  generalize completing L (startConnection L .noError c).2 sched = es at hall hrun hkeys hsent
  match es, hall, hrun, hkeys, hsent with
  | [e₁, e₂, e₃], _, hrun, hkeys, hsent =>
    have h₁ := hkeys e₁ rfl
    have hn : (startConnection L .noError c).2.nonce = c.nonce := congrArg Session.nonce hstart
    obtain ⟨helo, voch, boxed, hb, hd, hhelo, hvoch⟩ := grid_frames_ready L (startConnection L .noError c).2
      hmagic hbox hafter e₁ e₂ e₃ welcRest ((congrArg Session.mode hstart).trans hmode)
      ⟨hsent e₁ (by simp), hsent e₂ (by simp), hsent e₃ (by simp)⟩ hcn hcb hrn hrb
      (h₁.2 ▸ hopen) (h₁.2 ▸ hk) hredy hsmall (hbs ▸ hfit)
    refine ⟨helo, voch, boxed, hn ▸ hb, ?_, hhelo, hvoch⟩
    rw [hrun.session, hfs]
    simp only [List.zip_cons_cons, List.zip_nil_right]
    rw [hd, h₁.1, h₁.2, hn, hstart]
    simp only [List.append_assoc, List.singleton_append, List.cons_append, List.nil_append]

/-- The server's frames of the peer scenario's stream, without the grid's forwarding messages. -/
def gridScenarioFrames : List (Frame 256) := peerScenarioFrames.drop 2

theorem gridScenarioFrames_bytes : gridScenarioFrames.map Frame.bytes =
    [packetImage Lib.transparent.PACKET_MAGIC CMD_WELC (Block.toBytes (fun _ => 0 : Key) ++ []),
      packetImage Lib.transparent.PACKET_MAGIC CMD_COOK (List.replicate 16 0 ++ List.replicate 144 0),
      packetImage Lib.transparent.PACKET_MAGIC CMD_REDY (List.replicate 8 0 ++ [])] := by
  rw [gridScenarioFrames, List.map_drop, peerScenarioFrames_bytes]
  rfl

/-- The grid scenario's stream is 224 bytes long. -/
theorem gridScenarioFrames_length : ((gridScenarioFrames.map Frame.bytes).flatten).length = 224 := by
  simp only [gridScenarioFrames, peerScenarioFrames, List.drop_succ_cons, List.drop_zero, List.map_cons, List.map_nil,
    List.flatten_cons, List.flatten_nil, List.length_append, Frame.bytes_length, List.length_replicate, List.length_cons,
    List.length_nil, CMD_WELC_length, CMD_COOK_length, CMD_REDY_length, List.append_nil]

theorem grid_handshake_sends_version_transparent :
    let c : Connection := { connectionCreate (fun _ => 0) (fun _ => 0) 256 with
      mode := .grid, rx := (gridScenarioFrames.map Frame.bytes).flatten }
    let sched := List.replicate 224 (⟨2, 256, fun _ => 0, fun _ => 0, fun _ => 0, .noError⟩ : Env)
    let cookie : Bytes := List.replicate 16 0 ++ List.replicate 144 0
    let v := Lib.transparent.protocolVersionPack Lib.transparent.clientVersion
    (c.mode = .grid ∧ c.tunnelId = none ∧ c.rx.length ≤ sched.length) ∧
      ∃ helo voch boxed, Lib.transparent.boxAfternm (List.replicate 32 0 ++ be16 (v.length + 1) ++ MSG_PROTOCOL_VERSION :: v)
          (buildShortTermNonce "CurveCP-client-M" (be64 (c.nonce + 1 + 1))) (cookie.toMem.block 32 32) = some boxed ∧
        (receiveRun Lib.transparent (startConnection Lib.transparent .noError c).2 sched).session =
          { c.session with serverPubkey := fun _ => 0, clientTempPubkey := fun _ => 0,
                           clientTempSecret := fun _ => 0, serverCookie := cookie.toMem.block 64 96,
                           beforenmData := cookie.toMem.block 32 32, nonce := c.nonce + 1 + 1 + 1,
                           sent := c.session.sent ++ [buildHeader Lib.transparent.PACKET_MAGIC CMD_TELL sizeofPacketHeader,
                             helo, voch, mesgFrame Lib.transparent (v.length + 1) (c.nonce + 1 + 1) boxed] } ∧
        (helo.drop 4).take 4 = CMD_HELO ∧ (voch.drop 4).take 4 = CMD_VOCH := by
  intro c sched cookie v
  have hmem : ∀ e ∈ completing Lib.transparent (startConnection Lib.transparent .noError c).2 sched,
      e = ⟨2, 256, fun _ => 0, fun _ => 0, fun _ => 0, .noError⟩ := fun e he =>
    List.eq_of_mem_replicate ((completing_sublist _ sched _).subset he)
  have hlen : c.rx.length ≤ sched.length := by
    show ((gridScenarioFrames.map Frame.bytes).flatten).length ≤ (List.replicate 224 _).length
    rw [gridScenarioFrames_length, List.length_replicate]
  exact ⟨⟨rfl, rfl, hlen⟩, grid_handshake_sends_version Lib.transparent c gridScenarioFrames sched rfl rfl rfl rfl
    gridScenarioFrames_bytes (fun e he => by rw [List.eq_of_mem_replicate he]; decide) hlen
    (fun e he => by rw [hmem e (List.getElem?_mem he)]; exact ⟨rfl, rfl⟩) (fun e he => by rw [hmem e he])
    (by decide) (fun _ _ _ _ => nofun) (fun _ _ _ => nofun) rfl rfl rfl rfl rfl rfl (by decide) (by decide)⟩

/-! ## The peer timeout -/

/-- The grid's `FORWARD_HOLD`, then a `FORWARD_ERROR` whose code is `2`, the transparent
collaborators' `FORWARD_PEER_TIMEOUT`. -/
def timeoutScenarioFrames : List (Frame 64) := [⟨[0x0F], by decide, by decide⟩, ⟨[0x12, 2], by decide, by decide⟩]

theorem timeoutScenarioFrames_bytes : timeoutScenarioFrames.map Frame.bytes =
    [dataPacketImage MSG_FORWARD_HOLD [], dataPacketImage MSG_FORWARD_ERROR [2]] := rfl

/-- **A peer timeout is recorded, and nothing more** (specification §8, scenario 4).  A
connection with a tunnel id, idle, whose stream holds the grid's `FORWARD_HOLD` and a
`FORWARD_ERROR` whose code is `FORWARD_PEER_TIMEOUT`, calls `start_connection`, whose send
succeeds, and then `receive_packet` once per entry of a schedule of arrivals in which every call
receives at least one byte and that has at least as many calls as the stream has bytes.  The error kind is
then `osdg_peer_timeout`, and the session is the one `start_connection` left: nothing is sent
after the `ForwardRemote` request, and the status is unchanged, since the forwarding branch
records the error kind and returns `-1` without `connection_set_result`. -/
theorem peer_timeout_recorded (L : Lib) (c : Connection) (fs : List (Frame c.bufferSize)) (sched : List Env)
    {msg : Bytes} {err : ForwardError} (htid : c.tunnelId.isSome) (hidle : c.bytesLeft = 0)
    (hrx : c.rx = (fs.map Frame.bytes).flatten)
    (hfs : fs.map Frame.bytes = [dataPacketImage MSG_FORWARD_HOLD [], dataPacketImage MSG_FORWARD_ERROR msg])
    (hsched : ∀ e ∈ sched, 0 < e.firstRead) (hlen : c.rx.length ≤ sched.length)
    (herr : L.forwardErrorUnpack msg = some err) (hcode : err.code = L.FORWARD_PEER_TIMEOUT)
    (hcodes : L.FORWARD_PEER_TIMEOUT ≠ L.FORWARD_SERVER_ERROR) :
    ∃ fwd, (receiveRun L (startConnection L .noError c).2 sched).errorKind = .peerTimeout ∧
      (receiveRun L (startConnection L .noError c).2 sched).session = { c.session with sent := c.session.sent ++ [fwd] } ∧
      fwd.getD 2 0 = MSG_FORWARD_REMOTE := by
  obtain ⟨fwd, hstart, hfwd, hl, hrx₁, hbs⟩ := startConnection_forward L c htid
  obtain ⟨hall, hrun⟩ := receiveRun_complete L _ fs sched hbs.ge (hl.trans hidle) (hrx₁.trans hrx) hsched
    (hrx₁ ▸ hlen)
  rw [show fs.length = 2 by simpa using congrArg List.length hfs] at hall
  have hmsg : msg.length + 1 < 65536 := by
    have hm : dataPacketImage MSG_FORWARD_ERROR msg ∈ fs.map Frame.bytes := by rw [hfs]; simp
    have := Frame.length_lt_of_mem hm
    simp [dataPacketImage] at this; omega
  generalize completing L (startConnection L .noError c).2 sched = es at hall hrun
  match es, hall, hrun with
  | [e₁, e₂], _, hrun =>
    rw [hfs] at hrun
    simp only [List.zip_cons_cons, List.zip_nil_right, frameRun, frameStep_hold, frameStep_error L _ _ hmsg herr] at hrun
    refine ⟨fwd, ?_, ?_, hfwd⟩
    · rw [congrArg Connection.errorKind hrun]
      simp [forwardErrorKind, hcode, hcodes]
    · rw [hrun.session, ← hstart]
      simp only [Connection.session, Connection.takeFrame]

theorem peer_timeout_recorded_transparent :
    let c : Connection := { connectionCreate (fun _ => 0) (fun _ => 0) 64 with
      tunnelId := some [1, 2, 3], rx := (timeoutScenarioFrames.map Frame.bytes).flatten }
    let sched := List.replicate 7 (⟨2, 64, fun _ => 0, fun _ => 0, fun _ => 0, .noError⟩ : Env)
    (c.tunnelId.isSome ∧ c.rx.length ≤ sched.length ∧
        Lib.transparent.FORWARD_PEER_TIMEOUT ≠ Lib.transparent.FORWARD_SERVER_ERROR) ∧
      ∃ fwd, (receiveRun Lib.transparent (startConnection Lib.transparent .noError c).2 sched).errorKind = .peerTimeout ∧
        (receiveRun Lib.transparent (startConnection Lib.transparent .noError c).2 sched).session =
          { c.session with sent := c.session.sent ++ [fwd] } ∧ fwd.getD 2 0 = MSG_FORWARD_REMOTE := by
  intro c sched
  exact ⟨⟨rfl, by decide, by decide⟩, peer_timeout_recorded Lib.transparent c timeoutScenarioFrames sched rfl rfl rfl
    timeoutScenarioFrames_bytes (fun e he => by rw [List.eq_of_mem_replicate he]; decide) (by decide) rfl rfl (by decide)⟩

end OpenSDG
