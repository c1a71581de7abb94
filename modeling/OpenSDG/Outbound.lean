import OpenSDG.Framing

/-!
# Outbound frames

Every frame the connection sends carries its own length in front.  `build_header` writes
`size - 2` into the header of `TELL`, `HELO`, `VOCH` and `MESG`, and each of them is built `size`
bytes long; `sendForward` writes `dataSize` in front of the `dataSize` bytes of its
`DataPacket`.  `send_packet` then sends `PACKET_SIZE(header)` bytes, and `sendForward` sends
`sizeof(struct DataPacket) + dataSize`.

* `Event.WellFramed` — a send whose image starts with the length of the rest, big-endian and
  modulo `2 ^ 16`, and that sends the whole image when it is shorter than `2 ^ 16 + 2` bytes.
* `op_framedFrom`, `run_framedFrom` — every operation, and so every run, sends only such frames.
* `sent_frames_decode` — the round trip: what a run sends, split at any byte and read by
  `receive_packet`'s reader on a connection whose buffer holds each frame, is handed to the
  dispatch frame by frame, exactly as it was sent.
-/

set_option autoImplicit false

namespace OpenSDG

/-- A send of a whole frame: the image starts with the length of the rest, big-endian and modulo
`2 ^ 16`, and an image shorter than `2 ^ 16 + 2` bytes is sent whole. -/
def Event.WellFramed : Event → Prop
  | .send image size => 2 ≤ image.length ∧ image.take 2 = be16 (image.length - 2) ∧
      (image.length < 65538 → size = image.length)
  | _ => True

/-- The frames `c'` sent after `c`. -/
def outbound (c c' : Connection) : List Bytes := sends (c'.trace.drop c.trace.length)

/-- `c'` is `c` after events that send only whole frames. -/
def FramedFrom (c c' : Connection) : Prop := ∃ δ, c'.trace = c.trace ++ δ ∧ ∀ ev ∈ δ, ev.WellFramed

/-- The length field of an image that starts with `be16 v`. -/
theorem be16Value_toMem_of_take {image : Bytes} {v : Nat} (h : image.take 2 = be16 v) :
    be16Value image.toMem 0 = v % 65536 := by
  rw [← List.take_append_drop 2 image, h]
  simp [be16Value, Bytes.toMem, be16, beBytes, toNat_toUInt8]
  omega

/-- A well-framed image that fits a buffer of `n` bytes is a frame on the wire. -/
def Frame.ofImage {n : Nat} (image : Bytes) (h : 2 ≤ image.length ∧ image.length < 65538 ∧ image.length ≤ n) :
    Frame n :=
  ⟨image.drop 2, by simp; omega, by simp; omega⟩

theorem Frame.ofImage_bytes {n : Nat} {image : Bytes} (h : 2 ≤ image.length ∧ image.length < 65538 ∧ image.length ≤ n)
    (hlen : image.take 2 = be16 (image.length - 2)) :
    (Frame.ofImage image h).bytes = image := by
  rw [Frame.bytes, Frame.ofImage, List.length_drop, ← hlen, List.take_append_drop]

section Framed

variable {c c' c'' : Connection}

theorem FramedFrom.quiet (ht : c'.trace = c.trace) : FramedFrom c c' :=
  ⟨[], by rw [ht, List.append_nil], nofun⟩

theorem FramedFrom.trans (h₁ : FramedFrom c c') (h₂ : FramedFrom c' c'') : FramedFrom c c'' := by
  obtain ⟨δ₁, ht₁, hs₁⟩ := h₁
  obtain ⟨δ₂, ht₂, hs₂⟩ := h₂
  exact ⟨δ₁ ++ δ₂, by rw [ht₂, ht₁, List.append_assoc], fun ev hev => (List.mem_append.mp hev).elim (hs₁ ev) (hs₂ ev)⟩

theorem FramedFrom.seal {nonce : Bytes} {ok : Bool} (ht : c'.trace = c.trace ++ [.seal nonce ok]) :
    FramedFrom c c' :=
  ⟨_, ht, by simp [Event.WellFramed]⟩

theorem FramedFrom.deliver {data : Bytes} (ht : c'.trace = c.trace ++ [.deliver data]) : FramedFrom c c' :=
  ⟨_, ht, by simp [Event.WellFramed]⟩

end Framed

/-! ## The primitives -/

section Primitives

variable (c : Connection)

theorem connectionSetResult_framedFrom (r : ErrorKind) : FramedFrom c (connectionSetResult c r).2 := by
  unfold connectionSetResult; split <;> exact .quiet rfl

/-- `send_packet` of an image that starts with the length of the rest. -/
theorem sendPacket_framedFrom (res : ErrorKind) {image : Bytes} (h2 : 2 ≤ image.length)
    (hlen : image.take 2 = be16 (image.length - 2)) : FramedFrom c (sendPacket res image c).2 := by
  refine ⟨[.send image (packetSize image)], rfl, ?_⟩
  simp only [List.mem_singleton, forall_eq]
  refine ⟨h2, hlen, fun hl => ?_⟩
  rw [packetSize, be16Value_toMem_of_take hlen]
  omega

/-- `send_packet` of a packet built `size` bytes long behind `build_header`. -/
theorem sendPacket_header_framedFrom (res : ErrorKind) {magic : UInt8 × UInt8} {cmd rest : Bytes} {size : Nat}
    (hcmd : cmd.length = 4) (hlen : (buildHeader magic cmd size ++ rest).length = size) :
    FramedFrom c (sendPacket res (buildHeader magic cmd size ++ rest) c).2 := by
  refine sendPacket_framedFrom c res (by rw [List.length_append, buildHeader_length]; omega) ?_
  rw [hlen, buildHeader, List.append_assoc, List.append_assoc, List.take_left' (be16_length _)]

end Primitives

/-! ## Every operation sends whole frames -/

section Branches

variable (L : Lib) (e : Env) (c : Connection) (res : ErrorKind)

theorem sendTELL_framedFrom : FramedFrom c (sendTELL L res c).2 := by
  have h := @sendPacket_header_framedFrom c res L.PACKET_MAGIC CMD_TELL [] sizeofPacketHeader CMD_TELL_length
    (by simp [sizeofPacketHeader])
  rw [List.append_nil] at h
  exact h.trans (connectionSetResult_framedFrom _ _)

theorem onWELC_framedFrom : FramedFrom c (onWELC L e c).2 := by
  unfold onWELC; dsimp only
  split
  · exact .seal rfl
  · simp only [List.append_assoc]
    exact (FramedFrom.seal rfl).trans ((sendPacket_header_framedFrom _ e.sendResult CMD_HELO_length
      (by simp [sizeofPacketHELO])).trans (connectionSetResult_framedFrom _ _))

theorem onForwardReply_framedFrom : FramedFrom c (onForwardReply L res c).2 := by
  unfold onForwardReply
  split
  · exact .quiet rfl
  · split
    · exact sendTELL_framedFrom L c res
    · exact .quiet rfl

theorem onForwardError_framedFrom : FramedFrom c (onForwardError L c).2 := by
  unfold onForwardError; split <;> exact .quiet rfl

theorem sendVOCH_framedFrom (voch : Nat) : FramedFrom c (sendVOCH L e voch c).2 := by
  unfold sendVOCH; dsimp only
  split
  · exact .seal rfl
  split
  · exact (FramedFrom.seal rfl).trans (.seal rfl)
  · simp only [List.append_assoc]
    refine (FramedFrom.seal rfl).trans ((FramedFrom.seal rfl).trans
      ((sendPacket_header_framedFrom _ e.sendResult CMD_VOCH_length ?_).trans
      ((FramedFrom.quiet rfl).trans (connectionSetResult_framedFrom _ _))))
    simp [sizeofPacketVOCH, sizeofCurvecpVouchOuter]
    omega

theorem onCOOK_framedFrom : FramedFrom c (onCOOK L e c).2 := by
  unfold onCOOK; dsimp only
  split
  · exact .quiet rfl
  split
  · exact .quiet rfl
  · exact .trans (.quiet rfl) (sendVOCH_framedFrom L e _ _)

theorem sendMESGPacket_framedFrom (m : MesgPacket) : FramedFrom c (sendMESGPacket L res c m).2 := by
  unfold sendMESGPacket; dsimp only
  split
  · exact .seal rfl
  · simp only [List.append_assoc]
    refine (FramedFrom.seal rfl).trans ((sendPacket_header_framedFrom _ res CMD_MESG_length ?_).trans
      (.quiet rfl))
    simp [sizeofPacketMESG, sizeofMesgPayload]
    omega

theorem sendMESG_framedFrom (t : UInt8) (msg : Bytes) : FramedFrom c (sendMESG L res c t msg).2 := by
  rw [sendMESG_eq]; split
  · exact .quiet rfl
  · exact .trans (.quiet rfl) (sendMESGPacket_framedFrom L _ _ _)

theorem decryptMESG_framedFrom (pfx : String) : FramedFrom c (decryptMESG L pfx c).2 := by
  unfold decryptMESG; dsimp only; split <;> exact .quiet rfl

theorem onREDY_framedFrom : FramedFrom c (onREDY L res c).2 := by
  have hd := decryptMESG_framedFrom L c "CurveCP-server-R"
  unfold onREDY; dsimp only
  split
  · exact hd
  split
  · split
    · exact hd.trans (.quiet rfl)
    · exact hd
  · exact (hd.trans (sendMESG_framedFrom L _ _ _ _)).trans (connectionSetResult_framedFrom _ _)

theorem onMESG_framedFrom : FramedFrom c (onMESG L c).2 := by
  have hd := decryptMESG_framedFrom L c "CurveCP-server-M"
  unfold onMESG connectionHandleData; dsimp only
  split
  · exact hd
  · exact (hd.trans (.deliver rfl)).trans (connectionSetResult_framedFrom _ _)

theorem dispatchPacket_framedFrom (n : Nat) : FramedFrom c (dispatchPacket L e n c).2 :=
  dispatchPacket_of_branches L e c (fun r => FramedFrom c r.2) n (.quiet rfl) (.quiet rfl)
    (fun _ => onForwardReply_framedFrom L c _) (onForwardError_framedFrom L c) (fun _ => onWELC_framedFrom L e c)
    (fun _ => onCOOK_framedFrom L e c) (fun _ => onREDY_framedFrom L c _) (fun _ => onMESG_framedFrom L c)

theorem receivePacket_framedFrom : FramedFrom c (receivePacket L e c).2 := by
  have hr : FramedFrom c (readPacket e c).2 := .quiet ((congrArg Connection.trace (readPacket_readerOnly e c)).trans rfl)
  dsimp only [receivePacket]
  split
  · exact hr
  · exact hr.trans (dispatchPacket_framedFrom L e _ _)

/-- `sendForward`'s `DataPacket`: `dataSize` in front of the type byte and the packed request. -/
theorem sendForward_framedFrom : FramedFrom c (sendForward L res c).2 := by
  unfold sendForward; dsimp only
  refine .trans ⟨[.send _ _], rfl, ?_⟩ (connectionSetResult_framedFrom _ _)
  simp only [List.mem_singleton, forall_eq, Event.WellFramed, List.length_append, be16_length, List.length_singleton]
  refine ⟨by omega, ?_, fun h => by simp only [sizeofDataPacket, toSizeT]; omega⟩
  rw [List.append_assoc, List.take_left' (be16_length _), be16, be16, ← beBytes_mod 2, ← beBytes_mod 2 (_ + 1 + _ - 2)]
  congr 1
  simp only [toSizeT]
  omega

theorem startConnection_framedFrom : FramedFrom c (startConnection L res c).2 := by
  unfold startConnection
  split
  · exact sendForward_framedFrom L c res
  · exact sendTELL_framedFrom L c res

end Branches

theorem op_framedFrom (L : Lib) (c : Connection) (op : Op) : FramedFrom c (op.apply L c) := by
  cases op with
  | receive e => exact receivePacket_framedFrom L e c
  | message t msg res => exact sendMESG_framedFrom L c res t msg
  | messageData n data res =>
    rw [apply_messageData]; split
    · exact .quiet rfl
    · exact .trans (.quiet rfl) (sendMESGPacket_framedFrom L _ _ _)
  | start res => exact startConnection_framedFrom L c res

theorem run_framedFrom (L : Lib) (ops : List Op) : ∀ c, FramedFrom c (run L c ops) := by
  induction ops with
  | nil => exact fun c => .quiet rfl
  | cons op ops ih => exact fun c => (op_framedFrom L c op).trans (ih _)

/-! ## The round trip -/

/-- The whole frames of a trace, as frames on the wire of a buffer of `n` bytes. -/
theorem sends_frames {n : Nat} : ∀ {δ : List Event}, (∀ ev ∈ δ, ev.WellFramed) →
    (∀ im ∈ sends δ, im.length < 65538 ∧ im.length ≤ n) → ∃ fs : List (Frame n), fs.map Frame.bytes = sends δ
  | [], _, _ => ⟨[], rfl⟩
  | ev :: δ, h, hfit => by
    obtain ⟨fs, hfs⟩ := sends_frames (fun ev' hev => h ev' (List.mem_cons_of_mem _ hev))
      (fun im him => hfit im (by cases ev <;> simp_all))
    cases ev with
    | send image size =>
      have hw : Event.WellFramed (.send image size) := h _ (List.mem_cons_self _ _)
      have hf := hfit image (by simp)
      exact ⟨Frame.ofImage image ⟨hw.1, hf⟩ :: fs, by rw [List.map_cons, Frame.ofImage_bytes _ hw.2.1, hfs]; rfl⟩
    | _ => exact ⟨fs, hfs⟩

/-- **What a connection sends decodes frame by frame.**  Along every run of operations, every
frame the connection sends starts with the length of the rest and is sent whole.  So the bytes
the run sends, split at any byte, fed to `receive_packet`'s reader on a connection at a frame
boundary whose buffer holds each of them, are handed to the dispatch as the frames sent, in order:
a prefix of them after any schedule of arrivals, and all of them once the stream is consumed. -/
theorem sent_frames_decode (L : Lib) (c : Connection) (ops : List Op) (r : Connection) (sched : List Env)
    (hidle : r.bytesLeft = 0) (hrx : r.rx = (outbound c (run L c ops)).flatten)
    (hfit : ∀ im ∈ outbound c (run L c ops), im.length < 65538 ∧ im.length ≤ r.bufferSize) :
    dispatched L r sched <+: outbound c (run L c ops) ∧
      ((receiveRun L r sched).rx = [] → dispatched L r sched = outbound c (run L c ops)) := by
  obtain ⟨δ, htr, hδ⟩ := run_framedFrom L ops c
  have hout : outbound c (run L c ops) = sends δ := by rw [outbound, htr, List.drop_left]
  rw [hout] at hrx hfit ⊢
  obtain ⟨fs, hfs⟩ := sends_frames hδ hfit
  rw [← hfs] at hrx ⊢
  obtain ⟨hpre, hiff⟩ := dispatched_frames L r fs sched rfl hidle hrx
  exact ⟨hpre, hiff.mpr⟩

theorem sent_frames_decode_forward_then_message :
    let c : Connection := { connectionCreate (fun _ => 0) (fun _ => 0) 256 with tunnelId := some [1, 2, 3] }
    let ops := [Op.start .noError, Op.message 1 [5, 6] .noError]
    let r : Connection := { connectionCreate (fun _ => 0) (fun _ => 0) 256 with
      rx := (outbound c (run Lib.transparent c ops)).flatten }
    let sched := List.replicate 4 (⟨2, 256, fun _ => 0, fun _ => 0, fun _ => 0, .noError⟩ : Env)
    (r.bytesLeft = 0 ∧ r.rx = (outbound c (run Lib.transparent c ops)).flatten ∧
      ∀ im ∈ outbound c (run Lib.transparent c ops), im.length < 65538 ∧ im.length ≤ r.bufferSize) ∧
    (dispatched Lib.transparent r sched <+: outbound c (run Lib.transparent c ops) ∧
      ((receiveRun Lib.transparent r sched).rx = [] →
        dispatched Lib.transparent r sched = outbound c (run Lib.transparent c ops))) := by
  intro c ops r sched
  exact ⟨⟨rfl, rfl, by decide⟩, sent_frames_decode Lib.transparent c ops r sched rfl rfl (by decide)⟩

end OpenSDG
