import OpenSDG.PeerHandshake

/-!
# The data path: server messages delivered once, in order

What a session is for.  The server's `MESG` packets carry data, which `receive_packet`
decrypts and hands to the upper layer (`connection_handle_data`).  A `ServerMesg` is such a packet
as the server builds it: the tail of its short-term nonce, its box, and the data the box holds
behind the 16-bit `data.size` field.

* `frameStep_mesg`: one whole `MESG` whose box opens under the session key hands its data over.
  Nothing is sent or sealed, and the session key is kept.
* `frameRun_mesg`: a run of such packets hands their data over in order.
* `mesg_delivered_in_order`: the same on `receive_packet` itself.  The packets may be split at
  any byte by any schedule of arrivals.  The connection hands over the data of a prefix of the
  stream, in order, each message once, whatever the upper layer answers.  Once the stream is
  consumed, the prefix is all of it; `receiveRun_drains` gives the schedules that consume it.
-/

set_option autoImplicit false

namespace OpenSDG

/-- A `MESG` packet as the server builds it: the tail of its short-term nonce, its box, and the
data the box holds after the 16-bit `data.size` field. -/
structure ServerMesg where
  nonce : Bytes
  box : Bytes
  data : Bytes
  nonce_length : nonce.length = 8
  data_length_lt : data.length < 65536

/-- The packet on the wire. -/
def ServerMesg.image (L : Lib) (m : ServerMesg) : Bytes := packetImage L.PACKET_MAGIC CMD_MESG (m.nonce ++ m.box)

/-- The box opens under the session key `k` to a `mesg_payload`: the 32 zero bytes
`crypto_box_open_afternm` leaves, `data.size`, then the data. -/
def ServerMesg.Opens (L : Lib) (k : Key) (m : ServerMesg) : Prop :=
  L.boxOpenAfternm (List.replicate 16 0 ++ m.box) (buildShortTermNonce "CurveCP-server-M" m.nonce) k =
    some (List.replicate 32 0 ++ be16 m.data.length ++ m.data)

/-- An opened `mesg_payload` laid at the start of a buffer: its `data.size` field reads back the
data's length, and the data follows it. -/
theorem mesgPayload_read (m : Mem) (data : Bytes) (hd : data.length < 65536) :
    be16Value (m.write 0 (List.replicate 32 0 ++ be16 data.length ++ data)) 32 = data.length ∧
      (m.write 0 (List.replicate 32 0 ++ be16 data.length ++ data)).read 34 data.length = data := by
  have hpl : (List.replicate 32 0 ++ be16 data.length ++ data).length = 34 + data.length := by simp; omega
  constructor
  · rw [@be16Value_of_read _ 32 data.length (by rw [Mem.read_write_zero _ (by omega)]; simp), Nat.mod_eq_of_lt hd]
  · rw [Mem.read_write_zero _ (by omega)]
    simp

theorem connectionSetResult_beforenmData (c : Connection) (r : ErrorKind) :
    (connectionSetResult c r).2.beforenmData = c.beforenmData := by
  unfold connectionSetResult; split <;> rfl

/-- The reader's progress leaves the trace. -/
theorem Progressed.trace {d c : Connection} (h : Progressed d c) : c.trace = d.trace := by rw [h]

section Step

variable (L : Lib) (e : Env) (d : Connection)
  (hmagic : L.PACKET_MAGIC.1 ≠ MSG_FORWARD_HOLD ∧ L.PACKET_MAGIC.1 ≠ MSG_FORWARD_REPLY ∧
    L.PACKET_MAGIC.1 ≠ MSG_FORWARD_ERROR)

include hmagic in
/-- One whole `MESG` whose box opens under the session key: its data is handed to the upper
layer, nothing is sent or sealed, and the session key is kept. -/
theorem frameStep_mesg (m : ServerMesg) (hlen : 14 + m.box.length < 65536) (hopen : m.Opens L d.beforenmData) :
    (frameStep L d (m.image L) e).trace = d.trace ++ [.deliver m.data] ∧
      (frameStep L d (m.image L) e).beforenmData = d.beforenmData := by
  have hd := packetImage_decryptMESG L d "CurveCP-server-M" CMD_MESG_length m.nonce_length hlen hopen
  obtain ⟨hsize, hdata⟩ := mesgPayload_read
    ((d.takeFrame (packetImage L.PACKET_MAGIC CMD_MESG (m.nonce ++ m.box))).receiveBuffer.write 0
      (List.replicate crypto_box_BOXZEROBYTES 0)) m.data m.data_length_lt
  have hr := dispatchPacket_reaches L e (@packetImage_reaches L d CMD_MESG (m.nonce ++ m.box) CMD_MESG_length hmagic)
  rw [if_neg (by decide), if_neg (by decide), if_neg (by decide), if_pos rfl] at hr
  simp only [frameStep, ServerMesg.image, hr, onMESG, hd, Bool.not_true, Bool.false_eq_true, if_false, hsize, hdata,
    connectionSetResult_trace, connectionSetResult_beforenmData, connectionHandleData]
  exact ⟨rfl, rfl⟩

include hmagic in
/-- A run of whole `MESG` packets whose boxes open under the session key hands over their data
in order, one message per step. -/
theorem frameRun_mesg (ms : List ServerMesg) (hlen : ∀ m ∈ ms, 14 + m.box.length < 65536) :
    ∀ (d : Connection) (es : List Env), (∀ m ∈ ms, m.Opens L d.beforenmData) →
      (frameRun L d ((ms.map (ServerMesg.image L)).zip es)).trace =
        d.trace ++ (ms.take es.length).map (fun m => .deliver m.data) := by
  induction ms with
  | nil => intro d es _; simp [frameRun]
  | cons m ms ih =>
    intro d es hopen
    cases es with
    | nil => simp [frameRun]
    | cons e es =>
      obtain ⟨htr, hkey⟩ := frameStep_mesg L e d hmagic m (hlen m (List.mem_cons_self _ _)) (hopen m (List.mem_cons_self _ _))
      have ih' := ih (fun x hx => hlen x (List.mem_cons_of_mem _ hx)) (frameStep L d (m.image L) e) es
        (fun x hx => hkey ▸ hopen x (List.mem_cons_of_mem _ hx))
      rw [List.map_cons, List.zip_cons_cons, frameRun, ih', htr]
      simp only [List.length_cons, List.take_succ_cons, List.map_cons, List.append_assoc, List.singleton_append]

end Step

/-- **Server messages are delivered once each, in order.**  A connection at a frame boundary,
holding the session key under which the boxes of a stream of `MESG` packets open, runs
`receive_packet` under any schedule of arrivals, the packets split at any byte: what it has done
is hand over the data of the first `k` packets, in order, and nothing else — nothing sent, nothing
sealed, no message twice — whatever the upper layer answers.  Once the stream is consumed, `k`
is all of them. -/
theorem mesg_delivered_in_order (L : Lib) (c : Connection) (ms : List ServerMesg) (fs : List (Frame c.bufferSize))
    (sched : List Env) (hidle : c.bytesLeft = 0) (hrx : c.rx = (fs.map Frame.bytes).flatten)
    (hfs : fs.map Frame.bytes = ms.map (ServerMesg.image L))
    (hmagic : L.PACKET_MAGIC.1 ≠ MSG_FORWARD_HOLD ∧ L.PACKET_MAGIC.1 ≠ MSG_FORWARD_REPLY ∧
      L.PACKET_MAGIC.1 ≠ MSG_FORWARD_ERROR)
    (hopen : ∀ m ∈ ms, m.Opens L c.beforenmData) :
    ∃ k ≤ ms.length, (receiveRun L c sched).trace = c.trace ++ (ms.take k).map (fun m => .deliver m.data) ∧
      ((receiveRun L c sched).rx = [] → k = ms.length) := by
  obtain ⟨hles, hrun⟩ := receiveRun_tracks L sched c c fs le_rfl (.boundary hidle hrx)
  generalize completing L c sched = es at hles hrun
  have hl : fs.length = ms.length := by simpa using congrArg List.length hfs
  have hbox : ∀ m ∈ ms, 14 + m.box.length < 65536 := fun m hm => by
    have := Frame.length_lt_of_mem (hfs ▸ List.mem_map_of_mem (ServerMesg.image L) hm)
    simp only [ServerMesg.image, packetImage, buildHeader, List.length_append, List.length_cons, List.length_nil,
      be16_length, CMD_MESG_length, m.nonce_length] at this
    omega
  refine ⟨es.length, hl ▸ hles, ?_, fun hend => ?_⟩
  · calc (receiveRun L c sched).trace = (frameRun L c ((fs.map Frame.bytes).zip es)).trace :=
          hrun.progressed.trace
      _ = _ := by rw [hfs]; exact frameRun_mesg L hmagic ms hbox c es hopen
  · have := List.drop_eq_nil_iff.mp (hrun.consumed hend).1
    omega

/-- The data `[1, 2, 3]` under the transparent collaborators. -/
def oneTwoThree : ServerMesg :=
  ⟨List.replicate 8 0, List.replicate 16 0 ++ be16 3 ++ [1, 2, 3], [1, 2, 3], rfl, by decide⟩

theorem mesg_delivered_in_order_one_byte_arrivals :
    let c : Connection := { connectionCreate (fun _ => 0) (fun _ => 0) 256 with
      rx := oneTwoThree.image Lib.transparent }
    let sched := List.replicate 60 (⟨1, 1, fun _ => 0, fun _ => 0, fun _ => 0, .noError⟩ : Env)
    ∃ k ≤ [oneTwoThree].length, (receiveRun Lib.transparent c sched).trace =
        c.trace ++ ([oneTwoThree].take k).map (fun m => .deliver m.data) ∧
      ((receiveRun Lib.transparent c sched).rx = [] → k = [oneTwoThree].length) := by
  intro c sched
  exact mesg_delivered_in_order Lib.transparent c [oneTwoThree] [⟨(oneTwoThree.image Lib.transparent).drop 2, by decide,
    by decide⟩] sched rfl (by decide) (by decide) (by decide) (fun m hm => by rw [List.mem_singleton.mp hm]; unfold ServerMesg.Opens; decide)


end OpenSDG
