import OpenSDG.Scenarios
import OpenSDG.Errors
import OpenSDG.Delivery

/-!
# The older `protocol.c` against `tunnel_protocol.c`

Two versions of one client engine.  They are compared on what a grid connection receives during
its handshake, and on the reply to the client's `ProtocolVersion`, which only the older engine
reads itself.

`Twins c c'` says that two connections differ at most in the send-buffer pool, the error kind
and the status, and that their traces match event by event up to `VOCH` (`EventTwin`).  These
are what the two versions are allowed to leave differently:

* `tunnel_protocol.c` seals `VOCH` and `MESG` in a send buffer, while the older engine seals
  `VOCH` on the stack;
* the older `VOCH` ends its outer box with a 47-byte key-value record (`certStrType`,
  `certStrLength`, `"certificate"`, `valueType`, `valueLength` and a 32-byte licence), where
  `tunnel_protocol.c` has `haveCertificate` and the 45-byte `certificate_data`, with no
  `valueType`: the older frame is 271 bytes, the newer one 270, with the same magic, cookie and
  nonce tail.  The
  two boxes seal different plaintexts, so the results assume that whether `crypto_box_afternm`
  fails does not depend on the message (`Lib.AfternmUniform`);
* a sealing failure records `osdg_crypto_core_error` in one engine and `osdg_encryption_error`
  in the other;
* `connection_set_result` also fails the connection, which the older engine never does; the older
  engine returns `send_data`'s result as it is.

`Agrees c c' r r'` relates the two results on twin connections.  It holds when each engine
succeeds exactly when the other does, the connections are twins, and each engine's successful
call keeps its error kind and status.  There is one lemma per branch (`onWELC_agrees`,
`onCOOK_agrees`, `sendMESG_agrees`, `onREDY_agrees`), and `dispatchPacket_agrees` assembles them.

## Results

* `legacy_frameRun_twins`: from twin grid connections, over any sequence of `WELC`, `COOK` and
  `REDY` packets, the two engines' frame runs end in twin connections.  They hold the same keys,
  cookie, session key, counter and buffer, the same seals, and the same frames sent but `VOCH`.
* `legacy_receive_twins`: the same at the byte level.  From an idle grid connection whose
  stream holds such packets, split at any byte by any schedule of arrivals, the two versions'
  `receive_packet` loops end in twin connections.  The reader is shared, so each call completes
  the same frame in both or none (`readPacket_tracks`).
* `legacy_version_check`: the older engine's `MESG` branch accepts a `ProtocolVersion` reply
  exactly when it carries the client's own version.  With the right magic but another version it
  returns `-1`; with another magic it returns the positive frame length.  Both refusals record
  `osdg_protocol_error`.
-/

set_option autoImplicit false

namespace OpenSDG

/-- The older dispatch of a frame with the library's magic: the branch of its command. -/
theorem Legacy.dispatchPacket_cmd (L : Lib) (e : Env) (n : Nat) (c : Connection) {cmd : Bytes}
    (hm : c.receiveBuffer.read 2 2 = L.magicBytes) (hc : c.receiveBuffer.read 4 4 = cmd) :
    Legacy.dispatchPacket L e n c =
      if cmd = CMD_WELC then Legacy.onWELC L e c else if cmd = CMD_COOK then Legacy.onCOOK L e c
      else if cmd = CMD_REDY then Legacy.onREDY L e.sendResult c else if cmd = CMD_MESG then Legacy.onMESG L n c else (0, c) := by
  simp only [Legacy.dispatchPacket, hm, hc, ne_eq, not_true_eq_false, if_false]

/-- **The version check of the older `protocol.c`** (specification §8, scenario 2).  A `MESG`
taken whole whose box opens to a `ProtocolVersion` message is accepted — `0`, nothing recorded —
exactly when it carries the client's own magic, major and minor; with the magic but another
version it is refused with `-1` and `osdg_protocol_error`; with another magic the mismatch is
only logged, so `receive_packet` records `osdg_protocol_error` and returns the positive frame
length.  No path sends anything or changes the session. -/
theorem legacy_version_check (L : Lib) (e : Env) (d : Connection) {nonce box v : Bytes} {pv : ProtocolVersion}
    (hn : nonce.length = 8) (hlen : 14 + box.length < 65536) (hv : v.length + 1 < 65536)
    (hopen : L.boxOpenAfternm (List.replicate 16 0 ++ box) (buildShortTermNonce "CurveCP-server-M" nonce) d.beforenmData =
      some (List.replicate 32 0 ++ be16 (v.length + 1) ++ MSG_PROTOCOL_VERSION :: v))
    (hpv : L.protocolVersionUnpack v = some pv) :
    let f := packetImage L.PACKET_MAGIC CMD_MESG (nonce ++ box)
    let r := Legacy.dispatchPacket L e f.length (d.takeFrame f)
    r.2.session = d.session ∧
      (pv = L.clientVersion → r.1 = 0 ∧ r.2.errorKind = d.errorKind) ∧
      (pv.magic = L.PROTOCOL_VERSION_MAGIC → pv ≠ L.clientVersion → r.1 = -1 ∧ r.2.errorKind = .protocolError) ∧
      (pv.magic ≠ L.PROTOCOL_VERSION_MAGIC → r.1 = f.length ∧ r.2.errorKind = .protocolError) := by
  intro f r
  have hd := packetImage_decryptMESG L d "CurveCP-server-M" CMD_MESG_length hn hlen hopen
  obtain ⟨hsize, hread⟩ := mesgPayload_read
    ((d.takeFrame (packetImage L.PACKET_MAGIC CMD_MESG (nonce ++ box))).receiveBuffer.write 0
      (List.replicate crypto_box_BOXZEROBYTES 0)) (MSG_PROTOCOL_VERSION :: v) (by simp only [List.length_cons]; omega)
  simp only [List.length_cons] at hsize hread
  rw [Mem.read_succ] at hread
  obtain ⟨htype, hdata⟩ := List.cons.inj hread
  have hr : r = Legacy.onMESG L f.length (d.takeFrame f) := by
    obtain ⟨hm, hc⟩ := @packetImage_header d L.PACKET_MAGIC CMD_MESG (nonce ++ box) CMD_MESG_length
    simp only [r, f]
    rw [Legacy.dispatchPacket_cmd L e _ _ hm hc, if_neg (by decide), if_neg (by decide), if_neg (by decide), if_pos rfl]
  rw [hr]
  have hl : toU32 (((v.length + 1 : Nat) : Int) - 1) = v.length := by simp only [toU32]; omega
  simp only [Legacy.onMESG, hd, Bool.not_true, Bool.false_eq_true, if_false, Legacy.dataLength, hsize, hl, htype, hdata,
    hpv, if_true]
  have hflen : (f.length : Int) ≠ 0 := by simp [f, packetImage]; omega
  have hpvc : pv = L.clientVersion ↔ pv.magic = L.PROTOCOL_VERSION_MAGIC ∧ pv.major = PROTOCOL_VERSION_MAJOR ∧
      pv.minor = PROTOCOL_VERSION_MINOR := by
    cases pv; simp [Lib.clientVersion]
  by_cases hm : pv.magic = L.PROTOCOL_VERSION_MAGIC
  · by_cases hc : pv = L.clientVersion
    · obtain ⟨-, h₂, h₃⟩ := hpvc.mp hc
      rw [if_neg (not_not_intro hm), if_neg (not_or.mpr ⟨not_not_intro h₂, not_not_intro h₃⟩), if_neg (not_not_intro rfl)]
      exact ⟨rfl, fun _ => ⟨rfl, rfl⟩, fun _ h => absurd hc h, fun h => absurd hm h⟩
    · have h₂ : pv.major ≠ PROTOCOL_VERSION_MAJOR ∨ pv.minor ≠ PROTOCOL_VERSION_MINOR := by
        by_contra h
        exact hc (hpvc.mpr ⟨hm, (not_or.mp h).imp not_not.mp not_not.mp⟩)
      rw [if_neg (not_not_intro hm), if_pos h₂, if_pos (by decide)]
      exact ⟨rfl, fun h => absurd h hc, fun _ _ => ⟨rfl, rfl⟩, fun h => absurd hm h⟩
  · have hc : pv ≠ L.clientVersion := fun h => hm (hpvc.mp h).1
    rw [if_pos hm, if_pos hflen]
    exact ⟨rfl, fun h => absurd h hc, fun h => absurd h hm, fun _ => ⟨rfl, rfl⟩⟩

theorem legacy_version_check_own_version :
    let L := Lib.transparent
    let v := L.protocolVersionPack L.clientVersion
    let d := connectionCreate (fun _ => 0) (fun _ => 0) 256
    let f := packetImage L.PACKET_MAGIC CMD_MESG
      (List.replicate 8 0 ++ (List.replicate 16 0 ++ be16 (v.length + 1) ++ MSG_PROTOCOL_VERSION :: v))
    let r := Legacy.dispatchPacket L ⟨2, 256, fun _ => 0, fun _ => 0, fun _ => 0, .noError⟩ f.length (d.takeFrame f)
    r.1 = 0 ∧ r.2.session = d.session := by
  intro L v d f r
  have h := @legacy_version_check L ⟨2, 256, fun _ => 0, fun _ => 0, fun _ => 0, .noError⟩ d (List.replicate 8 0)
    (List.replicate 16 0 ++ be16 (v.length + 1) ++ MSG_PROTOCOL_VERSION :: v) v L.clientVersion rfl (by decide)
    (by decide) (by decide) rfl
  exact ⟨(h.2.1 rfl).1, h.1⟩

/-! ## The older engine against `tunnel_protocol.c` -/

/-- `crypto_box_afternm` seals every message or none under a nonce and a key: whether it fails
does not depend on the message (NaCl's never fails). -/
def Lib.AfternmUniform (L : Lib) : Prop :=
  ∀ m m' n k, (L.boxAfternm m n k).isSome = (L.boxAfternm m' n k).isSome

/-- A `VOCH` frame: the header announcing `size`, the cookie, the nonce tail, and the wire part of
the outer box. -/
def vochFrame (magic : UInt8 × UInt8) (size : Nat) (cookie tail box : Bytes) : Bytes :=
  buildHeader magic CMD_VOCH size ++ cookie ++ tail ++ box

/-- An event of `tunnel_protocol.c` and the older engine's event in its place: the same event, or
the two sends of `VOCH`.  These carry the same magic, cookie and nonce tail, but the outer boxes
seal different records: `haveCertificate` and the 45-byte `certificate_data` in the newer engine,
the 47-byte key-value record, with its `valueType` byte, in the older one.  So the older frame's box is one
byte longer, and so is the size its header announces. -/
inductive EventTwin : Event → Event → Prop
  | same (ev : Event) : EventTwin ev ev
  | voch {magic : UInt8 × UInt8} {cookie tail box box' : Bytes} (hcookie : cookie.length = 96)
      (htail : tail.length = 8) (hbox : box.length = sizeofCurvecpVouchOuter + sizeofCertificateData - 16)
      (hbox' : box'.length = Legacy.sizeofCurvecpVouchOuter - 16) :
      EventTwin
        (.send (vochFrame magic (sizeofPacketVOCH + sizeofCertificateData) cookie tail box)
          (packetSize (vochFrame magic (sizeofPacketVOCH + sizeofCertificateData) cookie tail box)))
        (.send (vochFrame magic Legacy.sizeofPacketVOCH cookie tail box')
          (packetSize (vochFrame magic Legacy.sizeofPacketVOCH cookie tail box')))

/-- Two connections that differ at most in the send-buffer pool, the error kind and the status, and
whose traces are twins event by event: what the older engine and `tunnel_protocol.c` may leave
differently. -/
def Twins (c c' : Connection) : Prop :=
  ∃ q a k t tr, c' = { c with bufferQueue := q, buffersAllocated := a, errorKind := k, status := t, trace := tr } ∧
    List.Forall₂ EventTwin c.trace tr

theorem Twins.refl (c : Connection) : Twins c c :=
  ⟨_, _, _, _, _, rfl, List.forall₂_same.mpr fun ev _ => .same ev⟩

/-- Twin traces, each extended by one event, the two events twins. -/
theorem traceTwins_snoc {tr tr' : List Event} (h : List.Forall₂ EventTwin tr tr') {ev ev' : Event}
    (hev : EventTwin ev ev') : List.Forall₂ EventTwin (tr ++ [ev]) (tr' ++ [ev']) :=
  List.rel_append h (.cons hev .nil)

/-- The two engines' results `r` (`tunnel_protocol.c`, on `c`) and `r'` (the older engine, on
`c'`): each succeeds (returns `0`) exactly when the other does, the connections are twins, and a
call that succeeds leaves each engine's error kind and status where they were. -/
structure Agrees (c c' : Connection) (r r' : Int × Connection) : Prop where
  result : r.1 = 0 ↔ r'.1 = 0
  twins : Twins r.2 r'.2
  success : r.1 = 0 → r.2.errorKind = c.errorKind ∧ r.2.status = c.status ∧
    r'.2.errorKind = c'.errorKind ∧ r'.2.status = c'.status

/-- A send in both engines, from twin connections that kept the error kind and status: the newer
engine hands `send_data`'s result to `connection_set_result`, the older one returns its number. -/
theorem Agrees.send {c c' d d' : Connection} (res : ErrorKind) (ht : Twins d d')
    (hd : d.errorKind = c.errorKind ∧ d.status = c.status) (hd' : d'.errorKind = c'.errorKind ∧ d'.status = c'.status) :
    Agrees c c' (connectionSetResult d res) (res.code, d') := by
  by_cases hres : res = .noError
  · subst hres
    exact ⟨iff_of_true rfl rfl, ht, fun _ => ⟨hd.1, hd.2, hd'.1, hd'.2⟩⟩
  · rw [connectionSetResult_error d hres]
    obtain ⟨q, a, k, t, tr, rfl, htr⟩ := ht
    have hfail : (-1 : Int) ≠ 0 := by decide
    exact ⟨iff_of_false hfail (mt ErrorKind.code_eq_zero.mp hres), ⟨q, a, k, t, tr, rfl, htr⟩, fun h => absurd h hfail⟩

section Agreement

variable (L : Lib) (e : Env) (c : Connection) (q : List Nat) (a : Nat) (k : ErrorKind) (t : Status) (tr : List Event)

/-- `WELC`: the same `HELO`; a sealing failure is `osdg_crypto_core_error` in one engine and
`osdg_encryption_error` in the other. -/
theorem onWELC_agrees (htr : List.Forall₂ EventTwin c.trace tr) :
    Agrees c { c with bufferQueue := q, buffersAllocated := a, errorKind := k, status := t, trace := tr } (onWELC L e c)
      (Legacy.onWELC L e { c with bufferQueue := q, buffersAllocated := a, errorKind := k, status := t, trace := tr }) := by
  unfold onWELC Legacy.onWELC
  simp only [clientGetNonce_fst, clientGetNonce_snd]
  cases L.box (List.replicate 96 0) (buildShortTermNonce "CurveCP-client-H" (be64 c.nonce)) (c.receiveBuffer.block 8 32)
    e.tempSecret
  · exact ⟨Iff.rfl, ⟨_, _, _, _, _, rfl, traceTwins_snoc htr (.same _)⟩, nofun⟩
  · exact Agrees.send _ ⟨_, _, _, _, _, rfl, traceTwins_snoc (traceTwins_snoc htr (.same _)) (.same _)⟩
      ⟨rfl, rfl⟩ ⟨rfl, rfl⟩

/-- `COOK` of a grid connection: `VOCH` from a send buffer in `tunnel_protocol.c`, from the stack
in the older engine, each with its own record, sealed under the same nonce. -/
theorem onCOOK_agrees (hU : L.AfternmUniform) (hgrid : c.mode = .grid) (htr : List.Forall₂ EventTwin c.trace tr) :
    Agrees c { c with bufferQueue := q, buffersAllocated := a, errorKind := k, status := t, trace := tr } (onCOOK L e c)
      (Legacy.onCOOK L e { c with bufferQueue := q, buffersAllocated := a, errorKind := k, status := t, trace := tr }) := by
  unfold onCOOK Legacy.onCOOK sendVOCH
  simp only [clientGetNonce_fst, clientGetNonce_snd, clientGetBuffer, hgrid, if_true]
  cases ho : L.boxOpen ((c.receiveBuffer.write 8 (List.replicate crypto_box_BOXZEROBYTES 0)).read 8 160)
    (buildLongTermNonce "CurveCPK" (c.receiveBuffer.read 8 16)) c.serverPubkey c.clientTempSecret with
  | none => exact ⟨Iff.rfl, ⟨_, _, _, _, _, rfl, htr⟩, nofun⟩
  | some cookie =>
    cases hk : L.boxBeforenm (cookie.toMem.block 32 32) c.clientTempSecret with
    | none => simp only [hk]; exact ⟨Iff.rfl, ⟨_, _, _, _, _, rfl, htr⟩, nofun⟩
    | some key =>
      simp only [hk]
      cases hv : L.box (List.replicate 32 0 ++ c.clientTempPubkey.toBytes) (buildLongTermNonce "CurveCPV" e.vouchNonce.toBytes)
        c.serverPubkey c.clientSecret with
      | none => simp only [hv]; exact ⟨Iff.rfl, ⟨_, _, _, _, _, rfl, traceTwins_snoc htr (.same _)⟩, nofun⟩
      | some inner =>
        simp only [hv, logSeal_eq, if_true]
        -- the two outer plaintexts share everything before the certificate record
        set outer := List.replicate 32 0 ++ c.clientPubkey.toBytes ++
          (buildLongTermNonce "CurveCPV" e.vouchNonce.toBytes).toMem.read 8 16 ++ inner.toMem.read 16 48
        set nonce := buildShortTermNonce "CurveCP-client-I" (be64 c.nonce)
        have hsame := hU (outer ++ 1 :: certificateData) (outer ++ Legacy.certificateRecord) nonce key
        revert hsame
        cases L.boxAfternm (outer ++ 1 :: certificateData) nonce key <;>
          cases L.boxAfternm (outer ++ Legacy.certificateRecord) nonce key <;> intro hsame <;> cases hsame
        · exact ⟨Iff.rfl, ⟨_, _, _, _, _, rfl, traceTwins_snoc (traceTwins_snoc htr (.same _)) (.same _)⟩, nofun⟩
        · exact Agrees.send _ ⟨_, _, _, _, _, rfl, traceTwins_snoc (traceTwins_snoc (traceTwins_snoc htr (.same _))
            (.same _)) (.voch (Block.toBytes_length _) (Mem.read_length _ _ _) (Mem.read_length _ _ _)
              (Mem.read_length _ _ _))⟩ ⟨rfl, rfl⟩ ⟨rfl, rfl⟩

/-- `sendMESG` of both engines, the newer one's outcome recorded as `onREDY` records it, for a
message whose `dataSize` fits its 16-bit field. -/
theorem sendMESG_agrees (res : ErrorKind) (dt : UInt8) (msg : Bytes) (hsmall : msg.length + 1 < 65536)
    (htr : List.Forall₂ EventTwin c.trace tr) :
    Agrees c { c with bufferQueue := q, buffersAllocated := a, errorKind := k, status := t, trace := tr }
      (connectionSetResult (sendMESG L res c dt msg).2 (sendMESG L res c dt msg).1)
      (Legacy.sendMESG L res { c with bufferQueue := q, buffersAllocated := a, errorKind := k, status := t, trace := tr }
        dt msg) := by
  have hs : toSizeT (msg.length + 1) = msg.length + 1 := Nat.mod_eq_of_lt (by omega)
  have hp : toSizeT (Legacy.sizeofPacketMESG + msg.length) = sizeofPacketMESG + (msg.length + 1) := by
    simp only [toSizeT, Legacy.sizeofPacketMESG, sizeofPacketMESG]; omega
  have hp' : toSizeT (sizeofPacketMESG + (msg.length + 1)) = sizeofPacketMESG + (msg.length + 1) := by
    simp only [toSizeT, sizeofPacketMESG]; omega
  have hdata : (Bytes.toMem (dt :: msg)).read 0 (msg.length + 1) = dt :: msg := Bytes.toMem_read_append [] (dt :: msg)
  rw [sendMESG_eq]
  unfold Legacy.sendMESG
  simp only [hs, hp, hp', Nat.mod_eq_of_lt hsmall]
  split_ifs
  · exact ⟨Iff.rfl, ⟨_, _, _, _, _, rfl, htr⟩, nofun⟩
  · simp only [sendMESGPacket, clientGetBuffer, clientGetNonce_fst, clientGetNonce_snd, hdata]
    cases L.boxAfternm (List.replicate 32 0 ++ be16 (msg.length + 1) ++ dt :: msg)
      (buildShortTermNonce "CurveCP-client-M" (be64 c.nonce)) c.beforenmData
    · exact ⟨Iff.rfl, ⟨_, _, _, _, _, rfl, traceTwins_snoc htr (.same _)⟩, nofun⟩
    · exact Agrees.send _ ⟨_, _, _, _, _, rfl, traceTwins_snoc (traceTwins_snoc htr (.same _)) (.same _)⟩
        ⟨rfl, rfl⟩ ⟨rfl, rfl⟩

/-- Agreement from twin connections whose error kinds and statuses stand where two others' do. -/
theorem Agrees.of_inputs {d d' c' : Connection} {r r' : Int × Connection} (h : Agrees d d' r r')
    (he : d.errorKind = c.errorKind ∧ d.status = c.status) (he' : d'.errorKind = c'.errorKind ∧ d'.status = c'.status) :
    Agrees c c' r r' :=
  ⟨h.result, h.twins, fun h0 => by obtain ⟨h₁, h₂, h₃, h₄⟩ := h.success h0; exact ⟨h₁.trans he.1, h₂.trans he.2, h₃.trans he'.1, h₄.trans he'.2⟩⟩

/-- `decryptMESG` reads no field of the pool, the error kind, the status or the trace. -/
theorem decryptMESG_twin (pfx : String) :
    decryptMESG L pfx { c with bufferQueue := q, buffersAllocated := a, errorKind := k, status := t, trace := tr } =
      ((decryptMESG L pfx c).1, { (decryptMESG L pfx c).2 with
        bufferQueue := q, buffersAllocated := a, status := t, trace := tr,
        errorKind := if (decryptMESG L pfx c).1 then k else .decryptionError }) := by
  unfold decryptMESG; dsimp only; split <;> rfl

/-- `REDY` of a grid connection: both send the client's `ProtocolVersion`. -/
theorem onREDY_agrees (res : ErrorKind) (hgrid : c.mode = .grid)
    (hsmall : (L.protocolVersionPack L.clientVersion).length + 1 < 65536) (htr : List.Forall₂ EventTwin c.trace tr) :
    Agrees c { c with bufferQueue := q, buffersAllocated := a, errorKind := k, status := t, trace := tr } (onREDY L res c)
      (Legacy.onREDY L res { c with bufferQueue := q, buffersAllocated := a, errorKind := k, status := t, trace := tr }) := by
  have he := decryptMESG_errorKind L c "CurveCP-server-R"
  have hst : (decryptMESG L "CurveCP-server-R" c).2.status = c.status ∧
      (decryptMESG L "CurveCP-server-R" c).2.trace = c.trace := by
    unfold decryptMESG; dsimp only; split <;> exact ⟨rfl, rfl⟩
  have hm : (decryptMESG L "CurveCP-server-R" c).2.mode = .grid := (decryptMESG_untouched L c _).mode.trans hgrid
  unfold onREDY Legacy.onREDY
  rw [decryptMESG_twin L c q a k t tr]
  generalize decryptMESG L "CurveCP-server-R" c = d at he hst hm ⊢
  obtain ⟨_ | _, d⟩ := d
  · exact ⟨Iff.rfl, ⟨_, _, _, _, _, rfl, hst.2 ▸ htr⟩, nofun⟩
  · simp only [if_true] at he hst hm
    simp only [Bool.not_true, Bool.false_eq_true, if_false, if_true, ne_eq]
    rw [if_neg (not_not_intro hm)]
    exact (sendMESG_agrees L d q a k t tr res _ _ hsmall (hst.2 ▸ htr)).of_inputs c ⟨he, hst.1⟩ ⟨rfl, rfl⟩

theorem receiveData_twin (n : Nat) :
    receiveData n { c with bufferQueue := q, buffersAllocated := a, errorKind := k, status := t, trace := tr } =
      ((receiveData n c).1,
        { (receiveData n c).2 with bufferQueue := q, buffersAllocated := a, errorKind := k, status := t, trace := tr }) :=
  rfl

theorem resetReader_twin :
    resetReader { c with bufferQueue := q, buffersAllocated := a, errorKind := k, status := t, trace := tr } =
      { resetReader c with bufferQueue := q, buffersAllocated := a, errorKind := k, status := t, trace := tr } := by
  unfold resetReader; split <;> rfl

/-- The reader reads no field of the pool, the error kind, the status or the trace. -/
theorem readPacket_twin (htr : List.Forall₂ EventTwin c.trace tr) :
    (readPacket e { c with bufferQueue := q, buffersAllocated := a, errorKind := k, status := t, trace := tr }).1 =
        (readPacket e c).1 ∧
      Twins (readPacket e c).2
        (readPacket e { c with bufferQueue := q, buffersAllocated := a, errorKind := k, status := t, trace := tr }).2 := by
  have ht : (readPacket e c).2.trace = c.trace := by rw [(readPacket_readerOnly e c).eq]
  rw [readPacket_eq, readPacket_eq, resetReader_twin, receiveData_twin]
  rw [readPacket_eq] at ht
  dsimp only at ht ⊢
  split_ifs at ht ⊢ <;> exact ⟨rfl, _, _, _, _, _, rfl, ht ▸ htr⟩

/-- The dispatch of a grid handshake packet. -/
theorem dispatchPacket_agrees {n : Nat} {cmd : Bytes} (hU : L.AfternmUniform) (hgrid : c.mode = .grid)
    (hsmall : (L.protocolVersionPack L.clientVersion).length + 1 < 65536) (hr : Reaches L n c cmd)
    (hcmd : cmd = CMD_WELC ∨ cmd = CMD_COOK ∨ cmd = CMD_REDY) (htr : List.Forall₂ EventTwin c.trace tr) :
    Agrees c { c with bufferQueue := q, buffersAllocated := a, errorKind := k, status := t, trace := tr }
      (dispatchPacket L e n c)
      (Legacy.dispatchPacket L e n
        { c with bufferQueue := q, buffersAllocated := a, errorKind := k, status := t, trace := tr }) := by
  rw [dispatchPacket_reaches L e hr, Legacy.dispatchPacket_cmd L e n
    { c with bufferQueue := q, buffersAllocated := a, errorKind := k, status := t, trace := tr } hr.magic hr.command]
  rcases hcmd with rfl | rfl | rfl
  · simp only [if_true]; exact onWELC_agrees L e c q a k t tr htr
  · simp only [(by decide : CMD_COOK ≠ CMD_WELC), if_false, if_true]; exact onCOOK_agrees L e c q a k t tr hU hgrid htr
  · simp only [(by decide : CMD_REDY ≠ CMD_WELC), (by decide : CMD_REDY ≠ CMD_COOK), if_false, if_true]
    exact onREDY_agrees L c q a k t tr _ hgrid hsmall htr

end Agreement

/-- One step of the older engine on a frame taken whole, as `frameStep` is for
`tunnel_protocol.c`. -/
def Legacy.frameStep (L : Lib) (c : Connection) (f : Bytes) (e : Env) : Connection :=
  (Legacy.dispatchPacket L e f.length (c.takeFrame f)).2

/-- A run of the older engine's frame steps. -/
def Legacy.frameRun (L : Lib) : Connection → List (Bytes × Env) → Connection
  | c, [] => c
  | c, (f, e) :: fes => Legacy.frameRun L (Legacy.frameStep L c f e) fes

/-- A run of the older engine's `receive_packet` calls. -/
def Legacy.receiveRun (L : Lib) : Connection → List Env → Connection
  | c, [] => c
  | c, e :: es => Legacy.receiveRun L (Legacy.receivePacket L e c).2 es

section Runs

variable (L : Lib) (e : Env)
  (hmagic : L.PACKET_MAGIC.1 ≠ MSG_FORWARD_HOLD ∧ L.PACKET_MAGIC.1 ≠ MSG_FORWARD_REPLY ∧
    L.PACKET_MAGIC.1 ≠ MSG_FORWARD_ERROR)
  (hsmall : (L.protocolVersionPack L.clientVersion).length + 1 < 65536) (hU : L.AfternmUniform)

/-- A handshake packet: `WELC`, `COOK` or `REDY` with the library's magic. -/
def HandshakePacket (L : Lib) (f : Bytes) : Prop :=
  ∃ cmd p, (cmd = CMD_WELC ∨ cmd = CMD_COOK ∨ cmd = CMD_REDY) ∧ f = packetImage L.PACKET_MAGIC cmd p

include hmagic hsmall hU in
/-- One frame step of each engine on a handshake packet keeps grid connections twins. -/
theorem frameStep_twins {c c' : Connection} {f : Bytes} (hgrid : c.mode = .grid) (hf : HandshakePacket L f)
    (ht : Twins c c') : Twins (frameStep L c f e) (Legacy.frameStep L c' f e) := by
  obtain ⟨q, a, k, t, tr, rfl, htr⟩ := ht
  obtain ⟨cmd, p, hcmd, rfl⟩ := hf
  have hlen : cmd.length = 4 := by rcases hcmd with rfl | rfl | rfl <;> rfl
  exact (dispatchPacket_agrees L e (c.takeFrame (packetImage L.PACKET_MAGIC cmd p)) q a k t tr hU hgrid hsmall
    (packetImage_reaches L c hlen hmagic) hcmd htr).twins

include hmagic hsmall hU in
/-- The byte-level run: from twin connections, the newer one tracking a grid frame-level state
on a stream of handshake packets, the two receive loops end in twin connections under any
schedule.  The reader is shared, so both calls complete the same frame or none. -/
theorem receiveRun_twins {n : Nat} (sched : List Env) :
    ∀ (d c c' : Connection) (fs : List (Frame n)), n ≤ c.bufferSize → Tracks d c fs → d.mode = .grid →
      (∀ fr ∈ fs, HandshakePacket L fr.bytes) → Twins c c' → Twins (receiveRun L c sched) (Legacy.receiveRun L c' sched) := by
  induction sched with
  | nil => exact fun _ _ _ _ _ _ _ _ ht => ht
  | cons e es ih =>
    intro d c c' fs hn h hgrid hfs ht
    obtain ⟨q, a, k, t, tr, rfl, htr⟩ := ht
    obtain ⟨hret', htw⟩ := readPacket_twin e c q a k t tr htr
    have hn' : n ≤ (receivePacket L e c).2.bufferSize := by rwa [receivePacket_bufferSize]
    rw [receiveRun, Legacy.receiveRun]
    rcases readPacket_tracks e hn h with ⟨hret, h'⟩ | ⟨fr, rest, rfl, hret, htake⟩
    · -- neither call completes a frame: both leave the reader's result
      have hnew : (receivePacket L e c).2 = (readPacket e c).2 := by rw [receivePacket_of_nonpos L hret]
      have hold : (Legacy.receivePacket L e
          { c with bufferQueue := q, buffersAllocated := a, errorKind := k, status := t, trace := tr }).2 =
          (readPacket e { c with bufferQueue := q, buffersAllocated := a, errorKind := k, status := t, trace := tr }).2 := by
        simp only [Legacy.receivePacket, hret', if_pos hret]
      rw [hnew, hold]
      exact ih d _ _ fs (hnew ▸ hn') h' hgrid hfs htw
    · -- both calls complete the handshake packet `fr`
      rw [htake] at htw
      obtain ⟨q', a', k', t', tr', hc', htr'⟩ := htw
      obtain ⟨cmd, p, hcmd, hfr⟩ := hfs fr (List.mem_cons_self _ _)
      have hlen : cmd.length = 4 := by rcases hcmd with rfl | rfl | rfl <;> rfl
      have hreach : Reaches L fr.bytes.length (d.takeFrame fr.bytes) cmd := by
        rw [hfr]; exact packetImage_reaches L d hlen hmagic
      have hnew : (receivePacket L e c).2 = frameStep L d fr.bytes e := by
        simp only [receivePacket, hret, Int.toNat_natCast, htake, frameStep]
        rw [if_neg (by rw [Frame.bytes_length]; omega)]
      have hold : (Legacy.receivePacket L e
          { c with bufferQueue := q, buffersAllocated := a, errorKind := k, status := t, trace := tr }).2 =
          (Legacy.dispatchPacket L e fr.bytes.length
            { d.takeFrame fr.bytes with bufferQueue := q', buffersAllocated := a', errorKind := k', status := t',
                                        trace := tr' }).2 := by
        simp only [Legacy.receivePacket, hret', hret, Int.toNat_natCast, ← hc']
        rw [if_neg (by rw [Frame.bytes_length]; omega)]
      rw [hnew, hold]
      exact ih _ _ _ rest (hnew ▸ hn') (frameStep_tracks L e h.1) ((dispatchPacket_untouched L e _ _).mode.trans hgrid)
        (fun x hx => hfs x (List.mem_cons_of_mem _ hx))
        (dispatchPacket_agrees L e (d.takeFrame fr.bytes) q' a' k' t' tr' hU hgrid hsmall hreach hcmd htr').twins

end Runs


end OpenSDG
