import OpenSDG.Tunnel

/-!
# The nonce discipline

`client_get_nonce` is the only code that reads or writes `client->nonce`: it hands out the
counter and post-increments it.  Each value goes to exactly one sealing call under a client
short-term nonce — `CurveCP-client-H` (`HELO`, `WELC` branch), `CurveCP-client-I` (the outer
`VOCH` box, `COOK` branch), `CurveCP-client-M` (`send_MESG_packet`) — and a box that seals is sent
at once, in a packet whose nonce tail is that value.  The `COOK` branch also seals the inner
`VOCH` box under the random long-term nonce `CurveCPV`, which never starts with a client
short-term prefix and consumes no counter value.

`Sealed n δ n'` states this discipline as a grammar of the events a connection appends while its
counter goes from `n` to `n'`.

* `op_sealedFrom`, `run_sealedFrom` — every operation (`receive_packet` on any frame, `sendMESG`,
  `get_MESG_packet` followed by `send_MESG_packet`, `start_connection`), and so every run,
  appends events of the grammar;
* `nonce_discipline` — along every run the `i`-th short-term nonce carries the
  counter value `n + i` in big-endian, the counter ends at `n + k`, and while at most `2 ^ 64`
  values are consumed no short-term nonce is used twice.
-/

set_option autoImplicit false

namespace OpenSDG

/-- Whether a nonce starts with one of the client's short-term prefixes. -/
def isCounterNonce (nonce : Bytes) : Bool :=
  clientNoncePrefixes.any fun p => (ascii p).isPrefixOf nonce

/-- A sealing call under a client short-term nonce. -/
def Event.isCounterSeal : Event → Bool
  | .seal nonce _ => isCounterNonce nonce
  | _ => false

/-- The nonces of a trace's sealing calls under client short-term nonces, in order. -/
def counterSeals : List Event → List Bytes
  | [] => []
  | ev :: evs =>
    match ev with
    | .seal nonce _ => if isCounterNonce nonce then nonce :: counterSeals evs else counterSeals evs
    | _ => counterSeals evs

/-- The client packets sealed under a short-term nonce: the nonce prefix, the command of the
packet, and the offset of the nonce tail in the packet (`HELO` after its header and short-term
key, `VOCH` after its header and cookie, `MESG` after its header). -/
def sealedPackets : List (String × Bytes × Nat) :=
  [("CurveCP-client-H", CMD_HELO, 40), ("CurveCP-client-I", CMD_VOCH, 104),
    ("CurveCP-client-M", CMD_MESG, 8)]

/-- The events a connection appends while its counter goes from `n` to `n'`.  Each counter
value is consumed by exactly one sealing call, under a client short-term nonce that carries the
value; a call that seals is followed at once by the send of its packet, whose command is the one
its prefix names and whose nonce tail is the value.  No other event is such a sealing call. -/
inductive Sealed : UInt64 → List Event → UInt64 → Prop
  | nil (n : UInt64) : Sealed n [] n
  | other {n n' : UInt64} {ev : Event} {evs : List Event} (hev : ev.isCounterSeal = false) :
      Sealed n evs n' → Sealed n (ev :: evs) n'
  | fail {n n' : UInt64} {pfx : String} {evs : List Event} (hp : pfx ∈ clientNoncePrefixes) :
      Sealed (n + 1) evs n' → Sealed n (.seal (buildShortTermNonce pfx (be64 n)) false :: evs) n'
  | ok {n n' : UInt64} {pfx : String} {cmd : Bytes} {off : Nat} {image : Bytes} {size : Nat}
      {evs : List Event} (hp : (pfx, cmd, off) ∈ sealedPackets) (hcmd : (image.drop 4).take 4 = cmd)
      (htail : (image.drop off).take 8 = be64 n) :
      Sealed (n + 1) evs n' →
        Sealed n (.seal (buildShortTermNonce pfx (be64 n)) true :: .send image size :: evs) n'

theorem sealedPackets_helo : ("CurveCP-client-H", CMD_HELO, 40) ∈ sealedPackets := by simp [sealedPackets]
theorem sealedPackets_voch : ("CurveCP-client-I", CMD_VOCH, 104) ∈ sealedPackets := by simp [sealedPackets]
theorem sealedPackets_mesg : ("CurveCP-client-M", CMD_MESG, 8) ∈ sealedPackets := by simp [sealedPackets]

/-! ## The grammar -/

theorem isCounterNonce_short {pfx : String} (hp : pfx ∈ clientNoncePrefixes) (v : Bytes) :
    isCounterNonce (buildShortTermNonce pfx v) = true :=
  List.any_eq_true.mpr ⟨pfx, hp, by simp [buildShortTermNonce]⟩

/-- The random long-term nonce of the inner `VOCH` box is no short-term nonce: `CurveCPV` and
`CurveCP-` differ in their eighth byte. -/
theorem isCounterNonce_vouch (t : Bytes) : isCounterNonce (buildLongTermNonce "CurveCPV" t) = false := by
  simp only [isCounterNonce, clientNoncePrefixes, buildLongTermNonce, List.any_cons, List.any_nil]
  rfl

theorem Sealed.append {n m p : UInt64} {a b : List Event} (ha : Sealed n a m) (hb : Sealed m b p) :
    Sealed n (a ++ b) p := by
  induction ha with
  | nil => exact hb
  | other hev _ ih => exact .other hev (ih hb)
  | fail hp _ ih => exact .fail hp (ih hb)
  | ok hp hcmd htail _ ih => exact .ok hp hcmd htail (ih hb)

theorem Sealed.send {n n' : UInt64} {evs : List Event} (image : Bytes) (size : Nat) (h : Sealed n evs n') :
    Sealed n (.send image size :: evs) n' :=
  .other rfl h

theorem counterSeals_short {pfx : String} (hp : pfx ∈ clientNoncePrefixes) (v : Bytes) (ok : Bool)
    (evs : List Event) :
    counterSeals (.seal (buildShortTermNonce pfx v) ok :: evs) = buildShortTermNonce pfx v :: counterSeals evs := by
  simp [counterSeals, isCounterNonce_short hp]

theorem counterSeals_other {ev : Event} (hev : ev.isCounterSeal = false) (evs : List Event) :
    counterSeals (ev :: evs) = counterSeals evs := by
  cases ev <;> simp_all [counterSeals, Event.isCounterSeal]

theorem ascii_prefix_length {pfx : String} (hp : pfx ∈ clientNoncePrefixes) (v : Bytes) :
    (buildShortTermNonce pfx v).drop 16 = v :=
  List.drop_left' (ascii_clientNoncePrefix_length hp)

theorem mem_sealedPackets {pfx : String} {cmd : Bytes} {off : Nat} (h : (pfx, cmd, off) ∈ sealedPackets) :
    pfx ∈ clientNoncePrefixes := by
  simp only [sealedPackets, List.mem_cons, Prod.mk.injEq, List.not_mem_nil, or_false] at h
  rcases h with ⟨rfl, -⟩ | ⟨rfl, -⟩ | ⟨rfl, -⟩ <;> simp [clientNoncePrefixes]

/-- **What the grammar says about the counter.**  A segment of `k` short-term sealing calls
from counter value `n` ends at `n + k` (modulo `2 ^ 64`), and its `i`-th call carries `n + i`
as eight big-endian bytes. -/
theorem Sealed.counter {n n' : UInt64} {δ : List Event} (h : Sealed n δ n') :
    n'.toNat = (n.toNat + (counterSeals δ).length) % 2 ^ 64 ∧
      (counterSeals δ).map (·.drop 16) =
        (List.range (counterSeals δ).length).map fun i => beBytes 8 (n.toNat + i) := by
  induction h with
  | nil n => exact ⟨(Nat.mod_eq_of_lt n.toNat_lt).symm, rfl⟩
  | other hev _ ih => rwa [counterSeals_other hev]
  | @fail n n' pfx evs hp _ ih =>
    rw [counterSeals_short hp]
    exact step n (ascii_prefix_length hp _) ih
  | @ok n n' pfx cmd off image size evs hp _ _ _ ih =>
    rw [counterSeals_short (mem_sealedPackets hp), counterSeals_other (show (Event.send image size).isCounterSeal = false from rfl)]
    exact step n (ascii_prefix_length (mem_sealedPackets hp) _) ih
where
  /-- One sealing call: the counter value it consumes and the ones after it. -/
  step {n' : UInt64} {rest : List Bytes} (n : UInt64) {nonce : Bytes} (hnonce : nonce.drop 16 = be64 n)
      (ih : n'.toNat = ((n + 1).toNat + rest.length) % 2 ^ 64 ∧
        rest.map (·.drop 16) = (List.range rest.length).map fun i => beBytes 8 ((n + 1).toNat + i)) :
      n'.toNat = (n.toNat + (nonce :: rest).length) % 2 ^ 64 ∧
        (nonce :: rest).map (·.drop 16) =
          (List.range (nonce :: rest).length).map fun i => beBytes 8 (n.toNat + i) := by
    have h₁ : (n + 1).toNat = (n.toNat + 1) % 2 ^ 64 := UInt64.toNat_add n 1
    obtain ⟨ih₁, ih₂⟩ := ih
    refine ⟨by rw [ih₁, h₁, List.length_cons, Nat.mod_add_mod]; omega, ?_⟩
    rw [List.length_cons, List.range_succ_eq_map, List.map_cons, List.map_cons, List.map_map, hnonce,
      ih₂, be64, Nat.add_zero]
    congr 1
    refine List.map_congr_left fun i _ => ?_
    rw [h₁, Function.comp_apply, show (2 : Nat) ^ 64 = 256 ^ 8 from rfl,
      ← beBytes_mod 8 ((n.toNat + 1) % 256 ^ 8 + i), Nat.mod_add_mod, beBytes_mod]
    congr 1
    omega

/-! ## Every operation keeps to the grammar -/

/-- `c'` is `c` after events of the grammar. -/
def SealedFrom (c c' : Connection) : Prop := ∃ δ, c'.trace = c.trace ++ δ ∧ Sealed c.nonce δ c'.nonce

theorem SealedFrom.quiet {c c' : Connection} (ht : c'.trace = c.trace) (hn : c'.nonce = c.nonce) : SealedFrom c c' :=
  ⟨[], by rw [ht, List.append_nil], hn ▸ .nil _⟩

theorem SealedFrom.trans {c c' c'' : Connection} (h₁ : SealedFrom c c') (h₂ : SealedFrom c' c'') : SealedFrom c c'' := by
  obtain ⟨δ₁, ht₁, hs₁⟩ := h₁
  obtain ⟨δ₂, ht₂, hs₂⟩ := h₂
  exact ⟨δ₁ ++ δ₂, by rw [ht₂, ht₁, List.append_assoc], hs₁.append hs₂⟩

/-- A nonce tail laid out after `pre`: the counter value the nonce was built from. -/
theorem nonceTail_of_layout {pfx : String} (hp : pfx ∈ clientNoncePrefixes) (v : UInt64) {pre : Bytes} {off : Nat}
    (h : pre.length = off) (post : Bytes) :
    (((pre ++ (buildShortTermNonce pfx (be64 v)).toMem.read 16 8) ++ post).drop off).take 8 = be64 v := by
  have h₁ := Bytes.toMem_read_append (ascii pfx) (be64 v)
  rw [ascii_clientNoncePrefix_length hp, be64_length] at h₁
  rw [List.append_assoc, List.drop_left' h, List.take_left' (by simp), buildShortTermNonce, h₁]

section Primitives

variable (c : Connection)

theorem connectionSetResult_sealedFrom (r : ErrorKind) : SealedFrom c (connectionSetResult c r).2 := by
  unfold connectionSetResult; split <;> exact .quiet rfl rfl

theorem sendData_sealedFrom (res : ErrorKind) (image : Bytes) (size : Nat) : SealedFrom c (sendData res image size c).2 :=
  ⟨[.send image size], rfl, .send _ _ (.nil _)⟩

theorem sealedFrom_vouch (t : Bytes) (r : Option Bytes) : SealedFrom c (c.logSeal (buildLongTermNonce "CurveCPV" t) r) :=
  ⟨[.seal _ r.isSome], rfl, .other (isCounterNonce_vouch t) (.nil _)⟩

/-- A sealing call under the next counter value that fails. -/
theorem sealedFrom_seal_none {pfx : String} (hp : pfx ∈ clientNoncePrefixes) {r : Option Bytes} (hr : r = none) :
    SealedFrom c ((clientGetNonce c).2.logSeal (buildShortTermNonce pfx (be64 c.nonce)) r) :=
  ⟨[.seal _ false], by simp [hr], .fail hp (.nil _)⟩

/-- A sealing call under the next counter value that seals, and the send of its packet. -/
theorem sealedFrom_seal_some {pfx : String} {cmd : Bytes} {off : Nat} (hp : (pfx, cmd, off) ∈ sealedPackets)
    {r : Option Bytes} {b : Bytes} (hr : r = some b) (res : ErrorKind) (image : Bytes)
    (hcmd : (image.drop 4).take 4 = cmd) (htail : (image.drop off).take 8 = be64 c.nonce) :
    SealedFrom c (sendPacket res image ((clientGetNonce c).2.logSeal (buildShortTermNonce pfx (be64 c.nonce)) r)).2 :=
  ⟨[.seal _ true, .send image (packetSize image)], by simp [hr], .ok hp hcmd htail (.nil _)⟩

end Primitives

section Branches

variable (L : Lib) (e : Env) (c : Connection) (res : ErrorKind)

theorem connectionHandleData_sealedFrom (data : Bytes) : SealedFrom c (connectionHandleData L c data).2 :=
  ⟨[.deliver data], rfl, .other rfl (.nil _)⟩

theorem sendTELL_sealedFrom : SealedFrom c (sendTELL L res c).2 :=
  (sendData_sealedFrom c _ _ _).trans (connectionSetResult_sealedFrom _ _)

theorem onWELC_sealedFrom : SealedFrom c (onWELC L e c).2 := by
  unfold onWELC; dsimp only
  split
  · exact .trans (.quiet rfl rfl) (sealedFrom_seal_none _ (mem_sealedPackets sealedPackets_helo) ‹_›)
  · refine .trans (.trans (.quiet rfl rfl) (sealedFrom_seal_some _ sealedPackets_helo ‹_› e.sendResult _ ?_ ?_))
      (connectionSetResult_sealedFrom _ _)
    · simp only [List.append_assoc]; exact buildHeader_command _ CMD_HELO_length _ _
    · exact nonceTail_of_layout (mem_sealedPackets sealedPackets_helo) _ (by simp) _

theorem onForwardReply_sealedFrom : SealedFrom c (onForwardReply L res c).2 := by
  unfold onForwardReply
  split
  · exact .quiet rfl rfl
  · split
    · exact sendTELL_sealedFrom L c res
    · exact .quiet rfl rfl

theorem onForwardError_sealedFrom : SealedFrom c (onForwardError L c).2 := by
  unfold onForwardError; split <;> exact .quiet rfl rfl

theorem sendVOCH_sealedFrom (voch : Nat) : SealedFrom c (sendVOCH L e voch c).2 := by
  have hv := sealedFrom_vouch c e.vouchNonce.toBytes
    (L.box (List.replicate 32 0 ++ c.clientTempPubkey.toBytes) (buildLongTermNonce "CurveCPV" e.vouchNonce.toBytes)
      c.serverPubkey c.clientSecret)
  unfold sendVOCH; dsimp only
  split
  · exact hv.trans (.quiet rfl rfl)
  split
  · exact hv.trans ((sealedFrom_seal_none _ (mem_sealedPackets sealedPackets_voch) ‹_›).trans (.quiet rfl rfl))
  · refine hv.trans ((sealedFrom_seal_some _ sealedPackets_voch ‹_› e.sendResult _ ?_ ?_).trans
      ((SealedFrom.quiet rfl rfl).trans (connectionSetResult_sealedFrom _ _)))
    · simp only [List.append_assoc]; exact buildHeader_command _ CMD_VOCH_length _ _
    · exact nonceTail_of_layout (mem_sealedPackets sealedPackets_voch) _ (by simp) _

theorem onCOOK_sealedFrom : SealedFrom c (onCOOK L e c).2 := by
  unfold onCOOK; dsimp only
  split
  · exact .quiet rfl rfl
  split
  · exact .quiet rfl rfl
  · exact .trans (.quiet rfl rfl) (sendVOCH_sealedFrom L e _ _)

theorem sendMESGPacket_sealedFrom (m : MesgPacket) : SealedFrom c (sendMESGPacket L res c m).2 := by
  unfold sendMESGPacket; dsimp only
  split
  · exact .trans (sealedFrom_seal_none _ (mem_sealedPackets sealedPackets_mesg) ‹_›) (.quiet rfl rfl)
  · refine .trans (sealedFrom_seal_some _ sealedPackets_mesg ‹_› res _ ?_ ?_) (.quiet rfl rfl)
    · simp only [List.append_assoc]; exact buildHeader_command _ CMD_MESG_length _ _
    · exact nonceTail_of_layout (mem_sealedPackets sealedPackets_mesg) _ (by simp) _

theorem sendMESG_sealedFrom (t : UInt8) (msg : Bytes) : SealedFrom c (sendMESG L res c t msg).2 := by
  rw [sendMESG_eq]; split
  · exact .quiet rfl rfl
  · exact .trans (.quiet rfl rfl) (sendMESGPacket_sealedFrom L _ _ _)

theorem decryptMESG_sealedFrom (pfx : String) : SealedFrom c (decryptMESG L pfx c).2 := by
  unfold decryptMESG; dsimp only; split <;> exact .quiet rfl rfl

theorem onREDY_sealedFrom : SealedFrom c (onREDY L res c).2 := by
  have hd := decryptMESG_sealedFrom L c "CurveCP-server-R"
  unfold onREDY; dsimp only
  split
  · exact hd
  split
  · split
    · exact hd.trans (.quiet rfl rfl)
    · exact hd
  · exact (hd.trans (sendMESG_sealedFrom L _ _ _ _)).trans (connectionSetResult_sealedFrom _ _)

theorem onMESG_sealedFrom : SealedFrom c (onMESG L c).2 := by
  have hd := decryptMESG_sealedFrom L c "CurveCP-server-M"
  unfold onMESG; dsimp only
  split
  · exact hd
  · exact (hd.trans (connectionHandleData_sealedFrom L _ _)).trans (connectionSetResult_sealedFrom _ _)

theorem dispatchPacket_sealedFrom (n : Nat) : SealedFrom c (dispatchPacket L e n c).2 :=
  dispatchPacket_of_branches L e c (fun r => SealedFrom c r.2) n (.quiet rfl rfl) (.quiet rfl rfl)
    (fun _ => onForwardReply_sealedFrom L c _) (onForwardError_sealedFrom L c) (fun _ => onWELC_sealedFrom L e c)
    (fun _ => onCOOK_sealedFrom L e c) (fun _ => onREDY_sealedFrom L c _) (fun _ => onMESG_sealedFrom L c)

theorem readPacket_sealedFrom : SealedFrom c (readPacket e c).2 := by
  rw [readPacket_eq]; dsimp only
  split
  · split <;> exact .quiet (by simp) (by simp)
  · exact .quiet (by simp) (by simp)

theorem receivePacket_sealedFrom : SealedFrom c (receivePacket L e c).2 := by
  dsimp only [receivePacket]
  split
  · exact readPacket_sealedFrom e c
  · exact (readPacket_sealedFrom e c).trans (dispatchPacket_sealedFrom L e _ _)

theorem startConnection_sealedFrom : SealedFrom c (startConnection L res c).2 := by
  unfold startConnection sendForward; dsimp only
  split
  · exact .trans (.quiet rfl rfl) (.trans (sendData_sealedFrom _ res _ _) (connectionSetResult_sealedFrom _ _))
  · exact sendTELL_sealedFrom L c res

end Branches

theorem op_sealedFrom (L : Lib) (c : Connection) (op : Op) : SealedFrom c (op.apply L c) := by
  cases op with
  | receive e => exact receivePacket_sealedFrom L e c
  | message t msg res => exact sendMESG_sealedFrom L c res t msg
  | messageData n data res =>
    rw [apply_messageData]; split
    · exact .quiet rfl rfl
    · exact .trans (.quiet rfl rfl) (sendMESGPacket_sealedFrom L _ _ _)
  | start res => exact startConnection_sealedFrom L c res

theorem run_sealedFrom (L : Lib) (ops : List Op) : ∀ c, SealedFrom c (run L c ops) := by
  induction ops with
  | nil => exact fun c => .quiet rfl rfl
  | cons op ops ih => exact fun c => (op_sealedFrom L c op).trans (ih _)

/-! ## Runs -/

/-- Counter values from `a` on, fewer than `2 ^ 64` of them, have distinct encodings. -/
theorem counterValues_nodup (a : Nat) {k : Nat} (hk : k ≤ 2 ^ 64) :
    ((List.range k).map fun i => beBytes 8 (a + i)).Nodup := by
  refine (List.nodup_range k).map_on fun i hi j hj h => ?_
  have hmod := beBytes_inj h
  simp only [List.mem_range] at hi hj
  simp only [Nat.reducePow] at hmod hk
  omega

/-- **The nonce discipline.**  Over every run of a connection — any frames to `receive_packet`,
any `sendMESG` calls, any `get_MESG_packet` + `send_MESG_packet` pairs, `start_connection`, in
any interleaving — the events the run appends follow `Sealed`: each counter value `client_get_nonce`
hands out is consumed by exactly one sealing call under a client short-term nonce built from it,
and a call that seals is followed at once by the send of its `HELO`, `VOCH` or `MESG` packet,
whose nonce tail is the value.  The counter ends `k` further, where `k` is the number of those
calls; the `i`-th carries the counter value `n + i` in big-endian; and while `k ≤ 2 ^ 64` no two
of them use the same 24-byte nonce. -/
theorem nonce_discipline (L : Lib) (c : Connection) (ops : List Op) :
    ∃ δ, (run L c ops).trace = c.trace ++ δ ∧ Sealed c.nonce δ (run L c ops).nonce ∧
      (run L c ops).nonce.toNat = (c.nonce.toNat + (counterSeals δ).length) % 2 ^ 64 ∧
      (counterSeals δ).map (·.drop 16) =
        (List.range (counterSeals δ).length).map (fun i => beBytes 8 (c.nonce.toNat + i)) ∧
      ((counterSeals δ).length ≤ 2 ^ 64 → (counterSeals δ).Nodup) := by
  obtain ⟨δ, htrace, hs⟩ := run_sealedFrom L ops c
  obtain ⟨hend, hvals⟩ := hs.counter
  refine ⟨δ, htrace, hs, hend, hvals, fun hk => List.Nodup.of_map (·.drop 16) ?_⟩
  rw [hvals]
  exact counterValues_nodup _ hk

end OpenSDG
