import OpenSDG.Tunnel

/-!
# The send-buffer pool

`client_get_buffer` takes the oldest buffer of the connection's freelist, allocating one when it
is empty, and `client_put_buffer` returns one to its end.  `PoolBalanced c c'` says that the
freelist of `c'` holds exactly the buffers `c` held plus those allocated in between, each once:
every buffer taken in between was put back exactly once.

* `sendVOCH_putsBack`, `sendMESGPacket_putsBack` — the `COOK` branch and `send_MESG_packet`
  return their buffer on every path, success and error;
* `pool_balanced_iff` — an operation leaves the pool balanced exactly when it is not
  `start_connection` on a connection with a tunnel id: `sendForward` takes a buffer and never
  returns it;
* `run_pool_loses` — over a whole run, the pool loses at most that one buffer, and loses it
  exactly when the connection had a tunnel id and the run starts it.
-/

set_option autoImplicit false

namespace OpenSDG

/-- The freelist of `c'` is that of `c` plus the buffers allocated in between, up to order. -/
def PoolBalanced (c c' : Connection) : Prop :=
  c.buffersAllocated ≤ c'.buffersAllocated ∧
    c'.bufferQueue.Perm (c.bufferQueue ++ List.range' c.buffersAllocated (c'.buffersAllocated - c.buffersAllocated))

/-- The freelist of `c'` and the buffers `lost` are those of `c` plus the buffers allocated in
between, up to order: `lost` is what was taken and never put back. -/
def PoolLoses (lost : List Nat) (c c' : Connection) : Prop :=
  c.buffersAllocated ≤ c'.buffersAllocated ∧
    (c'.bufferQueue ++ lost).Perm (c.bufferQueue ++ List.range' c.buffersAllocated (c'.buffersAllocated - c.buffersAllocated))

/-- `c'` is `c` with the buffer `b` put back, and nothing else done to the pool. -/
def PutsBack (b : Nat) (c c' : Connection) : Prop :=
  c'.bufferQueue = c.bufferQueue ++ [b] ∧ c'.buffersAllocated = c.buffersAllocated

section Pool

variable {c c' c'' : Connection}

theorem PoolBalanced.of_eq (hq : c'.bufferQueue = c.bufferQueue) (ha : c'.buffersAllocated = c.buffersAllocated) :
    PoolBalanced c c' :=
  ⟨ha.ge, by simp [hq, ha]⟩

theorem poolLoses_nil_iff : PoolLoses [] c c' ↔ PoolBalanced c c' := by
  simp only [PoolLoses, PoolBalanced, List.append_nil]

theorem PoolLoses.trans {l₁ l₂ : List Nat} (h₁ : PoolLoses l₁ c c') (h₂ : PoolLoses l₂ c' c'') :
    PoolLoses (l₁ ++ l₂) c c'' := by
  obtain ⟨ha₁, hp₁⟩ := h₁
  obtain ⟨ha₂, hp₂⟩ := h₂
  refine ⟨ha₁.trans ha₂, ?_⟩
  have hr : List.range' c.buffersAllocated (c''.buffersAllocated - c.buffersAllocated) =
      List.range' c.buffersAllocated (c'.buffersAllocated - c.buffersAllocated) ++
        List.range' c'.buffersAllocated (c''.buffersAllocated - c'.buffersAllocated) := by
    have h := List.range'_append_1 c.buffersAllocated (c'.buffersAllocated - c.buffersAllocated)
      (c''.buffersAllocated - c'.buffersAllocated)
    rw [Nat.add_sub_cancel' ha₁] at h
    rw [h]; congr 1; omega
  rw [hr]
  calc c''.bufferQueue ++ (l₁ ++ l₂)
      List.Perm _ ((c''.bufferQueue ++ l₂) ++ l₁) := by rw [List.append_assoc]; exact List.perm_append_comm.append_left _
      List.Perm _ ((c'.bufferQueue ++ List.range' c'.buffersAllocated (c''.buffersAllocated - c'.buffersAllocated)) ++ l₁) :=
        hp₂.append_right _
      List.Perm _ ((c'.bufferQueue ++ l₁) ++ List.range' c'.buffersAllocated (c''.buffersAllocated - c'.buffersAllocated)) := by
        simp only [List.append_assoc]; exact List.perm_append_comm.append_left _
      List.Perm _ _ := hp₁.append_right _
      _ = _ := List.append_assoc _ _ _

theorem PoolBalanced.trans (h₁ : PoolBalanced c c') (h₂ : PoolBalanced c' c'') : PoolBalanced c c'' :=
  poolLoses_nil_iff.mp ((poolLoses_nil_iff.mpr h₁).trans (poolLoses_nil_iff.mpr h₂))

/-- Taking a buffer, then putting it back. -/
theorem PutsBack.balanced (h : PutsBack (clientGetBuffer c).1 (clientGetBuffer c).2 c') : PoolBalanced c c' := by
  obtain ⟨hq, ha⟩ := h
  simp only [clientGetBuffer] at hq ha
  cases hc : c.bufferQueue with
  | nil => exact ⟨by simp [ha, hc], by simp [hq, ha, hc]⟩
  | cons b bs => exact ⟨by simp [ha, hc], by simp [hq, ha, hc]⟩

theorem PutsBack.setResult {b : Nat} (h : PutsBack b c c') (r : ErrorKind) : PutsBack b c (connectionSetResult c' r).2 := by
  unfold connectionSetResult; split <;> exact h

theorem connectionSetResult_poolBalanced (r : ErrorKind) : PoolBalanced c (connectionSetResult c r).2 := by
  unfold connectionSetResult; split <;> exact .of_eq rfl rfl

theorem PoolBalanced.setResult (h : PoolBalanced c c') (r : ErrorKind) : PoolBalanced c (connectionSetResult c' r).2 :=
  h.trans (connectionSetResult_poolBalanced r)

end Pool

section Engine

variable (L : Lib) (e : Env) (c : Connection) (res : ErrorKind)

theorem sendTELL_poolBalanced : PoolBalanced c (sendTELL L res c).2 := by
  unfold sendTELL; refine PoolBalanced.setResult ?_ _; exact .of_eq rfl rfl

theorem sendVOCH_putsBack (voch : Nat) : PutsBack voch c (sendVOCH L e voch c).2 := by
  unfold sendVOCH; dsimp only
  split
  · constructor <;> dsimp only [clientPutBuffer, Connection.logSeal]
  split
  · constructor <;> dsimp only [clientPutBuffer, Connection.logSeal, clientGetNonce]
  · refine PutsBack.setResult ?_ _
    constructor <;> dsimp only [clientPutBuffer, Connection.logSeal, clientGetNonce, sendPacket, sendData]

theorem sendMESGPacket_putsBack (m : MesgPacket) : PutsBack m.buffer c (sendMESGPacket L res c m).2 := by
  unfold sendMESGPacket; dsimp only
  split <;> constructor <;> dsimp only [clientPutBuffer, Connection.logSeal, clientGetNonce, sendPacket, sendData]

theorem sendMESG_poolBalanced (t : UInt8) (msg : Bytes) : PoolBalanced c (sendMESG L res c t msg).2 := by
  rw [sendMESG_eq]; split
  · exact .of_eq rfl rfl
  · exact PutsBack.balanced (sendMESGPacket_putsBack L _ _ _)

theorem onCOOK_poolBalanced : PoolBalanced c (onCOOK L e c).2 := by
  unfold onCOOK; dsimp only
  split
  · exact .of_eq rfl rfl
  split
  · exact .of_eq rfl rfl
  · exact PutsBack.balanced (sendVOCH_putsBack L e _ _)

theorem decryptMESG_poolBalanced (pfx : String) : PoolBalanced c (decryptMESG L pfx c).2 := by
  unfold decryptMESG; dsimp only; split <;> exact .of_eq rfl rfl

theorem onREDY_poolBalanced : PoolBalanced c (onREDY L res c).2 := by
  have hd := decryptMESG_poolBalanced L c "CurveCP-server-R"
  unfold onREDY; dsimp only
  split
  · exact hd
  split
  · split
    · exact hd.trans (.of_eq rfl rfl)
    · exact hd
  · exact (hd.trans (sendMESG_poolBalanced L _ _ _ _)).trans (connectionSetResult_poolBalanced _)

theorem dispatchPacket_poolBalanced (n : Nat) : PoolBalanced c (dispatchPacket L e n c).2 := by
  refine dispatchPacket_of_branches L e c (fun r => PoolBalanced c r.2) n (.of_eq rfl rfl) (.of_eq rfl rfl)
    ?_ ?_ (fun _ => ?_) (fun _ => onCOOK_poolBalanced L e c) (fun _ => onREDY_poolBalanced L c _) (fun _ => ?_)
  · intro _
    unfold onForwardReply
    split
    · exact .of_eq rfl rfl
    split
    · exact sendTELL_poolBalanced L c _
    · exact .of_eq rfl rfl
  · unfold onForwardError; split <;> exact .of_eq rfl rfl
  · unfold onWELC; dsimp only
    split
    · exact .of_eq rfl rfl
    · refine PoolBalanced.setResult ?_ _; exact .of_eq rfl rfl
  · have hd := decryptMESG_poolBalanced L c "CurveCP-server-M"
    unfold onMESG connectionHandleData; dsimp only
    split
    · exact hd
    · refine PoolBalanced.setResult (hd.trans ?_) _; exact .of_eq rfl rfl

theorem receivePacket_poolBalanced : PoolBalanced c (receivePacket L e c).2 := by
  have hr : PoolBalanced c (readPacket e c).2 := by
    rw [(readPacket_readerOnly e c).eq]; exact .of_eq rfl rfl
  dsimp only [receivePacket]
  split
  · exact hr
  · exact hr.trans (dispatchPacket_poolBalanced L e _ _)

/-- `sendForward` takes a send buffer and returns none. -/
theorem sendForward_pool : (sendForward L res c).2.bufferQueue = (clientGetBuffer c).2.bufferQueue ∧
    (sendForward L res c).2.buffersAllocated = (clientGetBuffer c).2.buffersAllocated := by
  unfold sendForward; dsimp only
  unfold connectionSetResult; split <;> exact ⟨rfl, rfl⟩

/-- Taking a buffer without returning it unbalances the pool. -/
theorem clientGetBuffer_unbalanced {c' : Connection} (hq : c'.bufferQueue = (clientGetBuffer c).2.bufferQueue)
    (ha : c'.buffersAllocated = (clientGetBuffer c).2.buffersAllocated) : ¬ PoolBalanced c c' := by
  rintro ⟨-, hp⟩
  have hlen := hp.length_eq
  simp only [clientGetBuffer] at hq ha
  cases hc : c.bufferQueue <;> simp [hq, ha, hc] at hlen

end Engine

/-- Every operation but `start_connection` on a connection with a tunnel id leaves the pool
balanced. -/
theorem op_poolBalanced (L : Lib) (c : Connection) {op : Op}
    (h : ¬ ((∃ res, op = .start res) ∧ c.tunnelId.isSome)) : PoolBalanced c (op.apply L c) := by
  cases op with
  | receive e => exact receivePacket_poolBalanced L e c
  | message t msg res => exact sendMESG_poolBalanced L c res t msg
  | messageData n data res =>
    rw [apply_messageData]; split
    · exact .of_eq rfl rfl
    · exact PutsBack.balanced (sendMESGPacket_putsBack L _ _ _)
  | start res =>
    have hid : c.tunnelId.isSome = false := by simpa using h
    simp only [Op.apply, startConnection, hid]
    exact sendTELL_poolBalanced L c res

/-- `start_connection` with a tunnel id loses the buffer `sendForward` takes. -/
theorem start_poolLoses (L : Lib) (c : Connection) (res : ErrorKind) (hid : c.tunnelId.isSome) :
    PoolLoses [(clientGetBuffer c).1] c ((Op.start res).apply L c) := by
  simp only [Op.apply, startConnection, hid, if_true]
  exact @PutsBack.balanced c
    { (sendForward L res c).2 with bufferQueue := (sendForward L res c).2.bufferQueue ++ [(clientGetBuffer c).1] }
    ⟨by rw [(sendForward_pool L c res).1], (sendForward_pool L c res).2⟩

/-- Only `start_connection` writes the tunnel id. -/
theorem apply_tunnelId (L : Lib) (c : Connection) {op : Op} (h : ∀ res, op ≠ .start res) :
    (op.apply L c).tunnelId = c.tunnelId := by
  cases op with
  | receive e =>
    have hr : (readPacket e c).2.tunnelId = c.tunnelId := by rw [(readPacket_readerOnly e c).eq]
    show (receivePacket L e c).2.tunnelId = c.tunnelId
    dsimp only [receivePacket]; split
    · exact hr
    · exact (dispatchPacket_untouched L e _ _).tunnelId.trans hr
  | message t msg res => exact (sendMESG_untouched L c res t msg).tunnelId
  | messageData n data res =>
    rw [apply_messageData]; split
    · rfl
    · exact (sendMESGPacket_untouched L _ _ _).tunnelId
  | start res => exact absurd rfl (h res)

/-- `start_connection` leaves no tunnel id: `sendForward` clears it. -/
theorem start_tunnelId (L : Lib) (c : Connection) (res : ErrorKind) : ((Op.start res).apply L c).tunnelId = none := by
  simp only [Op.apply, startConnection]
  split
  · unfold sendForward connectionSetResult; dsimp only; split <;> rfl
  · rename_i hid
    unfold sendTELL connectionSetResult; dsimp only
    split <;> simpa using hid

/-- **The pool over a whole run.**  Along any run of operations, the freelist ends with every
buffer the connection held or allocated, except at most one: the buffer `sendForward` takes, lost
exactly when the connection had a tunnel id and the run starts it.  No second one is lost, since
`sendForward` clears the tunnel id. -/
theorem run_pool_loses (L : Lib) (c : Connection) (ops : List Op) :
    ∃ lost : List Nat, PoolLoses lost c (run L c ops) ∧ lost.length ≤ 1 ∧
      (lost = [] ↔ ¬ (c.tunnelId.isSome ∧ ∃ res, Op.start res ∈ ops)) := by
  induction ops generalizing c with
  | nil => exact ⟨[], poolLoses_nil_iff.mpr (.of_eq rfl rfl), Nat.zero_le _, by simp⟩
  | cons op ops ih =>
    obtain ⟨lost, hl, hlen, hiff⟩ := ih (op.apply L c)
    by_cases hs : (∃ res, op = .start res) ∧ c.tunnelId.isSome
    · obtain ⟨⟨res, rfl⟩, hid⟩ := hs
      obtain rfl : lost = [] := hiff.mpr (by simp [start_tunnelId])
      exact ⟨_, (start_poolLoses L c res hid).trans hl, by simp, by simp [hid]⟩
    · refine ⟨lost, by simpa using (poolLoses_nil_iff.mpr (op_poolBalanced L c hs)).trans hl, hlen, hiff.trans ?_⟩
      by_cases ho : ∃ res, op = .start res
      · obtain ⟨res, rfl⟩ := ho
        have hid : c.tunnelId.isSome = false := by simpa using hs
        simp [start_tunnelId, hid]
      · have ho' : ∀ res, op ≠ .start res := fun res h => ho ⟨res, h⟩
        simp [apply_tunnelId L c ho', List.mem_cons, fun res => Ne.symm (ho' res)]

/-- **Every operation but `start_connection` with a tunnel id leaves the pool balanced.**
`receive_packet` on any frame in any state, `sendMESG` and a caller's `get_MESG_packet` +
`send_MESG_packet` put back every buffer they take, on every success and error path;
`start_connection` sends `TELL` without a buffer, but with a tunnel id it calls `sendForward`,
which takes a buffer and never puts it back. -/
theorem pool_balanced_iff (L : Lib) (c : Connection) (op : Op) :
    PoolBalanced c (op.apply L c) ↔ ¬ ((∃ res, op = .start res) ∧ c.tunnelId.isSome) := by
  by_cases hs : (∃ res, op = .start res) ∧ c.tunnelId.isSome
  · obtain ⟨⟨res, rfl⟩, hid⟩ := hs
    simp only [Op.apply, startConnection, hid, if_true]
    exact iff_of_false (clientGetBuffer_unbalanced c (sendForward_pool L c res).1 (sendForward_pool L c res).2)
      (by simp)
  · exact iff_of_true (op_poolBalanced L c hs) hs

end OpenSDG
