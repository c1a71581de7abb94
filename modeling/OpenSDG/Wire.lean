import Mathlib.Data.Fintype.Basic
import Mathlib.Data.String.Basic

/-!
# Wire format of the OSDG tunnel protocol

Byte-level vocabulary shared by the frame reader, the handshake engine and the frame builders
of `tunnel_protocol.c`:

* `Mem` — the receive buffer and the images of the structs the code fills, as byte-addressed
  memory; `Mem.read` is a `memcpy` out of it, `Mem.write` a `memcpy` into it;
* `beBytes`, `be16`, `be64` — big-endian fields (`SWAP_16`, `SWAP_64` on a little-endian host)
  and `be16Value`, the reader's `(b[0] << 8) | b[1]`;
* `buildShortTermNonce`, `buildLongTermNonce`, `buildHeader`;
* command tags, message types and struct sizes.

`tunnel_protocol.h` and `control_protocol.h` are absent from the sources.  The struct layouts
are reconstructed, as packed structures, from the field accesses in `tunnel_protocol.c` and the
wire format of the specification (§6); the constants the specification leaves open
(`PACKET_MAGIC`, the protobuf enumerations, the forwarding signature) are fields of `Lib`.
-/

set_option autoImplicit false

namespace OpenSDG

/-- A byte string. -/
abbrev Bytes := List UInt8

/-- `unsigned char x[n]`. -/
abbrev Block (n : Nat) := Fin n → UInt8

/-- `osdg_key_t` and the other 32-byte key fields. -/
abbrev Key := Block 32

/-- The bytes of a fixed-size array, in order. -/
def Block.toBytes {n : Nat} (b : Block n) : Bytes := List.ofFn b

@[simp] theorem Block.toBytes_length {n : Nat} (b : Block n) : b.toBytes.length = n :=
  List.length_ofFn b

/-! ## Memory -/

/-- Byte-addressed memory: the receive buffer, and the images of the structs the code fills. -/
abbrev Mem := Nat → UInt8

/-- `memcpy(dst, m + off, n)`: the `n` bytes at `off`. -/
def Mem.read (m : Mem) (off n : Nat) : Bytes := (List.range n).map fun i => m (off + i)

/-- `memcpy(m + off, bs, |bs|)`. -/
def Mem.write (m : Mem) (off : Nat) (bs : Bytes) : Mem :=
  fun i => if off ≤ i ∧ i < off + bs.length then bs.getD (i - off) 0 else m i

/-- The `n`-byte array at `off`. -/
def Mem.block (m : Mem) (off n : Nat) : Block n := fun i => m (off + i)

/-- A byte string laid out from address 0; bytes past its end read as 0. -/
def Bytes.toMem (bs : Bytes) : Mem := fun i => bs.getD i 0

@[simp] theorem Mem.read_length (m : Mem) (off n : Nat) : (m.read off n).length = n := by
  simp [Mem.read]

theorem Mem.getElem_read (m : Mem) (off n i : Nat) (h : i < (m.read off n).length) :
    (m.read off n)[i] = m (off + i) := by
  simp [Mem.read]

theorem Mem.read_congr {m m' : Mem} {off n : Nat} (h : ∀ i, off ≤ i → i < off + n → m i = m' i) :
    m.read off n = m'.read off n := by
  simp only [Mem.read, List.map_inj_left, List.mem_range]
  intro i hi
  exact h _ (Nat.le_add_right _ _) (by omega)

/-- Reading back a region whose bytes are known. -/
theorem Mem.read_eq_of_agree {m : Mem} {off : Nat} {bs : Bytes}
    (h : ∀ i, i < bs.length → m (off + i) = bs.getD i 0) : m.read off bs.length = bs := by
  apply List.ext_getElem (by simp)
  intro i h₁ h₂
  rw [Mem.getElem_read, h i h₂]
  simp [h₂]

theorem Mem.write_of_lt {m : Mem} {off i : Nat} (bs : Bytes) (h : i < off) : m.write off bs i = m i := by
  simp only [Mem.write]; rw [if_neg (by omega)]

theorem Mem.write_of_ge {m : Mem} {off i : Nat} {bs : Bytes} (h : off + bs.length ≤ i) :
    m.write off bs i = m i := by
  simp only [Mem.write]; rw [if_neg (by omega)]

theorem Mem.write_inside (m : Mem) {off i : Nat} (bs : Bytes) (h₁ : off ≤ i) (h₂ : i < off + bs.length) :
    m.write off bs i = bs.getD (i - off) 0 := by
  simp only [Mem.write]; rw [if_pos ⟨h₁, h₂⟩]

/-- The field `b` of a string laid out as `a ++ b`. -/
theorem Bytes.toMem_read_append (a b : Bytes) : (a ++ b).toMem.read a.length b.length = b :=
  Mem.read_eq_of_agree fun i hi => by simp [Bytes.toMem, List.getElem?_append_right]

theorem Mem.read_write_self (m : Mem) (off : Nat) (bs : Bytes) : (m.write off bs).read off bs.length = bs :=
  Mem.read_eq_of_agree fun i hi => by
    rw [Mem.write_inside _ _ (by omega) (by omega), Nat.add_sub_cancel_left]

@[simp] theorem Mem.write_nil (m : Mem) (off : Nat) : m.write off [] = m :=
  funext fun i => by simp [Mem.write]

/-- A byte of a region read back. -/
theorem Mem.apply_of_read {m : Mem} {off : Nat} {bs : Bytes} (h : m.read off bs.length = bs) {i : Nat}
    (hi : i < bs.length) : m (off + i) = bs.getD i 0 := by
  conv_rhs => rw [← h]
  simp [Mem.read, hi]

/-- A buffer that holds `f` from address 0 and `m` past it. -/
theorem Mem.eq_write_zero {m m' : Mem} {f : Bytes} (hin : ∀ i, i < f.length → m' i = f.getD i 0)
    (hout : ∀ i, f.length ≤ i → m' i = m i) : m' = m.write 0 f :=
  funext fun i => if hi : i < f.length then by rw [hin i hi, Mem.write_inside _ _ (Nat.zero_le _) (by omega), Nat.sub_zero]
    else by rw [hout i (by omega), Mem.write_of_ge (by omega)]

/-- A region read in two parts. -/
theorem Mem.read_add (m : Mem) (off a b : Nat) : m.read off (a + b) = m.read off a ++ m.read (off + a) b := by
  simp only [Mem.read, List.range_add, List.map_append, List.map_map]
  congr 1
  exact List.map_congr_left fun i _ => by simp [Nat.add_assoc]

/-- A region read as its first byte and the rest. -/
theorem Mem.read_succ (m : Mem) (off n : Nat) : m.read off (n + 1) = m off :: m.read (off + 1) n := by
  rw [Nat.add_comm, Mem.read_add]
  rfl

/-- A region of a buffer inside a frame laid at its start. -/
theorem Mem.read_write_zero (m : Mem) {f : Bytes} {off n : Nat} (h : off + n ≤ f.length) :
    (m.write 0 f).read off n = (f.drop off).take n := by
  apply List.ext_getElem (by simp; omega)
  intro i h₁ h₂
  simp only [Mem.read_length] at h₁
  rw [Mem.getElem_read, Mem.write_inside _ _ (Nat.zero_le _) (by omega)]
  simp [List.getD_eq_getElem?_getD, Nat.add_comm off i, List.getElem?_eq_getElem (show i + off < f.length by omega)]

/-- A region whose first bytes were just written. -/
theorem Mem.read_write_prefix (m : Mem) {off k : Nat} {z : Bytes} (hz : z.length = k) (n : Nat) :
    (m.write off z).read off (k + n) = z ++ m.read (off + k) n := by
  rw [Mem.read_add, ← hz, Mem.read_write_self, Mem.read_congr fun i hi _ => Mem.write_of_ge hi]

/-- The fixed-size array held by a region read back. -/
theorem Mem.block_eq_of_read {m : Mem} {off n : Nat} {b : Block n} (h : m.read off n = b.toBytes) :
    m.block off n = b := by
  funext i
  have := congrArg (fun l => l.getD i 0) h
  simpa [Mem.read, Block.toBytes, Mem.block] using this

/-! ## Big-endian fields -/

/-- `n` as `k` big-endian bytes, keeping its low `8k` bits. -/
def beBytes : Nat → Nat → Bytes
  | 0, _ => []
  | k + 1, n => beBytes k (n / 256) ++ [(n % 256).toUInt8]

/-- A 16-bit length field: `SWAP_16(n)` stored into an `unsigned short`. -/
def be16 (n : Nat) : Bytes := beBytes 2 n

/-- `SWAP_64(v)` as it lies in memory on a little-endian host. -/
def be64 (v : UInt64) : Bytes := beBytes 8 v.toNat

/-- The reader's `(b[off] << 8) | b[off + 1]`. -/
def be16Value (m : Mem) (off : Nat) : Nat := (m off).toNat * 256 + (m (off + 1)).toNat

theorem toNat_toUInt8 (n : Nat) : n.toUInt8.toNat = n % 256 := rfl

@[simp] theorem beBytes_length (k n : Nat) : (beBytes k n).length = k := by
  induction k generalizing n with
  | zero => rfl
  | succ k ih => simp [beBytes, ih]

@[simp] theorem be16_length (n : Nat) : (be16 n).length = 2 := beBytes_length 2 n

@[simp] theorem be64_length (v : UInt64) : (be64 v).length = 8 := beBytes_length 8 _

/-- Two values with the same `k`-byte encoding agree modulo `256 ^ k`. -/
theorem beBytes_inj {k n m : Nat} (h : beBytes k n = beBytes k m) : n % 256 ^ k = m % 256 ^ k := by
  induction k generalizing n m with
  | zero => simp [Nat.mod_one]
  | succ k ih =>
    simp only [beBytes] at h
    obtain ⟨h₁, h₂⟩ := List.append_inj h (by simp)
    have hlo := congrArg UInt8.toNat (List.singleton_inj.mp h₂)
    simp only [toNat_toUInt8, Nat.mod_mod] at hlo
    rw [Nat.pow_succ', Nat.mod_mul, Nat.mod_mul, ih h₁, hlo]

/-- `beBytes k` keeps only the low `8k` bits. -/
theorem beBytes_mod (k n : Nat) : beBytes k (n % 256 ^ k) = beBytes k n := by
  induction k generalizing n with
  | zero => rfl
  | succ k ih =>
    simp only [beBytes, Nat.pow_succ', Nat.mod_mul_right_div_self, ih, Nat.mod_mul_right_mod]

/-- A 16-bit field read back from a region that holds its encoding. -/
theorem be16Value_of_read {m : Mem} {off n : Nat} (h : m.read off 2 = be16 n) : be16Value m off = n % 65536 := by
  have h₀ := congrArg (·.getD 0 0) h
  have h₁ := congrArg (·.getD 1 0) h
  simp only [Mem.read, List.range_succ, List.range_zero, List.nil_append, List.map_cons, List.map_nil,
    be16, beBytes, List.singleton_append, List.getD_cons_zero, List.getD_cons_succ, Nat.add_zero] at h₀ h₁
  simp only [be16Value, h₀, h₁, toNat_toUInt8]
  omega

/-! ## Text and nonces -/

/-- The bytes of an ASCII string literal (without its terminating zero). -/
def ascii (s : String) : Bytes := s.toList.map fun ch => ch.toNat.toUInt8

/-- `build_short_term_nonce`: a 16-byte prefix, then the 8 bytes of the counter as they lie in
memory.  `tunnel_protocol.h` is absent; the layout is the one of the specification (§4.2). -/
def buildShortTermNonce (pfx : String) (value : Bytes) : Bytes := ascii pfx ++ value

/-- `build_long_term_nonce` (and `build_random_long_term_nonce`): an 8-byte prefix, then 16
echoed or random bytes. -/
def buildLongTermNonce (pfx : String) (tail : Bytes) : Bytes := ascii pfx ++ tail

/-- The three short-term prefixes of the client's sealing calls (HELO, VOCH, MESG). -/
def clientNoncePrefixes : List String := ["CurveCP-client-H", "CurveCP-client-I", "CurveCP-client-M"]

theorem ascii_clientNoncePrefix_length {p : String} (h : p ∈ clientNoncePrefixes) :
    (ascii p).length = 16 := by
  simp only [clientNoncePrefixes, List.mem_cons, List.not_mem_nil, or_false] at h
  rcases h with rfl | rfl | rfl <;> rfl

/-! ## Commands, message types, sizes -/

/-- `CMD_*`: the 4-character command tags, as they lie in memory. -/
def CMD_TELL : Bytes := ascii "TELL"
def CMD_WELC : Bytes := ascii "WELC"
def CMD_HELO : Bytes := ascii "HELO"
def CMD_COOK : Bytes := ascii "COOK"
def CMD_VOCH : Bytes := ascii "VOCH"
def CMD_REDY : Bytes := ascii "REDY"
def CMD_MESG : Bytes := ascii "MESG"

@[simp] theorem CMD_TELL_length : CMD_TELL.length = 4 := rfl
@[simp] theorem CMD_WELC_length : CMD_WELC.length = 4 := rfl
@[simp] theorem CMD_HELO_length : CMD_HELO.length = 4 := rfl
@[simp] theorem CMD_COOK_length : CMD_COOK.length = 4 := rfl
@[simp] theorem CMD_VOCH_length : CMD_VOCH.length = 4 := rfl
@[simp] theorem CMD_REDY_length : CMD_REDY.length = 4 := rfl
@[simp] theorem CMD_MESG_length : CMD_MESG.length = 4 := rfl

/-- `MSG_*`: the type byte of a grid message (specification §6). -/
def MSG_PROTOCOL_VERSION : UInt8 := 0x01
def MSG_PEER_REPLY : UInt8 := 0x03
def MSG_FORWARD_HOLD : UInt8 := 0x0F
def MSG_FORWARD_REMOTE : UInt8 := 0x10
def MSG_FORWARD_REPLY : UInt8 := 0x11
def MSG_FORWARD_ERROR : UInt8 := 0x12

def PROTOCOL_VERSION_MAJOR : UInt32 := 1
def PROTOCOL_VERSION_MINOR : UInt32 := 0

def crypto_box_ZEROBYTES : Nat := 32
def crypto_box_BOXZEROBYTES : Nat := 16

/-- `sizeof(struct packet_header)`: length, magic, command. -/
def sizeofPacketHeader : Nat := 8
/-- `sizeof(struct packetHELO)`: header, short-term key, nonce, 80-byte box. -/
def sizeofPacketHELO : Nat := 128
/-- `sizeof(struct mesg_payload)`: 32 bytes of padding, then the 16-bit data size. -/
def sizeofMesgPayload : Nat := 34
/-- `sizeof(struct packetMESG)`: header, nonce, and the wire part of `mesg_payload`. -/
def sizeofPacketMESG : Nat := 34
/-- `sizeof(struct certificate_data)`: `11`, `"certificate"`, `32`, 32 key bytes. -/
def sizeofCertificateData : Nat := 45
/-- `sizeof(struct curvecp_vouch_outer)`: padding, long-term key, nonce halves, 48-byte inner
box, `haveCertificate`. -/
def sizeofCurvecpVouchOuter : Nat := 129
/-- `sizeof(struct packetVOCH)`: header, cookie, nonce, and the wire part of the outer box. -/
def sizeofPacketVOCH : Nat := 225
/-- `sizeof(struct DataPacket)`: the 16-bit size of the forwarding envelope. -/
def sizeofDataPacket : Nat := 2

/-- `build_header`: the size field excludes itself. -/
def buildHeader (magic : UInt8 × UInt8) (cmd : Bytes) (size : Nat) : Bytes :=
  be16 (size - 2) ++ [magic.1, magic.2] ++ cmd

@[simp] theorem buildHeader_length (magic : UInt8 × UInt8) (cmd : Bytes) (size : Nat) :
    (buildHeader magic cmd size).length = 4 + cmd.length := by
  simp [buildHeader]; omega

/-- The command of a packet that starts with a header. -/
theorem buildHeader_command (magic : UInt8 × UInt8) {cmd : Bytes} (h : cmd.length = 4) (size : Nat) (rest : Bytes) :
    ((buildHeader magic cmd size ++ rest).drop 4).take 4 = cmd := by
  have h₄ : (be16 (size - 2) ++ [magic.1, magic.2]).length = 4 := by simp
  rw [buildHeader, List.append_assoc (be16 _ ++ _), List.drop_left' h₄, List.take_left' h]

/-- `PACKET_SIZE(header)`: the size field plus its own two bytes. -/
def packetSize (image : Bytes) : Nat := be16Value image.toMem 0 + 2

/-- The size a header announces: its `size` modulo `2 ^ 16` once the size field is past. -/
theorem packetSize_buildHeader (magic : UInt8 × UInt8) (cmd : Bytes) (size : Nat) (rest : Bytes) :
    packetSize (buildHeader magic cmd size ++ rest) = (size - 2) % 65536 + 2 := by
  simp [packetSize, be16Value, Bytes.toMem, buildHeader, be16, beBytes, toNat_toUInt8]
  omega

/-- An `unsigned int` computed from a C `int` expression. -/
def toU32 (z : Int) : Nat := (z % 2 ^ 32).toNat

/-- A `size_t` sum. -/
def toSizeT (n : Nat) : Nat := n % 2 ^ 64

end OpenSDG
