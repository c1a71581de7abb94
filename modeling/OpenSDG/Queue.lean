import Mathlib.Data.List.Nodup
import Mathlib.Data.List.ReduceOption

/-!
# The intrusive FIFO queue

`struct queue` holds a `head` pointer and a `tail` pointer to the last `next` slot: `&q->head`
when the queue is empty, `&e->next` of the last element otherwise.  The `next` field is the first
member of an element, so an element's address is the address of its `next` slot.  The heap is
the `next` slot of every element address, and a slot is `q->head` or an element's `next`.

The abstract model is the FIFO list: `put` appends, `get` takes the oldest element, `NULL` on the
empty list.  `Represents q l` says that the chain of `next` slots from `q->head` lists `l` and ends
at `NULL`, that `tail` is the chain's last slot, and that no element occurs twice.

* `queuePutNolock_represents`, `queueGet_represents` — each call keeps the representation, the
  list gaining the element at its end or losing its oldest, which `queue_get` returns;
* `queue_fifo` — from the empty queue, along every sequence of calls that never puts an element
  already queued: the representation holds after every call, every `queue_get` returns what the
  FIFO returns, and the elements got, followed by those still queued, are the elements put, in
  order.
-/

set_option autoImplicit false

namespace OpenSDG

/-- The address of a pointer slot: `q->head`, or the `next` field of the element at `e`. -/
inductive Slot
  | head
  | next (e : Nat)
  deriving DecidableEq, Repr

/-- A queue and the `next` fields of the elements; `none` is `NULL`. -/
structure Queue where
  head : Option Nat
  next : Nat → Option Nat
  tail : Slot

namespace Queue

/-- `*s`. -/
def read (q : Queue) : Slot → Option Nat
  | .head => q.head
  | .next e => q.next e

/-- `*s = v`. -/
def write (q : Queue) : Slot → Option Nat → Queue
  | .head, v => { q with head := v }
  | .next e, v => { q with next := fun x => if x = e then v else q.next x }

@[simp] theorem read_write_self (q : Queue) (s : Slot) (v : Option Nat) : (q.write s v).read s = v := by
  cases s <;> simp [read, write]

@[simp] theorem read_write_of_ne (q : Queue) {s s' : Slot} (v : Option Nat) (h : s' ≠ s) :
    (q.write s v).read s' = q.read s' := by
  cases s <;> cases s' <;> simp_all [read, write]

@[simp] theorem write_tail (q : Queue) (s : Slot) (v : Option Nat) : (q.write s v).tail = q.tail := by
  cases s <;> rfl

@[simp] theorem read_next (q : Queue) (e : Nat) : q.read (.next e) = q.next e := rfl

@[simp] theorem read_setTail (q : Queue) (t s : Slot) : ({ q with tail := t } : Queue).read s = q.read s := by
  cases s <;> rfl

end Queue

/-- Modelled from the spec: `queue_put_nolock` is absent.  It appends `e`:
`e->next = NULL; *q->tail = e; q->tail = &e->next`. -/
def queuePutNolock (q : Queue) (e : Nat) : Queue :=
  { (q.write (.next e) none).write q.tail (some e) with tail := .next e }

/-- `queue_put`: `queue_put_nolock` under `q->lock`, which makes the call atomic. -/
def queuePut (q : Queue) (e : Nat) : Queue := queuePutNolock q e

/-- `queue_get`, atomic under `q->lock`.  `q->tail == e` compares the tail slot with an element
pointer: it holds when `e` is an element whose `next` slot is the tail. -/
def queueGet (q : Queue) : Option Nat × Queue :=
  let e := q.head
  let q := match e with
    | some x => { q with head := q.next x }
    | none => q
  let q := if some q.tail = e.map Slot.next then { q with tail := .head } else q
  (e, q)

/-- What a put leaves in each slot: `e` in the old tail slot, `NULL` in `e`'s own slot. -/
theorem queuePutNolock_read (q : Queue) (e : Nat) (s : Slot) :
    (queuePutNolock q e).read s = if s = q.tail then some e else if s = .next e then none else q.read s := by
  unfold queuePutNolock
  rw [Queue.read_setTail]
  split_ifs with h₁ h₂
  · rw [h₁, Queue.read_write_self]
  · rw [Queue.read_write_of_ne _ _ h₁, h₂, Queue.read_write_self]
  · rw [Queue.read_write_of_ne _ _ h₁, Queue.read_write_of_ne _ _ h₂]

/-! ## Representation -/

/-- The chain of `next` slots from `s` lists `l` and ends at `NULL`. -/
def Chain (q : Queue) (s : Slot) : List Nat → Prop
  | [] => q.read s = none
  | x :: l => q.read s = some x ∧ Chain q (.next x) l

/-- The last slot of the chain from `s` through `l`. -/
def lastSlot (s : Slot) : List Nat → Slot
  | [] => s
  | x :: l => lastSlot (.next x) l

/-- `q` represents the FIFO list `l`. -/
structure Represents (q : Queue) (l : List Nat) : Prop where
  chain : Chain q .head l
  tail : q.tail = lastSlot .head l
  nodup : l.Nodup

theorem lastSlot_of_cons (x : Nat) (l : List Nat) : ∃ z ∈ x :: l, lastSlot (.next x) l = .next z := by
  induction l generalizing x with
  | nil => exact ⟨x, List.mem_singleton_self x, rfl⟩
  | cons y l ih =>
    obtain ⟨z, hz, h⟩ := ih y
    exact ⟨z, List.mem_cons_of_mem x hz, h⟩

theorem lastSlot_append (s : Slot) (l : List Nat) (e : Nat) : lastSlot s (l ++ [e]) = .next e := by
  induction l generalizing s with
  | nil => rfl
  | cons x l ih => exact ih _

/-- A chain through `next` slots reads no other field of the queue. -/
theorem Chain.of_next {q q' : Queue} {x : Nat} {l : List Nat} (hc : Chain q (.next x) l) (h : q'.next = q.next) :
    Chain q' (.next x) l := by
  induction l generalizing x with
  | nil => simpa [Chain, h] using hc
  | cons y l ih => exact ⟨by simpa [h] using hc.1, ih hc.2⟩

/-- A put extends the chain from `s` by `e`, when `e` and `s` are outside the chain after `s`. -/
theorem Chain.put {q : Queue} {e : Nat} {l : List Nat} {s : Slot} (hc : Chain q s l) (ht : q.tail = lastSlot s l)
    (hse : s ≠ .next e) (hs : ∀ y, s = .next y → y ∉ l) (hl : l.Nodup) (he : e ∉ l) :
    Chain (queuePutNolock q e) s (l ++ [e]) := by
  induction l generalizing s with
  | nil =>
    have hte : Slot.next e ≠ q.tail := ht ▸ hse.symm
    constructor
    · rw [queuePutNolock_read, if_pos (show s = q.tail from ht.symm)]
    · show (queuePutNolock q e).read (.next e) = none
      rw [queuePutNolock_read, if_neg hte, if_pos rfl]
  | cons x l ih =>
    obtain ⟨z, hz, hlast⟩ := lastSlot_of_cons x l
    have hst : s ≠ q.tail := by
      rintro rfl
      exact hs z (ht.trans hlast) hz
    have hxe : x ≠ e := fun h => he (h ▸ List.mem_cons_self x l)
    refine ⟨by simp [queuePutNolock_read, hst, hse, hc.1], ih hc.2 ht (by simpa using hxe) ?_ hl.of_cons
      (fun h => he (List.mem_cons_of_mem x h))⟩
    rintro y ⟨⟩
    exact (List.nodup_cons.mp hl).1

/-- **`queue_put` keeps the representation**, the list gaining `e` at its end. -/
theorem queuePutNolock_represents {q : Queue} {l : List Nat} {e : Nat} (h : Represents q l) (he : e ∉ l) :
    Represents (queuePutNolock q e) (l ++ [e]) where
  chain := h.chain.put h.tail nofun nofun h.nodup he
  tail := (lastSlot_append _ l e).symm
  nodup := h.nodup.append (List.nodup_singleton e) (List.disjoint_singleton.mpr he)

/-- **`queue_get` keeps the representation**: it returns the oldest element, or `NULL` on the
empty queue, and the list loses it.  When it takes the last element, the tail slot is that
element's and `q->tail == e` resets it to `&q->head`. -/
theorem queueGet_represents {q : Queue} {l : List Nat} (h : Represents q l) :
    (queueGet q).1 = l.head? ∧ Represents (queueGet q).2 l.tail := by
  obtain ⟨hc, ht, hl⟩ := h
  cases l with
  | nil =>
    have hh : q.head = none := hc
    simpa [queueGet, hh] using ⟨hc, ht, hl⟩
  | cons x l =>
    obtain ⟨hh, hc⟩ := hc
    replace hh : q.head = some x := hh
    cases l with
    | nil =>
      have ht : q.tail = .next x := ht
      simp only [queueGet, hh, ht, Option.map_some', if_true, List.head?_cons, List.tail_cons, true_and]
      exact ⟨hc, rfl, List.nodup_nil⟩
    | cons y l =>
      obtain ⟨z, hz, hlast⟩ := lastSlot_of_cons y l
      have hzx : z ≠ x := fun h => (List.nodup_cons.mp hl).1 (h ▸ hz)
      have ht' : q.tail = .next z := ht.trans hlast
      simp only [queueGet, hh, ht', Option.map_some', Option.some.injEq, Slot.next.injEq, hzx, if_false,
        List.head?_cons, List.tail_cons, true_and]
      exact ⟨⟨hc.1, hc.2.of_next (by rfl)⟩, hlast.symm, hl.of_cons⟩

/-! ## Runs -/

/-- A call on the queue, from any thread. -/
inductive QueueOp
  | put (e : Nat)
  | get
  deriving DecidableEq, Repr

/-- A run of calls: what the `queue_get` calls return, and the queue after. -/
def queueRun : Queue → List QueueOp → List (Option Nat) × Queue
  | q, [] => ([], q)
  | q, .put e :: ops => queueRun (queuePut q e) ops
  | q, .get :: ops =>
    let s := queueRun (queueGet q).2 ops
    ((queueGet q).1 :: s.1, s.2)

/-- The FIFO list: what the `get` calls return, and the list after. -/
def fifoRun : List Nat → List QueueOp → List (Option Nat) × List Nat
  | l, [] => ([], l)
  | l, .put e :: ops => fifoRun (l ++ [e]) ops
  | l, .get :: ops =>
    let s := fifoRun l.tail ops
    (l.head? :: s.1, s.2)

/-- The elements a run puts, in order. -/
def puts : List QueueOp → List Nat
  | [] => []
  | .put e :: ops => e :: puts ops
  | .get :: ops => puts ops

/-- No call of the run puts an element already queued. -/
def Admissible : List Nat → List QueueOp → Prop
  | _, [] => True
  | l, .put e :: ops => e ∉ l ∧ Admissible (l ++ [e]) ops
  | l, .get :: ops => Admissible l.tail ops

instance Admissible.decidable : (l : List Nat) → (ops : List QueueOp) → Decidable (Admissible l ops)
  | _, [] => isTrue trivial
  | l, .put e :: ops => @instDecidableAnd _ _ _ (Admissible.decidable (l ++ [e]) ops)
  | l, .get :: ops => Admissible.decidable l.tail ops

theorem Admissible.take {l : List Nat} {ops : List QueueOp} (h : Admissible l ops) (k : Nat) :
    Admissible l (ops.take k) := by
  induction ops generalizing l k with
  | nil => simp [Admissible]
  | cons op ops ih =>
    cases k with
    | zero => trivial
    | succ k =>
      cases op with
      | put e => exact ⟨h.1, ih h.2 k⟩
      | get => exact ih h k

/-- The FIFO loses, duplicates and reorders nothing: what the gets return, followed by what is
left, is what was queued followed by what was put. -/
theorem fifoRun_conserves (l : List Nat) (ops : List QueueOp) :
    (fifoRun l ops).1.reduceOption ++ (fifoRun l ops).2 = l ++ puts ops := by
  induction ops generalizing l with
  | nil => simp [fifoRun, puts, List.reduceOption_nil]
  | cons op ops ih =>
    cases op with
    | put e => simp [fifoRun, puts, ih]
    | get => cases l <;> simp [fifoRun, puts, ih, List.reduceOption_cons_of_none, List.reduceOption_cons_of_some]

/-- Along every admissible run the queue represents the FIFO list, and every `queue_get` returns
what the FIFO returns. -/
theorem queueRun_represents (ops : List QueueOp) :
    ∀ {q : Queue} {l : List Nat}, Represents q l → Admissible l ops →
      (queueRun q ops).1 = (fifoRun l ops).1 ∧ Represents (queueRun q ops).2 (fifoRun l ops).2 := by
  induction ops with
  | nil => exact fun h _ => ⟨rfl, h⟩
  | cons op ops ih =>
    intro q l h ha
    cases op with
    | put e => exact ih (queuePutNolock_represents h ha.1) ha.2
    | get =>
      obtain ⟨hr, hq⟩ := queueGet_represents h
      obtain ⟨h₁, h₂⟩ := ih hq ha
      exact ⟨by simp only [queueRun, fifoRun, hr, h₁], h₂⟩

/-- **The intrusive queue is a FIFO.**  From the empty queue (`head = NULL`, `tail = &head`, the
elements' `next` fields anything), along every sequence of `queue_put` and `queue_get` calls that
never puts an element already queued: after every call the chain from `head` lists the queued
elements in insertion order and ends at `NULL`, and `tail` is the last element's `next` slot or
`&head`; every `queue_get` returns the oldest element put and not yet got, `NULL` when there is
none; and the elements got, followed by those still queued, are the elements put, in order. -/
theorem queue_fifo (q : Queue) (ops : List QueueOp) (hh : q.head = none) (ht : q.tail = .head)
    (hops : Admissible [] ops) :
    (∀ k, Represents (queueRun q (ops.take k)).2 (fifoRun [] (ops.take k)).2) ∧
      (queueRun q ops).1 = (fifoRun [] ops).1 ∧ (queueRun q ops).1.reduceOption ++ (fifoRun [] ops).2 = puts ops := by
  have h₀ : Represents q [] := ⟨hh, ht, List.nodup_nil⟩
  obtain ⟨hout, -⟩ := queueRun_represents ops h₀ hops
  refine ⟨fun k => (queueRun_represents _ h₀ (hops.take k)).2, hout, ?_⟩
  rw [hout, fifoRun_conserves, List.nil_append]

theorem queue_fifo_drain_refill :
    let q : Queue := ⟨none, fun x => some (x + 1), .head⟩
    let ops : List QueueOp := [.put 1, .put 2, .get, .get, .get, .put 3, .put 1, .get]
    (q.head = none ∧ q.tail = .head ∧ Admissible [] ops) ∧
      ((∀ k, Represents (queueRun q (ops.take k)).2 (fifoRun [] (ops.take k)).2) ∧
        (queueRun q ops).1 = (fifoRun [] ops).1 ∧ (queueRun q ops).1.reduceOption ++ (fifoRun [] ops).2 = puts ops) := by
  intro q ops
  exact ⟨⟨rfl, rfl, by decide⟩, queue_fifo q ops rfl rfl (by decide)⟩

example : (queueRun ⟨none, fun _ => none, .head⟩ [.put 1, .put 2, .get, .put 3, .get, .get, .get]).1 =
    [some 1, some 2, some 3, none] := by
  decide

end OpenSDG
