import OpenSDG.Wire
import Mathlib.Data.List.GetD

/-!
# The sample client's command line

The sample client at the end of `tunnel_protocol.c` reads a line with `fgets` into a 256-byte
buffer and takes the line's first word with `getWord`.  `getWord` scans from the cursor to the
terminating NUL.  At the first blank it writes a NUL over it, skips the blanks after it, and
leaves the cursor on the next word.  `main` compares that word with `help` and `quit`.

The buffer is a list of bytes whose bytes past its end read as NUL.  The two loops of `getWord`
are `skipSpaces` and `getWordScan`, each recursive on the distance to the end of the buffer.
`fgetsLine` is what one `fgets` call takes from standard input, and `fgets` writes it into the
buffer, or, at the end of input, returns `NULL` and leaves the buffer as it was.  `main` never
checks that `NULL`: its `for (;;)` loop only ends on `quit`.  `consoleLoop` is that loop over its
first `n` turns.

* `cString_getWord`: for every buffer and cursor, the word `getWord` returns is the longest run
  of bytes at the cursor holding no NUL and no blank.
* `getWords_renders`: the round trip.  On a line of words separated by blanks (`Renders`),
  successive `getWord` calls return the words in order.
* `console_quits_iff`: the console leaves its loop exactly on a line that starts with `quit`
  followed by a blank, the end of the line, or nothing.
* `consoleLoop_answers_lines`: over any number of turns, the console answers the lines `fgets`
  reads, in order, and then, once the input has ended, the last of them again on every turn,
  since `getWord` leaves the buffer holding the same first word (`consoleCommand_getWord`); all up
  to the first `quit`.
* `console_quits_on_long_line_tail`: `fgets` cuts a line longer than the buffer, and the next turn
  reads its tail as a command of its own.
-/

set_option autoImplicit false

namespace OpenSDG

/-- `isspace` in the C locale: the space and `\t`, `\n`, `\v`, `\f`, `\r`. -/
def isspace (b : UInt8) : Bool := b == 32 || (9 ≤ b && b ≤ 13)

/-- A byte that continues a word: neither the terminating NUL nor a blank. -/
def wordByte (b : UInt8) : Bool := b != 0 && !isspace b

theorem ne_zero_of_wordByte {b : UInt8} (h : wordByte b = true) : (b != 0) = true := by
  simp only [wordByte, Bool.and_eq_true] at h; exact h.1

theorem lt_length_of_getD_ne {buf : Bytes} {i : Nat} (h : buf.getD i 0 ≠ 0) : i < buf.length := by
  by_contra hi
  exact h (List.getD_eq_default _ _ (Nat.le_of_not_lt hi))

theorem lt_length_of_isspace {buf : Bytes} {i : Nat} (h : isspace (buf.getD i 0) = true) : i < buf.length :=
  lt_length_of_getD_ne fun h0 => by rw [h0] at h; exact absurd h (by decide)

/-- `while (isspace(*end)) end++;` over the buffer `buf`, whose bytes past its end read as
NUL. -/
def skipSpaces (buf : Bytes) (i : Nat) : Nat :=
  if h : isspace (buf.getD i 0) then skipSpaces buf (i + 1) else i
termination_by buf.length - i
decreasing_by have := lt_length_of_isspace h; omega

/-- The loop of `getWord`: scan from `end` to the terminating NUL; at the first blank, write a
NUL over it and skip the blanks after it. -/
def getWordScan (buf : Bytes) (i : Nat) : Bytes × Nat :=
  if h : buf.getD i 0 = 0 then (buf, i)
  else if isspace (buf.getD i 0) then (buf.set i 0, skipSpaces (buf.set i 0) (i + 1))
  else getWordScan buf (i + 1)
termination_by buf.length - i
decreasing_by have := lt_length_of_getD_ne h; omega

/-- `getWord(&p)`: the word starts at the cursor `p`; the call returns it with the buffer and
the cursor `*p` it leaves. -/
def getWord (buf : Bytes) (p : Nat) : Nat × Bytes × Nat := (p, getWordScan buf p)

/-- The C string at `i`: the bytes up to the first NUL. -/
def cString (buf : Bytes) (i : Nat) : Bytes := (buf.drop i).takeWhile (· != 0)

/-! ## The two loops over a word and a blank run -/

/-- The byte at `i` is the first of what lies from `i` on. -/
theorem getD_eq_headD {buf r : Bytes} {i : Nat} (h : buf.drop i = r) : buf.getD i 0 = r.headD 0 := by
  rw [← h, List.getD_eq_getElem?_getD, List.headD_eq_head?_getD, List.head?_drop]

theorem skipSpaces_append (buf : Bytes) {g r : Bytes} (i : Nat) (hbuf : buf.drop i = g ++ r)
    (hg : ∀ b ∈ g, isspace b = true) (hr : isspace (r.headD 0) = false) : skipSpaces buf i = i + g.length := by
  induction g generalizing i with
  | nil =>
    unfold skipSpaces
    rw [dif_neg (by rw [getD_eq_headD hbuf, List.nil_append, hr]; exact Bool.false_ne_true), List.length_nil,
      Nat.add_zero]
  | cons b g ih =>
    have hb : buf.getD i 0 = b := getD_eq_headD hbuf
    unfold skipSpaces
    rw [dif_pos (by rw [hb]; exact hg b (List.mem_cons_self _ _)),
      ih (i + 1) (by rw [← List.drop_drop, hbuf]; rfl) fun x hx => hg x (List.mem_cons_of_mem _ hx)]
    simp; omega

theorem getWordScan_append (buf : Bytes) {w r : Bytes} (i : Nat) (hbuf : buf.drop i = w ++ r)
    (hw : ∀ b ∈ w, wordByte b = true) : getWordScan buf i = getWordScan buf (i + w.length) := by
  induction w generalizing i with
  | nil => rfl
  | cons b w ih =>
    have hb : buf.getD i 0 = b := getD_eq_headD hbuf
    have hwb := hw b (List.mem_cons_self _ _)
    simp only [wordByte, Bool.and_eq_true, bne_iff_ne, ne_eq, Bool.not_eq_true'] at hwb
    rw [getWordScan, dif_neg (by rw [hb]; exact hwb.1), if_neg (by rw [hb, hwb.2]; exact Bool.false_ne_true),
      ih (i + 1) (by rw [← List.drop_drop, hbuf]; rfl) fun x hx => hw x (List.mem_cons_of_mem _ hx)]
    simp only [List.length_cons]; congr 1; omega

/-- The scan at the terminating NUL, or past the buffer, stops there. -/
theorem getWordScan_nul (buf : Bytes) {r : Bytes} (i : Nat) (hbuf : buf.drop i = r) (hr : r.headD 0 = 0) :
    getWordScan buf i = (buf, i) := by
  rw [getWordScan, dif_pos ((getD_eq_headD hbuf).trans hr)]

/-- The scan at a blank writes a NUL over it and skips the blanks after it. -/
theorem getWordScan_blank (buf : Bytes) {s : UInt8} {r : Bytes} (i : Nat) (hbuf : buf.drop i = s :: r)
    (hs : isspace s = true) : getWordScan buf i = (buf.set i 0, skipSpaces (buf.set i 0) (i + 1)) := by
  have hb : buf.getD i 0 = s := getD_eq_headD hbuf
  rw [getWordScan, dif_neg (by rw [hb]; rintro rfl; exact absurd hs (by decide)), if_pos (by rw [hb, hs])]

/-! ## The word `getWord` returns -/

/-- A run of word bytes followed by what cannot continue it is the run of word bytes. -/
theorem takeWhile_wordByte_iff {l w : Bytes} :
    l.takeWhile wordByte = w ↔ ∃ r, l = w ++ r ∧ (∀ b ∈ w, wordByte b = true) ∧ wordByte (r.headD 0) = false := by
  constructor
  · rintro rfl
    refine ⟨l.dropWhile wordByte, (List.takeWhile_append_dropWhile _ _).symm, fun b hb => List.mem_takeWhile_imp hb, ?_⟩
    cases h : l.dropWhile wordByte with
    | nil => rfl
    | cons b r => simpa [h] using List.head_dropWhile_not wordByte l (by simp [h])
  · rintro ⟨r, rfl, hw, hr⟩
    rw [List.takeWhile_append_of_pos hw]
    cases r with
    | nil => simp
    | cons b r => simp only [List.headD_cons] at hr; simp [hr]

/-- A run of bytes that `q` keeps, then a NUL or nothing, where `q` stops at NUL: the run is what
`takeWhile q` keeps. -/
theorem takeWhile_append_nul {q : UInt8 → Bool} (hq : q 0 = false) {w r : Bytes} (hw : ∀ b ∈ w, q b = true)
    (hr : r.headD 0 = 0) : (w ++ r).takeWhile q = w := by
  rw [List.takeWhile_append_of_pos hw]
  cases r with
  | nil => simp
  | cons b r => simp only [List.headD_cons] at hr; simp [hr, hq]

/-- What `getWord` leaves from the cursor on: the word, then a NUL (the one it wrote over a blank,
or the terminating one) or the end of the buffer. -/
theorem getWord_drop (buf : Bytes) (p : Nat) :
    ∃ r, (getWord buf p).2.1.drop p = (buf.drop p).takeWhile wordByte ++ r ∧ r.headD 0 = 0 := by
  have hsplit := (List.takeWhile_append_dropWhile wordByte (buf.drop p)).symm
  have hw : ∀ b ∈ (buf.drop p).takeWhile wordByte, wordByte b = true := fun b hb => List.mem_takeWhile_imp hb
  have hr : ∀ b r', (buf.drop p).dropWhile wordByte = b :: r' → wordByte b = false := fun b r' h => by
    simpa [h] using List.head_dropWhile_not wordByte (buf.drop p) (by simp [h])
  generalize (buf.drop p).takeWhile wordByte = w at hsplit hw ⊢
  generalize (buf.drop p).dropWhile wordByte = r at hsplit hr
  have hdrop : buf.drop (p + w.length) = r := by rw [← List.drop_drop, hsplit, List.drop_left]
  rw [getWord, getWordScan_append buf p hsplit hw]
  cases r with
  | nil => rw [getWordScan_nul buf _ hdrop rfl]; exact ⟨[], hsplit, rfl⟩
  | cons b r =>
    have hb := hr b r rfl
    simp only [wordByte, Bool.and_eq_false_iff, bne_eq_false_iff_eq, Bool.not_eq_false'] at hb
    rcases hb with rfl | hs
    · rw [getWordScan_nul buf _ hdrop rfl]; exact ⟨_, hsplit, rfl⟩
    · rw [getWordScan_blank buf _ hdrop hs]
      refine ⟨0 :: r, ?_, rfl⟩
      rw [← List.set_drop, hsplit, List.set_append_right _ _ le_rfl, Nat.sub_self, List.set_cons_zero]

/-- **The first word of `getWord`.**  For every buffer and cursor, the C string `getWord`
returns is the longest run of bytes at the cursor that holds no NUL and no blank: empty when
the cursor stands on a blank. -/
theorem cString_getWord (buf : Bytes) (p : Nat) :
    cString (getWord buf p).2.1 (getWord buf p).1 = (buf.drop p).takeWhile wordByte := by
  obtain ⟨r, hd, hr⟩ := getWord_drop buf p
  rw [show (getWord buf p).1 = p from rfl, cString, hd]
  exact takeWhile_append_nul rfl (fun b hb => ne_zero_of_wordByte (List.mem_takeWhile_imp hb)) hr

/-! ## Successive words -/

/-- Successive `getWord` calls on one cursor, as a command with arguments would read its words
(`connect [peer Id]`). -/
def getWords : Nat → Bytes → Nat → List Bytes
  | 0, _, _ => []
  | k + 1, buf, p =>
    let r := getWord buf p
    cString r.2.1 r.1 :: getWords k r.2.1 r.2.2

/-- `line` holds the words `ws`, none of them empty: the first at its start, each separated from
the next by a run of blanks, the last followed by blanks or by nothing. -/
inductive Renders : List Bytes → Bytes → Prop
  | last {w g : Bytes} (hw : w ≠ [] ∧ ∀ b ∈ w, wordByte b = true) (hg : ∀ b ∈ g, isspace b = true) :
      Renders [w] (w ++ g)
  | cons {w g line : Bytes} {ws : List Bytes} (hw : w ≠ [] ∧ ∀ b ∈ w, wordByte b = true)
      (hg : g ≠ [] ∧ ∀ b ∈ g, isspace b = true) (h : Renders ws line) : Renders (w :: ws) (w ++ g ++ line)

/-- A rendered line starts with a word byte. -/
theorem Renders.head {ws : List Bytes} {line : Bytes} (h : Renders ws line) : ∃ b r, line = b :: r ∧ wordByte b = true := by
  cases h with
  | last hw _ | cons hw _ _ =>
    obtain ⟨b, w, rfl⟩ := List.exists_cons_of_ne_nil hw.1
    exact ⟨b, _, rfl, hw.2 b (List.mem_cons_self _ _)⟩

theorem isspace_of_wordByte {b : UInt8} (h : wordByte b = true) : isspace b = false := by
  simp only [wordByte, Bool.and_eq_true, Bool.not_eq_true'] at h; exact h.2

theorem wordByte_of_isspace {b : UInt8} (h : isspace b = true) : wordByte b = false := by
  simp [wordByte, h]

/-- **`getWord` reads back the words of a line.**  In a buffer holding, at the cursor, a line of
words separated by blanks and then its terminating NUL, successive `getWord` calls return the
words, in order. -/
theorem getWords_renders {ws : List Bytes} {line : Bytes} (h : Renders ws line) :
    ∀ (buf : Bytes) (p : Nat) (tail : Bytes), buf.drop p = line ++ 0 :: tail → getWords ws.length buf p = ws := by
  induction h with
  | @last w g hw hg =>
    intro buf p tail hbuf
    have hfirst := cString_getWord buf p
    rw [hbuf, takeWhile_wordByte_iff.mpr ⟨g ++ 0 :: tail, by simp, hw.2, ?_⟩] at hfirst
    · simp only [List.length_singleton, getWords, hfirst]
    · cases g with
      | nil => rfl
      | cons s g => exact wordByte_of_isspace (hg s (List.mem_cons_self _ _))
  | @cons w g line ws hw hg hr ih =>
    intro buf p tail hbuf
    obtain ⟨s, g, rfl⟩ := List.exists_cons_of_ne_nil hg.1
    obtain ⟨b, r, hline, hb⟩ := hr.head
    have hs : isspace s = true := hg.2 s (List.mem_cons_self _ _)
    have hfirst := cString_getWord buf p
    rw [hbuf, takeWhile_wordByte_iff.mpr ⟨s :: g ++ line ++ 0 :: tail, by simp, hw.2, wordByte_of_isspace hs⟩] at hfirst
    have hat : buf.drop (p + w.length) = s :: (g ++ (line ++ 0 :: tail)) := by
      rw [← List.drop_drop, hbuf]; simp
    have hafter : buf.drop (p + w.length + 1) = g ++ (line ++ 0 :: tail) := by rw [← List.drop_drop, hat]; rfl
    have hscan := @getWordScan_append buf w (s :: (g ++ (line ++ 0 :: tail))) p (by rw [hbuf]; simp) hw.2
    rw [getWordScan_blank buf (p + w.length) hat hs] at hscan
    have hskip : skipSpaces (buf.set (p + w.length) 0) (p + w.length + 1) = p + w.length + 1 + g.length :=
      skipSpaces_append _ _ (by rw [List.drop_set_of_lt _ _ (by omega), hafter])
        (fun x hx => hg.2 x (List.mem_cons_of_mem _ hx)) (by rw [hline]; exact isspace_of_wordByte hb)
    have hcall : getWord buf p = (p, buf.set (p + w.length) 0, p + w.length + 1 + g.length) := by
      rw [getWord, hscan, hskip]
    have hnext : (buf.set (p + w.length) 0).drop (p + w.length + 1 + g.length) = line ++ 0 :: tail := by
      rw [List.drop_set_of_lt _ _ (by omega), ← List.drop_drop, hafter, List.drop_left]
    show cString (getWord buf p).2.1 (getWord buf p).1 :: getWords ws.length (getWord buf p).2.1 (getWord buf p).2.2 = w :: ws
    rw [hfirst, hcall, ih _ _ tail hnext]

theorem getWords_connect_command :
    getWords 2 (ascii "connect" ++ 32 :: ascii "42" ++ [10, 0]) 0 = [ascii "connect", ascii "42"] := by
  have h : Renders [ascii "connect", ascii "42"] (ascii "connect" ++ [32] ++ (ascii "42" ++ [10])) :=
    .cons ⟨by decide, by decide⟩ ⟨by decide, by decide⟩ (.last ⟨by decide, by decide⟩ (by decide))
  exact getWords_renders h _ 0 [] (by decide)

/-! ## The console of the sample client -/

/-- What the sample client's console does with a line. -/
inductive ConsoleReply
  | help
  | quit
  | unknown (cmd : Bytes)
  deriving DecidableEq, Repr

/-- One turn of the console loop of `main`, on the buffer `fgets` filled: the first word is
compared with `help` (print the help) and `quit` (leave the loop); any other word is printed
as an unknown command. -/
def consoleCommand (buffer : Bytes) : ConsoleReply :=
  let r := getWord buffer 0
  let cmd := cString r.2.1 r.1
  if cmd = ascii "help" then .help else if cmd = ascii "quit" then .quit else .unknown cmd

/-- The console answers the line's longest prefix of word bytes. -/
theorem consoleCommand_eq (buffer : Bytes) : consoleCommand buffer =
    if buffer.takeWhile wordByte = ascii "help" then .help
    else if buffer.takeWhile wordByte = ascii "quit" then .quit else .unknown (buffer.takeWhile wordByte) := by
  have h := cString_getWord buffer 0
  rw [List.drop_zero] at h
  rw [consoleCommand, h]

example : consoleCommand (ascii "help" ++ [10, 0]) = .help := by rw [consoleCommand_eq]; decide
example : consoleCommand (ascii " quit" ++ [10, 0]) = .unknown [] := by rw [consoleCommand_eq]; decide

/-- **When the console quits.**  The loop ends exactly on a line that starts with `quit` followed
by a blank, the end of the line or nothing: a blank before it, or any other byte after it, makes
an unknown command. -/
theorem console_quits_iff (buffer : Bytes) :
    consoleCommand buffer = .quit ↔ ∃ r, buffer = ascii "quit" ++ r ∧ wordByte (r.headD 0) = false := by
  have hq : ∀ b ∈ ascii "quit", wordByte b = true := by decide
  rw [consoleCommand_eq]
  split_ifs with h₁ h₂
  · exact iff_of_false nofun fun ⟨r, hr, hn⟩ =>
      absurd (h₁.symm.trans (takeWhile_wordByte_iff.mpr ⟨r, hr, hq, hn⟩)) (by decide)
  · exact iff_of_true rfl (let ⟨r, hr, _, hn⟩ := takeWhile_wordByte_iff.mp h₂; ⟨r, hr, hn⟩)
  · exact iff_of_false nofun fun ⟨r, hr, hn⟩ => h₂ (takeWhile_wordByte_iff.mpr ⟨r, hr, hq, hn⟩)

/-! ## The console loop over standard input -/

/-- What `fgets(buffer, n + 1, stdin)` of the C library takes from the bytes left on standard
input: at most `n` bytes, up to and including the first newline. -/
def fgetsLine : Nat → Bytes → Bytes
  | 0, _ => []
  | _, [] => []
  | n + 1, b :: bs => if b = 10 then [10] else b :: fgetsLine n bs

/-- `fgets` takes a prefix of the input. -/
theorem fgetsLine_append_drop : ∀ (n : Nat) (s : Bytes), fgetsLine n s ++ s.drop (fgetsLine n s).length = s
  | 0, _ => by simp [fgetsLine]
  | _ + 1, [] => rfl
  | n + 1, b :: bs => by
    unfold fgetsLine
    split_ifs with h
    · simp [h]
    · simp [fgetsLine_append_drop n bs]

/-- Before the end of input `fgets` takes at least one byte. -/
theorem fgetsLine_ne_nil {n : Nat} {s : Bytes} (hn : 0 < n) (hs : s ≠ []) : fgetsLine n s ≠ [] := by
  obtain ⟨n, rfl⟩ := Nat.exists_eq_succ_of_ne_zero (Nat.pos_iff_ne_zero.mp hn)
  obtain ⟨b, bs, rfl⟩ := List.exists_cons_of_ne_nil hs
  unfold fgetsLine
  split_ifs <;> exact List.cons_ne_nil _ _

theorem length_drop_fgetsLine_lt {s : Bytes} (hs : s ≠ []) : (s.drop (fgetsLine 255 s).length).length < s.length := by
  have h := List.length_pos.mpr (@fgetsLine_ne_nil 255 s (by decide) hs)
  have h' := congrArg List.length (fgetsLine_append_drop 255 s)
  rw [List.length_append] at h'
  omega

/-- A run of bytes without a newline as long as the buffer fills it. -/
theorem fgetsLine_full : ∀ (w rest : Bytes), 10 ∉ w → fgetsLine w.length (w ++ rest) = w
  | [], _, _ => by cases ‹Bytes› <;> rfl
  | b :: w, rest, hw => by
    rw [List.mem_cons, not_or] at hw
    rw [List.length_cons, List.cons_append, fgetsLine, if_neg (Ne.symm hw.1), fgetsLine_full w rest hw.2]

/-- A line that fits is taken whole, with its newline. -/
theorem fgetsLine_newline : ∀ (n : Nat) (w rest : Bytes), w.length < n → 10 ∉ w → fgetsLine n (w ++ 10 :: rest) = w ++ [10]
  | n + 1, [], _, _, _ => by simp [fgetsLine]
  | n + 1, b :: w, rest, hn, hw => by
    rw [List.mem_cons, not_or] at hw
    rw [List.cons_append, fgetsLine, if_neg (Ne.symm hw.1),
      fgetsLine_newline n w rest (by simp at hn; omega) hw.2, List.cons_append]

/-- The lines `fgets` reads one after another into the 256-byte buffer of `main`, to the end
of standard input. -/
def fgetsLines (input : Bytes) : List Bytes :=
  if input = [] then []
  else fgetsLine 255 input :: fgetsLines (input.drop (fgetsLine 255 input).length)
termination_by input.length
decreasing_by exact length_drop_fgetsLine_lt ‹_›

@[simp] theorem fgetsLines_nil : fgetsLines [] = [] := by rw [fgetsLines, if_pos rfl]

theorem fgetsLines_of_ne_nil {input : Bytes} (h : input ≠ []) :
    fgetsLines input = fgetsLine 255 input :: fgetsLines (input.drop (fgetsLine 255 input).length) := by
  rw [fgetsLines, if_neg h]

/-- `fgets(buffer, sizeof(buffer), stdin)` on the bytes left on standard input and the buffer:
it reads what `fgetsLine` takes into the start of the buffer and ends it with a NUL, the rest of
the buffer keeping what it held.  At the end of input it returns `NULL` and leaves the buffer as it
was.  It gives the bytes left on standard input and the buffer. -/
def fgets (input buffer : Bytes) : Bytes × Bytes :=
  if input = [] then ([], buffer)
  else
    let line := fgetsLine 255 input
    (input.drop line.length, line ++ 0 :: buffer.drop (line.length + 1))

@[simp] theorem fgets_nil (buffer : Bytes) : fgets [] buffer = ([], buffer) := if_pos rfl

theorem fgets_of_ne_nil {input : Bytes} (buffer : Bytes) (h : input ≠ []) :
    fgets input buffer = (input.drop (fgetsLine 255 input).length,
      fgetsLine 255 input ++ 0 :: buffer.drop ((fgetsLine 255 input).length + 1)) := if_neg h

/-- The `for (;;)` loop of `main`, over its first `n` turns, from the bytes left on standard input
and the buffer as the turn before left it: `char buffer[256]` is not initialised, so what it holds
at the first turn is a parameter.  Each turn `fgets` fills the buffer, `getWord` takes the first
word, writing a NUL after it, and the word is answered; `quit` leaves the loop.  `main` does not
check what `fgets` returns, so once the input has ended every turn answers the buffer again.  The
loop returns its replies and whether it left on `quit`. -/
def consoleLoop : Nat → Bytes → Bytes → List ConsoleReply × Bool
  | 0, _, _ => ([], false)
  | n + 1, input, buffer =>
    let s := fgets input buffer
    let r := consoleCommand s.2
    if r = .quit then ([.quit], true)
    else
      let rest := consoleLoop n s.1 (getWord s.2 0).2.1
      (r :: rest.1, rest.2)

/-- The replies the console shows for a stream of answers: the answers up to and including the
first `quit`, and whether there is one. -/
def untilQuit (answers : List ConsoleReply) : List ConsoleReply × Bool :=
  (if .quit ∈ answers then answers.takeWhile (· != .quit) ++ [.quit] else answers, decide (.quit ∈ answers))

theorem untilQuit_cons (r : ConsoleReply) (rs : List ConsoleReply) :
    untilQuit (r :: rs) = if r = .quit then ([.quit], true) else (r :: (untilQuit rs).1, (untilQuit rs).2) := by
  by_cases hq : r = .quit
  · simp [untilQuit, hq]
  · by_cases hm : ConsoleReply.quit ∈ rs <;> simp [untilQuit, hq, hm, Ne.symm hq]

/-- A NUL ends the first word: what the buffer holds past it is not read. -/
theorem takeWhile_wordByte_nul (line junk : Bytes) : (line ++ 0 :: junk).takeWhile wordByte = line.takeWhile wordByte := by
  induction line with
  | nil => rfl
  | cons b line ih => simp only [List.cons_append, List.takeWhile_cons, ih]

/-- The turn after `fgets` answers the line it read, whatever the buffer held past it. -/
theorem consoleCommand_line (line junk : Bytes) : consoleCommand (line ++ 0 :: junk) = consoleCommand (line ++ [0]) := by
  rw [consoleCommand_eq, consoleCommand_eq, takeWhile_wordByte_nul, takeWhile_wordByte_nul]

/-- The buffer as `getWord` leaves it holds the same first word: the NUL it writes ends that
word.  So a turn that finds the buffer unchanged gives the same answer again. -/
theorem consoleCommand_getWord (buffer : Bytes) : consoleCommand (getWord buffer 0).2.1 = consoleCommand buffer := by
  obtain ⟨r, hd, hr⟩ := getWord_drop buffer 0
  rw [List.drop_zero, List.drop_zero] at hd
  rw [consoleCommand_eq, consoleCommand_eq, hd, takeWhile_append_nul rfl (fun b hb => List.mem_takeWhile_imp hb) hr]

/-- The loop over `n` turns shows the first `n` answers of the stream made of the replies to the
lines `fgets` reads and then, once the input has ended, the answer to the stale buffer, repeated;
`m ≥ n` copies of it are as good as `n`. -/
theorem consoleLoop_untilQuit (n : Nat) : ∀ (input buffer : Bytes) (m : Nat), n ≤ m →
    let replies := (fgetsLines input).map fun line => consoleCommand (line ++ [0])
    consoleLoop n input buffer =
      untilQuit ((replies ++ List.replicate m (replies.getLast?.getD (consoleCommand buffer))).take n) := by
  induction n with
  | zero => intros; rfl
  | succ n ih =>
    intro input buffer m hm
    dsimp only at ih ⊢
    by_cases h : input = []
    · -- the end of input: `fgets` leaves the buffer, and its word is answered again
      subst h
      obtain ⟨m, rfl⟩ : ∃ m', m = m' + 1 := ⟨m - 1, by omega⟩
      have hrest := ih [] (getWord buffer 0).2.1 m (by omega)
      simp only [fgetsLines_nil, List.map_nil, List.nil_append, List.getLast?_nil, Option.getD_none,
        consoleCommand_getWord] at hrest ⊢
      rw [consoleLoop, List.replicate_succ, List.take_succ_cons, untilQuit_cons, ← hrest, fgets_nil]
    · -- a line: its reply, then the rest of the input from the buffer `getWord` left
      have hline := consoleCommand_line (fgetsLine 255 input) (buffer.drop ((fgetsLine 255 input).length + 1))
      have hrest := ih (input.drop (fgetsLine 255 input).length)
        (getWord (fgetsLine 255 input ++ 0 :: buffer.drop ((fgetsLine 255 input).length + 1)) 0).2.1 m (by omega)
      rw [consoleCommand_getWord, hline] at hrest
      rw [consoleLoop, fgets_of_ne_nil buffer h, fgetsLines_of_ne_nil h, List.map_cons, List.cons_append, List.getLast?_cons,
        Option.getD_some, List.take_succ_cons, untilQuit_cons]
      dsimp only
      rw [hline, ← hrest]

/-- **The console loop.**  Over any number of turns, the console answers the lines `fgets` reads,
in order, and then, once standard input has ended, the last of them again on every turn: `fgets`
leaves the buffer as `getWord` left it, which holds the same first word (on an empty input, the
buffer's first contents are answered).  It shows these answers up to and including the first
`quit`, and leaves its loop exactly when one of them is `quit`; so an input whose last line is not
`quit` keeps the console answering that line for ever. -/
theorem consoleLoop_answers_lines (input buffer : Bytes) (n : Nat) :
    let replies := (fgetsLines input).map fun line => consoleCommand (line ++ [0])
    consoleLoop n input buffer =
      untilQuit ((replies ++ List.replicate n (replies.getLast?.getD (consoleCommand buffer))).take n) :=
  consoleLoop_untilQuit n input buffer n le_rfl

/-- A line longer than the buffer is read in pieces: after 255 bytes with no newline, the next
turn reads what follows as a command of its own.  So a line whose 256th byte starts `quit` ends
the console within two turns, whatever its first 255 bytes are and whatever the buffer held. -/
theorem console_quits_on_long_line_tail (w rest : Bytes) (hw : w.length = 255) (hnl : 10 ∉ w) (buffer : Bytes) :
    (consoleLoop 2 (w ++ ascii "quit" ++ 10 :: rest) buffer).2 = true := by
  have hline : fgetsLine 255 (w ++ ascii "quit" ++ 10 :: rest) = w := by
    rw [← hw, List.append_assoc, fgetsLine_full _ _ hnl]
  have htail : fgetsLine 255 (ascii "quit" ++ 10 :: rest) = ascii "quit" ++ [10] :=
    fgetsLine_newline _ _ _ (by decide) (by decide)
  have hquit : consoleCommand (ascii "quit" ++ [10] ++ [0]) = .quit := by rw [consoleCommand_eq]; decide
  rw [consoleLoop, fgets_of_ne_nil buffer (by simp), hline]
  dsimp only
  split_ifs
  · rfl
  · rw [List.append_assoc, List.drop_left, consoleLoop, fgets_of_ne_nil _ (by simp), htail]
    dsimp only
    rw [consoleCommand_line, hquit, if_pos rfl]

theorem console_quits_on_long_line_tail_of_a :
    (consoleLoop 2 (List.replicate 255 97 ++ ascii "quit" ++ [10]) []).2 = true :=
  console_quits_on_long_line_tail (List.replicate 255 97) [] (List.length_replicate _ _)
    (by simp only [List.mem_replicate]; decide) []

end OpenSDG
