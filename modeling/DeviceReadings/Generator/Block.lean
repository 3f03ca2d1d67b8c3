/-!
# The keystream block

A key of eight words and a block counter give one block of sixteen words. The words are laid out
as a square of four rows (`Square`): a constant row, two rows of key, and a row with the counter.
Twelve rounds mix the square, six times a round on its columns and one on its diagonals, and the
square before the rounds is added to the one after them (`keystreamBlock`). A 64-bit seed is
stretched to a key by a small linear generator (`Key.ofSeed`).

`Square.words` lists a block in the order in which its words are handed out.
-/

namespace DeviceReadings

/-! ## Rows and squares -/

/-- A word turned left by `n` places, `0 < n < 32`. -/
def rotateLeft (w n : UInt32) : UInt32 :=
  (w <<< n) ||| (w >>> (32 - n))

/-- A word turned right by `n` places, `n < 32`. -/
def rotateRight (w n : UInt32) : UInt32 :=
  (w >>> n) ||| (w <<< (32 - n))

/-- Four words side by side. -/
structure Row where
  w0 : UInt32
  w1 : UInt32
  w2 : UInt32
  w3 : UInt32
  deriving DecidableEq, Repr

namespace Row

/-- The sum of two rows, word by word modulo `2 ^ 32`. -/
def add (x y : Row) : Row :=
  ⟨x.w0 + y.w0, x.w1 + y.w1, x.w2 + y.w2, x.w3 + y.w3⟩

/-- The exclusive or of two rows, turned left by `n` places word by word. -/
def xorRotate (x y : Row) (n : UInt32) : Row :=
  ⟨rotateLeft (x.w0 ^^^ y.w0) n, rotateLeft (x.w1 ^^^ y.w1) n,
    rotateLeft (x.w2 ^^^ y.w2) n, rotateLeft (x.w3 ^^^ y.w3) n⟩

/-- The row with its first word moved to the end. -/
def shift (x : Row) : Row :=
  ⟨x.w1, x.w2, x.w3, x.w0⟩

/-- The words of a row, left to right. -/
def words (x : Row) : List UInt32 :=
  [x.w0, x.w1, x.w2, x.w3]

end Row

/-- Sixteen words as four rows. -/
structure Square where
  r0 : Row
  r1 : Row
  r2 : Row
  r3 : Row
  deriving DecidableEq, Repr

namespace Square

/-- One round on the four columns at once. -/
def columnRound (s : Square) : Square :=
  let a := s.r0.add s.r1
  let d := s.r3.xorRotate a 16
  let c := s.r2.add d
  let b := s.r1.xorRotate c 12
  let a := a.add b
  let d := d.xorRotate a 8
  let c := c.add d
  let b := b.xorRotate c 7
  ⟨a, b, c, d⟩

/-- The diagonals of the square, moved into the columns. -/
def skew (s : Square) : Square :=
  ⟨s.r0, s.r1.shift, s.r2.shift.shift, s.r3.shift.shift.shift⟩

/-- The columns of the square, moved back into the diagonals. -/
def unskew (s : Square) : Square :=
  ⟨s.r0, s.r1.shift.shift.shift, s.r2.shift.shift, s.r3.shift⟩

/-- A round on the columns, then one on the diagonals. -/
def doubleRound (s : Square) : Square :=
  s.columnRound.skew.columnRound.unskew

/-- `n` double rounds. -/
def doubleRounds : Nat → Square → Square
  | 0, s => s
  | n + 1, s => doubleRounds n s.doubleRound

/-- The sum of two squares, word by word modulo `2 ^ 32`. -/
def add (s t : Square) : Square :=
  ⟨s.r0.add t.r0, s.r1.add t.r1, s.r2.add t.r2, s.r3.add t.r3⟩

/-- The words after the first one, row by row. -/
def laterWords (s : Square) : List UInt32 :=
  [s.r0.w1, s.r0.w2, s.r0.w3] ++ s.r1.words ++ s.r2.words ++ s.r3.words

/-- The sixteen words of a square, row by row. -/
def words (s : Square) : List UInt32 :=
  s.r0.w0 :: s.laterWords

/-- All words of a square but the first one: what a cipher stream holds back when it enters a
block. -/
@[simp] theorem length_laterWords (s : Square) : s.laterWords.length = 15 := rfl

/-- A square has four rows of four words. -/
@[simp] theorem length_words (s : Square) : s.words.length = 16 := rfl

end Square

/-! ## Keys -/

/-- Eight words of key. -/
structure Key where
  low : Row
  high : Row
  deriving DecidableEq, Repr

namespace Key

/-- The next state of the generator that stretches a seed. -/
def stretch (s : UInt64) : UInt64 :=
  s * 6364136223846793005 + 11634580027462260723

/-- The word that a stretching state gives: some of its bits, turned by its top five bits. -/
def wordOf (s : UInt64) : UInt32 :=
  rotateRight (((s >>> 18) ^^^ s) >>> 27).toUInt32 (s >>> 59).toUInt32

/-- Four key words from the state before them, and the state after them. -/
def stretchRow (s : UInt64) : Row × UInt64 :=
  let s0 := stretch s
  let s1 := stretch s0
  let s2 := stretch s1
  let s3 := stretch s2
  (⟨wordOf s0, wordOf s1, wordOf s2, wordOf s3⟩, s3)

/-- The key of a seed. -/
def ofSeed (seed : UInt64) : Key :=
  let low := stretchRow seed
  ⟨low.1, (stretchRow low.2).1⟩

end Key

/-! ## Blocks -/

/-- The square before the rounds: the words of `expand 32-byte k`, the key, the counter (low word
first), and two words that are zero. -/
def Square.initial (key : Key) (counter : UInt64) : Square :=
  ⟨⟨0x61707865, 0x3320646e, 0x79622d32, 0x6b206574⟩, key.low, key.high,
    ⟨counter.toUInt32, (counter >>> 32).toUInt32, 0, 0⟩⟩

/-- The block of a key and a counter: the initial square after twelve rounds, plus itself. -/
def keystreamBlock (key : Key) (counter : UInt64) : Square :=
  let s := Square.initial key counter
  (Square.doubleRounds 6 s).add s

end DeviceReadings
