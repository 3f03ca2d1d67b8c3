import Mathlib.Data.Fin.VecNotation
import Mathlib.Data.Fintype.Basic
import Mathlib.Logic.Function.Iterate
import Mathlib.Tactic.FinCases
import DeviceReadings.Proofs.Generator.Requests

/-!
# Random access to the cipher stream

The words of the cipher stream, each by its number: `Cipher.word seed n` is word `n % 16` of the
block with counter `n / 16`, and `Cipher.block` is the block function with twelve rounds, written
on sixteen numbered words as rounds of quarter rounds. The running generator, which works on rows
and keeps a block in hand, gives word `n` at its draw number `n` (`valueOf_std`); so does any
source that is seen as such a generator, after any history of draws and fresh starts
(`cipher_source_random_access`).
-/

namespace DeviceReadings

/-! ## The block function, word by word -/

namespace Cipher

/-- Sixteen words, by number. -/
abbrev Words : Type := Fin 16 → BitVec 32

/-- What a quarter round makes of four words. -/
def quarterRound (a b c d : BitVec 32) : Fin 4 → BitVec 32 :=
  let a := a + b
  let d := (d ^^^ a).rotateLeft 16
  let c := c + d
  let b := (b ^^^ c).rotateLeft 12
  let a := a + b
  let d := (d ^^^ a).rotateLeft 8
  let c := c + d
  let b := (b ^^^ c).rotateLeft 7
  ![a, b, c, d]

/-- A quarter round on the words with four numbers. -/
def quarterAt (i j k l : Fin 16) (w : Words) : Words :=
  let q := quarterRound (w i) (w j) (w k) (w l)
  fun n =>
    if n = i then q 0 else if n = j then q 1 else if n = k then q 2 else if n = l then q 3 else w n

/-- The round on the columns. -/
def columns (w : Words) : Words :=
  quarterAt 3 7 11 15 (quarterAt 2 6 10 14 (quarterAt 1 5 9 13 (quarterAt 0 4 8 12 w)))

/-- The round on the diagonals. -/
def diagonals (w : Words) : Words :=
  quarterAt 3 4 9 14 (quarterAt 2 7 8 13 (quarterAt 1 6 11 12 (quarterAt 0 5 10 15 w)))

/-- The words before the rounds: `expand 32-byte k`, the key, the counter with its lower half
first, and the number of the stream, which is zero. -/
def initial (key : Fin 8 → BitVec 32) (counter : BitVec 64) : Words :=
  ![0x61707865, 0x3320646e, 0x79622d32, 0x6b206574,
    key 0, key 1, key 2, key 3, key 4, key 5, key 6, key 7,
    counter.extractLsb' 0 32, counter.extractLsb' 32 32, 0, 0]

/-- A block: the words after twelve rounds, added to those before them. -/
def block (key : Fin 8 → BitVec 32) (counter : BitVec 64) : Words :=
  fun n => (diagonals ∘ columns)^[6] (initial key counter) n + initial key counter n

/-- The step of the generator that stretches a seed to a key. -/
def stretch (s : BitVec 64) : BitVec 64 :=
  s * 6364136223846793005 + 11634580027462260723

/-- The key of a seed: each word from one more step, by a turn that the state itself chooses. -/
def key (seed : BitVec 64) (i : Fin 8) : BitVec 32 :=
  let s := stretch^[i + 1] seed
  ((((s >>> 18) ^^^ s) >>> 27).setWidth 32).rotateRight (s >>> 59).toNat

/-- Word number `n` of the stream of a seed, counted from 0. -/
def word (seed : BitVec 64) (n : Nat) : BitVec 32 :=
  block (key seed) (BitVec.ofNat 64 (n / 16)) (Fin.ofNat 16 n)

/-- Words are alike when they are so row by row. The sixteen words are looked at as four rows of
four, as the rounds do. -/
theorem ext {v w : Words}
    (h : ∀ r i : Fin 4, v ⟨4 * r + i, by omega⟩ = w ⟨4 * r + i, by omega⟩) : v = w := by
  funext n
  have hn := h ⟨n / 4, by omega⟩ ⟨n % 4, by omega⟩
  simpa only [Nat.div_add_mod] using hn

end Cipher

open Cipher

/-! ## Turned words -/

/-- A word turned to the left by two shifts is turned as a bit vector is. -/
theorem toBitVec_rotateLeft {n : UInt32} (hpos : 0 < n.toNat) (hlt : n.toNat < 32) (w : UInt32) :
    (rotateLeft w n).toBitVec = w.toBitVec.rotateLeft n.toNat := by
  have hleft : (n.toBitVec % 32).toNat = n.toNat := by
    simp
    omega
  have hright : ((32 - n).toBitVec % 32).toNat = 32 - n.toNat := by
    simp
    omega
  rw [rotateLeft, UInt32.toBitVec_or, UInt32.toBitVec_shiftLeft, UInt32.toBitVec_shiftRight,
    BitVec.shiftLeft_eq', BitVec.ushiftRight_eq', hleft, hright,
    BitVec.rotateLeft_eq_rotateLeftAux_of_lt hlt, BitVec.rotateLeftAux]

/-- A word turned to the right by two shifts is turned as a bit vector is, also if it is not turned
at all. -/
theorem toBitVec_rotateRight {n : UInt32} (hlt : n.toNat < 32) (w : UInt32) :
    (rotateRight w n).toBitVec = w.toBitVec.rotateRight n.toNat := by
  have hright : (n.toBitVec % 32).toNat = n.toNat := by
    simp
    omega
  have hleft : ((32 - n).toBitVec % 32).toNat = (32 - n.toNat) % 32 := by
    simp
    omega
  rw [rotateRight, UInt32.toBitVec_or, UInt32.toBitVec_shiftLeft, UInt32.toBitVec_shiftRight,
    BitVec.shiftLeft_eq', BitVec.ushiftRight_eq', hleft, hright,
    BitVec.rotateRight_eq_rotateRightAux_of_lt hlt, BitVec.rotateRightAux]
  -- a turn by nothing shifts the word out on one side only
  cases hn : n.toNat with
  | zero => simp
  | succ m => rw [Nat.mod_eq_of_lt (by omega)]

/-! ## Squares as numbered words -/

/-- The words of a row, by number. -/
def Row.bits (x : Row) : Fin 4 → BitVec 32 :=
  ![x.w0.toBitVec, x.w1.toBitVec, x.w2.toBitVec, x.w3.toBitVec]

/-- The rows of a square, by number. -/
def Square.row (s : Square) : Fin 4 → Row :=
  ![s.r0, s.r1, s.r2, s.r3]

/-- The words of a square, by number. -/
def Square.bits (s : Square) : Words :=
  fun n => (s.words.get ⟨n, n.isLt⟩).toBitVec

/-- Rows are added word by word. -/
theorem Row.bits_add (x y : Row) (i : Fin 4) : (x.add y).bits i = x.bits i + y.bits i := by
  fin_cases i <;> rfl

/-- Rows are mixed and turned word by word. -/
theorem Row.bits_xorRotate {n : UInt32} (hpos : 0 < n.toNat) (hlt : n.toNat < 32) (x y : Row)
    (i : Fin 4) : (x.xorRotate y n).bits i = (x.bits i ^^^ y.bits i).rotateLeft n.toNat := by
  fin_cases i <;> exact toBitVec_rotateLeft hpos hlt _

namespace Square

/-- The round on rows is a quarter round on each column. All four columns go through it at once,
since each step of the round is one on whole rows. -/
theorem rows_columnRound (s : Square) (i : Fin 4) :
    let q := quarterRound (s.r0.bits i) (s.r1.bits i) (s.r2.bits i) (s.r3.bits i)
    let t := s.columnRound
    t.r0.bits i = q 0 ∧ t.r1.bits i = q 1 ∧ t.r2.bits i = q 2 ∧ t.r3.bits i = q 3 := by
  have h16 := Row.bits_xorRotate (n := 16) (by decide) (by decide)
  have h12 := Row.bits_xorRotate (n := 12) (by decide) (by decide)
  have h8 := Row.bits_xorRotate (n := 8) (by decide) (by decide)
  have h7 := Row.bits_xorRotate (n := 7) (by decide) (by decide)
  simp only [columnRound, Row.bits_add, h16, h12, h8, h7]
  exact ⟨rfl, rfl, rfl, rfl⟩

/-- The same row by row, with the number of the row as an argument. -/
theorem row_columnRound (s : Square) (r i : Fin 4) :
    (s.columnRound.row r).bits i =
      quarterRound (s.r0.bits i) (s.r1.bits i) (s.r2.bits i) (s.r3.bits i) r := by
  obtain ⟨h0, h1, h2, h3⟩ := s.rows_columnRound i
  fin_cases r
  · exact h0
  · exact h1
  · exact h2
  · exact h3

/-- A round on rows is four quarter rounds on the columns of the numbered words. -/
theorem bits_columnRound (s : Square) : s.columnRound.bits = columns s.bits := by
  refine Cipher.ext fun r i => ?_
  have h := s.row_columnRound r i
  fin_cases r <;> fin_cases i <;> exact h

/-- A diagonal round is a column round between two moves, by which the diagonals are columns in
between. -/
theorem bits_diagonalRound (s : Square) :
    s.skew.columnRound.unskew.bits = diagonals s.bits := by
  refine Cipher.ext fun r i => ?_
  have h := s.skew.row_columnRound r (i - r)
  fin_cases r <;> fin_cases i <;> exact h

/-- A double round goes over the columns and then over the diagonals. -/
theorem bits_doubleRound (s : Square) : s.doubleRound.bits = diagonals (columns s.bits) := by
  rw [doubleRound, bits_diagonalRound, bits_columnRound]

/-- Double rounds in a row are the double round of the numbered words, so many times over. -/
theorem bits_doubleRounds (n : Nat) (s : Square) :
    (doubleRounds n s).bits = (diagonals ∘ columns)^[n] s.bits := by
  induction n generalizing s with
  | zero => rfl
  | succ n ih =>
    rw [doubleRounds, ih, bits_doubleRound, Function.iterate_succ_apply, Function.comp_apply]

/-- The words of a sum are the sums of the words, number by number. -/
theorem bits_add (s t : Square) (n : Fin 16) : (s.add t).bits n = s.bits n + t.bits n := by
  fin_cases n <;> rfl

end Square

/-! ## Keys and blocks -/

namespace Key

/-- The words of a key, by number. -/
def bits (k : Key) : Fin 8 → BitVec 32 :=
  ![k.low.w0.toBitVec, k.low.w1.toBitVec, k.low.w2.toBitVec, k.low.w3.toBitVec,
    k.high.w0.toBitVec, k.high.w1.toBitVec, k.high.w2.toBitVec, k.high.w3.toBitVec]

/-- A word of a key is its state shifted, mixed with itself, and turned by its upper five bits. -/
theorem toBitVec_wordOf (s : UInt64) :
    (wordOf s).toBitVec =
      ((((s.toBitVec >>> 18) ^^^ s.toBitVec) >>> 27).setWidth 32).rotateRight
        (s.toBitVec >>> 59).toNat := by
  have hturn : (s >>> 59).toUInt32.toNat = (s.toBitVec >>> 59).toNat := by
    have := s.toNat_lt
    simp [Nat.shiftRight_eq_div_pow]
    omega
  have hlt : (s >>> 59).toUInt32.toNat < 32 := by
    have := s.toNat_lt
    simp [Nat.shiftRight_eq_div_pow]
    omega
  rw [wordOf, toBitVec_rotateRight hlt, hturn]
  rfl

/-- The key of a seed is made of the eight states that follow it, a word from each. -/
theorem bits_ofSeed (seed : UInt64) : (ofSeed seed).bits = Cipher.key seed.toBitVec := by
  funext i
  fin_cases i <;> exact toBitVec_wordOf _

end Key

/-- A block starts from the constants, the key, the two halves of the counter and two words of
zero. -/
theorem Square.bits_initial (key : Key) (counter : UInt64) :
    (Square.initial key counter).bits = Cipher.initial key.bits counter.toBitVec := by
  have hlow : counter.toUInt32.toBitVec = counter.toBitVec.extractLsb' 0 32 := by
    ext i hi
    simp
  have hhigh : (counter >>> 32).toUInt32.toBitVec = counter.toBitVec.extractLsb' 32 32 := by
    ext i hi
    simp
  funext n
  fin_cases n
  case «12» => exact hlow
  case «13» => exact hhigh
  all_goals rfl

/-- The running block function gives the words of the block. -/
theorem bits_keystreamBlock (seed counter : UInt64) :
    (keystreamBlock (Key.ofSeed seed) counter).bits =
      Cipher.block (Cipher.key seed.toBitVec) counter.toBitVec := by
  funext n
  rw [keystreamBlock, Square.bits_add, Square.bits_doubleRounds, Square.bits_initial,
    Key.bits_ofSeed]
  rfl

/-! ## The running stream -/

namespace CipherStream

/-- The words of the block that word `n` of the stream of a seed is in. -/
def blockOf (seed : UInt64) (n : Nat) : Square :=
  keystreamBlock (Key.ofSeed seed) (UInt64.ofNat (n / 16))

/-- Word number `n` of the stream of a seed, out of its block. -/
def wordOf (seed : UInt64) (n : Nat) : UInt32 :=
  (blockOf seed n).words.get ⟨n % 16, Nat.mod_lt n (by decide)⟩

/-- The stream of a seed after `n` words: the blocks begun have been computed, and of the last one
the words not handed out are in hand. -/
def after (seed : UInt64) (n : Nat) : CipherStream :=
  ⟨Key.ofSeed seed, UInt64.ofNat ((n + 15) / 16),
    if n % 16 = 0 then [] else (blockOf seed n).words.drop (n % 16)⟩

/-- A word of the running stream is the word of this number in its closed form. -/
theorem toBitVec_wordOf (seed : UInt64) (n : Nat) :
    (wordOf seed n).toBitVec = Cipher.word seed.toBitVec n :=
  congrFun (bits_keystreamBlock seed (UInt64.ofNat (n / 16))) (Fin.ofNat 16 n)

/-- At the end of a block the next one is computed, and its first word handed out. The counter of
the blocks says which one it is. -/
theorem nextWord_after_blocks {n : Nat} (h : n % 16 = 0) (seed : UInt64) :
    (after seed n).nextWord = (wordOf seed n, after seed (n + 1)) := by
  have hbegun : (n + 15) / 16 = n / 16 := by omega
  have hbegun' : (n + 1 + 15) / 16 = n / 16 + 1 := by omega
  have hblock : blockOf seed (n + 1) = blockOf seed n := by
    rw [blockOf, blockOf, show (n + 1) / 16 = n / 16 by omega]
  have hplace : (n + 1) % 16 = 1 := by omega
  have hword : wordOf seed n = (blockOf seed n).r0.w0 := by
    simp only [wordOf, h]
    rfl
  rw [after, if_pos h, nextWord, hbegun, hword]
  simp only [after, hbegun', hblock, hplace, UInt64.ofNat_add]
  rfl

/-- Within a block the word in front is handed out, and no block is computed. -/
theorem nextWord_after_words {n : Nat} (h : n % 16 ≠ 0) (seed : UInt64) :
    (after seed n).nextWord = (wordOf seed n, after seed (n + 1)) := by
  have hlt : n % 16 < (blockOf seed n).words.length := Nat.mod_lt n (by decide)
  have hbegun : (n + 1 + 15) / 16 = (n + 15) / 16 := by omega
  have hrest : (after seed (n + 1)).pending = (blockOf seed n).words.drop (n % 16 + 1) := by
    by_cases hlast : (n + 1) % 16 = 0
    · rw [after, if_pos hlast]
      exact (List.drop_eq_nil_of_le (by rw [Square.length_words]; omega)).symm
    · rw [after, if_neg hlast, blockOf, blockOf, show (n + 1) / 16 = n / 16 by omega,
        show (n + 1) % 16 = n % 16 + 1 by omega]
  rw [after, if_neg h, List.drop_eq_getElem_cons hlt, nextWord, ← hrest, ← hbegun]
  rfl

/-- One word takes the stream from one number to the next. Every later fact about the stream is by
this step. -/
theorem nextWord_after (seed : UInt64) (n : Nat) :
    (after seed n).nextWord = (wordOf seed n, after seed (n + 1)) := by
  by_cases h : n % 16 = 0
  · exact nextWord_after_blocks h seed
  · exact nextWord_after_words h seed

end CipherStream

/-- So many values from a new generator leave it at the word of that number. The induction is on the
number of values. -/
theorem Generator.skip_std (seed : UInt64) (n : Nat) :
    Generator.skip n (.ofSeed .std seed) = .std (CipherStream.after seed n) := by
  induction n with
  | zero => rfl
  | succ n ih =>
    rw [Generator.skip_succ, ih, Generator.next, CipherStream.next, CipherStream.nextWord_after]

/-- Value number `n` is made of word number `n`, by leaving out its lowest bit. -/
theorem Generator.valueOf_std (seed : UInt64) (n : Nat) :
    (Generator.valueOf .std seed n).toInt = (Cipher.word seed.toBitVec n).toNat / 2 := by
  rw [Generator.valueOf, Generator.skip_std, Generator.next, CipherStream.next,
    CipherStream.nextWord_after, toInt_readingOfWord, ← CipherStream.toBitVec_wordOf]
  rfl

/-! ## Sources -/

/-- **The cipher stream can be entered anywhere.** A cipher stream and a generator chosen at run
time are sources that are seen as generators. Take such a source, started from a seed as a cipher
stream, and any history of draws and fresh starts. No request panics. Where the last start was from
some seed and `n` readings were drawn since, the readings to come are the words `n`, `n + 1`, … of
the stream of that seed without their lowest bits, and so they are on any other such source that
stands there. A fresh start makes a source of this kind, in whatever state, a new stream of the seed
given. -/
theorem cipher_source_random_access :
    (SeenAs Generator.std ∧ SeenAs fun g : Generator => g) ∧
    ∀ {σ : Type} [RandomSource σ] {view : σ → Generator}, SeenAs view →
      (∀ (source : σ) (seed : UInt64), view source = .ofSeed .std seed →
        ∀ history : List SourceRequest,
          let standing := (Standing.start seed).after history
          let now := RandomSource.served history source
          (∀ request, ∃ answer, (RandomSource.serve request now).1 = .value answer) ∧
          (∀ k, ∃ v, RandomSource.reading now k = .value v ∧
            v.toInt = (Cipher.word standing.seed.toBitVec (standing.drawn + k)).toNat / 2 ∧
            0 ≤ v.toInt ∧ v.toInt ≤ 2147483647) ∧
          ∀ {σ' : Type} [RandomSource σ'] {view' : σ' → Generator}, SeenAs view' →
            ∀ (source' : σ') (seed' : UInt64), view' source' = .ofSeed .std seed' →
            ∀ history' : List SourceRequest,
              (Standing.start seed').after history' = standing →
              RandomSource.reading (RandomSource.served history' source') =
                RandomSource.reading now) ∧
      ∀ (source : σ), (view source).backend = .std →
        ∀ (history : List SourceRequest) (seed : UInt64),
          view (RandomSource.served (history ++ [.reseed seed]) source) =
            .ofSeed .std seed := by
  refine ⟨⟨CipherStream.seenAs, Generator.seenAs⟩, ?_⟩
  intro σ _ view hview
  refine ⟨fun source seed hsource history => ?_, fun source hkind history seed => ?_⟩
  · intro standing now
    have hreading : ∀ k, RandomSource.reading now k =
        .value (Generator.valueOf .std standing.seed (standing.drawn + k)) :=
      hview.reading_served hsource history
    refine ⟨fun request => hview.serve_answered request now, fun k => ⟨_, hreading k, ?_⟩, ?_⟩
    · have hword := Generator.valueOf_std standing.seed (standing.drawn + k)
      have hbound := (Cipher.word standing.seed.toBitVec (standing.drawn + k)).isLt
      exact ⟨hword, by omega, by omega⟩
    · intro σ' _ view' hview' source' seed' hsource' history' hsame
      funext k
      rw [hreading, hview'.reading_served hsource' history' k, hsame]
  · rw [hview.served_reseed, hkind]

/-- A stream in the middle of a block is started afresh, and drawn from into its third block. -/
theorem third_block_entered :
    let history : List SourceRequest :=
      List.replicate 20 .draw ++ [.reseed 7] ++ List.replicate 33 .draw
    let now := RandomSource.served history (CipherStream.ofSeed 3)
    Cipher.word (UInt64.toBitVec 7) 33 = 3818928699 ∧
      RandomSource.reading now 0 = .value 1909464349 := by
  intro history now
  have hstanding : (Standing.start 3).after history = ⟨7, 33⟩ := by decide
  have hword : Cipher.word (UInt64.toBitVec 7) 33 = 3818928699 := by
    rw [← CipherStream.toBitVec_wordOf]
    decide +kernel
  obtain ⟨⟨hstd, -⟩, hall⟩ := cipher_source_random_access
  obtain ⟨-, hwords, -⟩ := (hall hstd).1 (CipherStream.ofSeed 3) 3 rfl history
  obtain ⟨v, hreading, hvalue, -, -⟩ := hwords 0
  rw [hstanding, hword] at hvalue
  exact ⟨hword, hreading.trans (congrArg _ (Int32.toInt_inj.1 hvalue))⟩

end DeviceReadings
