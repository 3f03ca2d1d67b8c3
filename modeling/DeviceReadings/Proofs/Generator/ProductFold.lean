import Mathlib.Data.Fintype.EquivFin
import Mathlib.Data.Nat.ModEq
import DeviceReadings.Proofs.Generator.Requests

/-!
# The cycle of the product fold

The state of a product fold after any number of draws is its seed plus that many increments
(`Fold.state`), and a reading is a few bits of a folded product of the state that follows
(`Fold.value`). The increment is odd, hence coprime to the number of words, so the states run once
through all words before they come back to the seed (`ProductFold.after_inj`,
`ProductFold.exists_after`): any two seeds start the same cycle at two places.
`product_fold_closed_form` says so of every source that is seen as such a generator.
-/

namespace DeviceReadings

/-! ## States and values in closed form -/

namespace Fold

/-- The state after `n` draws. -/
def state (seed n : Nat) : Nat :=
  (seed + n * 0x2d358dccaa6c78a5) % 2 ^ 64

/-- The product that a state gives, 128 bits wide. -/
def product (s : Nat) : Nat :=
  s * (s ^^^ 0x8bb84b93962eacc9)

/-- The lower half of the product, combined with the upper half. -/
def folded (s : Nat) : Nat :=
  product s % 2 ^ 64 ^^^ product s / 2 ^ 64

/-- Value number `n`, counted from 0: bits 1 to 31 of the fold of the following state. -/
def value (seed n : Nat) : Nat :=
  folded (state seed (n + 1)) / 2 % 2 ^ 31

/-- A state is a number of 64 bits. -/
theorem state_lt (seed n : Nat) : state seed n < 2 ^ 64 :=
  Nat.mod_lt _ (by decide)

/-- The next state is the increment further on, around the end of the 64 bits. -/
theorem state_succ (seed n : Nat) :
    state seed (n + 1) = (state seed n + 0x2d358dccaa6c78a5) % 2 ^ 64 := by
  rw [state, state, Nat.mod_add_mod, Nat.succ_mul, Nat.add_assoc]

/-- Fewer than `2 ^ 64` draws never lead to a state twice. The increment is odd, so it has no factor
in common with the number of states and can be cancelled. -/
theorem state_inj {seed i j : Nat} (hi : i < 2 ^ 64) (hj : j < 2 ^ 64)
    (h : state seed i = state seed j) : i = j := by
  have hcoprime : Nat.Coprime (2 ^ 64) 0x2d358dccaa6c78a5 := by decide
  have hincrements : i * 0x2d358dccaa6c78a5 ≡ j * 0x2d358dccaa6c78a5 [MOD 2 ^ 64] :=
    Nat.ModEq.add_left_cancel' seed h
  exact (hincrements.cancel_right_of_coprime hcoprime).eq_of_lt_of_lt hi hj

/-- The states of a seed, as a walk on the words. -/
def walk (seed : Nat) (n : Fin (2 ^ 64)) : Fin (2 ^ 64) :=
  ⟨state seed n, state_lt seed n⟩

/-- Every state is reached. As many draws as there are states lead to different ones, and so to all
of them. -/
theorem exists_state (seed : Nat) {s : Nat} (hs : s < 2 ^ 64) :
    ∃ n < 2 ^ 64, state seed n = s := by
  have hinjective : Function.Injective (walk seed) := fun i j h =>
    Fin.ext (state_inj i.isLt j.isLt (Fin.val_eq_of_eq h))
  -- a walk on finitely many words that never meets itself goes through all of them
  obtain ⟨n, hn⟩ := Finite.surjective_of_injective hinjective ⟨s, hs⟩
  exact ⟨n, n.isLt, Fin.val_eq_of_eq hn⟩

/-- After `2 ^ 64` draws the states start over. -/
theorem state_add_size (seed n : Nat) : state seed (n + 2 ^ 64) = state seed n := by
  rw [state, Nat.add_mul, ← Nat.add_assoc, Nat.add_mul_mod_self_left, state]

end Fold

/-! ## The running fold -/

namespace ProductFold

/-- The fold of a seed after `n` draws. -/
def after (seed : UInt64) (n : Nat) : ProductFold :=
  ⟨UInt64.ofNat (Fold.state seed.toNat n)⟩

/-- The running state after some draws is the state of the closed form. -/
theorem toNat_after (seed : UInt64) (n : Nat) :
    (after seed n).state.toNat = Fold.state seed.toNat n :=
  UInt64.toNat_ofNat_of_lt (Fold.state_lt seed.toNat n)

/-- Two folds are the same just if their states of the closed form are. -/
theorem after_eq_iff {a b : UInt64} {m n : Nat} :
    after a m = after b n ↔ Fold.state a.toNat m = Fold.state b.toNat n := by
  rw [← toNat_after, ← toNat_after, UInt64.toNat_inj]
  exact ⟨fun h => h ▸ rfl, congrArg ProductFold.mk⟩

/-- Without a draw a fold stands at its seed. -/
theorem after_zero (seed : UInt64) : after seed 0 = ofSeed seed := by
  rw [after, Fold.state, Nat.zero_mul, Nat.add_zero, Nat.mod_eq_of_lt seed.toNat_lt,
    UInt64.ofNat_toNat, ofSeed]

/-- A draw adds the increment, and what is past the 64 bits is lost. -/
theorem state_after_succ (seed : UInt64) (n : Nat) :
    (after seed n).state + increment = (after seed (n + 1)).state := by
  apply UInt64.toNat_inj.1
  rw [UInt64.toNat_add, toNat_after, toNat_after, Fold.state_succ]
  rfl

/-- The fold of a word is the fold of its number. The product of two words fits into 128 bits, so
that neither of its halves loses anything. -/
theorem toNat_fold (s : UInt64) : (fold s).toNat = Fold.folded s.toNat := by
  have hmask : (s ^^^ mask).toNat = s.toNat ^^^ 0x8bb84b93962eacc9 := UInt64.toNat_xor s mask
  have hupper : s.toNat * (s ^^^ mask).toNat / UInt64.size < 2 ^ 64 :=
    Nat.div_lt_of_lt_mul (Nat.mul_lt_mul'' s.toNat_lt (s ^^^ mask).toNat_lt)
  rw [fold, UInt64.toNat_xor, UInt64.toNat_ofNat', UInt64.toNat_ofNat', Nat.mod_eq_of_lt hupper,
    hmask]
  rfl

/-- A draw takes the fold from one number to the next, and gives the value of that number. -/
theorem next_after (seed : UInt64) (n : Nat) :
    (after seed n).next.2 = after seed (n + 1) ∧
      (after seed n).next.1.toInt = Fold.value seed.toNat n := by
  have hstate := state_after_succ seed n
  refine ⟨congrArg ProductFold.mk hstate, ?_⟩
  rw [next, hstate, toInt_readingOfWord, UInt64.toNat_toUInt32, toNat_fold, toNat_after, Fold.value]
  omega

end ProductFold

/-- So many values from a new generator leave it at the state of that number. The induction is on
the number of values. -/
theorem Generator.skip_fast (seed : UInt64) (n : Nat) :
    Generator.skip n (.ofSeed .fast seed) = .fast (ProductFold.after seed n) := by
  induction n with
  | zero => exact congrArg Generator.fast (ProductFold.after_zero seed).symm
  | succ n ih =>
    rw [Generator.skip_succ, ih, Generator.next, (ProductFold.next_after seed n).1]

/-- Value number `n` is the closed form at `n`. -/
theorem Generator.valueOf_fast (seed : UInt64) (n : Nat) :
    (Generator.valueOf .fast seed n).toInt = Fold.value seed.toNat n := by
  rw [Generator.valueOf, Generator.skip_fast, Generator.next]
  exact (ProductFold.next_after seed n).2

/-! ## Sources -/

/-- **The product fold has a closed form and one cycle.** A product fold and a generator chosen at
run time are sources that are seen as generators. Take such a source, started from a seed as a
product fold. After any history of draws and fresh starts, none of which panics, its state and its
next reading are those of the closed form, for the last seed and the number of readings since. The
states before its first `2 ^ 64` readings differ, and after these it is back where it was. Another
such source, started from any seed, gives the readings that this one gives after `n` draws and is
in the state in which this one is then, for exactly one `n` below `2 ^ 64`. -/
theorem product_fold_closed_form :
    (SeenAs Generator.fast ∧ SeenAs fun g : Generator => g) ∧
    ∀ {σ : Type} [RandomSource σ] {view : σ → Generator}, SeenAs view →
      ∀ (source : σ) (seed : UInt64), view source = .ofSeed .fast seed →
      (∀ history : List SourceRequest,
        let standing := (Standing.start seed).after history
        let now := RandomSource.served history source
        (∀ request, ∃ answer, (RandomSource.serve request now).1 = .value answer) ∧
        (∃ g, view now = .fast g ∧
          g.state.toNat = Fold.state standing.seed.toNat standing.drawn) ∧
        ∃ v, (RandomSource.draw now).1 = .value v ∧
          v.toInt = Fold.value standing.seed.toNat standing.drawn ∧
          0 ≤ v.toInt ∧ v.toInt ≤ 2147483647) ∧
      (∀ i < 2 ^ 64, ∀ j < 2 ^ 64,
        view (RandomSource.drawn source i) = view (RandomSource.drawn source j) → i = j) ∧
      view (RandomSource.drawn source (2 ^ 64)) = view source ∧
      ∀ {σ' : Type} [RandomSource σ'] {view' : σ' → Generator}, SeenAs view' →
        ∀ (source' : σ') (seed' : UInt64), view' source' = .ofSeed .fast seed' →
          ∃! n, n < 2 ^ 64 ∧
            (∀ k, RandomSource.reading source' k = RandomSource.reading source (n + k)) ∧
            view' source' = view (RandomSource.drawn source n) := by
  refine ⟨⟨ProductFold.seenAs, Generator.seenAs⟩, ?_⟩
  intro σ _ view hview source seed hsource
  have hstates : ∀ n, view (RandomSource.drawn source n) = .fast (ProductFold.after seed n) :=
    fun n => by rw [hview.drawn, hsource, Generator.skip_fast]
  have hinj : ∀ i < 2 ^ 64, ∀ j < 2 ^ 64,
      view (RandomSource.drawn source i) = view (RandomSource.drawn source j) → i = j := by
    intro i hi j hj h
    rw [hstates, hstates, Generator.fast.injEq, ProductFold.after_eq_iff] at h
    exact Fold.state_inj hi hj h
  refine ⟨fun history => ?_, hinj, ?_, ?_⟩
  · intro standing now
    have hfirst : view source = (Standing.start seed).generator .fast := hsource
    have hnow : view now = .fast (ProductFold.after standing.seed standing.drawn) :=
      (hview.served hfirst history).trans (Generator.skip_fast standing.seed standing.drawn)
    have hvalue := Generator.valueOf_fast standing.seed standing.drawn
    have hbound : Fold.value standing.seed.toNat standing.drawn < 2 ^ 31 :=
      Nat.mod_lt _ (by decide)
    have hreading : (RandomSource.draw now).1 =
        .value (Generator.valueOf .fast standing.seed standing.drawn) :=
      hview.reading_served hsource history 0
    exact ⟨fun request => hview.serve_answered request now,
      ⟨_, hnow, ProductFold.toNat_after standing.seed standing.drawn⟩,
      ⟨_, hreading, hvalue, by omega, by omega⟩⟩
  · rw [hstates, hsource]
    refine congrArg Generator.fast ?_
    rw [← ProductFold.after_zero, ProductFold.after_eq_iff]
    exact Fold.state_add_size seed.toNat 0
  · intro σ' _ view' hview' source' seed' hsource'
    -- Every state is on the one cycle, the seed of the other source too.
    obtain ⟨n, hn, hstate⟩ := Fold.exists_state seed.toNat seed'.toNat_lt
    have hmeet : view' source' = view (RandomSource.drawn source n) := by
      rw [hstates, hsource']
      refine congrArg Generator.fast ?_
      rw [← ProductFold.after_zero, ProductFold.after_eq_iff, hstate]
      exact Nat.mod_eq_of_lt seed'.toNat_lt
    refine ⟨n, ⟨hn, fun k => ?_, hmeet⟩, ?_⟩
    · rw [hview'.reading_eq, hmeet, ← RandomSource.reading_drawn, hview.reading_eq]
    · rintro m ⟨hm, -, hsame⟩
      exact hinj m hm n hn (hsame.symm.trans hmeet)

/-- A fold that was drawn from and started afresh stands two draws behind the seed given. A fold
of that state is met by it there, and nowhere else below `2 ^ 64`. -/
theorem folds_meet_after_two_draws :
    let now := RandomSource.served [.draw, .reseed 5, .draw, .draw] (ProductFold.ofSeed 3)
    let other := ProductFold.ofSeed 6515331631289004367
    (∃ v, (RandomSource.draw now).1 = .value v ∧ v.toInt = 1211073006) ∧
      (∀ k, RandomSource.reading other k =
        RandomSource.reading (ProductFold.ofSeed 5) (2 + k)) ∧
      ∀ n < 2 ^ 64,
        Generator.fast other = .fast (RandomSource.drawn (ProductFold.ofSeed 5) n) → n = 2 := by
  intro now other
  obtain ⟨⟨hfast, -⟩, hall⟩ := product_fold_closed_form
  obtain ⟨hhistory, -, -, -⟩ := hall hfast (ProductFold.ofSeed 3) 3 rfl
  obtain ⟨-, -, v, hdraw, hvalue, -, -⟩ := hhistory [.draw, .reseed 5, .draw, .draw]
  obtain ⟨-, hinj, -, hmeet⟩ := hall hfast (ProductFold.ofSeed 5) 5 rfl
  obtain ⟨n, ⟨hn, hsame, hstate⟩, -⟩ := hmeet hfast other 6515331631289004367 rfl
  have htwo : Generator.fast other = .fast (RandomSource.drawn (ProductFold.ofSeed 5) 2) := by
    decide
  have hunique : ∀ m < 2 ^ 64,
      Generator.fast other = .fast (RandomSource.drawn (ProductFold.ofSeed 5) m) → m = 2 :=
    fun m hm h => hinj m hm 2 (by decide) (h.symm.trans htwo)
  refine ⟨⟨v, hdraw, hvalue.trans (by decide)⟩, fun k => ?_, hunique⟩
  rw [hsame k, hunique n hn hstate]

end DeviceReadings
