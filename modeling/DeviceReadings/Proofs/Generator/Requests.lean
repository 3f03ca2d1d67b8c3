import DeviceReadings.Proofs.Reader.Readings

/-!
# Where a source of readings stands

A source of readings is drawn from and started afresh in any order. Of such a history only two
things matter: the seed from which the source was last started, and how many readings were drawn
since (`Standing`). A source that is seen as a generator is at any time seen as the new generator
of that seed with so many values drawn (`SeenAs.served`), and from there on it gives the values of
that generator (`SeenAs.reading_served`).
-/

namespace DeviceReadings

/-! ## Requests -/

/-- What can be asked of a source of readings. -/
inductive SourceRequest where
  /-- The next reading. -/
  | draw
  /-- A fresh start from a seed. -/
  | reseed (seed : UInt64)
  deriving DecidableEq, Repr

/-- The seed that a source was last started from, and how many readings were drawn since. -/
structure Standing where
  seed : UInt64
  drawn : Nat
  deriving DecidableEq, Repr

namespace Standing

/-- Where a source stands that was just started from a seed. -/
def start (seed : UInt64) : Standing :=
  ⟨seed, 0⟩

/-- Where a source stands after one more request. -/
def step (standing : Standing) : SourceRequest → Standing
  | .draw => ⟨standing.seed, standing.drawn + 1⟩
  | .reseed seed => start seed

/-- Where a source stands after some requests. -/
def after (standing : Standing) (history : List SourceRequest) : Standing :=
  history.foldl step standing

/-- The new generator of the seed, with the readings drawn. -/
def generator (standing : Standing) (backend : Backend) : Generator :=
  Generator.skip standing.drawn (.ofSeed backend standing.seed)

end Standing

namespace RandomSource

variable {σ : Type} [RandomSource σ]

/-- Does what is asked of a source, and gives the reading if one was asked for. -/
def serve : SourceRequest → σ → Outcome (Option Int32) × σ
  | .draw, source => ((draw source).1.map some, (draw source).2)
  | .reseed seed, source => ((reseed seed source).1.map fun _ => none, (reseed seed source).2)

/-- A source after some requests. -/
def served (history : List SourceRequest) (source : σ) : σ :=
  history.foldl (fun source request => (serve request source).2) source

/-- Draws after draws are as many draws in one. -/
theorem drawn_drawn (source : σ) (n k : Nat) : drawn (drawn source n) k = drawn source (n + k) := by
  induction n generalizing source with
  | zero => rw [Nat.zero_add, drawn]
  | succ n ih => rw [drawn, ih, Nat.succ_add, drawn]

/-- The readings of a source after some draws are its own later ones. -/
theorem reading_drawn (source : σ) (n k : Nat) :
    reading (drawn source n) k = reading source (n + k) := by
  rw [reading, drawn_drawn, reading]

end RandomSource

/-! ## Values drawn from generators -/

namespace Generator

/-- One value more is skipped behind those that have been. -/
theorem skip_succ (n : Nat) (g : Generator) : skip (n + 1) g = (skip n g).next.2 := by
  induction n generalizing g with
  | zero => rfl
  | succ n ih => exact ih g.next.2

/-- Values skipped one lot after the other are skipped in one. The induction is on the later lot. -/
theorem skip_skip (n k : Nat) (g : Generator) : skip k (skip n g) = skip (n + k) g := by
  induction n generalizing g with
  | zero => rw [Nat.zero_add, skip]
  | succ n ih => rw [skip, ih, Nat.succ_add, skip]

/-- A generator stays of its backend when values are skipped. -/
@[simp] theorem backend_skip (n : Nat) (g : Generator) : (skip n g).backend = g.backend := by
  induction n generalizing g with
  | zero => rfl
  | succ n ih => rw [skip, ih, backend_next]

end Generator

/-- The generator of a standing is of the backend asked for. -/
@[simp] theorem Standing.backend_generator (standing : Standing) (backend : Backend) :
    (standing.generator backend).backend = backend := by
  rw [generator, Generator.backend_skip, Generator.backend_ofSeed]

/-! ## Sources that are seen as generators -/

namespace SeenAs

open RandomSource

variable {σ : Type} [RandomSource σ] {view : σ → Generator}

/-- Every request is answered: no source that is seen as a generator ever panics. -/
theorem serve_answered (h : SeenAs view) (request : SourceRequest) (source : σ) :
    ∃ answer, (serve request source).1 = .value answer := by
  cases request with
  | draw => exact ⟨_, by rw [serve, h.draw, Outcome.map_value]⟩
  | reseed seed => exact ⟨_, by rw [serve, h.restarts, Outcome.map_value]⟩

/-- One request takes a source from where it stands to where it stands then. A draw goes one value
on, and a fresh start begins with the seed given. -/
theorem served_step (h : SeenAs view) {backend : Backend} {standing : Standing} {source : σ}
    (hsource : view source = standing.generator backend) (request : SourceRequest) :
    view (serve request source).2 = (standing.step request).generator backend := by
  cases request with
  | draw => rw [serve, h.later, hsource, Standing.generator, ← Generator.skip_succ]; rfl
  | reseed seed =>
    rw [serve, h.reseed, hsource, Generator.reseed, Standing.backend_generator]; rfl

/-- A source is at any time the generator of its standing. The induction is on the history. -/
theorem served (h : SeenAs view) {backend : Backend} {standing : Standing} {source : σ}
    (hsource : view source = standing.generator backend) (history : List SourceRequest) :
    view (RandomSource.served history source) = (standing.after history).generator backend := by
  induction history generalizing standing source with
  | nil => exact hsource
  | cons request rest ih => exact ih (h.served_step hsource request)

/-- The readings of a source are the values of the generator it is seen as. What a source is made of
besides does not show. -/
theorem reading_eq (h : SeenAs view) (source : σ) (n : Nat) :
    RandomSource.reading source n = .value (Generator.skip n (view source)).next.1 := by
  rw [RandomSource.reading, h.draw, h.drawn]

/-- From where it stands a source gives the values of its last seed, none skipped. The closed forms
of the two generators come in by this. -/
theorem reading_served (h : SeenAs view) {backend : Backend} {seed : UInt64} {source : σ}
    (hsource : view source = .ofSeed backend seed) (history : List SourceRequest) (k : Nat) :
    let standing := (Standing.start seed).after history
    RandomSource.reading (RandomSource.served history source) k =
      .value (Generator.valueOf backend standing.seed (standing.drawn + k)) := by
  intro standing
  have hfirst : view source = (Standing.start seed).generator backend := hsource
  rw [h.reading_eq, h.served hfirst, Standing.generator, Generator.skip_skip]
  rfl

/-- No request changes the kind of a source. -/
theorem backend_served (h : SeenAs view) (history : List SourceRequest) (source : σ) :
    (view (RandomSource.served history source)).backend = (view source).backend := by
  induction history generalizing source with
  | nil => rfl
  | cons request rest ih =>
    refine (ih (serve request source).2).trans ?_
    cases request with
    | draw => rw [serve, h.later, Generator.backend_next]
    | reseed seed => rw [serve, h.reseed, Generator.reseed, Generator.backend_ofSeed]

/-- A fresh start forgets everything but the kind of the source. -/
theorem served_reseed (h : SeenAs view) (history : List SourceRequest) (seed : UInt64)
    (source : σ) :
    view (RandomSource.served (history ++ [.reseed seed]) source) =
      .ofSeed (view source).backend seed := by
  rw [RandomSource.served, List.foldl_append, List.foldl_cons, List.foldl_nil, serve, h.reseed,
    Generator.reseed]
  exact congrArg (Generator.ofSeed · seed) (h.backend_served history source)

end SeenAs

end DeviceReadings
