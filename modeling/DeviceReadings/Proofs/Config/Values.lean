import DeviceReadings.Proofs.Config.Grammar

/-!
# Values of a configuration

What the decoders of single values read: a name as a string or as the only key of an object
(`reads_oneOfNames`), and a seed (`reads_seedValue`).
-/

namespace DeviceReadings

namespace Config

open Json

variable {α : Type}

/-- What is read between a key and its value is a colon. -/
theorem reads_colon : Reads .tokens colon fun toks _ => toks = [.mark ':'] := by
  refine reads_of_peek nofun fun c hc => .ite (by decide) (fun _ => readsFront_advance (by decide))
    fun hcolon => .fail (failNext_ne_ok _) ?_
  rintro tok toks a hstarts heq
  obtain ⟨rfl, -⟩ := List.cons.inj heq
  exact hcolon hstarts

/-- Another value is never read in the place of the one expected: it is gone through only to name it
in the fault. -/
theorem mismatch_ne_ok (expected : Expected) (s : List UInt8) (p : α × List UInt8) :
    mismatch expected s ≠ .ok p := by
  exact bind_ne_ok (fun found => failHere_ne_ok (.invalidType found expected)) s p

/-- A `null` is read and nothing else: another value is gone through, but only to be reported. -/
theorem reads_nullValue : Reads .tokens nullValue fun toks _ => toks = [.null] := by
  refine reads_of_peek nofun fun c hc => .ite (by decide) (fun _ => ?_)
    fun hn => .fail (mismatch_ne_ok .nothing) ?_
  · have hnull := (readsBehind_null (Reads.pure ())).front (by decide)
    rw [bind_pure] at hnull
    exact hnull.congr fun tok toks _ _ => by simp
  · rintro tok toks a hstarts heq
    obtain ⟨rfl, -⟩ := List.cons.inj heq
    exact hn hstarts

variable (names : List (String × α))

/-- Behind an opening quote one of the names is read. The string is compared as a whole, so a name
written with escapes is the same name. -/
theorem reads_knownName :
    ReadsBehind '"' (knownName names) fun toks a =>
      ∃ name, toks = [.string name] ∧ named? names name = some a := by
  refine (readsBehind_string (M := fun name toks a => toks = [] ∧ named? names name = some a)
    fun name => ?_).congr fun toks a => ?_
  · cases named? names name with
    | some a => exact (Reads.pure a).congr fun toks b => by simp [eq_comm]
    | none => exact (Reads.fail (failHere_ne_ok _)).congr fun toks b => by simp
  · refine ⟨?_, ?_⟩
    · intro h
      obtain ⟨name, _, rfl, rfl, h⟩ := h
      exact ⟨name, rfl, h⟩
    · intro h
      obtain ⟨name, rfl, h⟩ := h
      exact ⟨name, [], rfl, rfl, h⟩

/-- A closing brace that ends an object with a value. Whatever else follows the value is a fault. -/
theorem reads_closingBrace (a : α) :
    Reads .tokens
      (do
        if (← peekToken .object) = ascii '}' then
          advance
          pure a
        else failHere .expectedValue)
      fun toks b => toks = [.mark '}'] ∧ b = a := by
  refine reads_of_peek (fun _ h => nomatch h.1) fun c hc => .ite (by decide) (fun _ => ?_)
    fun hbrace => .fail (failHere_ne_ok _) ?_
  · refine (readsFront_mark (by decide) (Reads.pure a)).congr fun tok toks b _ => ?_
    simp
  · rintro tok toks b hstarts ⟨heq, -⟩
    obtain ⟨rfl, -⟩ := List.cons.inj heq
    exact hbrace hstarts

/-- Behind an opening brace one of the names is read as the only key of an object. Its value is a
`null`, since none of the names carries data. -/
theorem reads_soleKey :
    Reads .tokens (soleKey names) fun toks a =>
      ∃ name, toks = [.string name, .mark ':', .null, .mark '}'] ∧ named? names name = some a := by
  have hstart : ∀ tok toks (a : α) (c : Char), Token.Starts tok c →
      (∃ name, tok :: toks = [.string name, .mark ':', .null, .mark '}'] ∧
        named? names name = some a) → c = '"' := by
    rintro tok toks a c hstarts ⟨name, heq, -⟩
    obtain ⟨rfl, -⟩ := List.cons.inj heq
    exact hstarts
  have hkey := (reads_knownName names).bind fun a => reads_colon.bind fun _ =>
    reads_nullValue.bind fun _ => reads_closingBrace a
  refine reads_of_peek (fun _ ⟨_, h, _⟩ => nomatch h) fun c hc => .ite (by decide) (fun _ => ?_)
    fun hquote => .ite (by decide) (fun _ => ?_) fun _ => ?_
  · refine (hkey.front (by decide)).congr fun tok toks b _ => ?_
    refine ⟨?_, ?_⟩
    · intro h
      obtain ⟨_, _, a, heq, -, ⟨name, rfl, hname⟩, hrest⟩ := h
      obtain ⟨_, _, _, rfl, rfl, _, _, _, rfl, rfl, rfl, rfl⟩ := hrest
      exact ⟨name, heq, hname⟩
    · intro h
      obtain ⟨name, heq, hname⟩ := h
      exact ⟨[.string name], _, b, heq, by simp, ⟨name, rfl, hname⟩, [.mark ':'], _, (), rfl, rfl,
        [.null], _, (), rfl, rfl, rfl, rfl⟩
  · refine .fail (failNext_ne_ok _) fun tok toks a hstarts h => ?_
    cases hstart tok toks a _ hstarts h
  · refine .fail (failNext_ne_ok _) fun tok toks a hstarts h => ?_
    exact hquote (hstart tok toks a _ hstarts h)

/-- **What is read as one of several names is the name as a string or as the only key of an
object.** -/
theorem reads_oneOfNames : Reads .tokens (oneOfNames names) (NameTokens names) := by
  refine reads_of_peek (fun _ h => nomatch h) fun c hc => .ite (by decide) (fun _ => ?_)
    fun hquote => .ite (by decide) (fun _ => ?_) fun hbrace => ?_
  · refine ((reads_knownName names).front (by decide)).congr fun tok toks a hstarts => ?_
    refine ⟨?_, ?_⟩
    · intro h
      obtain ⟨name, heq, hname⟩ := h
      rw [heq]
      exact .string hname
    · intro h
      cases h with
      | string hname => exact ⟨_, rfl, hname⟩
      | object hname => cases hstarts
  · refine (readsFront_mark (by decide) (reads_soleKey names)).congr fun tok toks a hstarts => ?_
    refine ⟨?_, ?_⟩
    · intro h
      obtain ⟨_, heq, name, rfl, hname⟩ := h
      rw [heq]
      exact .object hname
    · intro h
      cases h with
      | string hname => cases hstarts
      | object hname => exact ⟨_, rfl, _, rfl, hname⟩
  · refine .fail (failNext_ne_ok _) fun tok toks a hstarts h => ?_
    cases h with
    | string hname => exact hquote hstarts
    | object hname => exact hbrace hstarts

/-! ## Seeds -/

/-- **What is read as a seed is `null` or a natural number of 64 bits.** -/
theorem reads_seedValue : Reads .tokens seedValue SeedTokens := by
  refine reads_of_peek (fun _ h => nomatch h) fun c hc => .ite (by decide) (fun _ => ?_)
    fun hn => ?_
  · refine ((readsBehind_null (Reads.pure none)).front (by decide)).congr
      fun tok toks a hstarts => ?_
    refine ⟨?_, ?_⟩
    · intro h
      obtain ⟨_, heq, rfl, rfl⟩ := h
      rw [heq]
      exact .null
    · intro h
      cases h with
      | null => exact ⟨[], rfl, rfl, rfl⟩
      | natural _ => cases hstarts
  · have hkinds : ∀ number : Number, (∀ n, number ≠ .natural n) → ∀ s p,
        (do return some (← seedOfNumber number) : Decoder (Option UInt64)) s ≠ .ok p := by
      rintro number hnot s ⟨seed, s'⟩ h
      obtain ⟨_, _, hseed, -⟩ := bind_eq_ok.1 h
      cases number with
      | natural n => exact hnot n rfl
      | negative n => cases hseed
      | floating bits => cases hseed
    have hnumber := readsFront_natural (f := fun n => some (UInt64.ofNat n)) hc
      (mismatch_ne_ok .word) (fun n => rfl) hkinds
    refine hnumber.congr fun tok toks a hstarts => ?_
    refine ⟨?_, ?_⟩
    · intro h
      obtain ⟨n, heq, hlt, rfl⟩ := h
      rw [heq]
      exact .natural hlt
    · intro h
      cases h with
      | null => exact absurd hstarts hn
      | natural hlt => exact ⟨_, rfl, hlt, rfl⟩

end Config

end DeviceReadings
