import DeviceReadings.Proofs.Json.Tokens

/-!
# How far a decoder looks

A decoder goes along the bytes of a text and stops at some place, with a value or with a fault of
this place, and what it comes to does not depend on more of the text than the byte behind the place
(`Local`). Decoders that are put together of local ones are local: one after another
(`Local.bind`), by the next byte (`Local.ofByte`), byte after byte (`Local.scan`), and by as many
rounds as there are bytes (`Local.ofFuel`). A number is read by decoders that are put together in
these ways.
-/

namespace DeviceReadings

namespace Json

variable {σ α β : Type}

/-! ## Local decoders -/

/-- What a decoder comes to that stops before the rest of a text: a value, or a fault placed
there. -/
def stopped (o : Except Cause α) (rest : List UInt8) : Except Fault (α × List UInt8) :=
  match o with
  | .ok a => .ok (a, rest)
  | .error cause => .error ⟨cause, rest.length⟩

/-- A decoder stops somewhere in the text, and comes to the same in all texts that agree with this
one up to the byte behind the place. -/
structure Local (d : Decoder α) : Prop where
  stops : ∀ s, ∃ o p r, s = p ++ r ∧ d s = stopped o r
  same : ∀ {p : List UInt8} {b : UInt8} {r : List UInt8} {o : Except Cause α},
    d (p ++ b :: r) = stopped o (b :: r) → ∀ r', d (p ++ b :: r') = stopped o (b :: r')

/-- Where a decoder stops and what it comes to there can be told from its result: a fault counts the
bytes behind its place, and a value comes with them. -/
theorem stopped_inj {o o' : Except Cause α} {r r' : List UInt8} (h : stopped o r = stopped o' r') :
    o = o' ∧ r.length = r'.length := by
  cases o with
  | ok a =>
    cases o' with
    | ok a' =>
      obtain ⟨rfl, rfl⟩ := Prod.mk.inj (Except.ok.inj h)
      exact ⟨rfl, rfl⟩
    | error cause => cases h
  | error cause =>
    cases o' with
    | ok a => cases h
    | error cause' =>
      obtain ⟨rfl, hlength⟩ := Fault.mk.inj (Except.error.inj h)
      exact ⟨rfl, hlength⟩

/-- Two ends of a text that are equally long are one, and so are the fronts before them. With
`stopped_inj` this makes the place where a decoder stops one place. -/
theorem eq_of_append_eq {p p' r r' : List UInt8} (h : p ++ r = p' ++ r')
    (hlength : r.length = r'.length) : p = p' ∧ r = r' :=
  List.append_inj' h hlength

/-- What goes before the end of a text is empty if the text is not longer than its end. -/
theorem eq_nil_of_append_length {p r : List UInt8} (h : (p ++ r).length = r.length) : p = [] := by
  rw [List.length_append] at h
  exact List.eq_nil_of_length_eq_zero (by omega)

/-! ## Single steps -/

namespace Local

variable {d : Decoder α} {k : α → Decoder β} {o : Except Cause α}

/-- A decoder that looks at nothing stops at once, in all texts alike. -/
theorem ofStopped (h : ∀ s, d s = stopped o s) : Local d where
  stops s := ⟨o, [], s, rfl, h s⟩
  same {p b r o'} hd r' := by
    rw [h] at hd
    obtain ⟨rfl, hlength⟩ := stopped_inj hd
    obtain rfl := eq_nil_of_append_length hlength
    exact h (b :: r')

/-- A decoder that takes one byte unseen, if there is one. At the end of a text it stops where it
stands, and no longer text agrees with the empty one up to a byte behind. -/
theorem ofTail (h : ∀ s, d s = stopped o s.tail) : Local d where
  stops s := by
    cases s with
    | nil => exact ⟨o, [], [], rfl, h []⟩
    | cons b s => exact ⟨o, [b], s, rfl, h (b :: s)⟩
  same {p b r o'} hd r' := by
    rw [h] at hd
    obtain ⟨rfl, hlength⟩ := stopped_inj hd
    cases p with
    | nil => simp at hlength
    | cons a p =>
      obtain rfl := eq_nil_of_append_length (p := p) hlength
      exact h (a :: b :: r')

/-- A value that is there already is come to in any text. -/
theorem pure (a : α) : Local (pure a : Decoder α) :=
  ofStopped (o := .ok a) fun _ => rfl

/-- A fault of the place where a decoder stands is the same in any text. -/
theorem failHere (cause : Cause) : Local (failHere cause : Decoder α) :=
  ofStopped (o := .error cause) fun _ => rfl

/-- A fault of the byte behind its place takes this byte unseen. -/
theorem failNext (cause : Cause) : Local (failNext cause : Decoder α) :=
  ofTail (o := .error cause) fun s => by cases s <;> rfl

/-- Taking the next byte does not look at it. -/
theorem advance : Local advance :=
  ofTail (o := .ok ()) fun _ => rfl

/-- What is left is an end of the text: a decoder only ever takes bytes from the front. It is the
place where the decoder stops, with a value. -/
theorem exists_append (hd : Local d) {s m : List UInt8} {a : α} (h : d s = .ok (a, m)) :
    ∃ p, s = p ++ m := by
  obtain ⟨o, p, r, rfl, hstop⟩ := hd.stops s
  rw [h] at hstop
  obtain ⟨-, hlength⟩ := stopped_inj (show stopped (.ok a) m = stopped o r from hstop)
  cases o with
  | ok a' =>
    obtain ⟨-, rfl⟩ := Prod.mk.inj (Except.ok.inj hstop)
    exact ⟨p, rfl⟩
  | error cause => cases hstop

/-- No more is left than there was. -/
theorem length_le (hd : Local d) {s m : List UInt8} {a : α} (h : d s = .ok (a, m)) :
    m.length ≤ s.length := by
  obtain ⟨p, rfl⟩ := hd.exists_append h
  rw [List.length_append]
  omega

/-! ## Steps in a row -/

/-- What follows a decoder that fails is not run, and the fault is handed on with its place. Faults
count from the end of the text, so no place is worked out anew. -/
theorem bind_of_error {s : List UInt8} {fault : Fault} (h : d s = .error fault) :
    (d >>= k) s = .error fault := by
  show (d s >>= fun p => k p.1 p.2) = _
  rw [h]
  rfl

/-- What follows a decoder that comes to a value runs on what is left. -/
theorem bind_of_ok {s m : List UInt8} {a : α} (h : d s = .ok (a, m)) : (d >>= k) s = k a m := by
  show (d s >>= fun p => k p.1 p.2) = _
  rw [h]
  rfl

/-- **Local decoders in a row are local.** The second one stops no earlier than the first, and so a
text that agrees up to the byte behind the place of the second agrees up to the byte behind that of
the first as well. -/
theorem bind (hd : Local d) (hk : ∀ a, Local (k a)) : Local (d >>= k) where
  stops s := by
    obtain ⟨o, p, r, rfl, hstop⟩ := hd.stops s
    cases o with
    | error cause => exact ⟨.error cause, p, r, rfl, bind_of_error hstop⟩
    | ok a =>
      obtain ⟨o, p', r', rfl, hnext⟩ := (hk a).stops r
      exact ⟨o, p ++ p', r', (List.append_assoc p p' r').symm, (bind_of_ok hstop).trans hnext⟩
  same {p b r o} h r' := by
    obtain ⟨o₁, p₁, r₁, hsplit, hstop⟩ := hd.stops (p ++ b :: r)
    cases o₁ with
    | error cause =>
      rw [bind_of_error hstop] at h
      obtain ⟨rfl, hlength⟩ := stopped_inj (show stopped (.error cause) r₁ = _ from h)
      obtain ⟨rfl, rfl⟩ := eq_of_append_eq hsplit hlength.symm
      exact bind_of_error (hd.same hstop r')
    | ok a =>
      rw [bind_of_ok hstop] at h
      obtain ⟨o₂, p₂, r₂, rfl, hnext⟩ := (hk a).stops r₁
      obtain ⟨-, hlength⟩ := stopped_inj (h.symm.trans hnext)
      rw [← List.append_assoc] at hsplit
      obtain ⟨rfl, rfl⟩ := eq_of_append_eq hsplit hlength
      have hlater := (hk a).same h r'
      rw [List.append_assoc] at hstop ⊢
      -- The first byte behind the place of `d` is `b` only if nothing is read by `k`.
      cases p₂ with
      | nil => exact (bind_of_ok (hd.same hstop r')).trans hlater
      | cons c p₂ => exact (bind_of_ok (hd.same hstop (p₂ ++ b :: r'))).trans hlater

/-- The value of a local decoder may be worked on. -/
theorem map (hd : Local d) (f : α → β) : Local (d >>= fun a => Pure.pure (f a)) :=
  hd.bind fun a => pure (f a)

/-- A choice that was made before a decoder runs does not look at the text. -/
theorem ite {p : Prop} [Decidable p] {d' : Decoder α} (h : Local d) (h' : Local d') :
    Local (if p then d else d') := by
  split
  · exact h
  · exact h'

/-! ## Choices and loops -/

/-- A choice by the next byte, which stays. Every branch stops at this byte or behind it, and so all
texts that agree up to there make the same choice. -/
theorem ofHead {e : Decoder α} (k : Option UInt8 → Decoder α) (hk : ∀ x, Local (k x))
    (h : ∀ s, e s = k s.head? s) : Local e where
  stops s := by
    rw [h]
    exact (hk s.head?).stops s
  same {p b r o} he r' := by
    have hhead : (p ++ b :: r').head? = (p ++ b :: r).head? := by cases p <;> rfl
    rw [h] at he
    rw [h, hhead]
    exact (hk _).same he r'

/-- A choice by the next byte, which stays, or by the end of the text. It is `ofHead` in the form in
which the decoders are written. -/
theorem ofByte {e atEnd : Decoder α} (k : UInt8 → Decoder α) (hend : Local atEnd)
    (hk : ∀ b, Local (k b)) (hnil : e [] = atEnd []) (hcons : ∀ b s, e (b :: s) = k b (b :: s)) :
    Local e := by
  refine .ofHead (fun x => x.elim atEnd k) (fun x => ?_) fun s => ?_
  · cases x with
    | none => exact hend
    | some b => exact hk b
  · cases s with
    | nil => exact hnil
    | cons b s => exact hcons b s

/-- A loop that either drops the next byte and goes on, or leaves the text to a local decoder. The
state of the loop may depend on the bytes dropped. The induction is on the bytes. -/
theorem scan {d : σ → Decoder α} (hnil : ∀ x, ∃ o, d x [] = stopped o [])
    (hcons : ∀ x b, (∃ y, ∀ s, d x (b :: s) = d y s) ∨
      ∃ e : Decoder α, Local e ∧ ∀ s, d x (b :: s) = e (b :: s)) (x : σ) : Local (d x) := by
  have hstops : ∀ s x, ∃ o p r, s = p ++ r ∧ d x s = stopped o r := by
    intro s
    induction s with
    | nil =>
      intro x
      obtain ⟨o, h⟩ := hnil x
      exact ⟨o, [], [], rfl, h⟩
    | cons b s ih =>
      intro x
      rcases hcons x b with ⟨y, h⟩ | ⟨e, he, h⟩
      · obtain ⟨o, p, r, rfl, hstop⟩ := ih y
        exact ⟨o, b :: p, r, rfl, (h _).trans hstop⟩
      · rw [h]
        exact he.stops (b :: s)
  refine ⟨fun s => hstops s x, fun {p b r o} h r' => ?_⟩
  induction p generalizing x with
  | nil =>
    rw [List.nil_append] at h ⊢
    rcases hcons x b with ⟨y, hy⟩ | ⟨e, he, heq⟩
    · obtain ⟨o', p', r'', rfl, hstop⟩ := hstops r y
      rw [hy, hstop] at h
      obtain ⟨-, hlength⟩ := stopped_inj h
      simp only [List.length_cons, List.length_append] at hlength
      omega
    · rw [heq] at h ⊢
      exact he.same (p := []) h r'
  | cons a p ih =>
    rw [List.cons_append] at h ⊢
    rcases hcons x a with ⟨y, hy⟩ | ⟨e, he, heq⟩
    · rw [hy] at h ⊢
      exact ih y h
    · rw [heq] at h ⊢
      exact he.same (p := a :: p) h r'

/-- A loop by a number of rounds that is larger than the number of bytes. For any one text some
number of rounds is enough for it and for the texts that it is compared with. -/
theorem ofFuel {d : Nat → Decoder α} {e : Decoder α} (hd : ∀ fuel, Local (d fuel))
    (he : ∀ fuel s, s.length < fuel → e s = d fuel s) : Local e where
  stops s := by
    rw [he (s.length + 1) s (Nat.lt_succ_self _)]
    exact (hd _).stops s
  same {p b r o} h r' := by
    have hfuel : ∀ r'', (p ++ b :: r'').length < p.length + r.length + r'.length + 2 ↔
        r''.length < r.length + r'.length + 1 := by
      intro r''
      rw [List.length_append, List.length_cons]
      omega
    rw [he (p.length + r.length + r'.length + 2) _ ((hfuel r).2 (by omega))] at h
    rw [he (p.length + r.length + r'.length + 2) _ ((hfuel r').2 (by omega))]
    exact (hd _).same h r'

end Local

/-- What is chosen is run. The equations of decoders that read by cases are shown with it byte by
byte. -/
theorem ite_run {p : Prop} [Decidable p] (d d' : Decoder α) (s : List UInt8) :
    (if p then d else d') s = if p then d s else d' s := by
  split <;> rfl

/-- Decoders in a row come to the same if what follows does on what is left. What it does elsewhere
does not matter. -/
theorem bind_congr_of_ok {d : Decoder α} {k k' : α → Decoder β} {s : List UInt8}
    (h : ∀ a m, d s = .ok (a, m) → k a m = k' a m) : (d >>= k) s = (d >>= k') s := by
  cases hd : d s with
  | error fault => rw [Local.bind_of_error hd, Local.bind_of_error hd]
  | ok p => rw [Local.bind_of_ok hd, Local.bind_of_ok hd, h p.1 p.2 hd]

/-- The value of a decoder is worked on. -/
theorem map_run (d : Decoder α) (f : α → β) (s : List UInt8) :
    (d >>= fun a => pure (f a)) s = (d s).map fun p => (f p.1, p.2) := by
  cases hd : d s with
  | error fault => rw [Local.bind_of_error hd]; rfl
  | ok p => rw [Local.bind_of_ok hd]; rfl

/-! ## Bytes -/

/-- Reads one byte. At the end of the text the part named is incomplete. -/
def nextByte (part : Part) : Decoder UInt8 := fun s =>
  match s with
  | [] => failHere (.endOfText part) []
  | b :: rest => .ok (b, rest)

/-- A byte that has to be there is looked at and taken. Decoders that read byte by byte are put
together of this one. -/
theorem local_nextByte (part : Part) : Local (nextByte part) :=
  .ofByte (fun b => advance >>= fun _ => pure b) (.failHere (.endOfText part))
    (fun b => Local.advance.map fun _ => b) rfl fun _ _ => rfl

/-- Reads the bytes of a kind at the front. -/
def span (kind : UInt8 → Bool) : Decoder (List UInt8) := fun s =>
  .ok (s.takeWhile kind, s.dropWhile kind)

/-- All bytes of a kind are dropped one after the other, and the first one of another kind stays.
This is the simplest loop of `Local.scan`. -/
theorem local_span (kind : UInt8 → Bool) : Local (span kind) := by
  refine Local.scan (d := fun before s => .ok (before ++ s.takeWhile kind, s.dropWhile kind))
    (fun before => ⟨.ok before, by simp [stopped]⟩) (fun before b => ?_) []
  cases hb : kind b with
  | true =>
    refine .inl ⟨before ++ [b], fun s => ?_⟩
    rw [List.takeWhile_cons_of_pos hb, List.dropWhile_cons_of_pos hb, List.append_assoc,
      List.singleton_append]
  | false =>
    refine .inr ⟨pure before, .pure before, fun s => ?_⟩
    have hneg := ne_true_of_eq_false hb
    rw [List.takeWhile_cons_of_neg hneg, List.dropWhile_cons_of_neg hneg, List.append_nil]
    rfl

/-- Passing over blanks is dropping all bytes of a kind. -/
theorem local_skipBlanks : Local skipBlanks :=
  (local_span isBlank).map fun _ => ()

/-- Looking for the next byte behind blanks stops at this byte or at the end of the text. -/
theorem local_peekToken (part : Part) : Local (peekToken part) :=
  local_skipBlanks.bind fun _ =>
    .ofByte pure (.failHere (.endOfText part)) .pure rfl fun _ _ => rfl

/-- The next byte stays, and so something is left where one is found. A decoder that then takes it
has less left. -/
theorem peekToken_ne_nil (part : Part) (s : List UInt8) (b : UInt8) :
    peekToken part s ≠ .ok (b, []) := by
  intro h
  obtain ⟨_, m, -, h⟩ := bind_eq_ok.1 h
  rw [get_bind] at h
  cases m with
  | nil => cases h
  | cons c m => cases h

/-- The end of a text is a place behind which no byte stands, and any byte there is a fault of its
own place. -/
theorem local_endOfText : Local endOfText :=
  local_skipBlanks.bind fun _ =>
    .ofByte (fun _ => failNext .trailingCharacters) (.pure ()) (fun _ => .failNext _) rfl
      fun _ _ => rfl

/-! ## Numbers -/

/-- A number is worked out without looking at the text. A value too large is a fault of the place
where the number ends. -/
theorem local_floating (minus : Bool) (n : Nat) (e : Int) : Local (floating minus n e) := by
  unfold floating
  cases scaled (Float.ofScientific n false 0) e with
  | none => exact .failHere _
  | some x => exact .pure _

/-- Reads the digits that fit a word after the value `n`, and counts them. -/
def fittingDigits (n : Nat) : Decoder (Nat × Nat) := fun s =>
  .ok (((takeFitting n 0 s).1, (takeFitting n 0 s).2.1), (takeFitting n 0 s).2.2)

/-- The digits of a number that fit a word are taken one by one, and the first that does not fit
stays. -/
theorem local_fittingDigits (n : Nat) : Local (fittingDigits n) := by
  refine Local.scan (d := fun (x : Nat × Nat) s => .ok (((takeFitting x.1 x.2 s).1,
    (takeFitting x.1 x.2 s).2.1), (takeFitting x.1 x.2 s).2.2)) (fun x => ⟨.ok x, rfl⟩)
    (fun x b => ?_) (n, 0)
  by_cases hb : (isDigit b && x.1 * 10 + digitValue b < UInt64.size) = true
  · exact .inl ⟨(x.1 * 10 + digitValue b, x.2 + 1), fun s => by rw [takeFitting, if_pos hb]⟩
  · exact .inr ⟨pure x, .pure x, fun s => by rw [takeFitting, if_neg hb]; rfl⟩

/-- Reads the digits of an exponent after the value `e`. -/
def exponentLiteral (e : Nat) : Decoder (Option Nat) := fun s => .ok (exponentDigits e s)

/-- The digits of an exponent are taken as long as they fit, in the same way. -/
theorem local_exponentLiteral (e : Nat) : Local (exponentLiteral e) := by
  refine Local.scan (d := exponentLiteral) (fun e => ⟨.ok (some e), rfl⟩) (fun e b => ?_) e
  unfold exponentLiteral
  by_cases hb : isDigit b = true
  · by_cases hfits : e * 10 + digitValue b < 0x80000000
    · exact .inl ⟨e * 10 + digitValue b, fun s => by
        rw [exponentDigits, if_pos hb, if_pos hfits]⟩
    · exact .inr ⟨advance >>= fun _ => pure none, Local.advance.map _, fun s => by
        rw [exponentDigits, if_pos hb, if_neg hfits]; rfl⟩
  · exact .inr ⟨pure (some e), .pure _, fun s => by rw [exponentDigits, if_neg hb]; rfl⟩

/-- The decoder of an exponent, taken apart into steps that are known to be local. The definition
reads bytes by cases; here each case is a decoder of its own. -/
theorem exponentValue_eq (minus : Bool) (n : Nat) (e : Int) (down : Bool) :
    exponentValue minus n e down = nextByte .value >>= fun b =>
      if isDigit b then
        exponentLiteral (digitValue b) >>= fun x =>
          x.elim
            (if n ≠ 0 && !down then failHere .numberOutOfRange
              else span isDigit >>= fun _ => floating minus 0 0)
            fun x => floating minus n (if down then e - x else e + x)
      else failHere .invalidNumber := by
  funext s
  cases s with
  | nil => rfl
  | cons b s =>
    rw [Local.bind_of_ok rfl, ite_run, Local.bind_of_ok (show exponentLiteral (digitValue b) s =
      .ok ((exponentDigits (digitValue b) s).1, (exponentDigits (digitValue b) s).2) from rfl)]
    dsimp only [exponentValue]
    obtain ⟨x, r⟩ := exponentDigits (digitValue b) s
    cases x with
    | some x => rfl
    | none =>
      dsimp only [Option.elim]
      rw [ite_run]
      rfl

/-- The value of an exponent, with its digits that do not fit, by the steps of
`exponentValue_eq`. -/
theorem local_exponentValue (minus : Bool) (n : Nat) (e : Int) (down : Bool) :
    Local (exponentValue minus n e down) := by
  rw [exponentValue_eq]
  refine (local_nextByte _).bind fun b => .ite ((local_exponentLiteral _).bind fun x => ?_)
    (.failHere _)
  cases x with
  | none => exact .ite (.failHere _) ((local_span _).bind fun _ => local_floating _ _ _)
  | some x => exact local_floating _ _ _

/-- An exponent with its sign, if it has one. -/
theorem local_exponentPart (minus : Bool) (n : Nat) (e : Int) : Local (exponentPart minus n e) :=
  .ofByte
    (fun b => if b = ascii '+' then advance >>= fun _ => exponentValue minus n e false
      else if b = ascii '-' then advance >>= fun _ => exponentValue minus n e true
      else exponentValue minus n e false)
    (local_exponentValue minus n e false)
    (fun _ => .ite (Local.advance.bind fun _ => local_exponentValue _ _ _ _)
      (.ite (Local.advance.bind fun _ => local_exponentValue _ _ _ _)
        (local_exponentValue _ _ _ _)))
    rfl fun b s => by
      simp only [ite_run]
      rfl

/-- An exponent, if the next byte is the mark of one. -/
theorem local_exponentOrEnd (minus : Bool) (n : Nat) (e : Int) : Local (exponentOrEnd minus n e) :=
  .ofByte
    (fun b => if isExponentMark b then advance >>= fun _ => exponentPart minus n e
      else floating minus n e)
    (local_floating minus n e)
    (fun _ => .ite (Local.advance.bind fun _ => local_exponentPart _ _ _) (local_floating _ _ _))
    rfl fun b s => by
      simp only [ite_run]
      rfl

/-- What follows the fitting digits of a fraction. -/
def fractionTail (minus : Bool) (n count : Nat) (e : Int) (next : Option UInt8) : Decoder Number :=
  if next.any isDigit then span isDigit >>= fun _ => exponentOrEnd minus n (e - count)
  else if count = 0 then failNext (if next.isNone then .endOfText .value else .invalidNumber)
  else exponentOrEnd minus n (e - count)

/-- What follows the digits of a fraction is chosen by the next byte, which stays. -/
theorem local_fractionTail (minus : Bool) (n count : Nat) (e : Int) (next : Option UInt8) :
    Local (fractionTail minus n count e next) :=
  .ite ((local_span _).bind fun _ => local_exponentOrEnd _ _ _)
    (.ite (.failNext _) (local_exponentOrEnd _ _ _))

/-- A fraction: its digits that fit, those that do not, and what follows. Digits that do not fit are
dropped, and no digit at all is a fault. -/
theorem local_fractionPart (minus : Bool) (n : Nat) (e : Int) : Local (fractionPart minus n e) := by
  have htail : ∀ x : Nat × Nat, Local fun s => fractionTail minus x.1 x.2 e s.head? s := fun x =>
    .ofHead (fractionTail minus x.1 x.2 e) (local_fractionTail minus x.1 x.2 e) fun _ => rfl
  have heq : fractionPart minus n e =
      fittingDigits n >>= fun x s => fractionTail minus x.1 x.2 e s.head? s := by
    funext s
    rw [fractionPart, Local.bind_of_ok rfl]
    simp only [fractionTail, ite_run]
    obtain ⟨n', count, r⟩ := takeFitting n 0 s
    cases r <;> rfl
  rw [heq]
  exact (local_fittingDigits n).bind htail

/-- A whole number without fraction and exponent is there when its digits end. Nothing behind them
is looked at. -/
theorem local_integral (minus : Bool) (n : Nat) : Local (integral minus n) :=
  .ite (.ite (local_floating _ _ _) (.pure _)) (.pure _)

/-- What follows the digits in front of the point is chosen by the next byte. -/
theorem local_numberTail (minus : Bool) (n e : Nat) : Local (numberTail minus n e) := by
  have hplain : Local (if e = 0 then integral minus n else floating minus n e) :=
    .ite (local_integral _ _) (local_floating _ _ _)
  refine .ofByte
    (fun b => if b = ascii '.' then advance >>= fun _ => fractionPart minus n e
      else if isExponentMark b then advance >>= fun _ => exponentPart minus n e
      else if e = 0 then integral minus n else floating minus n e)
    hplain
    (fun _ => .ite (Local.advance.bind fun _ => local_fractionPart _ _ _)
      (.ite (Local.advance.bind fun _ => local_exponentPart _ _ _) hplain))
    ?_ fun b s => ?_
  · rw [ite_run]
    rfl
  · simp only [ite_run]
    rfl

/-- The decoder of a number without its sign, taken apart into steps that are known to be local. A
first zero stands alone. -/
theorem unsignedNumber_eq (minus : Bool) :
    unsignedNumber minus = nextByte .value >>= fun b =>
      if b = ascii '0' then fun s =>
        if s.head?.any isDigit then failNext .invalidNumber s else numberTail minus 0 0 s
      else if isDigit b then
        fittingDigits (digitValue b) >>= fun x => span isDigit >>= fun more =>
          numberTail minus x.1 more.length
      else failHere .invalidNumber := by
  funext s
  cases s with
  | nil => rfl
  | cons b s =>
    rw [Local.bind_of_ok rfl, unsignedNumber_cons]
    simp only [ite_run]
    cases s <;> rfl

/-- A number without its sign, by its first digit. -/
theorem local_unsignedNumber (minus : Bool) : Local (unsignedNumber minus) := by
  rw [unsignedNumber_eq]
  refine (local_nextByte _).bind fun b => .ite ?_ (.ite ((local_fittingDigits _).bind fun x =>
    (local_span _).bind fun more => local_numberTail _ _ _) (.failHere _))
  refine .ofHead
    (fun x => if x.any isDigit then failNext .invalidNumber else numberTail minus 0 0)
    (fun x => .ite (.failNext _) (local_numberTail _ _ _)) fun s => (ite_run _ _ s).symm

/-- A number, or whatever is decoded where no number begins. The next byte chooses between the
two. -/
theorem local_numberLiteral {otherwise : Decoder Number} (h : Local otherwise) :
    Local (numberLiteral otherwise) :=
  .ofByte
    (fun b => if b = ascii '-' then advance >>= fun _ => unsignedNumber true
      else if isDigit b then unsignedNumber false
      else otherwise)
    h
    (fun _ => .ite (Local.advance.bind fun _ => local_unsignedNumber _)
      (.ite (local_unsignedNumber _) h))
    rfl fun b s => by
      simp only [ite_run]
      rfl

end Json

end DeviceReadings
