import DeviceReadings.Proofs.Json.Locality

/-!
# Texts that end too early

What a decoder makes of a text that is cut short. A local decoder is strict if it needs all the
bytes that it takes (`Strict`): on fewer of them it says that the text has ended (`Ended`). Strict
decoders in a row are strict, and a choice by the next byte that is no blank is strict if its
branches are, for which it is enough that they are strict once there is a byte (`StrictAhead`).
Words and strings are strict.

Numbers are not strict, as the first digits of a number are a number. They need a decoder behind
them that has to find something (`strictAhead_natural`).
-/

namespace DeviceReadings

namespace Json

variable {α β : Type}

/-! ## Strict decoders -/

/-- A text has ended where more of it was needed. -/
def Ended (x : Except Fault (α × List UInt8)) : Prop :=
  ∃ part, x = .error ⟨.endOfText part, 0⟩

/-- A decoder needs all the bytes that it takes. -/
structure Strict (d : Decoder α) : Prop extends Local d where
  cut : ∀ {p r : List UInt8} {a : α}, d (p ++ r) = .ok (a, r) → ∀ s, s <+: p →
    Ended (d s) ∨ s = p ∧ d s = .ok (a, [])

/-- A decoder needs all the bytes that it takes, provided that there is one. -/
structure StrictAhead (d : Decoder α) : Prop extends Local d where
  cut : ∀ {p r : List UInt8} {a : α}, d (p ++ r) = .ok (a, r) → ∀ s, s <+: p → s ≠ [] →
    Ended (d s) ∨ s = p ∧ d s = .ok (a, [])

/-- Where a local decoder stops does not depend on how much of the text follows, if anything
does. -/
theorem Local.ok_of_front {d : Decoder α} (hd : Local d) {p m s : List UInt8} {a : α}
    (h : d (p ++ m) = .ok (a, m)) (hs : s <+: m) (hne : s ≠ []) : d (p ++ s) = .ok (a, s) := by
  obtain ⟨m', rfl⟩ := hs
  cases s with
  | nil => exact absurd rfl hne
  | cons b s => exact hd.same (o := .ok a) (by rwa [List.cons_append] at h) s

/-- A part of the front of a text in two parts is one of the first part, or goes on behind it. A cut
through two decoders in a row falls to the first or to the second one. -/
theorem prefix_append_cases {s p q : List UInt8} (h : s <+: p ++ q) :
    s <+: p ∨ ∃ s', s = p ++ s' ∧ s' <+: q ∧ s' ≠ [] := by
  rcases List.prefix_or_prefix_of_prefix h (List.prefix_append p q) with hs | ⟨s', rfl⟩
  · exact .inl hs
  · cases s' with
    | nil => exact .inl (by simp)
    | cons b s' =>
      exact .inr ⟨b :: s', rfl, (List.prefix_append_right_inj p).1 h, List.cons_ne_nil b s'⟩

/-- Where the text goes on behind what the first decoder takes, the second one decides. The first
one does not notice the cut, as it comes behind the next byte. -/
theorem Local.bind_cut {d : Decoder α} {k : α → Decoder β} (hd : Local d)
    {p₁ p₂ r s : List UInt8} {a : α} {b : β} (hfirst : d (p₁ ++ (p₂ ++ r)) = .ok (a, p₂ ++ r))
    (hs : s <+: p₂) (hne : s ≠ []) (hnext : Ended (k a s) ∨ s = p₂ ∧ k a s = .ok (b, [])) :
    Ended ((d >>= k) (p₁ ++ s)) ∨
      p₁ ++ s = p₁ ++ p₂ ∧ (d >>= k) (p₁ ++ s) = .ok (b, []) := by
  rw [Local.bind_of_ok (hd.ok_of_front hfirst (hs.trans (List.prefix_append p₂ r)) hne)]
  rcases hnext with hended | ⟨rfl, hok⟩
  · exact .inl hended
  · exact .inr ⟨rfl, hok⟩

namespace Ended

/-- A text that has ended for the first of two decoders has ended for both. -/
theorem bind {d : Decoder α} {s : List UInt8} (h : Ended (d s)) (k : α → Decoder β) :
    Ended ((d >>= k) s) := by
  obtain ⟨part, h⟩ := h
  exact ⟨part, Local.bind_of_error h⟩

/-- At the end of a text there is no next byte. -/
theorem peekToken_nil (part : Part) : Ended (peekToken part []) :=
  ⟨part, rfl⟩

end Ended

/-- Decoders in a row: what the first one takes, what the second one takes, and what is left. Both
are local, so that each of them takes a front of what it finds. -/
theorem bind_eq_ok_split {d : Decoder α} {k : α → Decoder β} (hd : Local d)
    (hk : ∀ a, Local (k a)) {p r : List UInt8} {b : β} (h : (d >>= k) (p ++ r) = .ok (b, r)) :
    ∃ p₁ p₂ a, p = p₁ ++ p₂ ∧ d (p₁ ++ (p₂ ++ r)) = .ok (a, p₂ ++ r) ∧
      k a (p₂ ++ r) = .ok (b, r) := by
  obtain ⟨a, m, hfirst, hnext⟩ := bind_eq_ok.1 h
  obtain ⟨p₂, rfl⟩ := (hk a).exists_append hnext
  obtain ⟨p₁, hsplit⟩ := hd.exists_append hfirst
  rw [hsplit] at hfirst
  rw [← List.append_assoc] at hsplit
  exact ⟨p₁, p₂, a, List.append_cancel_right hsplit, hfirst, hnext⟩

namespace Strict

variable {d d' : Decoder α} {k : α → Decoder β}

/-- A decoder that never comes to a value takes nothing, and there is nothing to cut. Faults need no
more than this. -/
theorem fail (hd : Local d) (h : ∀ s p, d s ≠ .ok p) : Strict d :=
  ⟨hd, fun hok => absurd hok (h _ _)⟩

/-- A fault of the place where a decoder stands is strict, as it takes nothing. -/
theorem failHere (cause : Cause) : Strict (failHere cause : Decoder α) :=
  .fail (.failHere cause) (failHere_ne_ok cause)

/-- So is a fault of the byte behind. -/
theorem failNext (cause : Cause) : Strict (failNext cause : Decoder α) :=
  .fail (.failNext cause) (failNext_ne_ok cause)

/-- A value that is there already is strict: no text is needed, and of nothing nothing can be
cut. -/
theorem pure (a : α) : Strict (pure a : Decoder α) where
  toLocal := .pure a
  cut {p r a'} h s hs := by
    obtain ⟨rfl, hr⟩ := pure_eq_ok.1 h
    obtain rfl := eq_nil_of_append_length (congrArg List.length hr.symm)
    obtain rfl := List.prefix_nil.1 hs
    exact .inr ⟨rfl, rfl⟩

/-- A strict decoder is strict once there is a byte as well. The branches of a choice by the next
byte need no more (`Strict.peek`). -/
theorem ahead (h : Strict d) : StrictAhead d :=
  ⟨h.toLocal, fun hok s hs _ => h.cut hok s hs⟩

/-- A choice that was made before is strict if both decoders are. -/
theorem ite {p : Prop} [Decidable p] (h : Strict d) (h' : Strict d') :
    Strict (if p then d else d') := by
  split
  · exact h
  · exact h'

/-- **Strict decoders in a row are strict.** A cut inside what the first one takes is noticed by it,
and a cut behind is left to the second one. -/
theorem bind (hd : Strict d) (hk : ∀ a, Strict (k a)) : Strict (d >>= k) where
  toLocal := hd.toLocal.bind fun a => (hk a).toLocal
  cut {p r b} h s hs := by
    obtain ⟨p₁, p₂, a, rfl, hfirst, hnext⟩ :=
      bind_eq_ok_split hd.toLocal (fun a => (hk a).toLocal) h
    rcases prefix_append_cases hs with hs | ⟨s', rfl, hs, hne⟩
    · rcases hd.cut hfirst s hs with hended | ⟨rfl, hok⟩
      · exact .inl (hended.bind k)
      · rw [Local.bind_of_ok hok]
        rcases (hk a).cut hnext [] List.nil_prefix with hended | ⟨rfl, hok⟩
        · exact .inl hended
        · exact .inr ⟨(List.append_nil s).symm, hok⟩
    · exact hd.toLocal.bind_cut hfirst hs hne ((hk a).cut hnext s' hs)

/-- The value of a strict decoder may be worked on. -/
theorem map (hd : Strict d) (f : α → β) : Strict (d >>= fun a => Pure.pure (f a)) :=
  hd.bind fun a => pure (f a)

/-- A loop by a number of rounds that is larger than the number of bytes. A cut text has fewer
bytes, and the same rounds are enough for it. -/
theorem ofFuel {d : Nat → Decoder α} {e : Decoder α} (hd : ∀ fuel, Strict (d fuel))
    (he : ∀ fuel s, s.length < fuel → e s = d fuel s) : Strict e where
  toLocal := .ofFuel (fun fuel => (hd fuel).toLocal) he
  cut {p r a} h s hs := by
    have hlength : s.length < (p ++ r).length + 1 := by
      rw [List.length_append]
      have := hs.length_le
      omega
    rw [he _ _ (Nat.lt_succ_self _)] at h
    rw [he _ s hlength]
    exact (hd _).cut h s hs

end Strict

namespace StrictAhead

variable {d d' : Decoder α}

/-- A choice that was made before is strict ahead if both decoders are. -/
theorem ite {p : Prop} [Decidable p] (h : StrictAhead d) (h' : StrictAhead d') :
    StrictAhead (if p then d else d') := by
  split
  · exact h
  · exact h'

/-- A fault of the next byte is strict ahead, since it comes to no value. -/
theorem failNext (cause : Cause) : StrictAhead (failNext cause : Decoder α) :=
  (Strict.failNext cause).ahead

/-- A strict decoder behind the next byte is strict once this byte is there. A cut before it would
leave nothing to choose by. -/
theorem advance (hd : Strict d) : StrictAhead (advance >>= fun _ => d) where
  toLocal := Local.advance.bind fun _ => hd.toLocal
  cut {p r a} h s hs hne := by
    cases s with
    | nil => exact absurd rfl hne
    | cons b s =>
      obtain ⟨p, rfl⟩ := hs
      have htail : d (s ++ p ++ r) = .ok (a, r) := h
      rcases hd.cut htail s (List.prefix_append s p) with hended | ⟨hp, hok⟩
      · exact .inl hended
      · exact .inr ⟨congrArg (b :: ·) hp, hok⟩

end StrictAhead

/-! ## The next byte -/

/-- A byte that has to be there is needed. -/
theorem strict_nextByte (part : Part) : Strict (nextByte part) where
  toLocal := local_nextByte part
  cut {p r b} h s hs := by
    cases s with
    | nil => exact .inl ⟨part, rfl⟩
    | cons c s =>
      obtain ⟨p, rfl⟩ := hs
      obtain ⟨rfl, hr⟩ := Prod.mk.inj (Except.ok.inj (show Except.ok (c, s ++ p ++ r) = _ from h))
      obtain hnil := eq_nil_of_append_length (congrArg List.length hr)
      obtain ⟨rfl, rfl⟩ := List.append_eq_nil_iff.1 hnil
      exact .inr ⟨rfl, rfl⟩

/-- Before the next byte that is no blank there are only blanks. They are dropped, and at the end of
the text it has ended too early. -/
theorem peekToken_run (part : Part) (s : List UInt8) :
    peekToken part s = match s.dropWhile isBlank with
      | [] => .error ⟨.endOfText part, 0⟩
      | b :: r => .ok (b, b :: r) := by
  unfold peekToken
  rw [Local.bind_of_ok (show skipBlanks s = .ok ((), s.dropWhile isBlank) from rfl), get_bind]
  cases s.dropWhile isBlank <;> rfl

/-- Among the blanks before the next byte a text ends too early: dropping them leaves nothing
(`peekToken_run`). -/
theorem ended_peekToken {part : Part} {p m s : List UInt8} {b : UInt8}
    (h : peekToken part (p ++ m) = .ok (b, m)) (hs : s <+: p) : Ended (peekToken part s) := by
  have hdrop : (p ++ m).dropWhile isBlank = m := by
    rw [peekToken_run] at h
    cases hrest : (p ++ m).dropWhile isBlank with
    | nil =>
      rw [hrest] at h
      cases h
    | cons c r =>
      rw [hrest] at h
      exact congrArg Prod.snd (Except.ok.inj h)
  have htake : (p ++ m).takeWhile isBlank = p := by
    have hsplit := List.takeWhile_append_dropWhile (p := isBlank) (l := p ++ m)
    rw [hdrop] at hsplit
    exact List.append_cancel_right hsplit
  have hblank : s.dropWhile isBlank = [] :=
    List.dropWhile_eq_nil_iff.2 fun c hc => List.mem_takeWhile_imp (htake.symm ▸ hs.subset hc)
  rw [peekToken_run, hblank]
  exact ⟨part, rfl⟩

/-- **A choice by the next byte is strict if its branches are, once there is a byte.** Cut among the
blanks before it the text has ended, and cut behind it the branch that is chosen is the same. -/
theorem Strict.peek {part : Part} {k : UInt8 → Decoder α} (hk : ∀ b, StrictAhead (k b)) :
    Strict (peekToken part >>= k) where
  toLocal := (local_peekToken part).bind fun b => (hk b).toLocal
  cut {p r a} h s hs := by
    obtain ⟨p₁, p₂, b, rfl, hpeek, hnext⟩ :=
      bind_eq_ok_split (local_peekToken part) (fun b => (hk b).toLocal) h
    rcases prefix_append_cases hs with hs | ⟨s', rfl, hs, hne⟩
    · exact .inl ((ended_peekToken hpeek hs).bind k)
    · exact (local_peekToken part).bind_cut hpeek hs hne ((hk b).cut hnext s' hs hne)

/-- Taking a byte is strict once there is one. -/
theorem strictAhead_advance : StrictAhead advance := by
  have h := StrictAhead.advance (Strict.pure ())
  rwa [bind_pure] at h

/-! ## Words and strings -/

/-- The letters of a word, as decoders of one byte in a row. -/
theorem restOfWord_eq (c : Char) (cs : List Char) :
    restOfWord (c :: cs) = nextByte .value >>= fun b =>
      if b = ascii c then restOfWord cs else failHere .misspelled := by
  funext s
  cases s with
  | nil => rfl
  | cons b s => rw [restOfWord_cons, Local.bind_of_ok rfl, ite_run]

/-- A word is needed to its last letter. The induction is on the letters, each of which has to be
there. -/
theorem strict_restOfWord (word : List Char) : Strict (restOfWord word) := by
  induction word with
  | nil => exact .pure ()
  | cons c word ih =>
    rw [restOfWord_eq]
    exact (strict_nextByte .value).bind fun _ => .ite ih (.failHere _)

/-- Four hexadecimal digits, as decoders of one byte in a row with a look at all of them in the
end. -/
theorem hexUnit_eq :
    hexUnit = nextByte .string >>= fun a => nextByte .string >>= fun b =>
      nextByte .string >>= fun c => nextByte .string >>= fun d =>
        (hexValue? 0 [a, b, c, d]).elim (failHere .invalidEscape) pure := by
  funext s
  match s with
  | [] => rfl
  | [_] => rfl
  | [_, _] => rfl
  | [_, _, _] => rfl
  | a :: b :: c :: d :: s =>
    show hexUnit (a :: b :: c :: d :: s) =
      (hexValue? 0 [a, b, c, d]).elim (failHere .invalidEscape) pure s
    rw [hexUnit]
    cases hexValue? 0 [a, b, c, d] <;> rfl

/-- All four digits are needed, before it is known whether they are digits. -/
theorem strict_hexUnit : Strict hexUnit := by
  rw [hexUnit_eq]
  refine (strict_nextByte _).bind fun a => (strict_nextByte _).bind fun b =>
    (strict_nextByte _).bind fun c => (strict_nextByte _).bind fun d => ?_
  cases hexValue? 0 [a, b, c, d] with
  | none => exact .failHere _
  | some n => exact .pure n

/-- A given byte between the units of a pair, as a decoder of one byte and a choice. -/
theorem pairByte_eq (c : Char) :
    pairByte c = nextByte .string >>= fun b =>
      if b = ascii c then pure () else failHere .halfPair := by
  funext s
  cases s with
  | nil => rfl
  | cons b s =>
    rw [Local.bind_of_ok rfl, ite_run]
    rfl

/-- The byte has to be there. -/
theorem strict_pairByte (c : Char) : Strict (pairByte c) := by
  rw [pairByte_eq]
  exact (strict_nextByte _).bind fun _ => .ite (.pure ()) (.failHere _)

/-- A number behind its letter is needed whole, and with a first half of a pair so is the second
half. -/
theorem strict_unitEscape : Strict unitEscape :=
  strict_hexUnit.bind fun _ => .ite (.failHere _) (.ite
    ((strict_pairByte _).bind fun _ => (strict_pairByte _).bind fun _ =>
      strict_hexUnit.bind fun _ => .ite (.pure _) (.failHere _))
    (.pure _))

/-- What stands behind a backslash, as a decoder of one byte and a choice by it. -/
theorem escape_eq :
    escape = nextByte .string >>= fun b =>
      if b = ascii 'u' then unitEscape
      else (shortEscape? b).elim (failHere .invalidEscape) pure := by
  funext s
  cases s with
  | nil => rfl
  | cons b s =>
    rw [escape_cons, Local.bind_of_ok rfl, ite_run]
    cases shortEscape? b <;> rfl

/-- The character that is escaped is needed. -/
theorem strict_escape : Strict escape := by
  rw [escape_eq]
  refine (strict_nextByte _).bind fun b => .ite strict_unitEscape ?_
  cases shortEscape? b with
  | none => exact .failHere _
  | some c => exact .pure c

/-- A round of the loop over a string, as a decoder of one byte and what follows it. The text of the
escapes is put in front of what the other rounds give. -/
theorem stringBytes_eq (fuel : Nat) :
    stringBytes (fuel + 1) = nextByte .string >>= fun b =>
      if b = ascii '"' then pure []
      else if b = ascii '\\' then
        escape >>= fun c => stringBytes fuel >>= fun out => pure (String.utf8EncodeChar c ++ out)
      else if b.toNat < 0x20 then failHere .controlCharacter
      else stringBytes fuel >>= fun out => pure (b :: out) := by
  funext s
  cases s with
  | nil => rfl
  | cons b s =>
    simp only [stringBytes_succ, Local.bind_of_ok (show nextByte .string (b :: s) = _ from rfl),
      ite_run]
    congr 2
    cases he : escape s with
    | error fault => rw [Local.bind_of_error he]
    | ok p =>
      rw [Local.bind_of_ok he]
      exact (map_run _ _ _).symm

/-- The bytes of a string are needed up to the closing quote. The induction is on the rounds. -/
theorem strict_stringBytes (fuel : Nat) : Strict (stringBytes fuel) := by
  induction fuel with
  | zero => exact .failHere _
  | succ fuel ih =>
    rw [stringBytes_eq]
    exact (strict_nextByte _).bind fun b => .ite (.pure _) (.ite
      (strict_escape.bind fun c => ih.map _) (.ite (.failHere _) (ih.map _)))

/-- More rounds than bytes make no difference, since each round takes a byte. The induction is on
the rounds, and an escape may take more than one byte. -/
theorem stringBytes_fuel {fuel fuel' : Nat} {s : List UInt8} (h : s.length < fuel)
    (h' : s.length < fuel') : stringBytes fuel s = stringBytes fuel' s := by
  induction fuel generalizing fuel' s with
  | zero => cases h
  | succ fuel ih =>
    obtain ⟨fuel', rfl⟩ := Nat.exists_eq_add_one_of_ne_zero (Nat.ne_zero_of_lt h')
    rw [stringBytes_eq, stringBytes_eq]
    refine bind_congr_of_ok fun b m hb => ?_
    have hm : s.length = m.length + 1 := by
      cases s with
      | nil => cases hb
      | cons b s =>
        cases hb
        rfl
    have hrest : ∀ {r : List UInt8} (f : List UInt8 → List UInt8), r.length ≤ m.length →
        (stringBytes fuel >>= fun out => pure (f out)) r =
          (stringBytes fuel' >>= fun out => pure (f out)) r := by
      intro r f hr
      show (stringBytes fuel r >>= _) = (stringBytes fuel' r >>= _)
      rw [ih (show r.length < fuel by omega) (show r.length < fuel' by omega)]
    split
    · rfl
    · split
      · exact bind_congr_of_ok fun c r hc => hrest _ (strict_escape.length_le hc)
      · split
        · rfl
        · exact hrest _ (Nat.le_refl _)

/-- A string is read by any number of rounds that is larger than the number of bytes. -/
theorem stringLiteral_eq {fuel : Nat} {s : List UInt8} (h : s.length < fuel) :
    stringLiteral s = (stringBytes fuel >>= fun out => pure (Utf8.decodeLossy out)) s := by
  rw [stringLiteral, stringBytes_fuel (Nat.lt_succ_self _) h, map_run]

/-- A string is needed with its closing quote. Rounds by the number of bytes are enough
(`stringLiteral_eq`), so `Strict.ofFuel` applies. -/
theorem strict_stringLiteral : Strict stringLiteral :=
  .ofFuel (fun fuel => (strict_stringBytes fuel).map Utf8.decodeLossy) fun _ _ => stringLiteral_eq

/-! ## Natural numbers -/

/-- A natural number without a sign ends where its digits do, with all of them taken. Whatever may
follow in a number makes it one in floating point. -/
theorem numberTail_eq_natural {n e n' : Nat} {s m : List UInt8}
    (h : numberTail false n e s = .ok (.natural n', m)) : e = 0 ∧ m = s := by
  by_cases he : e = 0
  · subst he
    refine ⟨rfl, ?_⟩
    cases s with
    | nil => exact (congrArg Prod.snd (Except.ok.inj h)).symm
    | cons b s =>
      rw [numberTail_cons] at h
      split at h
      · exact (neverNatural_fractionPart _ _ _ h).elim
      · split at h
        · exact (neverNatural_exponentPart _ _ _ h).elim
        · exact (congrArg Prod.snd (Except.ok.inj h)).symm
  · exact (neverNatural_numberTail (.inr he) h).elim

/-- If the fitting digits are the front of a text, the first ones of them fit as well. The value of
fewer digits is not larger. -/
theorem takeFitting_of_front {p m s : List UInt8} {n count : Nat}
    (h : (takeFitting n count (p ++ m)).2.2 = m) (hs : s <+: p) :
    (takeFitting n count s).2.2 = [] := by
  induction p generalizing n count s with
  | nil =>
    obtain rfl := List.prefix_nil.1 hs
    rfl
  | cons b p ih =>
    cases s with
    | nil => rfl
    | cons c s =>
      obtain ⟨rfl, hs'⟩ := List.cons_prefix_cons.1 hs
      rw [List.cons_append, takeFitting_cons] at h
      rw [takeFitting_cons]
      split at h
      · next hb =>
        rw [if_pos hb]
        exact ih h hs'
      · have hlength := congrArg List.length h
        simp only [List.length_cons, List.length_append] at hlength
        omega

/-- The first digits of a natural number are one. So a number that is cut off is not noticed as
such, and numbers are not strict. -/
theorem unsignedNumber_of_front {p m s : List UInt8} {n : Nat}
    (h : unsignedNumber false (p ++ m) = .ok (.natural n, m)) (hs : s <+: p) (hne : s ≠ []) :
    ∃ n', unsignedNumber false s = .ok (.natural n', []) := by
  cases s with
  | nil => exact absurd rfl hne
  | cons b s =>
    obtain ⟨p', rfl⟩ := hs
    rw [List.cons_append, List.cons_append, unsignedNumber_cons] at h
    rw [unsignedNumber_cons]
    split at h
    · next hb =>
      split at h
      · cases h
      · obtain ⟨-, hm⟩ := numberTail_eq_natural h
        have hnil := eq_nil_of_append_length (congrArg List.length hm.symm)
        obtain ⟨rfl, -⟩ := List.append_eq_nil_iff.1 hnil
        rw [if_pos hb]
        exact ⟨0, rfl⟩
    · next hb =>
      split at h
      · next hdigit =>
        obtain ⟨he, hm⟩ := numberTail_eq_natural h
        have hall := List.takeWhile_append_dropWhile (p := isDigit)
          (l := (takeFitting (digitValue b) 0 (s ++ p' ++ m)).2.2)
        rw [List.eq_nil_of_length_eq_zero he, ← hm, List.nil_append] at hall
        have hfits := takeFitting_of_front hall.symm (List.prefix_append s p')
        rw [if_neg hb, if_pos hdigit]
        refine ⟨(takeFitting (digitValue b) 0 s).1, ?_⟩
        dsimp only
        rw [hfits]
        rfl
      · cases h

/-- The first digits of a natural number are one, whatever else might stand there. -/
theorem numberLiteral_of_front {otherwise : Decoder Number} (hno : ∀ s p, otherwise s ≠ .ok p)
    {p m s : List UInt8} {n : Nat} (h : numberLiteral otherwise (p ++ m) = .ok (.natural n, m))
    (hs : s <+: p) (hne : s ≠ []) :
    ∃ n', numberLiteral otherwise s = .ok (.natural n', []) := by
  cases s with
  | nil => exact absurd rfl hne
  | cons b s =>
    obtain ⟨p', rfl⟩ := hs
    rw [List.cons_append, List.cons_append, numberLiteral_cons] at h
    rw [numberLiteral_cons]
    split at h
    · exact (neverNatural_unsignedNumber h).elim
    · next hminus =>
      rw [if_neg hminus]
      split at h
      · next hdigit =>
        rw [if_pos hdigit]
        exact unsignedNumber_of_front (p := b :: s ++ p') h (List.prefix_append _ _) hne
      · exact absurd h (hno _ _)

/-- **A natural number and what follows it are strict** if only natural numbers are gone on with,
and something has to follow. -/
theorem strictAhead_natural {otherwise : Decoder Number} {k : Number → Decoder α}
    (hotherwise : Local otherwise) (hno : ∀ s p, otherwise s ≠ .ok p)
    (hlocal : ∀ x, Local (k x)) (hk : ∀ n, Strict (k (.natural n)))
    (hend : ∀ n, Ended (k (.natural n) []))
    (hother : ∀ x, (∀ n, x ≠ .natural n) → ∀ s p, k x s ≠ .ok p) :
    StrictAhead (numberLiteral otherwise >>= k) where
  toLocal := (local_numberLiteral hotherwise).bind hlocal
  cut {p r a} h s hs hne := by
    obtain ⟨p₁, p₂, x, rfl, hnumber, hnext⟩ :=
      bind_eq_ok_split (local_numberLiteral hotherwise) hlocal h
    obtain ⟨n, rfl⟩ : ∃ n, x = .natural n := by
      by_contra hnot
      exact hother x (fun n hx => hnot ⟨n, hx⟩) _ _ hnext
    rcases prefix_append_cases hs with hs | ⟨s', rfl, hs, hne'⟩
    · obtain ⟨n', hfirst⟩ := numberLiteral_of_front hno hnumber hs hne
      rw [Local.bind_of_ok hfirst]
      exact .inl (hend n')
    · exact (local_numberLiteral hotherwise).bind_cut hnumber hs hne' ((hk n).cut hnext s' hs)

end Json

end DeviceReadings
