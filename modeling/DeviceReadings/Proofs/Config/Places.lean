import DeviceReadings.Proofs.Config.Strictness
import Mathlib.Data.List.DropRight

/-!
# Places of faults

Every fault of a configuration text lies at an offset in the text, from which its line and column
are counted, and nothing behind the byte at this offset has a part in it
(`ofJson_fault_placed_locally`). The decoder of a whole text is local, and so a text is read up to
its fault without regard to what comes later.
-/

namespace DeviceReadings

/-! ## Lines and columns -/

namespace Json

/-- The line is one more than the line feeds passed, and the column is the number of bytes since the
last of them. Both are counted in bytes, so a character of two bytes takes two columns. -/
theorem Place.after_eq (bytes : List UInt8) :
    Place.after bytes = ⟨1 + bytes.count 10, (bytes.rtakeWhile (· ≠ 10)).length⟩ := by
  induction bytes using List.reverseRecOn with
  | nil => rfl
  | append_singleton bytes b ih =>
    have hstep : Place.after (bytes ++ [b]) = (Place.after bytes).next b := by
      rw [Place.after, List.foldl_append]
      rfl
    rw [hstep, ih, Place.next, List.count_append, List.count_singleton]
    by_cases hb : b = 10
    · subst hb
      rw [if_pos rfl, List.rtakeWhile_concat_neg _ _ _ (by decide)]
      rfl
    · rw [if_neg hb, List.rtakeWhile_concat_pos _ _ _ (by simpa using hb), List.length_append,
        if_neg (by simpa using hb)]
      rfl

end Json

/-! ## Faults of a text -/

namespace Config

open Json

/-- A text that is refused as no configuration has a fault, and what is reported is this fault. A
configuration without its seed is refused for another reason. -/
theorem ofJson_eq_invalid {t : List Char} {m : String} :
    ofJson t = .error (.invalidConfiguration m) ↔
      ∃ fault, document (Utf8.encode t) = .error fault ∧ m = fault.message (Utf8.encode t) := by
  unfold ofJson decode
  cases document (Utf8.encode t) with
  | error fault => simp [Except.map, eq_comm]
  | ok p =>
    refine ⟨fun h => ?_, fun ⟨_, h, _⟩ => nomatch h⟩
    rcases validate_eq p.1 with ⟨-, hvalidate⟩ | ⟨-, hvalidate⟩
    · simp [Except.map, hvalidate] at h
    · simp [Except.map, hvalidate] at h

/-- The words of a fault are those of its cause and of the place behind the bytes before it. A fault
knows only how many bytes are left behind it, which fixes where it lies once the text is known. -/
theorem message_of_split (cause : Cause) (p r : List UInt8) :
    (⟨cause, r.length⟩ : Fault).message (p ++ r) =
      cause.text ++ " at line " ++ Nat.repr (1 + p.count 10) ++ " column " ++
        Nat.repr (p.rtakeWhile (· ≠ 10)).length := by
  have hoffset : (p ++ r).length - r.length = p.length := by
    rw [List.length_append, Nat.add_sub_cancel]
  rw [Fault.message, Fault.place, Fault.offset, hoffset, List.take_left, Place.after_eq, Place.text]
  simp only [String.append_assoc]

/-- **A fault lies at an offset of the text,** from which its line and column are counted: the line
feeds passed give the line, and the bytes since the last of them the column. **What comes behind the
byte at this offset has no part in it:** every text that agrees up to there is refused with the same
words. -/
theorem ofJson_fault_placed_locally (t : List Char) (m : String)
    (h : ofJson t = .error (.invalidConfiguration m)) :
    ∃ k ≤ (Utf8.encode t).length, ∃ words,
      m = words ++ " at line " ++ Nat.repr (1 + ((Utf8.encode t).take k).count 10) ++ " column " ++
        Nat.repr (((Utf8.encode t).take k).rtakeWhile (· ≠ 10)).length ∧
      (k < (Utf8.encode t).length → ∀ t' : List Char,
        (Utf8.encode t').take (k + 1) = (Utf8.encode t).take (k + 1) →
          ofJson t' = .error (.invalidConfiguration m)) := by
  obtain ⟨fault, hfault, rfl⟩ := ofJson_eq_invalid.1 h
  obtain ⟨o, p, r, hsplit, hstop⟩ := local_document.stops (Utf8.encode t)
  rw [hfault] at hstop
  cases o with
  | ok c => cases hstop
  | error cause =>
    obtain rfl : fault = ⟨cause, r.length⟩ := Except.error.inj hstop
    rw [hsplit, message_of_split]
    refine ⟨p.length, by simp, cause.text, by rw [List.take_left], fun hlt t' hagree => ?_⟩
    cases r with
    | nil => simp at hlt
    | cons b r =>
      -- The other text has the same bytes up to `b`, and then bytes of its own.
      have hfront : (Utf8.encode t').take (p.length + 1) = p ++ [b] := by
        rw [hagree, List.append_cons, List.take_left' (by simp)]
      obtain ⟨r', hsplit'⟩ : ∃ r', Utf8.encode t' = p ++ b :: r' :=
        ⟨(Utf8.encode t').drop (p.length + 1), by
          rw [List.append_cons, ← hfront, List.take_append_drop]⟩
      rw [hsplit] at hfault
      have hsame := local_document.same (o := .error cause) hfault r'
      refine ofJson_eq_invalid.2 ⟨⟨cause, (b :: r').length⟩, ?_, ?_⟩
      · rw [hsplit']
        exact hsame
      · rw [hsplit', message_of_split]

/-- A comma in the place of the first element of a list is a fault of the second line, whatever
follows it. Its column is that of the comma itself, the first one of its line. -/
theorem misplaced_comma_placed_locally :
    ofJson "[\n,\n]".toList =
        .error (.invalidConfiguration "expected value at line 2 column 1") ∧
      ∃ k ≤ (Utf8.encode "[\n,\n]".toList).length, ∃ words,
        "expected value at line 2 column 1" = words ++ " at line " ++
          Nat.repr (1 + ((Utf8.encode "[\n,\n]".toList).take k).count 10) ++ " column " ++
          Nat.repr (((Utf8.encode "[\n,\n]".toList).take k).rtakeWhile (· ≠ 10)).length ∧
        (k < (Utf8.encode "[\n,\n]".toList).length → ∀ t' : List Char,
          (Utf8.encode t').take (k + 1) = (Utf8.encode "[\n,\n]".toList).take (k + 1) →
            ofJson t' = .error (.invalidConfiguration "expected value at line 2 column 1")) :=
  ⟨rfl, ofJson_fault_placed_locally _ _ rfl⟩

end Config

end DeviceReadings
