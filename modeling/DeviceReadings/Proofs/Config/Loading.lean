import DeviceReadings.Config.File
import DeviceReadings.Proofs.Config.Places
import DeviceReadings.Proofs.Text.Decoding

/-!
# Configurations are loaded from texts only

A file that holds the bytes of a text is read as this text is, whatever its path; any other file is
refused for its bytes, with its path (`load_reads_texts_only`). It does not matter where the bytes
go wrong: a whole configuration before them does not help, and a fault of the text before them is
not reported. The refusal cannot be mistaken for a fault of some text, since such a fault ends with
the number of a column (`ofJson_ne_notText`).
-/

namespace DeviceReadings

/-- The failure of a file whose bytes are no text. -/
def Failure.notText (path : String) : Failure :=
  .invalidConfiguration (path ++ ": stream did not contain valid UTF-8")

namespace Config

open Json

/-! ## Files with and without a text -/

/-- A file with the bytes of a text is read as the text. Its path has no part in it. -/
theorem load_encode (path : String) (t : List Char) :
    load path (.contents (Utf8.encode t)) = ofJson t := by
  simp only [load, FileState.text, Utf8.decode?_encode]

/-- A file with other bytes is refused, and the refusal says nothing of the bytes but that they are
no text. -/
theorem load_of_not_text (path : String) {bytes : List UInt8} (h : ∀ t, bytes ≠ Utf8.encode t) :
    load path (.contents bytes) = .error (.notText path) := by
  simp only [load, FileState.text, Utf8.decode?_eq_none_iff.2 h, Failure.notText,
    String.append_assoc]
  rfl

/-! ## The words of a refusal -/

/-- The words of a fault end with the number of its column, and a blank stands in front of it. All
that `ofJson_ne_notText` needs of the words is this end. -/
theorem message_eq_append_column (fault : Fault) (bytes : List UInt8) :
    ∃ front, (fault.message bytes).toList =
      front ++ ' ' :: Nat.toDigits 10 (fault.place bytes).column := by
  refine ⟨fault.cause.text.toList ++ " at line ".toList ++
    (Nat.repr (fault.place bytes).line).toList ++ " column".toList, ?_⟩
  have hcolumn : " column ".toList = " column".toList ++ [' '] := rfl
  rw [Fault.message, Place.text]
  simp only [String.toList_append, Nat.toList_repr, hcolumn,
    List.append_assoc, List.singleton_append]

/-- **No text has the fault of being no text.** A dash stands before the last character of this
refusal, where a fault of a text has digits or a space. -/
theorem ofJson_ne_notText (path : String) (t : List Char) : ofJson t ≠ .error (.notText path) := by
  intro h
  obtain ⟨fault, -, hmessage⟩ := ofJson_eq_invalid.1 h
  obtain ⟨front, hfront⟩ := message_eq_append_column fault (Utf8.encode t)
  have hend : ": stream did not contain valid UTF-8".toList =
      ": stream did not contain valid UTF".toList ++ ['-', '8'] := rfl
  have hwords : (path.toList ++ ": stream did not contain valid UTF".toList) ++ ['-', '8'] =
      front ++ ' ' :: Nat.toDigits 10 (fault.place (Utf8.encode t)).column := by
    rw [← hfront, ← hmessage, String.toList_append, hend, List.append_assoc]
  rcases List.append_eq_append_iff.1 hwords with ⟨x, -, hx⟩ | ⟨x, -, hx⟩
  · have hspace : ' ' ∈ ['-', '8'] := by
      rw [hx]
      exact List.mem_append_right x List.mem_cons_self
    simp at hspace
  · have hdash : '-' ∈ ' ' :: Nat.toDigits 10 (fault.place (Utf8.encode t)).column := by
      rw [hx]
      exact List.mem_append_right x List.mem_cons_self
    rcases List.mem_cons.1 hdash with hspace | hdigit
    · simp at hspace
    · have hisDigit := Nat.isDigit_of_mem_toDigits (by omega) (by omega) hdigit
      simp at hisDigit

/-! ## Loading -/

/-- **A configuration is loaded from a text, and from nothing else.** Where the bytes of a file are
those of a text, the file is read as the text is, and its path plays no part. Where they are not,
the file is refused as no text, with its path, which no text ever is. They are not just if the form
of some text, which may be all of them that makes sense, has something malformed behind it. -/
theorem load_reads_texts_only (path : String) (bytes : List UInt8) :
    (∀ t, bytes = Utf8.encode t → load path (.contents bytes) = ofJson t) ∧
      ((∀ t, bytes ≠ Utf8.encode t) → load path (.contents bytes) =
        .error (.invalidConfiguration (path ++ ": stream did not contain valid UTF-8"))) ∧
      ((∀ t, bytes ≠ Utf8.encode t) ↔
        ∃ t rest, bytes = Utf8.encode t ++ rest ∧ Utf8.Malformed rest) ∧
      ∀ t, ofJson t ≠
        .error (.invalidConfiguration (path ++ ": stream did not contain valid UTF-8")) := by
  refine ⟨?_, fun h => load_of_not_text path h, Utf8.not_encode_iff_malformed,
    ofJson_ne_notText path⟩
  rintro t rfl
  exact load_encode path t

/-- Behind a whole configuration stands a surrogate: with it the file is refused, and without it the
configuration is loaded. -/
theorem surrogate_behind_configuration :
    let whole := Utf8.encode "[\"time\"]".toList
    let torn := whole ++ [0xED, 0xA0, 0x80]
    Utf8.Malformed [0xED, 0xA0, 0x80] ∧ (∀ t, torn ≠ Utf8.encode t) ∧
      load "a.json" (.contents torn) =
        .error (.invalidConfiguration "a.json: stream did not contain valid UTF-8") ∧
      load "a.json" (.contents whole) = .ok ⟨.time, none, .std⟩ := by
  intro whole torn
  have hsurrogate : Utf8.Malformed [0xED, 0xA0, 0x80] :=
    .surrogate (n := 0xD800) (by decide) (by decide) []
  obtain ⟨-, hrefused, hmalformed, -⟩ := load_reads_texts_only "a.json" torn
  have htorn : ∀ t, torn ≠ Utf8.encode t := hmalformed.2 ⟨_, _, rfl, hsurrogate⟩
  obtain ⟨hloaded, -, -, -⟩ := load_reads_texts_only "a.json" whole
  have hjson : ofJson "[\"time\"]".toList = .ok ⟨.time, none, .std⟩ := by decide +kernel
  exact ⟨hsurrogate, htorn, hrefused htorn, (hloaded _ rfl).trans hjson⟩

end Config

end DeviceReadings
