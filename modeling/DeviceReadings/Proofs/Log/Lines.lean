import DeviceReadings.Log.Line

/-!
# Entries on one line

A quoted text hides nothing: every character of it shows, whatever the text is
(`Quoted.isShown_of_mem_encode`). A line feed does not show, and so an entry of the log whose
characters all show takes one line (`linesOf_of_isShown`). Texts that are written as they are may
have line breaks; such an entry takes more.
-/

namespace DeviceReadings

/-! ## Numbers -/

/-- The digits of a number show, in every base up to sixteen. -/
theorem isShown_of_mem_toDigits {base n : Nat} (hbase : 1 < base) (hle : base ≤ 16) {c : Char}
    (h : c ∈ Nat.toDigits base n) : Printable.isShown c = true := by
  have hdigit : ∀ d < 16, Printable.isShown (Nat.digitChar d) = true := by decide
  induction n using Nat.strongRecOn with
  | ind n ih =>
    rw [Nat.toDigits_eq_if hbase] at h
    split at h
    case isTrue hlt =>
      rw [List.mem_singleton] at h
      exact h ▸ hdigit n (by omega)
    case isFalse hge =>
      rcases List.mem_append.1 h with hfront | hlast
      · exact ih (n / base) (Nat.div_lt_self (by omega) hbase) hfront
      · rw [List.mem_singleton] at hlast
        exact hlast ▸ hdigit (n % base) (by have := Nat.mod_lt n (by omega : 0 < base); omega)

/-- An integer in decimal shows, with the sign in front of it. The device of a reading is such an
integer. -/
theorem isShown_of_mem_decimal {n : Int} {c : Char} (h : c ∈ (decimal n).toList) :
    Printable.isShown c = true := by
  have hrepr : c ∈ (Nat.repr n.natAbs).toList → Printable.isShown c = true := by
    intro hc
    rw [Nat.repr_eq_ofList_toDigits, String.toList_ofList] at hc
    exact isShown_of_mem_toDigits (by decide) (by decide) hc
  unfold decimal at h
  split at h
  · rw [String.toList_append] at h
    rcases List.mem_append.1 h with hsign | hdigits
    · obtain rfl : c = '-' := by simpa using hsign
      rfl
    · exact hrepr hdigits
  · exact hrepr h

/-! ## Quoted texts -/

namespace Quoted

/-- The letter behind a backslash shows. There is one for a tab, a line feed, a carriage return, a
NUL and for the signs that would end the text. -/
theorem isShown_of_letter? {c l : Char} (h : letter? c = some l) : Printable.isShown l = true := by
  unfold letter? at h
  split at h
  all_goals first
    | (obtain rfl := Option.some.inj h; rfl)
    | cases h

/-- A character as it stands in a quoted text shows. It stands for itself only where it shows, and
else as its number. -/
theorem isShown_of_mem_escape {c d : Char} (h : d ∈ escape c) : Printable.isShown d = true := by
  unfold escape at h
  split at h
  case h_1 l hletter =>
    rcases List.mem_cons.1 h with rfl | hrest
    · rfl
    · rw [List.mem_singleton] at hrest
      exact hrest ▸ isShown_of_letter? hletter
  case h_2 =>
    split at h
    case isTrue hshown =>
      rw [List.mem_singleton] at h
      exact h ▸ hshown
    case isFalse =>
      rw [List.mem_append, List.mem_append, List.mem_singleton] at h
      rcases h with (hopen | hdigit) | rfl
      · have hall : ['\\', 'u', '\x7b'].all Printable.isShown = true := by decide
        exact List.all_eq_true.1 hall d hopen
      · exact isShown_of_mem_toDigits (by decide) (by decide) hdigit
      · rfl

/-- **A quoted text hides nothing.** What is quoted of a name from outside cannot end the line it is
in. -/
theorem isShown_of_mem_encode {text : List Char} {c : Char} (h : c ∈ encode text) :
    Printable.isShown c = true := by
  unfold encode at h
  rw [List.mem_append, List.mem_cons, List.mem_singleton, List.mem_flatMap] at h
  rcases h with (rfl | ⟨d, -, hd⟩) | rfl
  · rfl
  · exact isShown_of_mem_escape hd
  · rfl

end Quoted

/-! ## Lines -/

/-- A text without line feeds is on one line. -/
theorem splitLines_of_not_mem {text : List Char} (h : '\n' ∉ text) (current : List Char) :
    splitLines current text = [current.reverse ++ text] := by
  induction text generalizing current with
  | nil => rw [splitLines, List.append_nil]
  | cons c text ih =>
    obtain ⟨hc, htext⟩ := List.ne_and_not_mem_of_not_mem_cons h
    rw [splitLines, if_neg (Ne.symm hc), ih htext, List.reverse_cons, List.append_assoc,
      List.singleton_append]

/-- A text whose characters all show is on one line, since a line feed does not show. A quoted model
is such a text. -/
theorem linesOf_of_isShown {text : List Char} (h : ∀ c ∈ text, Printable.isShown c = true) :
    linesOf text = [String.ofList text] := by
  have hfeed : '\n' ∉ text := fun hmem => absurd (h _ hmem) (by decide)
  rw [linesOf, splitLines_of_not_mem hfeed]
  rfl

end DeviceReadings
