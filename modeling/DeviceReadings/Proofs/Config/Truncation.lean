import DeviceReadings.Proofs.Config.Places

/-!
# Truncated configurations

A configuration is strict: its decoder needs the text up to the last bracket, and on anything less
it says that the text has ended (`strict_value`). So a text that was cut short is never taken for a
whole one, and is reported as cut short, at its very end (`truncated_text_reported`).
-/

namespace DeviceReadings

namespace Config

open Json

/-! ## Texts that were cut short -/

/-- A text is read to its end, as a configuration or as one that lacks its seed. -/
def ReadToEnd (t : List Char) : Prop :=
  (∃ c, ofJson t = .ok c) ∨ ofJson t = .error .missingFixedSeed

/-- A text that is read to its end is not refused as no configuration. It may still lack the seed of
its policy, which is found out only at the end. -/
theorem ReadToEnd.ne_invalid {t : List Char} (h : ReadToEnd t) (m : String) :
    ofJson t ≠ .error (.invalidConfiguration m) := by
  intro hinvalid
  rcases h with ⟨c, h⟩ | h
  · rw [hinvalid] at h
    cases h
  · rw [hinvalid] at h
    cases h

/-- Of a text that is read to its end only blanks are left behind the configuration. -/
theorem ReadToEnd.exists_value {t : List Char} (h : ReadToEnd t) :
    ∃ c r, value (Utf8.encode t) = .ok (c, Utf8.encode r) ∧ Blanks r := by
  obtain ⟨c, s, hdocument⟩ : ∃ c s, document (Utf8.encode t) = .ok (c, s) := by
    cases hdocument : document (Utf8.encode t) with
    | error fault =>
      exact absurd (ofJson_eq_invalid.2 ⟨fault, hdocument, rfl⟩) (h.ne_invalid _)
    | ok p => exact ⟨p.1, p.2, rfl⟩
  obtain ⟨c', s', hvalue, hrest⟩ := bind_eq_ok.1 hdocument
  obtain ⟨toks, r, -, -, rfl⟩ := (reads_value t c' s').1 hvalue
  obtain ⟨_, _, hend, -⟩ := bind_eq_ok.1 hrest
  exact ⟨c', r, hvalue, (endOfText_eq_ok.1 hend).1⟩

/-- A text is made of blanks just if its bytes are blank, since every blank is one byte and no other
character has a byte that is one. -/
theorem blanks_iff_bytes {t : List Char} :
    Blanks t ↔ ∀ b ∈ Utf8.encode t, isBlank b = true := by
  have hdrop : (Utf8.encode t).dropWhile isBlank = Utf8.encode (t.dropWhile isBlankChar) :=
    congrArg Prod.snd (Except.ok.inj (skipBlanks_encode t))
  rw [← List.dropWhile_eq_nil_iff, hdrop]
  refine ⟨fun h => ?_, fun h => ?_⟩
  · rw [List.dropWhile_eq_nil_iff.2 h]
    rfl
  · refine List.dropWhile_eq_nil_iff.1 ?_
    cases hrest : t.dropWhile isBlankChar with
    | nil => rfl
    | cons c m =>
      rw [hrest, encode_lead] at h
      cases h

/-- What is cut off a text without blanks at its end is not all blanks: the last character of the
text is among it. -/
theorem not_blanks_of_append {t q v : List Char} (h : t.rdropWhile isBlankChar = q ++ v)
    (hv : v ≠ []) : ¬ Blanks v := by
  intro hblanks
  have hne : t.rdropWhile isBlankChar ≠ [] := by
    rw [h]
    exact List.append_ne_nil_of_right_ne_nil q hv
  refine List.rdropWhile_last_not isBlankChar t hne (hblanks _ ?_)
  simp only [h, List.getLast_append_of_ne_nil _ hv]
  exact List.getLast_mem hv

/-- A text that was cut short ends where more of it was needed. The value asks for a byte behind the
cut, and what a decoder does before it asks for more is the same in both texts. -/
theorem ended_document {t q v : List Char} (h : ReadToEnd t)
    (hcut : t.rdropWhile isBlankChar = q ++ v) (hv : v ≠ []) :
    Ended (document (Utf8.encode q)) := by
  obtain ⟨c, r, hvalue, hr⟩ := h.exists_value
  obtain ⟨p, hsplit⟩ := strict_value.exists_append hvalue
  have htext : t = q ++ (v ++ t.rtakeWhile isBlankChar) := by
    rw [← List.append_assoc, ← hcut, List.rdropWhile_append_rtakeWhile]
  have hbytes : Utf8.encode q ++ (Utf8.encode v ++ Utf8.encode (t.rtakeWhile isBlankChar)) =
      p ++ Utf8.encode r := by
    rw [← hsplit, ← Utf8.encode_append, ← Utf8.encode_append, ← htext]
  -- The bytes of `v` are not all blank, and so they do not all lie behind the configuration.
  have hinside : ¬ ∀ b ∈ Utf8.encode v, b ∈ Utf8.encode r := fun hmem =>
    not_blanks_of_append hcut hv
      (blanks_iff_bytes.2 fun b hb => blanks_iff_bytes.1 hr b (hmem b hb))
  rw [hsplit] at hvalue
  rcases List.append_eq_append_iff.1 hbytes with ⟨x, rfl, hx⟩ | ⟨x, hq, hx⟩
  · rcases strict_value.cut hvalue _ (List.prefix_append _ x) with hended | ⟨hwhole, -⟩
    · exact hended.bind _
    · obtain rfl := List.append_right_eq_self.1 hwhole.symm
      refine absurd (fun b hb => ?_) hinside
      rw [List.nil_append] at hx
      rw [← hx]
      exact List.mem_append_left _ hb
  · refine absurd (fun b hb => ?_) hinside
    rw [hx]
    exact List.mem_append_right _ (List.mem_append_left _ hb)

/-- **A text that was cut short is reported as cut short.** If a text is read to its end, then on
every part of it that lacks some of the configuration the text is said to have ended, at the end of
the part. **Nothing but blanks can be left out** so that the text is still read to its end. -/
theorem truncated_text_reported (t : List Char) (h : ReadToEnd t) :
    (∀ q, q <+: t.rdropWhile isBlankChar → q ≠ t.rdropWhile isBlankChar →
      ∃ part : Part, ofJson q = .error (.invalidConfiguration ("EOF while parsing " ++ part.text ++
        " at line " ++ Nat.repr (1 + (Utf8.encode q).count 10) ++ " column " ++
        Nat.repr ((Utf8.encode q).rtakeWhile (· ≠ 10)).length))) ∧
      ∀ q v, t = q ++ v → ReadToEnd q → Blanks v := by
  have hcut : ∀ q, q <+: t.rdropWhile isBlankChar → q ≠ t.rdropWhile isBlankChar →
      ∃ part : Part, ofJson q = .error (.invalidConfiguration ("EOF while parsing " ++ part.text ++
        " at line " ++ Nat.repr (1 + (Utf8.encode q).count 10) ++ " column " ++
        Nat.repr ((Utf8.encode q).rtakeWhile (· ≠ 10)).length)) := by
    rintro q ⟨v, hsplit⟩ hproper
    have hv : v ≠ [] := by
      rintro rfl
      exact hproper (by rw [← hsplit, List.append_nil])
    obtain ⟨part, hended⟩ := ended_document h hsplit.symm hv
    refine ⟨part, ofJson_eq_invalid.2 ⟨_, hended, ?_⟩⟩
    have hmessage := message_of_split (.endOfText part) (Utf8.encode q) []
    rw [List.append_nil] at hmessage
    exact hmessage.symm
  refine ⟨hcut, fun q v hsplit hq => ?_⟩
  -- A part that is read to its end is not reported, and so it was not cut short.
  have hwhole : t.rdropWhile isBlankChar <+: q := by
    rcases List.prefix_or_prefix_of_prefix (⟨v, hsplit.symm⟩ : q <+: t)
      (List.rdropWhile_prefix isBlankChar t) with hq' | hwhole
    · by_cases heq : q = t.rdropWhile isBlankChar
      · exact heq ▸ List.prefix_rfl
      · obtain ⟨part, hinvalid⟩ := hcut q hq' heq
        exact absurd hinvalid (hq.ne_invalid _)
    · exact hwhole
  obtain ⟨x, rfl⟩ := hwhole
  have hblanks : t.rtakeWhile isBlankChar = x ++ v := by
    have hall := List.rdropWhile_append_rtakeWhile (p := isBlankChar) (l := t)
    rw [List.append_assoc] at hsplit
    exact List.append_cancel_left (hall.trans hsplit)
  intro c hc
  have hmem : c ∈ t.rtakeWhile isBlankChar := hblanks ▸ List.mem_append_right x hc
  exact List.mem_rtakeWhile_imp hmem

/-- A list with a fixed seed, cut inside its number or anywhere else, is reported as cut short. Only
the line feed at its end can be left out. -/
theorem truncated_list_reported :
    ReadToEnd "[\"fixed\",42]\n".toList ∧
      (∀ q, q <+: "[\"fixed\",42]\n".toList.rdropWhile isBlankChar →
        q ≠ "[\"fixed\",42]\n".toList.rdropWhile isBlankChar →
        ∃ part : Part, ofJson q = .error (.invalidConfiguration ("EOF while parsing " ++
          part.text ++ " at line " ++ Nat.repr (1 + (Utf8.encode q).count 10) ++ " column " ++
          Nat.repr ((Utf8.encode q).rtakeWhile (· ≠ 10)).length))) ∧
      ∀ q v, "[\"fixed\",42]\n".toList = q ++ v → ReadToEnd q → Blanks v := by
  have hread : ReadToEnd "[\"fixed\",42]\n".toList :=
    .inl ⟨⟨.fixed, some 42, .std⟩, by decide +kernel⟩
  exact ⟨hread, truncated_text_reported _ hread⟩

end Config

end DeviceReadings
