import DeviceReadings.Proofs.Config.Elements

/-!
# Configuration texts

The texts that are read as configurations are those of the grammar, and each is read as the
configuration that it means (`decode_eq_ok_iff`). A configuration that asks for the fixed policy
and names no seed is refused, and so is every text that is no configuration at all, each with a
failure of its own (`ofJson_iff_denotes`).
-/

namespace DeviceReadings

namespace Config

open Json

/-- **What is read as a configuration is an object or a list of the grammar,** and comes to the
configuration of its assignments. -/
theorem reads_value :
    Reads .tokens value fun toks c => ∃ as, ConfigTokens toks as ∧ c = ofAssignments as := by
  refine reads_of_peek (fun _ ⟨_, h, _⟩ => nomatch h) fun c hc => .ite (by decide) (fun _ => ?_)
    fun hbrace => .ite (by decide) (fun _ => ?_) fun hbracket => ?_
  · refine (readsFront_mark (by decide) (reads_members.map Given.config)).congr
      fun tok toks c hstarts => ?_
    refine ⟨?_, ?_⟩
    · intro h
      obtain ⟨_, heq, _, ⟨as, h, hdistinct, rfl⟩, rfl⟩ := h
      rw [heq]
      exact ⟨as, .object h hdistinct, Given.config_foldl_nothing as⟩
    · intro h
      obtain ⟨as, h, rfl⟩ := h
      cases h with
      | object h hdistinct =>
        exact ⟨_, rfl, _, ⟨as, h, hdistinct, rfl⟩, (Given.config_foldl_nothing as).symm⟩
      | list _ _ => cases hstarts
  · refine (readsFront_mark (by decide) (reads_elements.map Given.config)).congr
      fun tok toks c hstarts => ?_
    refine ⟨?_, ?_⟩
    · intro h
      obtain ⟨_, heq, _, ⟨as, h, horder, rfl⟩, rfl⟩ := h
      rw [heq]
      exact ⟨as, .list h horder, Given.config_foldl_nothing as⟩
    · intro h
      obtain ⟨as, h, rfl⟩ := h
      cases h with
      | object _ _ => cases hstarts
      | list h horder =>
        exact ⟨_, rfl, _, ⟨as, h, horder, rfl⟩, (Given.config_foldl_nothing as).symm⟩
  · refine .fail (mismatch_ne_ok _) ?_
    rintro tok toks c hstarts ⟨as, h, -⟩
    cases h with
    | object _ _ => exact hbrace hstarts
    | list _ _ => exact hbracket hstarts

/-- **A text is read as a configuration just if it means this configuration.** The blanks behind the
value belong to the text, anything else there is a fault. -/
theorem decode_eq_ok_iff {t : List Char} {c : Config} :
    decode (Utf8.encode t) = .ok c ↔ Denotes t c := by
  have hdecode : decode (Utf8.encode t) = .ok c ↔ ∃ s, document (Utf8.encode t) = .ok (c, s) := by
    unfold decode
    cases document (Utf8.encode t) with
    | error fault => exact ⟨nofun, fun ⟨_, h⟩ => nomatch h⟩
    | ok p => simp [Except.map, Prod.ext_iff]
  rw [hdecode]
  unfold document
  refine ⟨?_, ?_⟩
  · intro h
    obtain ⟨s, h⟩ := h
    obtain ⟨c', s', hvalue, h⟩ := bind_eq_ok.1 h
    obtain ⟨_, s'', hend, h⟩ := bind_eq_ok.1 h
    obtain ⟨rfl, rfl⟩ := pure_eq_ok.1 h
    obtain ⟨toks, r, hbegins, ⟨as, htoks, rfl⟩, rfl⟩ := (reads_value t _ _).1 hvalue
    exact ⟨toks, as, r, hbegins, (endOfText_eq_ok.1 hend).1, htoks, rfl⟩
  · intro h
    obtain ⟨toks, as, r, hbegins, hblanks, htoks, rfl⟩ := h
    refine ⟨[], bind_eq_ok.2 ⟨_, _, (reads_value t _ _).2 ⟨toks, r, hbegins, ⟨as, htoks, rfl⟩, rfl⟩,
      bind_eq_ok.2 ⟨(), [], endOfText_eq_ok.2 ⟨hblanks, rfl⟩, rfl⟩⟩⟩

/-- A text means at most one configuration. The grammar alone does not show this: it follows since
the decoder reads every text as what it means, and has one result for it. -/
theorem denotes_unique {t : List Char} {c c' : Config} (h : Denotes t c) (h' : Denotes t c') :
    c = c' :=
  Except.ok.inj ((decode_eq_ok_iff.2 h).symm.trans (decode_eq_ok_iff.2 h'))

/-- Does a configuration ask for the fixed policy without a seed for it? -/
def LacksSeed (c : Config) : Prop :=
  c.seedPolicy = .fixed ∧ c.fixedSeed = none

/-- A configuration is refused just if it lacks the seed of its policy. The check has no other
fault, whatever the backend is. -/
theorem validate_eq (c : Config) :
    c.LacksSeed ∧ c.validate = .error .missingFixedSeed ∨ ¬ c.LacksSeed ∧ c.validate = .ok () := by
  obtain ⟨kind, seed, backend⟩ := c
  unfold LacksSeed
  cases kind with
  | fixed =>
    cases seed with
    | none => exact .inl ⟨⟨rfl, rfl⟩, rfl⟩
    | some seed => exact .inr ⟨nofun, rfl⟩
  | processDefault | time | entropy => exact .inr ⟨nofun, rfl⟩

/-- **A text is accepted just if it is a configuration of the grammar that lacks no seed,** and
comes to the configuration that it means. One that lacks its seed and one that is no configuration
are refused, each with a failure of its own. -/
theorem ofJson_iff_denotes (t : List Char) :
    (∀ c, ofJson t = .ok c ↔ Denotes t c ∧ ¬ c.LacksSeed) ∧
      (ofJson t = .error .missingFixedSeed ↔ ∃ c, Denotes t c ∧ c.LacksSeed) ∧
      ((∃ message, ofJson t = .error (.invalidConfiguration message)) ↔ ∀ c, ¬ Denotes t c) := by
  cases hdecode : decode (Utf8.encode t) with
  | error fault =>
    have hnone : ∀ c, ¬ Denotes t c := by
      intro c h
      rw [← decode_eq_ok_iff, hdecode] at h
      cases h
    have hjson : ofJson t = .error (.invalidConfiguration (fault.message (Utf8.encode t))) := by
      rw [ofJson, hdecode]
    rw [hjson]
    exact ⟨fun c => ⟨nofun, fun h => absurd h.1 (hnone c)⟩,
      ⟨nofun, fun ⟨c, h, _⟩ => absurd h (hnone c)⟩, ⟨fun _ => hnone, fun _ => ⟨_, rfl⟩⟩⟩
  | ok config =>
    have hdenotes : Denotes t config := decode_eq_ok_iff.1 hdecode
    have hjson : ofJson t = config.validate.map fun _ => config := by
      rw [ofJson, hdecode]
    rcases validate_eq config with ⟨hlacks, hvalidate⟩ | ⟨hlacks, hvalidate⟩
    · rw [hjson, hvalidate]
      refine ⟨fun c => ⟨nofun, fun ⟨h, hc⟩ => ?_⟩,
        ⟨fun _ => ⟨config, hdenotes, hlacks⟩, fun _ => rfl⟩,
        ⟨nofun, fun h => absurd hdenotes (h config)⟩⟩
      exact absurd (denotes_unique hdenotes h ▸ hlacks) hc
    · rw [hjson, hvalidate]
      refine ⟨fun c => ⟨fun h => ?_, fun ⟨h, _⟩ => ?_⟩, ⟨nofun, fun ⟨c, h, hc⟩ => ?_⟩,
        ⟨nofun, fun h => absurd hdenotes (h config)⟩⟩
      · obtain rfl := Except.ok.inj h
        exact ⟨hdenotes, hlacks⟩
      · rw [denotes_unique h hdenotes]
        rfl
      · exact absurd (denotes_unique h hdenotes ▸ hc) hlacks

end Config

end DeviceReadings
