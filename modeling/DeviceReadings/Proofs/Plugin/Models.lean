import DeviceReadings.Proofs.Plugin.Handles
import DeviceReadings.Proofs.Reader.Fallback
import DeviceReadings.Proofs.Text.Decoding

/-!
# The model that a host passes

A host passes a model as bytes that end with the first zero byte, or it passes none. `Carries` says
what is logged of it: the text whose form the bytes before the zero byte are, and no model where
they are no text. By either way in which a host takes a reading one event announces the reading,
with this model, and what stands behind the zero byte changes nothing at all
(`passed_model_logged`). So a text is logged just if its bytes are passed. The one exception is the
text that stands for no model.
-/

namespace DeviceReadings

/-! ## Zero bytes -/

/-- What stands before the first zero byte of some bytes, which is all of them if there is none. -/
structure BeforeZero (bytes before : List UInt8) : Prop where
  zero_free : (0 : UInt8) ∉ before
  split : bytes = before ∨ ∃ rest, bytes = before ++ 0 :: rest

/-- The bytes up to the first zero byte are what is before it. -/
theorem beforeZero_takeWhile (bytes : List UInt8) :
    BeforeZero bytes (bytes.takeWhile (· ≠ 0)) := by
  induction bytes with
  | nil => exact ⟨List.not_mem_nil, .inl rfl⟩
  | cons b bytes ih =>
    by_cases hb : b = 0
    · subst hb
      exact ⟨List.not_mem_nil, .inr ⟨bytes, rfl⟩⟩
    · rw [List.takeWhile_cons_of_pos (by simpa using hb)]
      refine ⟨?_, ?_⟩
      · exact List.not_mem_cons_of_ne_of_not_mem (Ne.symm hb) ih.zero_free
      · exact ih.split.imp (congrArg _) fun ⟨rest, hrest⟩ => ⟨rest, congrArg _ hrest⟩

/-- Nothing else is before the first zero byte, so what is before it is known from the bytes. -/
theorem BeforeZero.takeWhile_eq {bytes before : List UInt8} (h : BeforeZero bytes before) :
    bytes.takeWhile (· ≠ 0) = before := by
  have hbefore : ∀ b ∈ before, decide (b ≠ 0) = true :=
    fun b hb => decide_eq_true fun hzero => h.zero_free (hzero ▸ hb)
  rcases h.split with rfl | ⟨rest, rfl⟩
  · exact List.takeWhile_eq_self_iff.2 hbefore
  · rw [List.takeWhile_append_of_pos hbefore]
    exact List.append_nil before

/-- The bytes of a text have no zero byte if the text has none. No character but the zero one has a
byte that is zero. -/
theorem Utf8.zero_not_mem_encode {t : List Char} (h : '\x00' ∉ t) : (0 : UInt8) ∉ encode t := by
  rw [encode, List.mem_flatMap]
  rintro ⟨c, hc, hzero⟩
  rcases Nat.lt_or_ge c.toNat 0x80 with hlow | hhigh
  · rw [utf8EncodeChar_one hlow, List.mem_singleton] at hzero
    have hnul : '\x00' = c := eq_of_ofNat_toNat_eq (by decide) hlow hzero
    exact h (hnul ▸ hc)
  · exact absurd (high_of_mem_utf8EncodeChar hhigh hzero) (by decide)

/-- The bytes of a text without a zero character are passed whole, whatever stands behind them. -/
theorem beforeZero_encode {t : List Char} (h : '\x00' ∉ t) (rest : List UInt8) :
    BeforeZero (Utf8.encode t ++ 0 :: rest) (Utf8.encode t) :=
  ⟨Utf8.zero_not_mem_encode h, .inr ⟨rest, rfl⟩⟩

/-! ## What is logged of a model -/

/-- What a host passes, and the model that is logged for it. -/
inductive Carries : Option (List UInt8) → Option String → Prop
  | text {bytes : List UInt8} {t : List Char} (h : BeforeZero bytes (Utf8.encode t)) :
    Carries (some bytes) (some (String.ofList t))
  | absent : Carries none none
  /-- The bytes before the zero byte are no text. -/
  | garbled {bytes before : List UInt8} (h : BeforeZero bytes before)
      (hbefore : ∀ t, before ≠ Utf8.encode t) : Carries (some bytes) none

/-- Bytes have the text of a model just if its form is what is before the zero byte. -/
theorem modelText_eq_some_iff {bytes : List UInt8} {t : List Char} :
    modelText bytes = some (String.ofList t) ↔ BeforeZero bytes (Utf8.encode t) := by
  rw [modelText, Option.map_eq_some_iff]
  constructor
  · rintro ⟨t', hdecode, ht⟩
    obtain rfl := String.ofList_injective ht
    exact Utf8.decode?_eq_some_iff.1 hdecode ▸ beforeZero_takeWhile bytes
  · intro h
    exact ⟨t, Utf8.decode?_eq_some_iff.2 h.takeWhile_eq, rfl⟩

/-- What is read of a model is what it carries: a text, or none. -/
theorem carries_modelText (model : Option (List UInt8)) : Carries model (model.bind modelText) := by
  cases model with
  | none => exact .absent
  | some bytes =>
    rw [Option.bind_some]
    cases htext : modelText bytes with
    | some text =>
      rw [← String.ofList_toList (s := text)] at htext ⊢
      exact .text (modelText_eq_some_iff.1 htext)
    | none =>
      refine .garbled (beforeZero_takeWhile bytes) (Utf8.decode?_eq_none_iff.1 ?_)
      exact Option.map_eq_none_iff.1 htext

/-! ## Announcements -/

/-- Does an event announce a reading? -/
def Event.announces (e : Event) : Bool :=
  e.level = .trace && e.message = "Read"

/-- The text that an event shows for the model. -/
def Event.shownModel (e : Event) : Option String :=
  (e.fields.lookup "model").map FieldValue.text

section

variable {τ : Type} [SeedSource τ]

/-- Warnings announce nothing. -/
theorem announces_fallback (causes : List Failure) :
    (causes.map Event.fallback).filter Event.announces = [] := by
  rw [List.filter_eq_nil_iff]
  intro e he
  obtain ⟨cause, -, rfl⟩ := List.mem_map.1 he
  exact Bool.false_ne_true

/-- Building a reader announces nothing. It logs its seed, which is no reading. -/
theorem Reader.build_announces {σ : Type} [RandomSource σ] (policy : SeedPolicy) (source : σ)
    (seeds : τ) : (Reader.build policy source seeds).log.filter Event.announces = [] := by
  obtain ⟨hlog, -, -⟩ := Reader.build_log policy source seeds
  rw [hlog, List.filter_append, announces_fallback]
  cases startingSeed policy seeds <;> rfl

/-- A reading is announced once, with its label, before anything can fail. -/
theorem Reader.read_announces {σ : Type} [RandomSource σ] (label : Label) (reader : Reader σ)
    (seeds : τ) :
    (Reader.read .recording label (reader, seeds)).log.filter Event.announces =
      [.read label.device label.model] := by
  obtain ⟨hlog, -⟩ := Reader.read_log label reader seeds
  rw [hlog, List.filter_cons_of_pos rfl, announces_fallback]

namespace LazyReader

/-- Preparing a reader announces nothing, whether or not one is built. -/
theorem prepare_announces (policy : SeedPolicy) (s : Option (Reader CipherStream) × τ) :
    (prepare policy s).log.filter Event.announces = [] := by
  have hbuilt := Reader.build_announces policy (CipherStream.ofSeed defaultSeed) s.2
  unfold prepare
  cases fitting policy s.1 with
  | some reader => rfl
  | none =>
    dsimp only
    cases houtcome : (Reader.build policy (CipherStream.ofSeed defaultSeed) s.2).outcome with
    | value reader => exact hbuilt
    | panicked => exact hbuilt

/-- A reading from a lazy reader is announced once, also where a reader is built for it. -/
theorem read_announces (hs : SeedSource.Answers τ) (policy : SeedPolicy) (label : Label)
    (reader : LazyReader) (seeds : τ) :
    (LazyReader.read policy .recording label (reader, seeds)).log.filter Event.announces =
      [.read label.device label.model] := by
  obtain ⟨houtcome, -, -⟩ := prepare_run hs policy reader.value seeds
  have hrun : (LazyReader.read policy .recording label (reader, seeds)).log =
      ((prepare policy (reader.value, seeds)).andThen (readFrom .recording label)).log := rfl
  rw [hrun, Run.andThen_of_value houtcome, Run.log_mk_append, List.filter_append]
  refine (congrArg (· ++ _) (prepare_announces policy (reader.value, seeds))).trans ?_
  exact Reader.read_announces label _ _

end LazyReader

/-! ## Reading as a host -/

/-- A way in which a host takes a reading and passes a model. -/
inductive HostRead where
  /-- From the process-wide reader. -/
  | exported
  | handle (slot : Nat)

namespace HostRead

/-- The operation of a reading. -/
def operation : HostRead → Int32 → Option (List UInt8) → Operation
  | exported, device, model => .exportedRead device model
  | handle slot, device, model => .readHandle slot device model

/-- Is there a reader to read from? The process-wide one is built when it is needed. -/
def Served (p : Plugin) : HostRead → Prop
  | exported => True
  | handle slot => p.handles slot ≠ none

end HostRead

namespace Plugin

variable {build : Build} {p : Plugin}

/-- Models with the same text are read with alike. -/
theorem serve_congr_model (way : HostRead) (device : Int32) {model model' : Option (List UInt8)}
    (h : model.bind modelText = model'.bind modelText) (seeds : τ) :
    serve build (way.operation device model, seeds) p =
      serve build (way.operation device model', seeds) p := by
  cases way with
  | exported => simp only [HostRead.operation, serve, Act.given, perform, h]
  | handle slot => simp only [HostRead.operation, serve, Act.given, perform, h]

/-- A reading that a host takes is announced once, with the text of the model. -/
theorem serve_announces (hs : SeedSource.Answers τ) {way : HostRead} (h : way.Served p)
    (device : Int32) (model : Option (List UInt8)) (seeds : τ) :
    (serve build (way.operation device model, seeds) p).log.filter Event.announces =
      [.read device (model.bind modelText)] := by
  cases way with
  | exported =>
    let visit : Visit := ⟨build.policy, .recording, ⟨device, model.bind modelText⟩⟩
    have hvisit : visit? (spelledOut build (.exportedRead device model)) = some visit := by
      cases build <;> rfl
    obtain ⟨-, hseen, -⟩ := serve_visit (p := p) hvisit seeds
    have htrace : (serve build (.exportedRead device model, seeds) p).trace =
        (LazyReader.read build.policy .recording visit.label (p.process, seeds)).trace :=
      congrArg Prod.snd hseen
    rw [HostRead.operation, Run.log, htrace]
    exact LazyReader.read_announces hs build.policy visit.label p.process seeds
  | handle slot =>
    obtain ⟨reader, hreader⟩ := Option.ne_none_iff_exists'.1 h
    obtain ⟨hseen, -⟩ := serve_read_of_some build hreader device model seeds
    have htrace : (serve build (.readHandle slot device model, seeds) p).trace =
        (Reader.read .recording ⟨device, model.bind modelText⟩ (reader, seeds)).trace :=
      congrArg Prod.snd hseen
    rw [HostRead.operation, Run.log, htrace]
    exact Reader.read_announces ⟨device, model.bind modelText⟩ reader seeds

/-- **A model is logged as it is passed.** Where a host takes a reading from a reader, one event
announces it, and this event has the text that the bytes before the first zero byte are the form of.
If they are the form of none, or no model is passed, it has no model. What stands behind the zero
byte changes neither the log nor anything else. So a text without a zero character is logged if its
bytes are passed, and only then, unless it is the one that is shown for no model. -/
theorem passed_model_logged (hs : SeedSource.Answers τ) (build : Build) {p : Plugin}
    {way : HostRead} (h : way.Served p) (device : Int32) (seeds : τ) :
    let run := fun model => serve build (way.operation device model, seeds) p
    (∀ model, ∃ logged, Carries model logged ∧
      (run model).log.filter Event.announces = [.read device logged]) ∧
    (∀ bytes bytes' before, BeforeZero bytes before → BeforeZero bytes' before →
      run (some bytes) = run (some bytes')) ∧
    (∀ t : List Char, '\x00' ∉ t → ∀ rest,
      ((run (some (Utf8.encode t ++ 0 :: rest))).log.filter Event.announces).map
        Event.shownModel = [some (String.ofList t)]) ∧
    ∀ (t : List Char) model, String.ofList t ≠ "<none>" →
      ((run model).log.filter Event.announces).map Event.shownModel = [some (String.ofList t)] →
        ∃ bytes, model = some bytes ∧ BeforeZero bytes (Utf8.encode t) := by
  intro run
  have hrun : ∀ model, (run model).log.filter Event.announces =
      [.read device (model.bind modelText)] := fun model => serve_announces hs h device model seeds
  have hshown : ∀ model, ((run model).log.filter Event.announces).map Event.shownModel =
      [some ((model.bind modelText).getD "<none>")] := fun model => by rw [hrun]; rfl
  refine ⟨fun model => ⟨_, carries_modelText model, hrun model⟩, ?_, ?_, ?_⟩
  · intro bytes bytes' before hbytes hbytes'
    refine serve_congr_model way device ?_ seeds
    simp only [Option.bind_some, modelText, hbytes.takeWhile_eq, hbytes'.takeWhile_eq]
  · intro t ht rest
    rw [hshown, Option.bind_some, modelText_eq_some_iff.2 (beforeZero_encode ht rest),
      Option.getD_some]
  · intro t model ht hmodel
    rw [hshown] at hmodel
    cases htext : model.bind modelText with
    | none =>
      rw [htext] at hmodel
      exact absurd (Option.some.inj (List.cons.inj hmodel).1).symm ht
    | some text =>
      rw [htext] at hmodel
      obtain rfl : text = String.ofList t := Option.some.inj (List.cons.inj hmodel).1
      obtain ⟨bytes, rfl, hbytes⟩ := Option.bind_eq_some_iff.1 htext
      exact ⟨bytes, rfl, modelText_eq_some_iff.1 hbytes⟩

/-- A host passes a model to a reader behind a handle: with bytes behind the zero byte that are no
text, and with its last character cut off. -/
theorem cut_character_logged_as_none :
    let seeds : SystemSeeds := ⟨-1, .error "no entropy"⟩
    let p := (serve .standard (.newHandle 0 2 5, seeds) fresh).state
    let logged := fun bytes =>
      (serve .standard (.readHandle 0 7 (some bytes), seeds) p).log.filter Event.announces
    SeedSource.Answers SystemSeeds ∧ HostRead.Served p (.handle 0) ∧
      (logged [0x41, 0xC3, 0xA9, 0, 0xFF]).map Event.shownModel = [some "Aé"] ∧
      BeforeZero [0x41, 0xC3, 0, 0xA9] [0x41, 0xC3] ∧
      logged [0x41, 0xC3, 0, 0xA9] = [.read 7 none] := by
  intro seeds p logged
  have hserved : HostRead.Served p (.handle 0) := nofun
  obtain ⟨hlogged, -, htext, -⟩ :=
    passed_model_logged SystemSeeds.answers .standard hserved 7 seeds
  have hcut : BeforeZero [0x41, 0xC3, 0, 0xA9] [0x41, 0xC3] :=
    beforeZero_takeWhile [0x41, 0xC3, 0, 0xA9]
  refine ⟨SystemSeeds.answers, hserved, htext ['A', 'é'] (by simp) [0xFF], hcut, ?_⟩
  obtain ⟨model, hmodel, hread⟩ := hlogged (some [0x41, 0xC3, 0, 0xA9])
  cases hmodel with
  | text h =>
    have hdecode := Utf8.decode?_eq_some_iff.2 (hcut.takeWhile_eq.symm.trans h.takeWhile_eq)
    cases hdecode
  | garbled => exact hread

end Plugin

end

end DeviceReadings
