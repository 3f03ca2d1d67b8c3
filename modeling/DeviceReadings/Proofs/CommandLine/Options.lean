import DeviceReadings.Proofs.CommandLine.Arguments
import DeviceReadings.Proofs.CommandLine.Stages

/-!
# What settings on the command line come to

The command reads back what is written: each option that is set has its value, and the others have
their defaults, in whatever order the settings stand (`settings_read_back`). An option that is set
twice, and a number out of its range, are usage faults, wherever in the list they stand.

Settings that can be taken together are taken one after the other without a fault, and all others
with one (`taken_all`, `not_taken_all`). Each taken value stays, since the settings behind it are of
other options (`held_foldl`).
-/

namespace DeviceReadings

/-! ## Settings and options -/

namespace Setting

/-- Settings that can be taken together: each is for another option, and all are within their
ranges. -/
structure Sound (settings : List Setting) : Prop where
  distinct : (settings.map option).Nodup
  fits : ∀ s ∈ settings, s.Fits

instance (settings : List Setting) : Decidable (Sound settings) :=
  decidable_of_iff ((settings.map option).Nodup ∧ ∀ s ∈ settings, s.Fits)
    ⟨fun h => ⟨h.1, h.2⟩, fun h => ⟨h.distinct, h.fits⟩⟩

/-- Do options have the value of a setting? -/
def IsHeldBy (o : Options) : Setting → Prop
  | config path _ _ => o.config = Utf8.encode path
  | device number => o.device.toInt = number
  | model text _ => o.model = some text
  | count number => (o.count : Int) = number

end Setting

/-- Does an option have its default value? -/
def Options.HasDefault (o : Options) : OptionName → Prop
  | .config => o.config = Utf8.encode "reader.json".toList
  | .device => o.device = 1
  | .model => o.model = none
  | .count => o.count = 1

/-- Options have the values of some settings, and defaults where there is none. -/
structure Options.IsSetBy (o : Options) (settings : List Setting) : Prop where
  held : ∀ s ∈ settings, s.IsHeldBy o
  default : ∀ name, name ∉ settings.map Setting.option → o.HasDefault name

/-! ## Taking all settings -/

namespace Setting

open CommandLine

variable {c : Chosen} {s : Setting} {settings : List Setting}

/-- A setting chooses its own option and leaves the others as they are. What can be chosen after it
is told from this alone. -/
theorem has_into (c : Chosen) (s : Setting) (o : OptionName) :
    (s.into c).has o = (decide (s.option = o) || c.has o) := by
  cases s <;> cases o <;> rfl

/-- Settings can be taken after what has been chosen: none is for an option that has a value. -/
def Follow (c : Chosen) (settings : List Setting) : Prop :=
  Sound settings ∧ ∀ s ∈ settings, c.has s.option = false

/-- Settings can be taken one by one, each after what the ones before it have chosen. Both
`taken_all` and `not_taken_all` are inductions by it. -/
theorem follow_cons :
    Follow c (s :: settings) ↔ c.has s.option = false ∧ s.Fits ∧ Follow (s.into c) settings := by
  have hfree (s' : Setting) : (s.into c).has s'.option = false ↔
      s.option ≠ s'.option ∧ c.has s'.option = false := by
    rw [has_into, Bool.or_eq_false_iff, decide_eq_false_iff_not]
  constructor
  · rintro ⟨⟨hdistinct, hfits⟩, hnone⟩
    obtain ⟨hnew, hdistinct⟩ := List.nodup_cons.1 hdistinct
    obtain ⟨hs, hfits⟩ := List.forall_mem_cons.1 hfits
    obtain ⟨hhas, hnone⟩ := List.forall_mem_cons.1 hnone
    refine ⟨hhas, hs, ⟨hdistinct, hfits⟩, fun s' hs' => (hfree s').2 ⟨fun heq => ?_, hnone s' hs'⟩⟩
    exact hnew (heq ▸ List.mem_map_of_mem hs')
  · rintro ⟨hhas, hs, ⟨hdistinct, hfits⟩, hnone⟩
    have hnew : s.option ∉ settings.map option := by
      intro hmem
      obtain ⟨s', hs', heq⟩ := List.mem_map.1 hmem
      exact ((hfree s').1 (hnone s' hs')).1 heq.symm
    exact ⟨⟨List.nodup_cons.2 ⟨hnew, hdistinct⟩, List.forall_mem_cons.2 ⟨hs, hfits⟩⟩,
      List.forall_mem_cons.2 ⟨hhas, fun s' hs' => ((hfree s').1 (hnone s' hs')).2⟩⟩

/-- Settings that can be taken are taken, one after the other. -/
theorem taken_all (h : Follow c settings) :
    settings.foldlM taken c = .ok (settings.foldl into c) := by
  induction settings generalizing c with
  | nil => rfl
  | cons s settings ih =>
    obtain ⟨hfree, hfits, hrest⟩ := follow_cons.1 h
    rw [List.foldlM_cons, taken_of_fits hfree hfits]
    exact ih hrest

/-- Others are not: the first one that cannot be taken is a fault. By induction on the settings,
since those before it are taken. -/
theorem not_taken_all (h : ¬ Follow c settings) :
    ∃ fault, settings.foldlM taken c = .error fault := by
  induction settings generalizing c with
  | nil => exact absurd ⟨⟨List.nodup_nil, nofun⟩, nofun⟩ h
  | cons s settings ih =>
    rw [List.foldlM_cons]
    cases hfree : c.has s.option with
    | true => exact ⟨_, by rw [taken_of_has hfree]; rfl⟩
    | false =>
      by_cases hfits : s.Fits
      · rw [taken_of_fits hfree hfits]
        exact ih fun hrest => h (follow_cons.2 ⟨hfree, hfits, hrest⟩)
      · obtain ⟨fault, hfault⟩ := taken_of_not_fits (c := c) hfits
        exact ⟨fault, by rw [hfault]; rfl⟩

/-! ## The values that options have -/

/-- A setting within its range has its effect at once. -/
theorem isHeldBy_into (hfits : s.Fits) : s.IsHeldBy (s.into c).options := by
  cases s with
  | config | model => rfl
  | device n => exact Int32.toInt_ofInt_of_le hfits.1 (Int.lt_add_one_of_le hfits.2)
  | count n => exact Int.toNat_of_nonneg hfits.1

/-- A setting of another option changes nothing. -/
theorem isHeldBy_into_of_ne {s' : Setting} (h : s'.option ≠ s.option) :
    s.IsHeldBy (s'.into c).options ↔ s.IsHeldBy c.options := by
  cases s <;> cases s' <;> first | exact Iff.rfl | exact absurd rfl h

/-- Settings of other options change nothing, however many they are. By induction, with
`isHeldBy_into_of_ne` for each of them. -/
theorem isHeldBy_foldl (h : s.option ∉ settings.map option) :
    s.IsHeldBy (settings.foldl into c).options ↔ s.IsHeldBy c.options := by
  induction settings generalizing c with
  | nil => exact Iff.rfl
  | cons s' settings ih =>
    exact (ih (List.not_mem_of_not_mem_cons h)).trans
      (isHeldBy_into_of_ne (List.ne_of_not_mem_cons h).symm)

/-- Settings of other options leave an option chosen or not, as it was. -/
theorem has_foldl {o : OptionName} (h : o ∉ settings.map option) :
    (settings.foldl into c).has o = c.has o := by
  induction settings generalizing c with
  | nil => rfl
  | cons s settings ih =>
    rw [List.foldl_cons, ih (List.not_mem_of_not_mem_cons h), has_into,
      decide_eq_false (List.ne_of_not_mem_cons h).symm, Bool.false_or]

/-- Each setting has its effect, since none after it is of the same option. It has it at once by
`isHeldBy_into`, and keeps it by `isHeldBy_foldl`. -/
theorem held_foldl (h : Sound settings) :
    ∀ s ∈ settings, s.IsHeldBy (settings.foldl into c).options := by
  induction settings generalizing c with
  | nil => exact nofun
  | cons s settings ih =>
    obtain ⟨hnew, hdistinct⟩ := List.nodup_cons.1 h.distinct
    obtain ⟨hs, hfits⟩ := List.forall_mem_cons.1 h.fits
    exact List.forall_mem_cons.2
      ⟨(isHeldBy_foldl hnew).2 (isHeldBy_into hs), ih ⟨hdistinct, hfits⟩⟩

/-- An option that has not been chosen has its default in the end. -/
theorem hasDefault_of_has {o : OptionName} (h : c.has o = false) : c.options.HasDefault o := by
  have hnone {α : Type} {x : Option α} (hx : x.isSome = false) : x = none := by
    rwa [← Option.not_isSome_iff_eq_none, Bool.not_eq_true]
  cases o with
  | config => exact congrArg (fun x => x.getD (Utf8.encode "reader.json".toList)) (hnone h)
  | device => exact congrArg (fun x => x.getD 1) (hnone h)
  | model => exact hnone h
  | count => exact congrArg (fun x => x.getD 1) (hnone h)

/-- Settings taken from the start make options that have their values, and defaults where there is
none. -/
theorem isSetBy_foldl (h : Sound settings) :
    (settings.foldl into .nothing).options.IsSetBy settings := by
  refine ⟨held_foldl h, fun o ho => hasDefault_of_has ?_⟩
  rw [has_foldl ho]
  cases o <;> rfl

end Setting

namespace Options

variable {o o' : Options}

/-- Options agree on an option. -/
def SameAt (o o' : Options) : OptionName → Prop
  | .config => o.config = o'.config
  | .device => o.device = o'.device
  | .model => o.model = o'.model
  | .count => o.count = o'.count

/-- Options that agree on every option are the same. To show that two are, it is enough to go
through the four names. -/
theorem eq_of_sameAt (h : ∀ name, o.SameAt o' name) : o = o' := by
  cases o
  cases o'
  exact (Options.mk.injEq ..).mpr ⟨h .config, h .device, h .model, h .count⟩

/-- Options that both have the value of a setting agree on its option. -/
theorem sameAt_of_isHeldBy {s : Setting} (h : s.IsHeldBy o) (h' : s.IsHeldBy o') :
    o.SameAt o' s.option := by
  cases s with
  | config | model => exact h.trans h'.symm
  | device => exact Int32.toInt_inj.1 (h.trans h'.symm)
  | count => exact Int.ofNat.inj (h.trans h'.symm)

/-- Options that both have the default of an option agree on it. -/
theorem sameAt_of_hasDefault {name : OptionName} (h : o.HasDefault name) (h' : o'.HasDefault name) :
    o.SameAt o' name := by
  cases name <;> exact h.trans h'.symm

/-- Settings say all of the options that they make. Each option is either set, or has its
default. -/
theorem IsSetBy.unique {settings : List Setting} (h : o.IsSetBy settings)
    (h' : o'.IsSetBy settings) : o = o' := by
  refine eq_of_sameAt fun name => ?_
  by_cases hset : name ∈ settings.map Setting.option
  · obtain ⟨s, hs, rfl⟩ := List.mem_map.1 hset
    exact sameAt_of_isHeldBy (h.held s hs) (h'.held s hs)
  · exact sameAt_of_hasDefault (h.default name hset) (h'.default name hset)

/-- The order of settings does not matter to the options that they make. -/
theorem IsSetBy.perm {settings settings' : List Setting} (hperm : settings.Perm settings')
    (h : o.IsSetBy settings) : o.IsSetBy settings' :=
  ⟨fun s hs => h.held s (hperm.mem_iff.2 hs),
    fun name hname => h.default name fun hmem => hname ((hperm.map _).mem_iff.1 hmem)⟩

end Options

/-- Nor does it matter to whether they can be taken together. -/
theorem Setting.Sound.perm {settings settings' : List Setting} (hperm : settings.Perm settings')
    (h : Sound settings) : Sound settings' :=
  ⟨(hperm.map _).nodup_iff.1 h.distinct, fun s hs => h.fits s (hperm.mem_iff.2 hs)⟩

namespace CommandLine

/-- Settings that can be taken together are read as options that have their values. The spelling
plays no part, since `read_settings` has the values alone on its other side. -/
theorem read_of_sound {written : List (Spelling × Setting)}
    (h : Setting.Sound (written.map Prod.snd)) :
    ∃ o : Options, o.IsSetBy (written.map Prod.snd) ∧
      read (Setting.allArguments written) = .ok (.readings o) := by
  have hfollow : Setting.Follow .nothing (written.map Prod.snd) :=
    ⟨h, fun s _ => by cases s <;> rfl⟩
  have htells := read_settings written
  rw [Setting.taken_all hfollow] at htells
  exact ⟨_, Setting.isSetBy_foldl h, htells⟩

/-- Settings that cannot be taken together are refused, in every spelling. Which fault is reported
may depend on the spelling, as that of a negative count does (`step_value`). -/
theorem read_of_not_sound {written : List (Spelling × Setting)}
    (h : ¬ Setting.Sound (written.map Prod.snd)) :
    ∃ fault, read (Setting.allArguments written) = .error fault := by
  obtain ⟨fault, hfault⟩ := Setting.not_taken_all (c := .nothing) fun hfollow => h hfollow.1
  have htells := read_settings written
  rw [hfault] at htells
  exact htells

variable {τ : Type} [SeedSource τ]

/-- **What is written on the command line is read back.** Settings for different options, with
numbers within their ranges, are read as options that have the values written, and the defaults
where nothing is written. Neither the order of the settings nor their spelling matters, and these
options are what the run goes by, if the log filter can be set up. Of settings that are not so, one
for an option that already has a value or a number out of its range, nothing comes but a usage
fault: nothing is printed, and the exit code is 2 if the filter can be set up. A torn setting of the
filter ends the run before its arguments are looked at, with a panic and its exit code. -/
theorem settings_read_back (written : List (Spelling × Setting)) :
    (Setting.Sound (written.map Prod.snd) →
      ∃ o : Options, o.IsSetBy (written.map Prod.snd) ∧
        ∀ written' : List (Spelling × Setting),
          (written'.map Prod.snd).Perm (written.map Prod.snd) →
          read (Setting.allArguments written') = .ok (.readings o) ∧
          ∀ env : Environment τ, env.arguments = Setting.allArguments written' →
            (Filter.ofVariable env.filter = .panicked → run env = .ofPanic) ∧
            ∀ filter, Filter.ofVariable env.filter = .value filter →
              run env = runReadings o filter (env.files o.config) env.seeds) ∧
    (¬ Setting.Sound (written.map Prod.snd) →
      ∃ fault, read (Setting.allArguments written) = .error fault ∧
        ∀ env : Environment τ, env.arguments = Setting.allArguments written →
          (run env).printed = [] ∧
          (Filter.ofVariable env.filter = .panicked → run env = .ofPanic) ∧
          ∀ filter, Filter.ofVariable env.filter = .value filter → (run env).code = 2) := by
  constructor
  · intro hsound
    obtain ⟨o, ho, -⟩ := read_of_sound hsound
    refine ⟨o, ho, fun written' hperm => ?_⟩
    obtain ⟨o', ho', hread⟩ := read_of_sound (hsound.perm hperm.symm)
    obtain rfl := ho.unique (ho'.perm hperm)
    refine ⟨hread, fun env hargs => ⟨run_of_torn, fun filter hfilter => ?_⟩⟩
    exact run_of_readings hfilter (hargs ▸ hread)
  · intro hnot
    obtain ⟨fault, hread⟩ := read_of_not_sound hnot
    refine ⟨fault, hread, fun env hargs => ?_⟩
    rw [← hargs] at hread
    have hrefused : ∀ filter, Filter.ofVariable env.filter = .value filter →
        run env = .ofUsageFault fault := fun filter hfilter => run_of_usageFault hfilter hread
    refine ⟨?_, run_of_torn, fun filter hfilter => congrArg Report.code (hrefused filter hfilter)⟩
    cases hset : Filter.ofVariable env.filter with
    | panicked => exact congrArg Report.printed (run_of_torn hset)
    | value filter => exact congrArg Report.printed (hrefused filter hset)

/-- A negative device, a model with an equals sign in it and a count, in two orders; and a count
that is written twice. -/
theorem negative_device_read_back :
    let written : List (Spelling × Setting) :=
      [(.apart, .device (-3)), (.joined, .model "a=b".toList (by decide)), (.apart, .count 2)]
    let turned : List (Spelling × Setting) :=
      [(.joined, .count 2), (.apart, .model "a=b".toList (by decide)), (.joined, .device (-3))]
    let repeated : List (Spelling × Setting) := [(.apart, .count 2), (.joined, .count 2)]
    let env : Environment SystemSeeds :=
      ⟨["--count=2", "--model", "a=b", "--device=-3"].map fun t => Utf8.encode t.toList, none,
        fun _ => .contents [], ⟨0, .ok 0⟩⟩
    let o : Options := ⟨Utf8.encode "reader.json".toList, -3, some "a=b".toList, 2⟩
    Setting.Sound (written.map Prod.snd) ∧
      (turned.map Prod.snd).Perm (written.map Prod.snd) ∧
      env.arguments = Setting.allArguments turned ∧
      Filter.ofVariable env.filter = .value Filter.warnings ∧
      run env = runReadings o Filter.warnings (env.files o.config) env.seeds ∧
      ¬ Setting.Sound (repeated.map Prod.snd) ∧
      (run { env with arguments := Setting.allArguments repeated }).code = 2 := by
  intro written turned repeated env o
  have hsound : Setting.Sound (written.map Prod.snd) := by decide
  have hnot : ¬ Setting.Sound (repeated.map Prod.snd) := by decide
  have hperm : (turned.map Prod.snd).Perm (written.map Prod.snd) :=
    List.reverse_perm (written.map Prod.snd)
  have hargs : env.arguments = Setting.allArguments turned := rfl
  have ho : o.IsSetBy (written.map Prod.snd) := by
    constructor
    · simp [written, o, Setting.IsHeldBy]
    · rintro (_ | _ | _ | _) hname
      · rfl
      · exact absurd (by decide) hname
      · exact absurd (by decide) hname
      · exact absurd (by decide) hname
  obtain ⟨o', ho', hread⟩ := (settings_read_back (τ := SystemSeeds) written).1 hsound
  obtain ⟨fault, -, hfails⟩ := (settings_read_back (τ := SystemSeeds) repeated).2 hnot
  obtain rfl := ho'.unique ho
  exact ⟨hsound, hperm, hargs, rfl, ((hread turned hperm).2 env hargs).2 _ rfl, hnot,
    (hfails _ rfl).2.2 _ rfl⟩

/-- With a no-break space before the directive `a=info`, a filter that is cut inside this character,
two readings that are asked for are not printed, and a count that is written twice is not refused as
such. -/
theorem torn_filter_before_settings :
    let env : List (Spelling × Setting) → Environment SystemSeeds := fun written =>
      ⟨Setting.allArguments written, some [0xC2, 0xA0, 0x61, 0x3D, 0x69, 0x6E, 0x66, 0x6F],
        fun _ => .missing, ⟨0, .ok 0⟩⟩
    let asked : List (Spelling × Setting) := [(.apart, .device (-3)), (.joined, .count 2)]
    let repeated : List (Spelling × Setting) := [(.apart, .count 2), (.joined, .count 2)]
    Setting.Sound (asked.map Prod.snd) ∧ (run (env asked)).code = 101 ∧
      (run (env asked)).printed = [] ∧ ¬ Setting.Sound (repeated.map Prod.snd) ∧
      (run (env repeated)).code = 101 := by
  intro env asked repeated
  have htorn : ∀ written, run (env written) = .ofPanic := fun _ => run_of_torn rfl
  rw [htorn, htorn]
  exact ⟨by decide, rfl, rfl, by decide, rfl⟩

end CommandLine

end DeviceReadings
