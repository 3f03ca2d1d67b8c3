import DeviceReadings.CommandLine.Basic
import DeviceReadings.Proofs.Decimal.Bounded
import DeviceReadings.Proofs.Text.Decoding

/-!
# How settings on the command line are read

A setting gives an option a value, and it is written in two arguments or in one. Its arguments are
read as its value is taken, and a list of settings as the values are taken one by one
(`read_settings`).

A value in an argument of its own is judged later than one that stands behind an equals sign, and so
what has been read is compared by what it settles to: after the arguments of a setting it settles to
what it did before, with the value taken (`readFrom_setting`). The rest is an induction over the
settings (`readFrom_settings`).
-/

namespace DeviceReadings

/-! ## Settings -/

/-- An option with a value for it. A text must not look like an option, and a path must not be
empty. -/
inductive Setting where
  | config (path : List Char) (ne_nil : path ≠ []) (undashed : path.head? ≠ some '-')
  | device (number : Int)
  | model (text : List Char) (undashed : text.head? ≠ some '-')
  | count (number : Int)

/-- A way to write a setting. -/
inductive Spelling where
  /-- In two arguments. -/
  | apart
  /-- In one argument, with an equals sign. -/
  | joined

namespace Setting

/-- The option that is set. -/
def option : Setting → OptionName
  | config .. => .config
  | device _ => .device
  | model .. => .model
  | count _ => .count

/-- The value in writing; numbers are in decimal. -/
def text : Setting → List Char
  | config path _ _ => path
  | device number => (decimal number).toList
  | model text _ => text
  | count number => (decimal number).toList

/-- Is a number within its range? A device has 32 bits with a sign, and a count 64 without. -/
def Fits : Setting → Prop
  | device number => -2147483648 ≤ number ∧ number ≤ 2147483647
  | count number => 0 ≤ number ∧ number ≤ 18446744073709551615
  | config .. | model .. => True

instance : (s : Setting) → Decidable s.Fits
  | device number => inferInstanceAs (Decidable (-2147483648 ≤ number ∧ number ≤ 2147483647))
  | count number => inferInstanceAs (Decidable (0 ≤ number ∧ number ≤ 18446744073709551615))
  | config .. | model .. => inferInstanceAs (Decidable True)

/-- The arguments that a setting is written in. -/
def arguments (s : Setting) : Spelling → List (List UInt8)
  | .apart => [Utf8.encode ("--" ++ s.option.name).toList, Utf8.encode s.text]
  | .joined => [Utf8.encode (("--" ++ s.option.name ++ "=").toList ++ s.text)]

/-- The arguments of settings that are written one after the other. -/
def allArguments (written : List (Spelling × Setting)) : List (List UInt8) :=
  written.flatMap fun w => w.2.arguments w.1

end Setting

namespace CommandLine

/-! ## Values -/

/-- A value that is a text is taken as this text. Arguments are bytes, and need not be texts. -/
theorem valueText_encode (t : List Char) : valueText (Utf8.encode t) = .ok t := by
  rw [valueText, Utf8.decode?_encode]

/-- An integer in decimal is read as a device just if it is one of 32 bits. One that has no place
even in 64 bits is refused in other words. -/
theorem readDevice_decimal (n : Int) :
    if -2147483648 ≤ n ∧ n ≤ 2147483647 then readDevice (decimal n).toList = .ok (Int32.ofInt n)
    else ∃ fault, readDevice (decimal n).toList = .error fault := by
  have hread := Bounded.readInt_decimal 0x7FFFFFFFFFFFFFFF n
  split at hread
  case isTrue =>
    simp only [readDevice, hread]
    split
    case isTrue => rfl
    case isFalse => exact ⟨_, rfl⟩
  case isFalse hbeyond =>
    obtain ⟨fault, hfault⟩ := hread
    rw [if_neg (by omega)]
    simp only [readDevice, hfault]
    exact ⟨_, rfl⟩

/-- An integer in decimal is read as a count just if it is not negative and has a place in 64
bits. -/
theorem readCount_decimal (n : Int) :
    if 0 ≤ n ∧ n ≤ 18446744073709551615 then readCount (decimal n).toList = .ok n.toNat
    else ∃ fault, readCount (decimal n).toList = .error fault := by
  have hread := Bounded.readNat_decimal 0xFFFFFFFFFFFFFFFF n
  split at hread
  case isTrue hfits =>
    rw [if_pos (by omega)]
    simp only [readCount, hread]
  case isFalse hbeyond =>
    obtain ⟨fault, hfault⟩ := hread
    rw [if_neg (by omega)]
    simp only [readCount, hfault]
    exact ⟨_, rfl⟩

variable {c : Chosen}

/-- A path that is not empty is taken for a configuration that has not been chosen. It need not be a
text, and is handed on as it is. -/
theorem take_config (hfree : c.has .config = false) {t : List Char} (ht : t ≠ []) :
    c.take .config (Utf8.encode t) = .ok { c with config := some (Utf8.encode t) } := by
  have hbytes : Utf8.encode t ≠ [] := fun h => ht (Utf8.encode_injective h)
  unfold Chosen.take
  rw [hfree, if_neg Bool.false_ne_true]
  exact if_neg hbytes

/-- For a device that has not been chosen a text is taken if it is read as one. What is read is
settled by `readDevice_decimal`. -/
theorem take_device (hfree : c.has .device = false) (t : List Char) :
    c.take .device (Utf8.encode t) =
      (readDevice t).map fun device => { c with device := some device } := by
  unfold Chosen.take
  rw [hfree, valueText_encode, if_neg Bool.false_ne_true]
  rfl

/-- For a model that has not been chosen every text is taken, the empty one too. -/
theorem take_model (hfree : c.has .model = false) (t : List Char) :
    c.take .model (Utf8.encode t) = .ok { c with model := some t } := by
  unfold Chosen.take
  rw [hfree, valueText_encode, if_neg Bool.false_ne_true]
  rfl

/-- For a count that has not been chosen a text is taken if it is read as one. What is read is
settled by `readCount_decimal`. -/
theorem take_count (hfree : c.has .count = false) (t : List Char) :
    c.take .count (Utf8.encode t) =
      (readCount t).map fun count => { c with count := some count } := by
  unfold Chosen.take
  rw [hfree, valueText_encode, if_neg Bool.false_ne_true]
  rfl

end CommandLine

/-! ## Settings one by one -/

namespace Setting

open CommandLine

/-- Takes the value of a setting as it is written. -/
def taken (c : Chosen) (s : Setting) : Except UsageFault Chosen :=
  c.take s.option (Utf8.encode s.text)

/-- The options chosen, with the value of a setting. -/
def into (c : Chosen) : Setting → Chosen
  | config path _ _ => { c with config := some (Utf8.encode path) }
  | device number => { c with device := some (Int32.ofInt number) }
  | model text _ => { c with model := some text }
  | count number => { c with count := some number.toNat }

variable {c : Chosen} {s : Setting}

/-- A value within its range is taken for an option that has none. The cases are the four options,
with the readers of their values. -/
theorem taken_of_fits (hfree : c.has s.option = false) (hfits : s.Fits) :
    taken c s = .ok (s.into c) := by
  cases s with
  | config path hpath _ => exact take_config hfree hpath
  | device n =>
    have hread := readDevice_decimal n
    rw [if_pos (show -2147483648 ≤ n ∧ n ≤ 2147483647 from hfits)] at hread
    exact (take_device hfree _).trans (congrArg (Except.map _) hread)
  | model t _ => exact take_model hfree t
  | count n =>
    have hread := readCount_decimal n
    rw [if_pos (show 0 ≤ n ∧ n ≤ 18446744073709551615 from hfits)] at hread
    exact (take_count hfree _).trans (congrArg (Except.map _) hread)

/-- A second value for an option is not taken, whatever it is: the value is not even read. -/
theorem taken_of_has (h : c.has s.option = true) : taken c s = .error (.repeated s.option) := by
  unfold taken Chosen.take
  rw [if_pos h]

/-- A value out of its range is not taken, whatever has been chosen before. If its option has a
value already, this is the fault that is reported. -/
theorem taken_of_not_fits (h : ¬ s.Fits) : ∃ fault, taken c s = .error fault := by
  cases hfree : c.has s.option with
  | true => exact ⟨_, taken_of_has hfree⟩
  | false =>
    cases s with
    | config | model => exact absurd trivial h
    | device n =>
      have hread := readDevice_decimal n
      rw [if_neg (show ¬ (-2147483648 ≤ n ∧ n ≤ 2147483647) from h)] at hread
      obtain ⟨fault, hfault⟩ := hread
      exact ⟨fault, (take_device hfree _).trans (congrArg (Except.map _) hfault)⟩
    | count n =>
      have hread := readCount_decimal n
      rw [if_neg (show ¬ (0 ≤ n ∧ n ≤ 18446744073709551615) from h)] at hread
      obtain ⟨fault, hfault⟩ := hread
      exact ⟨fault, (take_count hfree _).trans (congrArg (Except.map _) hfault)⟩

end Setting

/-! ## Arguments one by one -/

namespace CommandLine

/-- The bytes of a text begin with a dash just if the text does, since a dash is one byte and no
other character has a byte like it in front. -/
theorem exists_dash_cons {t : List Char} {bytes : List UInt8} (h : Utf8.encode t = dash :: bytes) :
    ∃ t', t = '-' :: t' := by
  obtain ⟨t', ht, -⟩ := (Utf8.encode_eq_ascii_cons (c := '-') (by decide)).1 h
  exact ⟨t', ht⟩

/-- A text without a dash in front is an argument without a dash. -/
theorem ofBytes_undashed {t : List Char} (h : t.head? ≠ some '-') :
    Argument.ofBytes (Utf8.encode t) = .plain := by
  cases hbytes : Utf8.encode t with
  | nil => rfl
  | cons b bytes =>
    refine if_neg ?_
    rintro rfl
    obtain ⟨t', rfl⟩ := exists_dash_cons hbytes
    exact h rfl

/-- Behind one dash stand letters, if what follows is no second dash. A negative number is such an
argument. -/
theorem ofBytes_dashed {d : Char} (hd : d ≠ '-') (t : List Char) :
    Argument.ofBytes (Utf8.encode ('-' :: d :: t)) = .short (Utf8.encode (d :: t)) := by
  have hdash : Utf8.encode ('-' :: d :: t) = dash :: Utf8.encode (d :: t) :=
    Utf8.encode_ascii_cons (by decide) (d :: t)
  rw [hdash]
  cases hbytes : Utf8.encode (d :: t) with
  | nil => cases Utf8.encode_injective (hbytes.trans Utf8.encode_nil.symm)
  | cons b bytes =>
    have hb : b ≠ dash := by
      rintro rfl
      obtain ⟨t', ht⟩ := exists_dash_cons hbytes
      exact hd (List.cons.inj ht).1
    simp only [Argument.ofBytes, if_true, if_neg hb]

/-- An option is found by its name. -/
theorem option?_name (o : OptionName) : option? (Utf8.encode o.name.toList) = some o := by
  cases o <;> rfl

variable (p : Progress) (c : Chosen) (o : OptionName)

/-- An argument behind two dashes is read as an option, whatever is pending. -/
theorem step_of_long {bytes name : List UInt8} {value : Option (List UInt8)}
    (h : Argument.ofBytes bytes = .long name value) : step p bytes = stepLong p name value := by
  rw [step, h]

/-- An argument behind one dash is read as letters, or as a negative number if a device waits for
one. -/
theorem step_of_short {bytes flags : List UInt8} (h : Argument.ofBytes bytes = .short flags) :
    step p bytes = stepShort p flags := by
  rw [step, h]

/-- A name alone: what is pending is judged, and the option waits. Whether a value is still to come
is not known before the next argument is read. -/
theorem step_name :
    step p (Utf8.encode ("--" ++ o.name).toList) =
      p.settle.map fun c => .more ⟨c, some ⟨o, none⟩⟩ := by
  have hform : Argument.ofBytes (Utf8.encode ("--" ++ o.name).toList) =
      .long (Utf8.encode o.name.toList) none := by
    cases o <;> rfl
  rw [step_of_long p hform]
  unfold stepLong
  rw [option?_name]
  rfl

/-- A name with a value: what is pending is judged, and the value too. The value may have equals
signs of its own, since the name ends at the first one. -/
theorem step_joined (t : List Char) :
    step p (Utf8.encode (("--" ++ o.name ++ "=").toList ++ t)) =
      p.settle.bind fun c => (c.take o (Utf8.encode t)).map fun c => .more ⟨c, none⟩ := by
  have hform : Argument.ofBytes (Utf8.encode (("--" ++ o.name ++ "=").toList ++ t)) =
      .long (Utf8.encode o.name.toList) (some (Utf8.encode t)) := by
    rw [Utf8.encode_append]
    cases o <;> rfl
  rw [step_of_long p hform]
  unfold stepLong
  rw [option?_name]
  rfl

/-- An option that waits for its value gets any text that does not begin with a dash. The value is
judged later, with the next argument or at the end. -/
theorem step_undashed {t : List Char} (h : t.head? ≠ some '-') :
    step ⟨c, some ⟨o, none⟩⟩ (Utf8.encode t) =
      .ok (.more ⟨c, some ⟨o, some (Utf8.encode t)⟩⟩) := by
  unfold step
  rw [ofBytes_undashed h]
  rfl

/-- Digits after digits look like a number, whether or not there has been a point or a mark of an
exponent. -/
theorem looksNumeric_of_isDigit (point mark : Bool) {digits : List Char}
    (h : ∀ d ∈ digits, d.isDigit = true) : looksNumeric point mark true digits = true := by
  induction digits with
  | nil => rfl
  | cons d digits ih =>
    obtain ⟨hd, hdigits⟩ := List.forall_mem_cons.1 h
    rw [looksNumeric, if_pos hd]
    exact ih hdigits

section

variable {d : Char} {digits : List Char}

/-- A device that waits for its value gets a negative number too. It is the only option that takes
an argument with a dash in front. -/
theorem step_negative_device (h : ∀ x ∈ d :: digits, x.isDigit = true) :
    step ⟨c, some ⟨.device, none⟩⟩ (Utf8.encode ('-' :: d :: digits)) =
      .ok (.more ⟨c, some ⟨.device, some (Utf8.encode ('-' :: d :: digits))⟩⟩) := by
  obtain ⟨hd, hdigits⟩ := List.forall_mem_cons.1 h
  have hnumeric : isNumeric (d :: digits) = true := by
    rw [isNumeric, hd]
    exact looksNumeric_of_isDigit true true hdigits
  rw [step_of_short _ (ofBytes_dashed (ne_of_isDigit hd rfl) digits), stepShort,
    Utf8.decode?_encode, Option.map_some, hnumeric]
  rfl

/-- A count does not, and digits are no letters that ask for something. So a negative count that
stands apart is a fault. -/
theorem step_negative_count (h : ∀ x ∈ d :: digits, x.isDigit = true) :
    ∃ fault, step ⟨c, some ⟨.count, none⟩⟩ (Utf8.encode ('-' :: d :: digits)) = .error fault := by
  obtain ⟨hd, -⟩ := List.forall_mem_cons.1 h
  have hletter : letterQuestion? d = none := by
    rw [letterQuestion?, if_neg (ne_of_isDigit hd rfl), if_neg (ne_of_isDigit hd rfl)]
  refine ⟨unexpectedShort (Utf8.encode (d :: digits)), ?_⟩
  rw [step_of_short _ (ofBytes_dashed (ne_of_isDigit hd rfl) digits), stepShort,
    Utf8.pieces_encode, List.map_cons]
  simp only [hletter]
  rfl

end

/-- An option that waits gets the value of a setting, unless that is a negative count, which does
not fit. -/
theorem step_value (s : Setting) :
    step ⟨c, some ⟨s.option, none⟩⟩ (Utf8.encode s.text) =
        .ok (.more ⟨c, some ⟨s.option, some (Utf8.encode s.text)⟩⟩) ∨
      ¬ s.Fits ∧
        ∃ fault, step ⟨c, some ⟨s.option, none⟩⟩ (Utf8.encode s.text) = .error fault := by
  cases s with
  | config path _ hundashed => exact .inl (step_undashed c .config hundashed)
  | model t hundashed => exact .inl (step_undashed c .model hundashed)
  | device n =>
    rcases toList_decimal_cases n with ⟨-, hundashed⟩ | ⟨-, d, digits, htext, hdigits⟩
    · exact .inl (step_undashed c .device hundashed)
    · simp only [Setting.text, Setting.option, htext]
      exact .inl (step_negative_device c hdigits)
  | count n =>
    rcases toList_decimal_cases n with ⟨-, hundashed⟩ | ⟨hneg, d, digits, htext, hdigits⟩
    · exact .inl (step_undashed c .count hundashed)
    · simp only [Setting.text, Setting.option, htext]
      exact .inr ⟨fun hfits => absurd hfits.1 (Int.not_le.2 hneg), step_negative_count c hdigits⟩

/-! ## All arguments -/

variable {p p'} {bytes : List UInt8} {rest : List (List UInt8)}

/-- Where an argument leads to more to read, the others are read from there. -/
theorem readFrom_of_more (h : step p bytes = .ok (.more p')) :
    readFrom p (bytes :: rest) = readFrom p' rest := by
  simp only [readFrom, h]

/-- Where an argument is a fault, the others are not looked at. -/
theorem readFrom_of_error {fault : UsageFault} (h : step p bytes = .error fault) :
    readFrom p (bytes :: rest) = .error fault := by
  simp only [readFrom, h]

/-- After the arguments of a setting, what has been read settles to what it did before, with the
value taken. If it does not settle, neither are the arguments read. Joined and apart, a setting thus
leads to the same, though the two leave different things pending. -/
theorem readFrom_setting (p : Progress) (spelling : Spelling) (s : Setting)
    (rest : List (List UInt8)) :
    (∃ p', readFrom p (s.arguments spelling ++ rest) = readFrom p' rest ∧
        p'.settle = p.settle.bind fun c => Setting.taken c s) ∨
      (∃ fault, readFrom p (s.arguments spelling ++ rest) = .error fault) ∧
        ∃ fault, (p.settle.bind fun c => Setting.taken c s) = .error fault := by
  cases hsettle : p.settle with
  | error fault =>
    -- The name of the option is the argument at which the fault of what is pending shows.
    refine .inr ⟨⟨fault, ?_⟩, fault, rfl⟩
    cases spelling with
    | apart =>
      refine readFrom_of_error ((step_name p s.option).trans ?_)
      rw [hsettle]
      rfl
    | joined =>
      refine readFrom_of_error ((step_joined p s.option s.text).trans ?_)
      rw [hsettle]
      rfl
  | ok c =>
    cases spelling with
    | apart =>
      have hname : step p (Utf8.encode ("--" ++ s.option.name).toList) =
          .ok (.more ⟨c, some ⟨s.option, none⟩⟩) := by
        rw [step_name, hsettle]
        rfl
      rcases step_value c s with hvalue | ⟨hbeyond, fault, hfault⟩
      · exact .inl ⟨_, (readFrom_of_more hname).trans (readFrom_of_more hvalue), rfl⟩
      · exact .inr ⟨⟨fault, (readFrom_of_more hname).trans (readFrom_of_error hfault)⟩,
          Setting.taken_of_not_fits hbeyond⟩
    | joined =>
      have hstep : step p (Utf8.encode (("--" ++ s.option.name ++ "=").toList ++ s.text)) =
          (Setting.taken c s).map fun c => .more ⟨c, none⟩ := by
        rw [step_joined, hsettle]
        rfl
      cases htaken : Setting.taken c s with
      | error fault =>
        rw [htaken] at hstep
        exact .inr ⟨⟨fault, readFrom_of_error hstep⟩, fault, htaken⟩
      | ok c' =>
        rw [htaken] at hstep
        exact .inl ⟨⟨c', none⟩, readFrom_of_more hstep, htaken.symm⟩

/-- An answer tells what has been chosen: the options that come of it, or some fault if there is
one. -/
def Tells (answer : Except UsageFault Request) : Except UsageFault Chosen → Prop
  | .ok c => answer = .ok (.readings c.options)
  | .error _ => ∃ fault, answer = .error fault

/-- The arguments of settings are read as their values are taken one by one. The induction is on the
settings; what has been read before the next one is known only up to what it settles to. -/
theorem readFrom_settings (written : List (Spelling × Setting)) (p : Progress) :
    Tells (readFrom p (Setting.allArguments written))
      (p.settle.bind fun c => (written.map Prod.snd).foldlM Setting.taken c) := by
  induction written generalizing p with
  | nil =>
    unfold Setting.allArguments
    cases hsettle : p.settle with
    | error fault => exact ⟨fault, by rw [List.flatMap_nil, readFrom, hsettle]; rfl⟩
    | ok c =>
      show readFrom p [] = .ok (.readings c.options)
      rw [readFrom, hsettle]
      rfl
  | cons w written ih =>
    have hassoc : (p.settle.bind fun c => ((w :: written).map Prod.snd).foldlM Setting.taken c) =
        (p.settle.bind fun c => Setting.taken c w.2).bind fun c =>
          (written.map Prod.snd).foldlM Setting.taken c := by
      cases p.settle <;> rfl
    rw [hassoc, Setting.allArguments, List.flatMap_cons]
    rcases readFrom_setting p w.1 w.2 (Setting.allArguments written) with
      ⟨p', hread, hsettle⟩ | ⟨hread, fault, hsettle⟩
    · rw [← hsettle]
      exact hread ▸ ih p'
    · rw [hsettle]
      exact hread

/-- From the start the arguments of settings are read as their values are taken, with nothing chosen
before. -/
theorem read_settings (written : List (Spelling × Setting)) :
    Tells (read (Setting.allArguments written))
      ((written.map Prod.snd).foldlM Setting.taken .nothing) :=
  readFrom_settings written .start

end CommandLine

end DeviceReadings
