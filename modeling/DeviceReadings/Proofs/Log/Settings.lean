import DeviceReadings.Log.FilterText
import DeviceReadings.Proofs.Text.Decoding
import Mathlib.Data.List.TakeWhile

/-!
# Settings of the log filter

Which entries of the log a setting lets through, by their levels and targets. `FilterSetting` says
so by the text of the setting: there is none, or one that is no filter, or an empty one, or a level
for all entries, or levels for the targets that begin with a text. No such text may begin another
one here, so that one of them at most speaks of an entry; which one would win does not matter then.
`Filter.ofVariable_of_setting` is the proof that the filter of such a setting does what is said.
-/

namespace DeviceReadings

/-! ## Levels and targets in writing -/

/-- The names of the thresholds, in lower case. -/
def levelNames : List (String × Threshold) :=
  [("off", none), ("error", some .error), ("warn", some .warn), ("info", some .info),
    ("debug", some .debug), ("trace", some .trace), ("0", none), ("1", some .error),
    ("2", some .warn), ("3", some .info), ("4", some .debug), ("5", some .trace)]

/-- A text is a name of a threshold, in any case. -/
def Threshold.NamedBy (t : Threshold) (text : List Char) : Prop :=
  (String.ofList (text.map Char.toLower), t) ∈ levelNames

instance (t : Threshold) (text : List Char) : Decidable (t.NamedBy text) :=
  inferInstanceAs (Decidable (_ ∈ levelNames))

/-- Letters, digits, underscores and colons: the characters of a path to a part of a program. -/
def isPathChar (c : Char) : Bool :=
  c = '_' || c = ':' || Alphanumeric.isAlphanumeric c

/-- A threshold for the targets that begin with a text. -/
structure TargetLevel where
  target : List Char
  /-- The threshold as it is written. -/
  level : List Char
  threshold : Threshold
  target_ne_nil : target ≠ []
  target_chars : ∀ c ∈ target, isPathChar c = true
  named : threshold.NamedBy level

namespace TargetLevel

/-- The threshold and the beginning of its targets in writing. -/
def written (d : TargetLevel) : List Char :=
  d.target ++ '=' :: d.level

/-- What is read of it. -/
def directive (d : TargetLevel) : Directive :=
  ⟨.events (some d.target) none, d.threshold⟩

/-- Neither of two targets begins the other one. -/
def Apart (d d' : TargetLevel) : Prop :=
  ¬ d.target <+: d'.target ∧ ¬ d'.target <+: d.target

instance (d d' : TargetLevel) : Decidable (d.Apart d') :=
  inferInstanceAs (Decidable (¬ _ ∧ ¬ _))

end TargetLevel

/-- A setting of the filter lets the entries of some levels and targets through. -/
inductive FilterSetting : Option (List UInt8) → (Level → String → Bool) → Prop where
  | missing : FilterSetting none fun level _ => Threshold.admits (some .warn) level
  | garbled {bytes : List UInt8} (h : Utf8.decode? bytes = none) :
    FilterSetting (some bytes) fun level _ => Threshold.admits (some .warn) level
  | senseless {text : List Char} (h : Filter.read text = .error .senseless) :
    FilterSetting (some (Utf8.encode text)) fun level _ => Threshold.admits (some .warn) level
  | empty : FilterSetting (some []) fun level _ => Threshold.admits (some .error) level
  | level {text : List Char} {t : Threshold} (h : t.NamedBy text) :
    FilterSetting (some (Utf8.encode text)) fun level _ => t.admits level
  | targets {ds : List TargetLevel} (hne : ds ≠ []) (hapart : ds.Pairwise TargetLevel.Apart) :
    FilterSetting (some (Utf8.encode ([','].intercalate (ds.map TargetLevel.written))))
      fun level target =>
        ds.any fun d => d.target.isPrefixOf target.toList && d.threshold.admits level

/-! ## Characters -/

/-- Ranges that lie apart share no code point. That two tables lie apart is decided range by range,
without a look at the characters in them. -/
theorem inRanges_eq_false_of_apart {a b : List (Nat × Nat)}
    (h : a.all (fun r => b.all fun r' => r.2 < r'.1 || r'.2 < r.1) = true) {n : Nat}
    (hn : inRanges a n = true) : inRanges b n = false := by
  obtain ⟨r, hr, hlow⟩ := List.any_eq_true.1 hn
  refine List.any_eq_false.2 fun r' hr' hlow' => ?_
  have hapart := List.all_eq_true.1 (List.all_eq_true.1 h r hr) r' hr'
  simp only [Bool.and_eq_true, Bool.or_eq_true, decide_eq_true_eq] at hlow hlow' hapart
  omega

/-- White space is no letter and no digit: the two tables lie apart. -/
theorem isAlphanumeric_of_isBlank {c : Char} (h : Blank.isBlank c = true) :
    Alphanumeric.isAlphanumeric c = false := by
  rw [Alphanumeric.isAlphanumeric, Alphanumeric.isLetter,
    inRanges_eq_false_of_apart (by decide +kernel) h,
    inRanges_eq_false_of_apart (by decide +kernel) h, Bool.or_false]

/-- There is no white space in a path, so that what is written of one is not trimmed. -/
theorem isBlank_of_isPathChar {c : Char} (h : isPathChar c = true) : Blank.isBlank c = false := by
  by_contra hblank
  rw [Bool.not_eq_false] at hblank
  rw [isPathChar, isAlphanumeric_of_isBlank hblank] at h
  simp only [Bool.or_false, Bool.or_eq_true, decide_eq_true_eq] at h
  rcases h with rfl | rfl <;> exact absurd hblank (by decide)

/-- The characters that part a filter are in no path, so a path is never cut. -/
theorem ne_of_isPathChar {c : Char} (h : isPathChar c = true) : c ≠ ',' ∧ c ≠ '=' ∧ c ≠ '[' := by
  refine ⟨?_, ?_, ?_⟩
  all_goals
    rintro rfl
    exact absurd h (by decide +kernel)

/-- Every character of a path may begin a directive. -/
theorem canBegin_of_isPathChar {c : Char} (h : isPathChar c = true) :
    Filter.canBegin c = true := by
  simp only [isPathChar, Bool.or_eq_true, decide_eq_true_eq] at h
  simp only [Filter.canBegin, Bool.or_eq_true, decide_eq_true_eq]
  rcases h with (hunderscore | hcolon) | halphanumeric
  · exact .inl (.inr hunderscore)
  · exact .inl (.inl (.inr hcolon))
  · exact .inr halphanumeric

/-- The letters are the ones of the first 128 characters, in two ranges. Facts about them come from
their numbers. -/
theorem toNat_of_isAlpha {c : Char} (h : c.isAlpha = true) :
    0x41 ≤ c.toNat ∧ c.toNat ≤ 0x5A ∨ 0x61 ≤ c.toNat ∧ c.toNat ≤ 0x7A := by
  delta Char.isAlpha Char.isUpper Char.isLower at h
  simpa [UInt32.le_iff_toNat_le] using h

/-- The letters and digits among the first 128 characters are in paths. -/
theorem isPathChar_of_isAlphanum {c : Char} (h : c.isAlphanum = true) : isPathChar c = true := by
  have hrange : (0x41 ≤ c.toNat ∧ c.toNat ≤ 0x5A ∨ 0x61 ≤ c.toNat ∧ c.toNat ≤ 0x7A) ∨
      0x30 ≤ c.toNat ∧ c.toNat ≤ 0x39 := by
    rw [Char.isAlphanum, Bool.or_eq_true] at h
    exact h.imp toNat_of_isAlpha Char.isDigit_iff_toNat.1
  have hin : ∀ {ranges r}, r ∈ ranges → r.1 ≤ c.toNat ∧ c.toNat ≤ r.2 →
      inRanges ranges c.toNat = true :=
    fun hr hc => List.any_eq_true.2 ⟨_, hr, by simpa using hc⟩
  have halphanumeric : Alphanumeric.isAlphanumeric c = true := by
    rw [Alphanumeric.isAlphanumeric, Alphanumeric.isLetter, Bool.or_eq_true]
    rcases hrange with (hc | hc) | hc
    · exact .inl (hin (r := (0x41, 0x5A)) List.mem_cons_self hc)
    · exact .inl (hin (r := (0x61, 0x7A)) (List.mem_cons_of_mem _ List.mem_cons_self) hc)
    · exact .inr (hin (r := (0x30, 0x39)) List.mem_cons_self hc)
  rw [isPathChar, halphanumeric, Bool.or_true]

/-! ## Names of levels -/

namespace Filter

/-- A character that is not its own small form is a letter. So is its small form, which is its own.
The capitals are in one range, and so there are 26 characters to look at. -/
theorem toLower_cases (c : Char) :
    c.toLower = c ∨
      c.isAlpha = true ∧ c.toLower.isAlpha = true ∧ c.toLower.toLower = c.toLower := by
  by_cases hupper : c.isUpper = true
  · have hrange : 65 ≤ c.toNat ∧ c.toNat ≤ 90 := by
      have hval : c.val ≥ 'A'.val ∧ c.val ≤ 'Z'.val := of_decide_eq_true hupper
      simpa [UInt32.le_iff_toNat_le] using hval
    have hcapitals : ∀ n < 26, (Char.ofNat (65 + n)).isAlpha = true ∧
        (Char.ofNat (65 + n)).toLower.isAlpha = true ∧
        (Char.ofNat (65 + n)).toLower.toLower = (Char.ofNat (65 + n)).toLower := by decide
    have hc := hcapitals (c.toNat - 65) (by omega)
    rw [Nat.add_sub_cancel' hrange.1, Char.ofNat_toNat] at hc
    exact .inr hc
  · exact .inl (dif_neg (of_decide_eq_false (Bool.eq_false_iff.2 hupper)))

/-- A letter is no digit. A name of a level is thus never taken for the number of one. -/
theorem isDigit_eq_false_of_isAlpha {c : Char} (h : c.isAlpha = true) : c.isDigit = false := by
  have hletter := toNat_of_isAlpha h
  by_contra hdigit
  have hrange : 0x30 ≤ c.toNat ∧ c.toNat ≤ 0x39 :=
    Char.isDigit_iff_toNat.1 (Bool.not_eq_false _ ▸ hdigit)
  omega

/-- Digits are read alike whether or not letters are made small first: no letter is among digits,
and no digit is changed. -/
theorem digits?_map_toLower (acc : Nat) (text : List Char) :
    digits? acc (text.map Char.toLower) = digits? acc text := by
  induction text generalizing acc with
  | nil => rfl
  | cons c text ih =>
    rw [List.map_cons, digits?, digits?]
    rcases toLower_cases c with hsame | ⟨hletter, hlower, -⟩
    · rw [hsame, ih]
    · rw [isDigit_eq_false_of_isAlpha hletter, isDigit_eq_false_of_isAlpha hlower]
      rfl

/-- Without a plus sign in front, a number is its digits. -/
theorem number?_cons_of_ne {c : Char} (h : c ≠ '+') (rest : List Char) :
    number? (c :: rest) = digits? 0 (c :: rest) := by
  unfold number?
  split <;> simp_all

/-- Whether letters are capitals makes no difference to what number a text is. -/
theorem number?_map_toLower (text : List Char) :
    number? (text.map Char.toLower) = number? text := by
  cases text with
  | nil => rfl
  | cons c rest =>
    by_cases hplus : c = '+'
    · subst hplus
      cases rest with
      | nil => rfl
      | cons d rest => exact digits?_map_toLower 0 (d :: rest)
    · have hlower : c.toLower ≠ '+' := by
        rcases toLower_cases c with hsame | ⟨-, hletter, -⟩
        · rwa [hsame]
        · intro h
          rw [h] at hletter
          cases hletter
      rw [number?_cons_of_ne hplus, List.map_cons, number?_cons_of_ne hlower]
      exact digits?_map_toLower 0 (c :: rest)

/-- Nor does it to what threshold a text names. The names of the levels are compared without regard
to capitals, and numbers have none. -/
theorem threshold?_map_toLower (text : List Char) :
    threshold? (text.map Char.toLower) = threshold? text := by
  have hlower : (text.map Char.toLower).map Char.toLower = text.map Char.toLower := by
    rw [List.map_map]
    refine List.map_congr_left fun c _ => ?_
    rcases toLower_cases c with hsame | ⟨-, -, hlower⟩
    · rw [Function.comp_apply, hsame, hsame]
    · exact hlower
  rw [threshold?, threshold?, number?_map_toLower, hlower]

/-- A name of a threshold is read as the threshold, in capitals or not. The names are tried in small
letters, and `threshold?_map_toLower` carries the result to all others. -/
theorem threshold?_of_namedBy {text : List Char} {t : Threshold} (h : t.NamedBy text) :
    threshold? text = some t := by
  have hread : ∀ name ∈ levelNames, threshold? name.1.toList = some name.2 := by decide
  have hname := hread _ h
  rwa [String.toList_ofList, threshold?_map_toLower] at hname

/-- A name of a threshold is a path like that of a target. Which of them a text is taken for is
decided by what it names. -/
theorem isPathChar_of_namedBy {text : List Char} {t : Threshold} (h : t.NamedBy text) :
    text ≠ [] ∧ ∀ c ∈ text, isPathChar c = true := by
  have hchars : ∀ name ∈ levelNames, name.1.toList ≠ [] ∧
      ∀ c ∈ name.1.toList, c.isAlphanum = true := by
    simp [levelNames]
  obtain ⟨hne, hall⟩ := hchars _ h
  rw [String.toList_ofList] at hne hall
  refine ⟨fun hnil => hne (by rw [hnil]; rfl), fun c hc => isPathChar_of_isAlphanum ?_⟩
  have hlower := hall _ (List.mem_map_of_mem hc)
  rcases toLower_cases c with hsame | ⟨hletter, -, -⟩
  · rwa [hsame] at hlower
  · rw [Char.isAlphanum, hletter]
    rfl

/-- Behind the equals sign of a directive a name of a threshold is read as the threshold. -/
theorem thresholdOrAll_of_namedBy {text : List Char} {t : Threshold} (h : t.NamedBy text) :
    thresholdOrAll text = .ok t := by
  simp only [thresholdOrAll, if_neg (isPathChar_of_namedBy h).1, threshold?_of_namedBy h]

/-! ## Cutting a directive -/

/-- What a text begins with is cut from it whole. The offsets are counted in bytes, and those of a
front lie between characters. -/
theorem cut_front (front rest : List Char) : cut (front ++ rest) 0 (size front) = .ok front := by
  have htake : (Utf8.encode (front ++ rest)).take (size front) = Utf8.encode front := by
    rw [Utf8.encode_append]
    exact List.take_left' rfl
  rw [cut, htake, List.take_zero, List.drop_zero, Utf8.decode?_encode]
  rfl

/-- What stands behind a character of the first 128 is cut off whole, since the character is one
byte. -/
theorem cutFrom_behind (front : List Char) {c : Char} (hc : c.toNat < 0x80) (rest : List Char) :
    cutFrom (front ++ c :: rest) (size front + 1) = .ok rest := by
  have hdrop : (Utf8.encode (front ++ c :: rest)).drop (size front + 1) = Utf8.encode rest := by
    rw [Utf8.encode_append, Utf8.encode_ascii_cons hc, ← List.drop_drop, size, List.drop_left]
    rfl
  rw [cutFrom, hdrop, Utf8.decode?_encode]

/-- A text without white space is not trimmed, neither in front nor at its end. -/
theorem trim_eq_self {text : List Char} (h : ∀ c ∈ text, Blank.isBlank c = false) :
    Blank.trim text = text := by
  have hfront : ∀ t : List Char, (∀ c ∈ t, Blank.isBlank c = false) →
      t.dropWhile Blank.isBlank = t := by
    intro t ht
    cases t with
    | nil => rfl
    | cons c t => rw [List.dropWhile_cons, ht c List.mem_cons_self]; rfl
  rw [Blank.trim, hfront text h, Blank.trimEnd, hfront _ fun c hc => h c (List.mem_reverse.1 hc),
    List.reverse_reverse]

/-! ## Directives -/

/-- The front of a directive, up to a sign that parts it. A path alone is all front, and so is a
path with an equals sign behind it. -/
theorem takeWhile_name {name : List Char} (h : ∀ c ∈ name, isPathChar c = true) (rest : List Char) :
    (name ++ '=' :: rest).takeWhile (fun c => c ≠ '=' && c ≠ '[') = name ∧
      name.takeWhile (fun c => c ≠ '=' && c ≠ '[') = name := by
  have hplain : ∀ c ∈ name, (c ≠ '=' && c ≠ '[') = true := by
    intro c hc
    obtain ⟨-, hequals, hbracket⟩ := ne_of_isPathChar (h c hc)
    simp [hequals, hbracket]
  refine ⟨?_, List.takeWhile_eq_self_iff.2 hplain⟩
  rw [List.takeWhile_append_of_pos hplain]
  exact List.append_nil name

/-- A directive that begins with a path character is read by its name: it is not trimmed, and no
span stands in front. -/
theorem directive_eq_named {c : Char} {rest : List Char} (hc : isPathChar c = true)
    (h : ∀ d ∈ c :: rest, Blank.isBlank d = false) :
    directive (c :: rest) = named (c :: rest) (c :: rest) := by
  obtain ⟨-, -, hbracket⟩ := ne_of_isPathChar hc
  simp only [directive, trim_eq_self h, if_neg hbracket, if_pos (canBegin_of_isPathChar hc)]

/-- A level alone is a directive for all entries. -/
theorem directive_of_namedBy {text : List Char} {t : Threshold} (h : t.NamedBy text) :
    directive text = .ok ⟨.events none none, t⟩ := by
  obtain ⟨hne, hchars⟩ := isPathChar_of_namedBy h
  obtain ⟨c, rest, rfl⟩ := List.exists_cons_of_ne_nil hne
  rw [directive_eq_named (hchars c List.mem_cons_self) fun d hd =>
    isBlank_of_isPathChar (hchars d hd)]
  simp only [named, (takeWhile_name hchars []).2, List.drop_length, threshold?_of_namedBy h]

/-- No white space is in a level for a target, so it is read as it stands. -/
theorem isBlank_of_mem_written {d : TargetLevel} {c : Char} (h : c ∈ d.written) :
    Blank.isBlank c = false := by
  rcases List.mem_append.1 h with htarget | hrest
  · exact isBlank_of_isPathChar (d.target_chars c htarget)
  · rcases List.mem_cons.1 hrest with rfl | hlevel
    · decide
    · exact isBlank_of_isPathChar ((isPathChar_of_namedBy d.named).2 c hlevel)

/-- No comma is in a level for a target, so it is one part of a filter. -/
theorem not_mem_written (d : TargetLevel) : ',' ∉ d.written := by
  intro h
  rcases List.mem_append.1 h with htarget | hrest
  · exact (ne_of_isPathChar (d.target_chars _ htarget)).1 rfl
  · have hlevel := (List.mem_cons.1 hrest).resolve_left (by decide)
    exact (ne_of_isPathChar ((isPathChar_of_namedBy d.named).2 _ hlevel)).1 rfl

/-- A level for a target is a directive for the targets that begin with it. It has no fields and no
span. -/
theorem directive_written (d : TargetLevel) : directive d.written = .ok d.directive := by
  obtain ⟨c, rest, htarget⟩ := List.exists_cons_of_ne_nil d.target_ne_nil
  have hfront : d.written = c :: (rest ++ '=' :: d.level) := by
    rw [TargetLevel.written, htarget, List.cons_append]
  have hblank : ∀ x ∈ c :: (rest ++ '=' :: d.level), Blank.isBlank x = false :=
    hfront ▸ fun _ => isBlank_of_mem_written
  rw [hfront, directive_eq_named (d.target_chars c (htarget ▸ List.mem_cons_self)) hblank,
    ← hfront]
  simp only [named, TargetLevel.written, (takeWhile_name d.target_chars d.level).1,
    List.drop_left, cut_front, cutFrom_behind d.target (by decide : '='.toNat < 0x80)]
  show (thresholdOrAll d.level).bind _ = _
  rw [thresholdOrAll_of_namedBy d.named]
  rfl

/-! ## Lists of directives -/

/-- A text without a comma is part of the part begun. The part is held back to front while it is
read. -/
theorem splitCommas_append {text : List Char} (h : ',' ∉ text) (current rest : List Char) :
    splitCommas current (text ++ rest) = splitCommas (text.reverse ++ current) rest := by
  induction text generalizing current with
  | nil => rfl
  | cons c text ih =>
    obtain ⟨hc, htext⟩ := List.ne_and_not_mem_of_not_mem_cons h
    rw [List.cons_append, splitCommas, if_neg (Ne.symm hc), ih htext, List.reverse_cons,
      List.append_assoc, List.singleton_append]

/-- Parts without commas are read back from the text in which commas stand between them. The
induction is on the parts. -/
theorem splitCommas_intercalate {parts : List (List Char)} (hne : parts ≠ [])
    (h : ∀ part ∈ parts, ',' ∉ part) : splitCommas [] ([','].intercalate parts) = parts := by
  induction parts with
  | nil => exact absurd rfl hne
  | cons part parts ih =>
    have hpart := h part List.mem_cons_self
    have hread : ∀ rest, splitCommas [] (part ++ rest) = splitCommas part.reverse rest := by
      intro rest
      rw [splitCommas_append hpart, List.append_nil]
    cases parts with
    | nil =>
      have hlast := hread []
      rw [List.append_nil, splitCommas, List.reverse_reverse] at hlast
      rw [List.intercalate_singleton, hlast]
    | cons next parts =>
      have hrest := ih (List.cons_ne_nil next parts) fun p hp => h p (List.mem_cons_of_mem _ hp)
      rw [List.intercalate_cons_cons, List.append_assoc, hread, List.singleton_append,
        splitCommas, if_pos rfl, List.reverse_reverse, hrest]

/-- Parts that are not empty are all read, in their order. -/
theorem read_intercalate {parts : List (List Char)} (hne : parts ≠ [])
    (h : ∀ part ∈ parts, part ≠ [] ∧ ',' ∉ part) :
    read ([','].intercalate parts) = directives parts := by
  have hkept : parts.filter (fun part => decide (part ≠ [])) = parts :=
    List.filter_eq_self.2 fun part hpart => decide_eq_true (h part hpart).1
  rw [read, splitCommas_intercalate hne fun part hpart => (h part hpart).2, hkept]
  cases parts with
  | nil => exact absurd rfl hne
  | cons part parts => rfl

/-- Levels for targets are all read, each as its own directive, and none is torn. By induction, with
`directive_written` for each of them. -/
theorem directives_written (ds : List TargetLevel) :
    directives (ds.map TargetLevel.written) = .ok (ds.map TargetLevel.directive) := by
  induction ds with
  | nil => rfl
  | cons d ds ih => rw [List.map_cons, directives, directive_written, ih]; rfl

/-! ## The directive that decides -/

/-- A directive that has been found stays the one that decides if none of those behind it speaks of
the event. -/
theorem foldl_closer_some {filter : List Directive} {e : Event} {best : Directive}
    (h : ∀ d ∈ filter, d.scope.holds e = false) :
    filter.foldl (closer e) (some best) = some best := by
  induction filter with
  | nil => rfl
  | cons d filter ih =>
    have hd : closer e (some best) d = some best := by
      rw [closer, h d List.mem_cons_self]
      rfl
    rw [List.foldl_cons, hd, ih fun d' hd' => h d' (List.mem_cons_of_mem _ hd')]

/-- If one directive at most speaks of an event, it decides. The order by which directives are
closer to an event then has no part in it. -/
theorem deciding?_eq_find? {filter : List Directive} {e : Event}
    (h : filter.Pairwise fun d d' => ¬ (d.scope.holds e = true ∧ d'.scope.holds e = true)) :
    deciding? filter e = filter.find? (·.scope.holds e) := by
  rw [deciding?]
  induction filter with
  | nil => rfl
  | cons d filter ih =>
    obtain ⟨hd, hrest⟩ := List.pairwise_cons.1 h
    rw [List.foldl_cons, List.find?_cons]
    cases hholds : d.scope.holds e with
    | true =>
      have hfirst : closer e none d = some d := by
        rw [closer, hholds]
        rfl
      rw [hfirst]
      exact foldl_closer_some fun d' hd' =>
        Bool.eq_false_iff.2 fun hholds' => hd d' hd' ⟨hholds, hholds'⟩
    | false =>
      have hnone : closer e none d = none := by
        rw [closer, hholds]
        rfl
      rw [hnone]
      exact ih hrest

/-- If one directive at most speaks of an event, the event is let through by any that does so and
has the level. -/
theorem admits_eq_any {filter : List Directive} {e : Event}
    (h : filter.Pairwise fun d d' => ¬ (d.scope.holds e = true ∧ d'.scope.holds e = true)) :
    admits filter e = filter.any fun d => d.scope.holds e && d.threshold.admits e.level := by
  rw [admits, deciding?_eq_find? h]
  induction filter with
  | nil => rfl
  | cons d filter ih =>
    obtain ⟨hd, hrest⟩ := List.pairwise_cons.1 h
    rw [List.find?_cons, List.any_cons]
    cases hholds : d.scope.holds e with
    | true =>
      have hlater : (filter.any fun d' => d'.scope.holds e && d'.threshold.admits e.level) =
          false := by
        refine List.any_eq_false.2 fun d' hd' hboth => hd d' hd' ⟨hholds, ?_⟩
        exact (Bool.and_eq_true_iff.1 hboth).1
      rw [hlater, Bool.true_and, Bool.or_false]
    | false =>
      rw [Bool.false_and, Bool.false_or]
      exact ih hrest

/-! ## Settings -/

/-- A directive for all entries lets their levels through, whatever their targets. -/
theorem admits_all (t : Threshold) (e : Event) : admits [⟨.events none none, t⟩] e =
    t.admits e.level := rfl

/-- Of targets that lie apart one at most begins the target of an event. The levels given for them
then do not meet. -/
theorem admits_targets {ds : List TargetLevel} (h : ds.Pairwise TargetLevel.Apart) (e : Event) :
    admits (ds.map TargetLevel.directive) e = ds.any fun d =>
      d.target.isPrefixOf e.target.toList && d.threshold.admits e.level := by
  have hholds : ∀ d : TargetLevel,
      d.directive.scope.holds e = d.target.isPrefixOf e.target.toList := by
    intro d
    simp [TargetLevel.directive, Scope.holds]
  have honce : (ds.map TargetLevel.directive).Pairwise fun d d' =>
      ¬ (d.scope.holds e = true ∧ d'.scope.holds e = true) := by
    refine List.pairwise_map.2 (h.imp ?_)
    rintro d d' ⟨hnot, hnot'⟩ ⟨hd, hd'⟩
    rw [hholds, List.isPrefixOf_iff_prefix] at hd hd'
    rcases List.prefix_or_prefix_of_prefix hd hd' with hbegins | hbegins
    · exact hnot hbegins
    · exact hnot' hbegins
  rw [admits_eq_any honce, List.any_map]
  exact congrArg (List.any ds) (funext fun d => by rw [Function.comp_apply, hholds]; rfl)

/-- The filter of a setting lets through what the setting says, and is not torn. Where the setting
cannot be read the filter is that of warnings. -/
theorem ofVariable_of_setting {setting : Option (List UInt8)} {lets : Level → String → Bool}
    (h : FilterSetting setting lets) :
    ∃ filter, ofVariable setting = .value filter ∧
      ∀ e, admits filter e = lets e.level e.target := by
  cases h with
  | missing => exact ⟨warnings, rfl, admits_all _⟩
  | garbled h =>
    refine ⟨warnings, ?_, admits_all _⟩
    simp only [ofVariable, Option.bind_some, h]
  | senseless h =>
    refine ⟨warnings, ?_, admits_all _⟩
    simp only [ofVariable, Option.bind_some, Utf8.decode?_encode, h]
  | empty => exact ⟨[⟨.events none none, some .error⟩], rfl, admits_all _⟩
  | @level text t h =>
    have hplain : ∀ part ∈ [text], part ≠ [] ∧ ',' ∉ part := by
      obtain ⟨hne, hchars⟩ := isPathChar_of_namedBy h
      rw [List.forall_mem_singleton]
      exact ⟨hne, fun hcomma => (ne_of_isPathChar (hchars _ hcomma)).1 rfl⟩
    have hread : read text = .ok [⟨.events none none, t⟩] := by
      have hpart := read_intercalate (List.cons_ne_nil text []) hplain
      rw [List.intercalate_singleton] at hpart
      rw [hpart, directives, directive_of_namedBy h]
      rfl
    refine ⟨[⟨.events none none, t⟩], ?_, admits_all _⟩
    simp only [ofVariable, Option.bind_some, Utf8.decode?_encode, hread]
  | @targets ds hne hapart =>
    have hplain : ∀ part ∈ ds.map TargetLevel.written, part ≠ [] ∧ ',' ∉ part := by
      intro part hpart
      obtain ⟨d, -, rfl⟩ := List.mem_map.1 hpart
      exact ⟨by simp [TargetLevel.written], not_mem_written d⟩
    have hread := read_intercalate (mt List.map_eq_nil_iff.1 hne) hplain
    rw [directives_written] at hread
    refine ⟨ds.map TargetLevel.directive, ?_, admits_targets hapart⟩
    simp only [ofVariable, Option.bind_some, Utf8.decode?_encode, hread]

end Filter

end DeviceReadings
