import DeviceReadings.Proofs.Config.StrayNames
import DeviceReadings.Proofs.Config.Truncation

/-!
# Reports of stray names

A name that is not known is reported as it was meant, however it is spelled between its quotes and
whatever follows them: a key behind the opening brace that names no part, and a string in a place
where a text could go on with the name of a policy or of a backend (`AwaitsName`). The main
statement is `stray_names_reported`.

A text that can go on so has come to the end of a token: none of the names of a configuration has a
quote in it, so a quote in a configuration either opens a string or closes one
(`Begins.cut_at_quote`), and behind a closing quote no name is spelled (`not_begins_of_spelling`).
-/

namespace DeviceReadings

namespace Json

/-! ## Quotes -/

/-- The spelling of a text without a quote has none either, since only an escaped quote spells
one. -/
theorem Spelling.not_mem_quote {u text : List Char} (h : Spelling u text) (htext : '"' ∉ text) :
    '"' ∉ u := by
  have hhex : ∀ {u : List Char} {n : Nat}, HexUnit u n → '"' ∉ u := by
    rintro _ _ ⟨ha, hb, hc, hd⟩ hmem
    have hnone : hexCharValue? '"' = none := by decide
    simp only [List.mem_cons, List.not_mem_nil, or_false] at hmem
    rcases hmem with rfl | rfl | rfl | rfl
    · cases hnone.symm.trans ha
    · cases hnone.symm.trans hb
    · cases hnone.symm.trans hc
    · cases hnone.symm.trans hd
  induction h with
  | nil => exact nofun
  | plain hplain _ ih =>
    rw [List.mem_cons, not_or] at htext ⊢
    exact ⟨htext.1, ih htext.2⟩
  | @escape e u t c he _ ih =>
    rw [List.mem_cons, not_or] at htext
    have hescape : '"' ∉ e := by
      cases he with
      | @short letter _ hshort =>
        rintro hmem
        obtain rfl := List.mem_singleton.1 hmem
        have hquote : ∀ pair ∈ shortEscapes, pair.1 = '"' → pair.2 = '"' := by decide
        exact htext.1 (hquote _ hshort rfl).symm
      | units hunits =>
        cases hunits with
        | unit hu => simpa using hhex hu
        | pair hu hv => simpa using ⟨hhex hu, hhex hv⟩
    simpa using ⟨hescape, ih htext.2⟩

/-- What is between quotes spells one text. The first quote that is not escaped ends the string, in
every spelling of it. -/
theorem Spelling.text_unique {u w text text' r n : List Char} (h : Spelling u text)
    (h' : Spelling w text') (heq : u ++ '"' :: r = w ++ '"' :: n) : text = text' := by
  have hread : stringLiteral (Utf8.encode (u ++ '"' :: r)) = .ok (text, Utf8.encode r) :=
    (reads_stringLiteral _ _ _).2 ⟨u ++ ['"'], r, by simp [Cutting.chars], ⟨u, rfl, h⟩, rfl⟩
  have hread' : stringLiteral (Utf8.encode (w ++ '"' :: n)) = .ok (text', Utf8.encode n) :=
    (reads_stringLiteral _ _ _).2 ⟨w ++ ['"'], n, by simp [Cutting.chars], ⟨w, rfl, h'⟩, rfl⟩
  rw [heq, hread'] at hread
  exact (Prod.mk.inj (Except.ok.inj hread)).1.symm

/-- A token is spelled in front of another text too, if a number cannot go on there. All other
tokens know their end without a look at what follows. -/
theorem Spells.before {tok : Token} {u t t' : List Char} (h : Spells tok u t)
    (ht : Ends t → Ends t') : Spells tok u t' := by
  cases h with
  | mark hx => exact .mark hx
  | string hs => exact .string hs
  | null => exact .null
  | natural hn hends => exact .natural hn (ht hends)

/-- A quote is no part of a number, so a number that ended before goes on ending there. -/
theorem Ends.before_quote {t : List Char} (m : List Char) (h : Ends t) : Ends (t ++ '"' :: m) := by
  cases t with
  | nil =>
    rintro c hc
    obtain rfl : '"' = c := by simpa using hc
    decide
  | cons c t => exact h

/-- Where a number has ended before a longer text, it has ended before a part of it: what comes next
is the same, or nothing at all. -/
theorem Ends.of_append {t m : List Char} (h : Ends (t ++ m)) : Ends t := by
  cases t with
  | nil => exact nofun
  | cons c t => exact h

/-- A text that begins with some tokens begins with them when it goes on with a string. -/
theorem Begins.with_string {p b u v r : List Char} {toks : List Token} (h : Begins p toks b)
    (hb : Blanks b) (hu : Spelling u v) :
    Begins (p ++ '"' :: (u ++ '"' :: r)) (toks ++ [.string v]) r := by
  induction h with
  | nil =>
    have hstring := Begins.cons (r := r) hb (.string (r := r) hu) .nil
    simpa using hstring
  | cons hblanks hw _ ih =>
    have hwhole := Begins.cons hblanks (hw.before (.before_quote _)) (ih hb)
    simpa using hwhole

/-- The strings among some tokens have no quotes in them. -/
def QuoteFree (toks : List Token) : Prop :=
  ∀ text, .string text ∈ toks → '"' ∉ text

/-- Where the spelling of a token has a quote, it is that of a string, and the quote is one of those
around it. -/
theorem Spells.cut_at_quote {tok : Token} {u t p m : List Char} (h : Spells tok u t)
    (hfree : QuoteFree [tok]) (hu : u = p ++ '"' :: m) :
    (p = [] ∧ ∃ w text, tok = .string text ∧ Spelling w text ∧ m = w ++ ['"']) ∨ m = [] := by
  have hmem : '"' ∈ u := by simp [hu]
  cases h with
  | @mark c _ hc =>
    obtain rfl := List.mem_singleton.1 hmem
    exact absurd hc (by decide)
  | null => exact absurd hmem (by decide)
  | natural hn _ => exact absurd (hn.digits _ hmem) (by decide)
  | @string w text _ hw =>
    have hquote : '"' ∉ w := hw.not_mem_quote (hfree text List.mem_cons_self)
    cases p with
    | nil => exact .inl ⟨rfl, w, text, rfl, hw, (List.cons.inj hu).2.symm⟩
    | cons c p =>
      rcases append_eq_append_cons (List.cons.inj hu).2 with ⟨x, -, hclosing⟩ | ⟨x, rfl, -⟩
      · obtain ⟨rfl, rfl⟩ : x = [] ∧ m = [] := by simpa [List.cons_eq_append_iff] using hclosing
        exact .inr rfl
      · simp at hquote

/-- **A quote behind some tokens opens a string or closes one.** In a text that begins with tokens
whose strings have no quotes, every quote before the blank rest stands behind some of the tokens and
opens the string after them, or is followed by the rest of the tokens. -/
theorem Begins.cut_at_quote {t p m r : List Char} {toks : List Token} (h : Begins t toks r)
    (hr : Blanks r) (hfree : QuoteFree toks) (ht : t = p ++ '"' :: m) :
    (∃ front text later b w n, toks = front ++ .string text :: later ∧ Begins p front b ∧
        Blanks b ∧ Spelling w text ∧ m = w ++ '"' :: n) ∨
      ∃ later, Begins m later r := by
  induction h generalizing p with
  | nil => cases hr '"' (by simp [ht])
  | @cons blanks u t r tok toks hblanks hu hrest ih =>
    have hlater : QuoteFree toks := fun text h => hfree text (List.mem_cons_of_mem tok h)
    have hfirst : QuoteFree [tok] := fun text h =>
      hfree text (List.mem_singleton.1 h ▸ List.mem_cons_self)
    -- The quote stands behind the first token, in it, or among the blanks in front of it.
    rcases append_eq_append_cons ht with ⟨p, rfl, rfl⟩ | ⟨w, htok, rfl⟩
    · rcases ih hr hlater rfl with ⟨front, text, later, b, w, n, rfl, hfront, hrest⟩ | hclosed
      · have hbefore := hu.before fun h => h.of_append
        exact .inl ⟨tok :: front, text, later, b, w, n, rfl, .cons hblanks hbefore hfront, hrest⟩
      · exact .inr hclosed
    · rcases append_eq_append_cons htok with ⟨p, rfl, hquote⟩ | ⟨x, rfl, -⟩
      · rcases hu.cut_at_quote hfirst hquote with ⟨rfl, v, text, rfl, hv, rfl⟩ | rfl
        · exact .inl ⟨[], text, toks, blanks, v, t, rfl, by simpa using .nil, hblanks, hv, by simp⟩
        · exact .inr ⟨toks, hrest⟩
      · cases hblanks '"' (by simp)

/-- Characters that begin no token and are not blank. -/
def BeginsNoToken (c : Char) : Prop :=
  isBlankChar c = false ∧ c ∉ marks ∧ c ≠ '"' ∧ c ≠ 'n' ∧ c.isDigit = false

instance (c : Char) : Decidable (BeginsNoToken c) :=
  inferInstanceAs (Decidable (_ ∧ _ ∧ _ ∧ _ ∧ _))

/-- A text whose first character begins no token is not a row of tokens with blanks behind, and not
blank either. -/
theorem BeginsNoToken.not_begins {c : Char} (hc : BeginsNoToken c) {t r : List Char}
    {toks : List Token} (hr : Blanks r) : ¬ Begins (c :: t) toks r := by
  obtain ⟨hblank, hmark, hquote, hnull, hdigit⟩ := hc
  intro h
  cases toks with
  | nil =>
    obtain rfl := begins_nil_iff.1 h
    exact absurd (hr c List.mem_cons_self) (ne_true_of_eq_false hblank)
  | cons tok toks =>
    obtain ⟨u, m, ht, hu, -⟩ := begins_cons_iff.1 h
    obtain ⟨d, v, rfl, hstarts, -⟩ := hu.front
    rw [List.dropWhile_cons_of_neg (ne_true_of_eq_false hblank)] at ht
    obtain ⟨rfl, -⟩ := List.cons.inj ht
    cases hu with
    | mark hx => exact hmark hx
    | string _ => exact hquote rfl
    | null => exact hnull rfl
    | natural _ _ => exact absurd hstarts (ne_true_of_eq_false hdigit)

end Json

open Json

/-! ## Names without quotes -/

/-- The value of a part is told apart from every other token by the first character of its name. A
quote in front of it thus opens the name and does not close a string. -/
theorem Field.not_begins_of_spelling {f : Field} {name : String} (hname : name ∈ f.variants)
    {u m r : List Char} (hu : Spelling u name.toList) (hr : Blanks r) {toks : List Token} :
    ¬ Begins (u ++ m) toks r := by
  have hall : ∀ name ∈ f.variants,
      (name.toList.head?.any fun c => decide (BeginsNoToken c)) = true := by
    cases f <;> decide
  have hfirst := hall name hname
  generalize name.toList = text at hu hfirst
  cases hu with
  | nil => cases hfirst
  | plain _ _ => exact (of_decide_eq_true hfirst).not_begins hr
  | escape _ _ =>
    have hbackslash : BeginsNoToken '\\' := by decide
    exact hbackslash.not_begins hr

/-- What is called by one of several names has no quote in it if none of them has. Names are few and
known, so for them this is decided. -/
theorem quoteFree_of_named {α : Type} {names : List (String × α)}
    (hfree : ∀ name ∈ names.map (·.1), '"' ∉ name.toList) {name : List Char} {a : α}
    (h : named? names name = some a) : '"' ∉ name := by
  rw [named?, Option.map_eq_some_iff] at h
  obtain ⟨entry, hfind, -⟩ := h
  have hcalled := List.find?_some hfind
  rw [← of_decide_eq_true hcalled]
  exact hfree entry.1 (List.mem_map_of_mem (List.mem_of_find?_eq_some hfind))

/-- A name of a value has no quote in it, as a string or as a key. -/
theorem NameTokens.quoteFree {α : Type} {names : List (String × α)}
    (hfree : ∀ name ∈ names.map (·.1), '"' ∉ name.toList) {toks : List Token} {a : α}
    (h : NameTokens names toks a) : QuoteFree toks := by
  rintro text hmem
  cases h with
  | string h | object h =>
    obtain rfl : _ = text := by simpa [eq_comm] using hmem
    exact quoteFree_of_named hfree h

/-- The values of the parts have no quotes in them, since none of the names has. -/
theorem ValueTokens.quoteFree {toks : List Token} {a : Assignment} (h : ValueTokens toks a) :
    QuoteFree toks := by
  cases h with
  | seedPolicy h => exact h.quoteFree (by decide)
  | backend h => exact h.quoteFree (by decide)
  | fixedSeed h =>
    rintro text hmem
    cases h <;> simp at hmem

/-- A member adds to its value the name of its part, which has no quote either. -/
theorem MemberTokens.quoteFree {toks : List Token} {a : Assignment} (h : MemberTokens toks a) :
    QuoteFree toks := by
  cases h with
  | mk hkey hvalue =>
    rintro text hmem
    simp only [List.mem_cons, Token.string.injEq, reduceCtorEq, false_or] at hmem
    rcases hmem with rfl | hmem
    · exact quoteFree_of_named (by decide) hkey
    · exact hvalue.quoteFree text hmem

/-- The strings of later items are those of their items. Commas and the closing mark have none. -/
theorem LaterItems.quoteFree {item : List Token → Assignment → Prop} {closing : Char}
    (hitem : ∀ {toks a}, item toks a → QuoteFree toks) {toks : List Token} {as : List Assignment}
    (h : LaterItems item closing toks as) : QuoteFree toks := by
  induction h with
  | close => simp [QuoteFree]
  | next h _ ih =>
    rintro text hmem
    simp only [List.mem_cons, List.mem_append, reduceCtorEq, false_or] at hmem
    rcases hmem with hmem | hmem
    · exact hitem h text hmem
    · exact ih text hmem

/-- The strings of an object or a list are those of its items. The induction over the later ones is
in `LaterItems.quoteFree`. -/
theorem Items.quoteFree {item : List Token → Assignment → Prop} {closing : Char}
    (hitem : ∀ {toks a}, item toks a → QuoteFree toks) {toks : List Token} {as : List Assignment}
    (h : Items item closing toks as) : QuoteFree toks := by
  cases h with
  | close => simp [QuoteFree]
  | first h hlater =>
    rintro text hmem
    rcases List.mem_append.1 hmem with hmem | hmem
    · exact hitem h text hmem
    · exact hlater.quoteFree hitem text hmem

/-- No string of a configuration has a quote in it. Every quote in its text is therefore one that
opens a string or closes one. -/
theorem ConfigTokens.quoteFree {toks : List Token} {as : List Assignment}
    (h : ConfigTokens toks as) : QuoteFree toks := by
  have hmark : ∀ {x : Char} {toks : List Token}, QuoteFree toks → QuoteFree (.mark x :: toks) := by
    intro x toks h text hmem
    exact h text (by simpa using hmem)
  cases h with
  | object h _ => exact hmark (h.quoteFree MemberTokens.quoteFree)
  | list h _ => exact hmark (h.quoteFree ValueTokens.quoteFree)

namespace Config

/-! ## Reports -/

/-- A beginning of a text that has come to the place of the name of a part: with one of the names in
quotes behind it, and a suitable rest, it is read to its end. -/
def AwaitsName (f : Field) (p : List Char) : Prop :=
  ∃ name ∈ f.variants, ∃ u r, Spelling u name.toList ∧ ReadToEnd (p ++ '"' :: (u ++ '"' :: r))

/-- A text that is read to its end means a configuration, whether or not this one lacks its seed. -/
theorem ReadToEnd.exists_denotes {t : List Char} (h : ReadToEnd t) : ∃ c, Denotes t c := by
  obtain ⟨haccepted, hlacks, -⟩ := ofJson_iff_denotes t
  rcases h with ⟨c, h⟩ | h
  · exact ⟨c, ((haccepted c).1 h).1⟩
  · obtain ⟨c, hdenotes, -⟩ := hlacks.1 h
    exact ⟨c, hdenotes⟩

/-- Such a beginning ends with a token, and a name of the part is the next one in some
configuration. It cannot end inside of a string: the name that goes on there would have to close it
and to go on with a token. -/
theorem AwaitsName.exists_tokens {f : Field} {p : List Char} (h : AwaitsName f p) :
    ∃ front name later as b, ConfigTokens (front ++ .string name.toList :: later) as ∧
      name ∈ f.variants ∧ Begins p front b ∧ Blanks b := by
  obtain ⟨name, hname, u, r, hu, hread⟩ := h
  obtain ⟨c, toks, as, rest, hbegins, hrest, htoks, -⟩ := hread.exists_denotes
  rcases hbegins.cut_at_quote hrest htoks.quoteFree rfl with
    ⟨front, text, later, b, w, n, rfl, hfront, hb, hw, heq⟩ | ⟨later, hclosed⟩
  · obtain rfl : name.toList = text := hu.text_unique hw heq
    exact ⟨front, name, later, as, b, htoks, hname, hfront, hb⟩
  -- The quote closes no string, as the name behind it would have to begin with a token.
  · exact absurd hclosed (Field.not_begins_of_spelling hname hu hrest)

/-- A text is reported for the cause for which its value fails. What is behind the value is not
looked at. -/
theorem Fails.report {t : List Char} {cause : Cause} (h : Fails value t cause) :
    ∃ place : Place, ofJson t = .error (.invalidConfiguration (cause.text ++ place.text)) := by
  obtain ⟨behind, hfail⟩ := h
  exact ⟨_, ofJson_eq_invalid.2 ⟨_, Local.bind_of_error hfail, rfl⟩⟩

/-- Where the name of a part is awaited, a string that is none is reported, with the names of the
part. -/
theorem AwaitsName.report {f : Field} {p u r : List Char} {v : String} (h : AwaitsName f p)
    (hu : Spelling u v.toList) (hv : v ∉ f.variants) :
    ∃ place : Place, ofJson (p ++ '"' :: (u ++ '"' :: r)) =
      .error (.invalidConfiguration
        ((Cause.unknownVariant v.toList f.variants).text ++ place.text)) := by
  obtain ⟨front, name, later, as, b, htoks, hname, hfront, hb⟩ := h.exists_tokens
  exact Fails.report (refuses_value ⟨as, htoks⟩ hname hv (hfront.with_string hb hu))

/-- A name between backticks, with the words around it. -/
theorem words_ticked (kind name known : String) :
    kind ++ ticked (String.ofList name.toList) ++ ", expected " ++ known =
      kind ++ "`" ++ name ++ ("`, expected " ++ known) := by
  have hclose : "`" ++ ", expected " = "`, expected " := by decide
  rw [ticked, String.ofList_toList, ← hclose]
  simp only [String.append_assoc]

/-- A fault of an object is the cause given, wherever it is placed. Where it is placed depends on
the byte that follows. -/
theorem failObject_eq_error {α : Type} (cause : Cause) (s : List UInt8) :
    ∃ behind, (failObject cause : Decoder α) s = .error ⟨cause, behind⟩ := by
  have hrun : (failObject cause : Decoder α) s =
      (if (s.dropWhile isBlank).head? = some (ascii '}') then advance >>= fun _ => failHere cause
        else failHere cause) (s.dropWhile isBlank) := rfl
  rw [hrun]
  split
  · exact ⟨_, rfl⟩
  · exact ⟨_, rfl⟩

/-- The first key of an object is reported if it names no part, before anything behind it is
read. -/
theorem unknown_key_report {k : String} (hk : k ∉ Field.names.map (·.1)) {t r : List Char}
    (h : Begins t [.mark '{', .string k.toList] r) :
    ∃ place : Place, ofJson t = .error (.invalidConfiguration
      ((Cause.unknownField k.toList (Field.names.map (·.1))).text ++ place.text)) := by
  obtain ⟨m, hbrace, hm⟩ := peek_mark (p := .value) h
  obtain ⟨s, n, hquote, hkey, -⟩ := peek_string (p := .object) hm
  have hmember : ∃ behind, member .nothing s =
      .error ⟨.unknownField k.toList (Field.names.map (·.1)), behind⟩ := by
    rw [member, Local.bind_of_ok hkey, named?_eq_none_iff.2 hk]
    exact failObject_eq_error _ _
  obtain ⟨behind, hmember⟩ := hmember
  have hmembers : members (Utf8.encode m) =
      .error ⟨.unknownField k.toList (Field.names.map (·.1)), behind⟩ := by
    rw [members, Local.bind_of_ok hquote, if_neg (by decide), if_pos rfl,
      Local.bind_of_ok (advance_cons _ s)]
    exact Local.bind_of_error hmember
  refine Fails.report ⟨behind, ?_⟩
  rw [value, Local.bind_of_ok hbrace, if_pos rfl, Local.bind_of_ok (advance_cons _ _)]
  exact Local.bind_of_error hmembers

/-- **Names that are not known are reported as they were meant,** in every spelling and before every
continuation of the text. A key behind the opening brace that names no part is reported as a field
that is not known, and where a text could go on with the name of a policy or of a backend, any other
string is reported as a variant that is not known. -/
theorem stray_names_reported :
    (∀ (blanks blanks' u r : List Char) (k : String), Blanks blanks → Blanks blanks' →
      Spelling u k.toList → k ∉ ["seed_policy", "fixed_seed", "backend"] →
      ∃ place : Place, ofJson (blanks ++ '{' :: (blanks' ++ '"' :: (u ++ '"' :: r))) =
        .error (.invalidConfiguration ("unknown field `" ++ k ++
          "`, expected one of `seed_policy`, `fixed_seed`, `backend`" ++ place.text))) ∧
    (∀ (p u r : List Char) (v : String), AwaitsName .seedPolicy p → Spelling u v.toList →
      v ∉ ["process_default", "time", "fixed", "entropy"] →
      ∃ place : Place, ofJson (p ++ '"' :: (u ++ '"' :: r)) =
        .error (.invalidConfiguration ("unknown variant `" ++ v ++
          "`, expected one of `process_default`, `time`, `fixed`, `entropy`" ++ place.text))) ∧
    (∀ (p u r : List Char) (v : String), AwaitsName .backend p → Spelling u v.toList →
      v ∉ ["std", "fast"] →
      ∃ place : Place, ofJson (p ++ '"' :: (u ++ '"' :: r)) =
        .error (.invalidConfiguration ("unknown variant `" ++ v ++
          "`, expected `std` or `fast`" ++ place.text))) := by
  have hfields : "`, expected " ++ oneOf (Field.names.map (·.1)) =
      "`, expected one of `seed_policy`, `fixed_seed`, `backend`" := by decide
  have hpolicies : "`, expected " ++ oneOf (Field.variants .seedPolicy) =
      "`, expected one of `process_default`, `time`, `fixed`, `entropy`" := by decide
  have hbackends : "`, expected " ++ oneOf (Field.variants .backend) =
      "`, expected `std` or `fast`" := by decide
  have hfield : "unknown field " ++ "`" = "unknown field `" := by decide
  have hvariant : "unknown variant " ++ "`" = "unknown variant `" := by decide
  refine ⟨fun blanks blanks' u r k hb hb' hu hk => ?_, fun p u r v hp hu hv => ?_,
    fun p u r v hp hu hv => ?_⟩
  · have hbegins : Begins (blanks ++ '{' :: (blanks' ++ '"' :: (u ++ '"' :: r)))
        [.mark '{', .string k.toList] r := by
      have hfront := Begins.cons hb (.mark (c := '{') (r := blanks') (by decide)) .nil
      simpa using hfront.with_string hb' hu
    have htext := words_ticked "unknown field " k (oneOf (Field.names.map (·.1)))
    rw [hfield, hfields] at htext
    exact htext ▸ unknown_key_report hk hbegins
  · have htext := words_ticked "unknown variant " v (oneOf (Field.variants .seedPolicy))
    rw [hvariant, hpolicies] at htext
    exact htext ▸ hp.report (r := r) hu hv
  · have htext := words_ticked "unknown variant " v (oneOf (Field.variants .backend))
    rw [hvariant, hbackends] at htext
    exact htext ▸ hp.report (r := r) hu hv

/-- A key spelled as a pair of units, with the text ending behind it, and a policy with one letter
escaped, with a bracket behind it that closes nothing. -/
theorem escaped_names_reported :
    let clef := ['\\', 'u', 'D', '8', '3', '4', '\\', 'u', 'd', 'd', '1', 'e']
    let time := ['T', '\\', 'u', '0', '0', '6', '9', 'm', 'e']
    let seedGiven := "\x7b\"fixed_seed\":7,\"seed_policy\": ".toList
    (∃ place : Place, ofJson ([' '] ++ '{' :: (['\n'] ++ '"' :: (clef ++ '"' :: []))) =
      .error (.invalidConfiguration ("unknown field `" ++ "𝄞" ++
        "`, expected one of `seed_policy`, `fixed_seed`, `backend`" ++ place.text))) ∧
    ∃ place : Place, ofJson (seedGiven ++ '"' :: (time ++ '"' :: [']'])) =
      .error (.invalidConfiguration ("unknown variant `" ++ "Time" ++
        "`, expected one of `process_default`, `time`, `fixed`, `entropy`" ++ place.text)) := by
  intro clef time seedGiven
  obtain ⟨hkey, hpolicy, -⟩ := stray_names_reported
  have hclef : Spelling clef "𝄞".toList := by
    have hhigh : HexUnit ['D', '8', '3', '4'] 0xD834 :=
      .mk (i := 13) (j := 8) (k := 3) (l := 4) rfl rfl rfl rfl
    have hlow : HexUnit ['d', 'd', '1', 'e'] 0xDD1E :=
      .mk (i := 13) (j := 13) (k := 1) (l := 14) rfl rfl rfl rfl
    have hchar : "𝄞".toList = [ofSurrogates 0xD834 0xDD1E] := by decide
    rw [hchar]
    exact .escape (.units (.pair hhigh hlow rfl rfl)) .nil
  have hplain : ∀ c ∈ ['T', 't', 'i', 'm', 'e'], StandsPlain c := by simp [StandsPlain]
  have htime : Spelling time "Time".toList := by
    have hletter : HexUnit ['0', '0', '6', '9'] 0x69 :=
      .mk (i := 0) (j := 0) (k := 6) (l := 9) rfl rfl rfl rfl
    have hchars : "Time".toList = ['T', Char.ofNat 0x69, 'm', 'e'] := by decide
    rw [hchars]
    exact .plain (hplain _ (by decide)) (.escape (.units (.unit hletter rfl rfl))
      (.plain (hplain _ (by decide)) (.plain (hplain _ (by decide)) .nil)))
  have hname : Spelling ['t', 'i', 'm', 'e'] "time".toList := by
    have hchars : "time".toList = ['t', 'i', 'm', 'e'] := by decide
    rw [hchars]
    exact .plain (hplain _ (by decide)) (.plain (hplain _ (by decide))
      (.plain (hplain _ (by decide)) (.plain (hplain _ (by decide)) .nil)))
  have hawaits : AwaitsName .seedPolicy seedGiven :=
    ⟨"time", by decide, ['t', 'i', 'm', 'e'], ['}'], hname,
      .inl ⟨⟨.time, some 7, .std⟩, by decide +kernel⟩⟩
  have hblanks : Blanks [' '] ∧ Blanks ['\n'] := by simp [Blanks, isBlankChar]
  exact ⟨hkey [' '] ['\n'] clef [] "𝄞" hblanks.1 hblanks.2 hclef (by decide),
    hpolicy seedGiven time [']'] "Time" hawaits htime (by decide)⟩

end Config

end DeviceReadings
