import DeviceReadings.Proofs.Config.Strictness

/-!
# Stray names

A policy or a backend is written as one of a few names (`Field.variants`). Take the tokens of a
configuration up to such a name, and a string in its place that is none of the names. On a text that
begins with these tokens the decoder fails because of this string, whatever follows it: it has read
what comes before as it reads it in the configuration, and looks no further than the closing quote
of the string.

`Refuses f d L` says so of a decoder and of the tokens that it reads. It is closed under reading in
a row (`Refuses.bind`), and is taken from the single name up to a whole configuration
(`refuses_value`).
-/

namespace DeviceReadings

open Json

/-- The names that the value of a part can have. -/
def Field.variants : Field → List String
  | .seedPolicy => PolicyKind.names.map (·.1)
  | .fixedSeed => []
  | .backend => Backend.names.map (·.1)

/-- A name belongs to one part, so a name that is awaited says which part is. The names are compared
one by one. -/
theorem Field.eq_of_mem_variants {f f' : Field} {name : String} (h : name ∈ f.variants)
    (h' : name ∈ f'.variants) : f = f' := by
  have hall : ∀ name ∈ f.variants, name ∈ f'.variants → f = f' := by
    cases f <;> cases f' <;> decide
  exact hall name h h'

/-- The name of a value is not the name of a part. A string that is a value is thus never taken for
a key. -/
theorem Field.named?_of_mem_variants {f : Field} {name : String} (h : name ∈ f.variants) :
    named? Field.names name.toList = none := by
  have hall : ∀ name ∈ f.variants, named? Field.names name.toList = none := by
    cases f <;> decide
  exact hall name h

/-- A name stands for nothing just if it is not among the names. -/
theorem named?_eq_none_iff {α : Type} {names : List (String × α)} {name : String} :
    named? names name.toList = none ↔ name ∉ names.map (·.1) := by
  simp only [named?, Option.map_eq_none_iff, List.find?_eq_none, decide_eq_true_eq,
    String.toList_inj, List.mem_map, not_exists, not_and]

/-- A place in two lists in a row is in the first one or in the second one. Cut at a token, the
tokens of a value and of what follows it come apart in these two ways. -/
theorem append_eq_append_cons {α : Type} {u v w later : List α} {x : α}
    (h : u ++ v = w ++ x :: later) :
    (∃ w', w = u ++ w' ∧ v = w' ++ x :: later) ∨ ∃ w', u = w ++ x :: w' ∧ later = w' ++ v := by
  rcases List.append_eq_append_iff.1 h with ⟨w', hw, hv⟩ | ⟨w', hu, hlater⟩
  · exact .inl ⟨w', hw, hv⟩
  · cases w' with
    | nil => exact .inl ⟨[], by simpa using hu.symm, hlater.symm⟩
    | cons y w' =>
      obtain ⟨rfl, rfl⟩ := List.cons.inj hlater
      exact .inr ⟨w', hu, rfl⟩

namespace Config

variable {α β : Type} {f : Field} {d : Decoder α} {t r : List Char}

/-! ## Failing for a cause -/

/-- On the bytes of a text a decoder fails for a cause. -/
def Fails (d : Decoder α) (t : List Char) (cause : Cause) : Prop :=
  ∃ behind, d (Utf8.encode t) = .error ⟨cause, behind⟩

/-- What follows a decoder that fails has no part in it. This is why the text behind a stray name
may be anything. -/
theorem Fails.bind {cause : Cause} (h : Fails d t cause) (k : α → Decoder β) :
    Fails (d >>= k) t cause := by
  obtain ⟨behind, h⟩ := h
  exact ⟨behind, Local.bind_of_error h⟩

/-- Behind what is read a decoder fails where the next one does, for the same cause. -/
theorem Fails.behind {cause : Cause} {a : α} {m : List Char} {k : α → Decoder β}
    (hd : d (Utf8.encode t) = .ok (a, Utf8.encode m)) (h : Fails (k a) m cause) :
    Fails (d >>= k) t cause := by
  obtain ⟨behind, h⟩ := h
  exact ⟨behind, (Local.bind_of_ok hd).trans h⟩

/-- Tokens with the name of a value somewhere among them are read by a decoder. Where they stand up
to the name, and a string that is no such name in its place, it fails for that string. -/
def Refuses (f : Field) (d : Decoder α) (L : List Token → Prop) : Prop :=
  ∀ ⦃toks later : List Token⦄ ⦃name v : String⦄ ⦃t r : List Char⦄,
    L (toks ++ .string name.toList :: later) → name ∈ f.variants → v ∉ f.variants →
    Begins t (toks ++ [.string v.toList]) r → Fails d t (.unknownVariant v.toList f.variants)

namespace Refuses

variable {L L' : List Token → Prop}

/-- Only tokens with a string among them matter, since it is a string that is replaced by a name
that is not known. -/
theorem mono (h : Refuses f d L') (himp : ∀ toks name, .string name ∈ toks → L toks → L' toks) :
    Refuses f d L := by
  intro toks later name v t r hL
  exact h (himp _ _ (List.mem_append_right toks List.mem_cons_self) hL)

/-- Where no names are read there is nothing to refuse. A colon and a seed are such cases. -/
theorem none (h : ∀ toks name, .string name ∈ toks → ¬ L toks) : Refuses f d L := by
  intro toks later name v t r hL
  exact absurd hL (h _ _ (List.mem_append_right toks List.mem_cons_self))

/-- What follows a decoder has no part in what it refuses, since a decoder that fails ends the whole
(`Fails.bind`). -/
theorem followed (h : Refuses f d L) (k : α → Decoder β) : Refuses f (d >>= k) L :=
  fun _ _ _ _ _ _ hL hname hv hbegins => (h hL hname hv hbegins).bind k

/-- A choice of what is read is refused in both cases. -/
theorem or (h : Refuses f d L) (h' : Refuses f d L') :
    Refuses f d fun toks => L toks ∨ L' toks := by
  intro toks later name v t r hL
  rcases hL with hL | hL
  · exact h hL
  · exact h' hL

/-- Two decoders in a row: the name is read by the first one, or by the second one behind what the
first one reads. -/
theorem bind {L : List Token → α → Prop} {M : α → List Token → Prop} {k : α → Decoder β}
    (h : Refuses f d fun toks => ∃ a, L toks a) (hd : Reads .tokens d L)
    (hk : ∀ a, Refuses f (k a) (M a)) :
    Refuses f (d >>= k) fun w => ∃ u v a, w = u ++ v ∧ L u a ∧ M a v := by
  rintro toks later name x t r ⟨u, v, a, heq, hL, hM⟩ hname hx hbegins
  rcases append_eq_append_cons heq.symm with ⟨w, rfl, rfl⟩ | ⟨w, rfl, -⟩
  · rw [List.append_assoc] at hbegins
    obtain ⟨m, hu, hw⟩ := begins_append_iff.1 hbegins
    exact .behind ((hd t a _).2 ⟨u, m, hu, hL, rfl⟩) (hk a hM hname hx hw)
  · exact (h ⟨a, hL⟩ hname hx hbegins).bind k

end Refuses

/-! ## The next token -/

variable {p : Part}

/-- To advance is to leave one byte behind. -/
theorem advance_cons (b : UInt8) (s : List UInt8) : advance (b :: s) = .ok ((), s) := rfl

/-- Where a string comes next its opening quote is seen, and behind it the string is read. Nothing
has been taken from the text but the blanks in front of it. -/
theorem peek_string {v : List Char} {toks : List Token} (h : Begins t (.string v :: toks) r) :
    ∃ s m, peekToken p (Utf8.encode t) = .ok (ascii '"', ascii '"' :: s) ∧
      stringLiteral s = .ok (v, Utf8.encode m) ∧ Begins m toks r := by
  obtain ⟨u, m, ht, hu, hm⟩ := begins_cons_iff.1 h
  cases hu with
  | @string w _ _ hw =>
    refine ⟨Utf8.encode (w ++ ['"'] ++ m), m, ?_, ?_, hm⟩
    · rw [← encode_cons_ascii (by decide)]
      have hlead : ascii '"' = lead '"' := ((lead_eq_iff (by decide)).2 rfl).symm
      exact peekToken_eq_ok.2 ⟨'"', w ++ ['"'] ++ m, ht, hlead, rfl⟩
    · exact (reads_stringLiteral _ v _).2 ⟨w ++ ['"'], m, rfl, ⟨w, rfl, hw⟩, rfl⟩

/-- Where a mark comes next it is seen, with the text behind it. -/
theorem peek_mark {x : Char} {toks : List Token} (h : Begins t (.mark x :: toks) r) :
    ∃ m, peekToken p (Utf8.encode t) = .ok (ascii x, ascii x :: Utf8.encode m) ∧
      Begins m toks r := by
  obtain ⟨u, m, ht, hu, hm⟩ := begins_cons_iff.1 h
  cases hu with
  | mark hx =>
    have hlow := (low_of_mark hx).1
    refine ⟨m, ?_, hm⟩
    rw [← encode_cons_ascii hlow]
    exact peekToken_eq_ok.2 ⟨x, m, ht, ((lead_eq_iff hlow).2 rfl).symm, rfl⟩

/-- Where an element comes next no closing bracket is seen, so a list goes on with it. Of the
element only the first byte has been looked at. -/
theorem peek_element {toks : List Token} (h : Begins t toks r) (hopen : OpensElement toks) :
    ∃ b m, peekToken p (Utf8.encode t) = .ok (b, Utf8.encode m) ∧ b ≠ ascii ']' ∧
      Begins m toks r := by
  obtain ⟨tok, rest, rfl, hnot⟩ := hopen
  obtain ⟨u, m, ht, hu, hm⟩ := begins_cons_iff.1 h
  obtain ⟨c, w, rfl, hstarts, hc⟩ := hu.front
  refine ⟨lead c, c :: (w ++ m), peekToken_eq_ok.2 ⟨c, w ++ m, ht, rfl, rfl⟩, ?_, ?_⟩
  · rw [Ne, lead_eq_iff (by decide)]
    rintro rfl
    exact hnot hstarts
  · refine begins_cons_iff.2 ⟨c :: w, m, ?_, hu, hm⟩
    exact List.dropWhile_cons_of_neg (ne_true_of_eq_false hc)

/-! ## Values -/

section

variable {names : List (String × α)} {v : String}

/-- Behind its opening quote a name that is not known is refused, with the names that would have
been. -/
theorem knownName_of_unknown (hf : f.variants = names.map (·.1)) (hv : v ∉ f.variants)
    {s : List UInt8} {m : List Char} (h : stringLiteral s = .ok (v.toList, Utf8.encode m)) :
    ∃ behind, knownName names s = .error ⟨.unknownVariant v.toList f.variants, behind⟩ := by
  have hnone : named? names v.toList = none := named?_eq_none_iff.2 (hf ▸ hv)
  refine ⟨(Utf8.encode m).length, ?_⟩
  rw [knownName, Local.bind_of_ok h, hnone, hf]
  rfl

/-- **Where one of several names is read, a string that is none of them is refused,** whether it
stands for itself or is the only key of an object. -/
theorem refuses_oneOfNames (hf : f.variants = names.map (·.1)) :
    Refuses f (oneOfNames names) fun toks => ∃ a, NameTokens names toks a := by
  rintro toks later name v t r ⟨a, h⟩ - hv hbegins
  generalize hall : toks ++ .string name.toList :: later = all at h
  cases h with
  | string _ =>
    obtain ⟨rfl, -⟩ : toks = [] ∧ _ := by simpa [List.append_eq_cons_iff] using hall
    obtain ⟨s, m, hpeek, hstring, -⟩ := peek_string hbegins
    obtain ⟨behind, hfail⟩ := knownName_of_unknown hf hv hstring
    exact ⟨behind, (Local.bind_of_ok hpeek).trans hfail⟩
  | object _ =>
    obtain ⟨rfl, -⟩ : toks = [.mark '{'] ∧ _ := by
      simpa [List.append_eq_cons_iff, List.cons_eq_append_iff] using hall
    obtain ⟨m, hbrace, hm⟩ := peek_mark hbegins
    obtain ⟨s, m', hpeek, hstring, -⟩ := peek_string hm
    obtain ⟨behind, hfail⟩ := knownName_of_unknown hf hv hstring
    have hkey : soleKey names (Utf8.encode m) =
        .error ⟨.unknownVariant v.toList f.variants, behind⟩ := by
      rw [soleKey, Local.bind_of_ok hpeek, if_pos rfl, Local.bind_of_ok (advance_cons _ s)]
      exact Local.bind_of_error hfail
    exact ⟨behind, (Local.bind_of_ok hbrace).trans hkey⟩

end

/-- The names of a value are names of its part. A seed has none, and the two others have the names
that they are read by. -/
theorem mem_variants_of_value {toks : List Token} {a : Assignment} (h : ValueTokens toks a)
    {name : String} (hname : .string name.toList ∈ toks) : name ∈ a.field.variants := by
  have hnamed : ∀ {α : Type} {names : List (String × α)} {toks : List Token} {a : α},
      NameTokens names toks a → .string name.toList ∈ toks → name ∈ names.map (·.1) := by
    intro α names toks a h hmem
    by_contra hnone
    have hunknown := named?_eq_none_iff.2 hnone
    cases h with
    | string h | object h =>
      simp only [List.mem_cons, Token.string.injEq, List.not_mem_nil, reduceCtorEq, or_false,
        false_or] at hmem
      rw [hmem, h] at hunknown
      cases hunknown
  cases h with
  | seedPolicy h => exact hnamed h hname
  | fixedSeed h => cases h <;> simp at hname
  | backend h => exact hnamed h hname

/-- What is read for a part refuses the names that are not known of this part. For the other parts
there is nothing to show, since their names are not of this part. -/
theorem refuses_given (g : Given) (f' : Field) :
    Refuses f (g.read f') fun toks =>
      ∃ g' a, ValueTokens toks a ∧ a.field = f' ∧ g' = g.assign a := by
  rintro toks later name v t r ⟨_, a, h, rfl, -⟩ hname hv hbegins
  have hpart : f = a.field := Field.eq_of_mem_variants hname
    (mem_variants_of_value h (List.mem_append_right toks List.mem_cons_self))
  cases h with
  | seedPolicy h =>
    obtain rfl : f = .seedPolicy := hpart
    exact (refuses_oneOfNames rfl ⟨_, h⟩ hname hv hbegins).bind _
  | fixedSeed _ =>
    obtain rfl : f = .fixedSeed := hpart
    cases hname
  | backend h =>
    obtain rfl : f = .backend := hpart
    exact (refuses_oneOfNames rfl ⟨_, h⟩ hname hv hbegins).bind _

/-! ## Members -/

/-- Behind its opening quote a member is refused if its value is. The key in front of it is a string
too, but the name of a part is no name of a value. -/
theorem refuses_member {p : Part} {k : UInt8 → Decoder β} {j : Given → Decoder β} {g : Given}
    {M : Given → List Token → Prop}
    (hquote : k (ascii '"') = advance >>= fun _ => member g >>= j)
    (hk : ∀ g', Refuses f (j g') (M g')) :
    Refuses f (peekToken p >>= k) fun w =>
      ∃ u v a, w = u ++ v ∧ MemberTokens u a ∧ g.has a.field = false ∧ M (g.assign a) v := by
  rintro toks later name x t r ⟨_, v, a, heq, @⟨key, value, _, hkey, hvalue⟩, hnew, hM⟩ hname hx
    hbegins
  have hlost : .string name.toList ≠ Token.string key := by
    rintro ⟨⟩
    rw [Field.named?_of_mem_variants hname] at hkey
    cases hkey
  -- The name stands behind the key and its colon.
  obtain ⟨toks, rfl, hplace⟩ : ∃ toks', toks = .string key :: .mark ':' :: toks' ∧
      toks' ++ .string name.toList :: later = value ++ v := by
    rcases toks with _ | ⟨tok, _ | ⟨tok', toks⟩⟩
    · exact absurd (List.cons.inj heq).1 hlost
    · cases (List.cons.inj (List.cons.inj heq).2).1
    · simp only [List.cons_append, List.cons.injEq] at heq
      exact ⟨toks, by rw [heq.1, heq.2.1], heq.2.2⟩
  obtain ⟨s, m, hpeek, hstring, hm⟩ := peek_string hbegins
  obtain ⟨m', hcolon, hm'⟩ := begins_append_iff.1
    (show Begins m ([.mark ':'] ++ (toks ++ [.string x.toList])) r from hm)
  have hmember : member g s = (g.read a.field) (Utf8.encode m') := by
    rw [member, Local.bind_of_ok hstring, hkey]
    dsimp only
    rw [if_neg (ne_true_of_eq_false hnew)]
    exact Local.bind_of_ok ((reads_colon m () _).2 ⟨_, m', hcolon, rfl, rfl⟩)
  have hrun : (peekToken p >>= k) (Utf8.encode t) =
      (g.read a.field >>= j) (Utf8.encode m') := by
    rw [Local.bind_of_ok hpeek, hquote]
    show (member g s >>= fun q => j q.1 q.2) = _
    rw [hmember]
    rfl
  have hvalues := (refuses_given (f := f) g a.field).bind (reads_given g a.field) hk
  obtain ⟨behind, hfail⟩ :=
    hvalues ⟨value, v, g.assign a, hplace, ⟨a, hvalue, rfl, rfl⟩, hM⟩ hname hx hm'
  exact ⟨behind, hrun.trans hfail⟩

/-- What stands behind a mark is refused by what reads it there. -/
theorem refuses_mark {p : Part} {x : Char} {k : UInt8 → Decoder α} {L : List Token → Prop}
    (hmark : k (ascii x) = advance >>= fun _ => d) (h : Refuses f d L) :
    Refuses f (peekToken p >>= k) fun toks => ∃ rest, toks = .mark x :: rest ∧ L rest := by
  rintro toks later name v t r ⟨rest, heq, hL⟩ hname hv hbegins
  cases toks with
  | nil => cases (List.cons.inj heq).1
  | cons tok toks =>
    obtain ⟨rfl, rfl⟩ := List.cons.inj heq
    obtain ⟨m, hpeek, hm⟩ := peek_mark hbegins
    obtain ⟨behind, hfail⟩ := h hL hname hv hm
    refine ⟨behind, ?_⟩
    rw [Local.bind_of_ok hpeek, hmark, Local.bind_of_ok (advance_cons _ _), hfail]

/-- The members behind the first one, with as much fuel as they need. -/
def membersBehind (g : Given) : Decoder Given := do
  laterMembers ((← get).length + 1) g

/-- The members behind one are the next one and those behind it. Fuel that is counted anew for every
member is enough as it was before. -/
theorem membersBehind_eq (g : Given) :
    membersBehind g = laterMember g >>= fun next =>
      match next with
      | none => pure g
      | some g' => membersBehind g' := by
  funext s
  show laterMembers (s.length + 1) g s = _
  rw [laterMembers_succ]
  refine bind_congr_of_ok fun next m hnext => ?_
  cases next with
  | none => rfl
  | some g' => exact laterMembers_fuel g' (laterMember_shrinks hnext) (Nat.lt_succ_self _)

/-- Behind a comma a member is refused if its value is. A closing brace has no name in it. -/
theorem refuses_laterMember (g : Given) :
    Refuses f (laterMember g) fun toks => ∃ next,
      toks = [.mark '}'] ∧ next = none ∨
        ∃ rest a, toks = .mark ',' :: rest ∧ MemberTokens rest a ∧ g.has a.field = false ∧
          next = some (g.assign a) := by
  have hahead := refuses_member (f := f) (p := .value) (g := g)
    (k := fun b =>
      if b = ascii '"' then do
        advance
        return some (← member g)
      else if b = ascii '}' then failNext .trailingComma
      else failNext .keyNotString)
    (j := fun g' => pure (some g')) (M := fun _ toks => toks = []) rfl
    fun g' => .none fun toks name hname h => by
      rw [h] at hname
      cases hname
  refine (refuses_mark (p := .object) (x := ',') rfl hahead).mono ?_
  rintro toks name hname ⟨next, ⟨rfl, -⟩ | ⟨rest, a, rfl, hmember, hnew, -⟩⟩
  · simp at hname
  · exact ⟨rest, rfl, rest, [], a, (List.append_nil rest).symm, hmember, hnew, rfl⟩

/-- The members behind the first one are refused one by one, by induction on the assignments: the
name is in the next member, or in one of those behind it. -/
theorem refuses_membersBehind (as : List Assignment) (g : Given) :
    Refuses f (membersBehind g) fun toks =>
      LaterItems MemberTokens '}' toks as ∧ g.Admits as := by
  induction as generalizing g with
  | nil =>
    refine .none fun toks name hname h => ?_
    cases h.1
    simp at hname
  | cons a as ih =>
    rw [membersBehind_eq]
    refine ((refuses_laterMember g).bind (reads_laterMember g) (M := fun next toks =>
      match next with
      | none => False
      | some g' => LaterItems MemberTokens '}' toks as ∧ g'.Admits as) fun next => ?_).mono ?_
    · cases next with
      | none => exact .none fun _ _ _ h => h
      | some g' => exact ih g'
    · rintro toks name - ⟨h, hadmits⟩
      obtain ⟨hnew, hlater⟩ := Given.admits_cons.1 hadmits
      cases h with
      | @next u v _ _ hmember hrest =>
        exact ⟨.mark ',' :: u, v, some (g.assign a), rfl, .inr ⟨u, a, rfl, hmember, hnew, rfl⟩,
          hrest, hlater⟩

/-- In an object the name may be in any member, with any members of other parts before it. -/
theorem refuses_members :
    Refuses f members fun toks =>
      ∃ as, Items MemberTokens '}' toks as ∧ (as.map Assignment.field).Nodup := by
  have hfirst := refuses_member (f := f) (p := .object) (g := .nothing) (j := membersBehind)
    (k := fun b =>
      if b = ascii '}' then do
        advance
        pure .nothing
      else if b = ascii '"' then do
        advance
        let g ← member .nothing
        laterMembers ((← get).length + 1) g
      else failNext .keyNotString)
    (M := fun g toks => ∃ as, LaterItems MemberTokens '}' toks as ∧ g.Admits as) rfl
    fun g' => by
      rintro toks later name v t r ⟨as, h⟩
      exact refuses_membersBehind as g' h
  refine hfirst.mono ?_
  rintro toks name hname ⟨as, h, hdistinct⟩
  cases h with
  | close => simp at hname
  | first hmember hlater =>
    obtain ⟨hnew, hadmits⟩ := Given.admits_cons.1 (Given.admits_nothing.2 hdistinct)
    exact ⟨_, _, _, rfl, hmember, hnew, _, hlater, hadmits⟩

/-! ## Elements -/

/-- A comma and an element behind it announce the element. -/
theorem laterElement_of_element {toks : List Token} (h : Begins t (.mark ',' :: toks) r)
    (hopen : OpensElement toks) :
    ∃ m, laterElement (Utf8.encode t) = .ok (true, Utf8.encode m) ∧ Begins m toks r := by
  obtain ⟨m, hpeek, hm⟩ := peek_mark h
  obtain ⟨b, m', hnext, hb, hm'⟩ := peek_element hm hopen
  refine ⟨m', ?_, hm'⟩
  rw [laterElement, Local.bind_of_ok hpeek, if_neg (by decide), if_pos rfl,
    Local.bind_of_ok (advance_cons _ _), Local.bind_of_ok hnext, if_neg hb]
  rfl

/-- An element behind the opening bracket is announced as one. -/
theorem firstElement_of_element {toks : List Token} (h : Begins t toks r)
    (hopen : OpensElement toks) :
    ∃ m, firstElement (Utf8.encode t) = .ok (true, Utf8.encode m) ∧ Begins m toks r := by
  obtain ⟨b, m, hpeek, hb, hm⟩ := peek_element h hopen
  refine ⟨m, ?_, hm⟩
  rw [firstElement, Local.bind_of_ok hpeek, if_neg hb]
  rfl

/-- The tokens of an element open it, also when they are cut off at a string. The text is known to
be one of the grammar only up to there. -/
theorem ElementsFrom.opensElement_cut {fs : List Field} {g g' : Given} {toks later : List Token}
    {name v : List Char} (h : ElementsFrom fs g (toks ++ .string name :: later) g') :
    OpensElement (toks ++ [.string v]) := by
  cases toks with
  | nil => exact ⟨_, _, rfl, nofun⟩
  | cons tok toks => exact ⟨tok, _, rfl, h.opensElement.not_starts⟩

/-- An element and those behind it are refused, if those behind it are. This is the step of the
induction on the parts. -/
theorem refuses_elementsFrom {f' : Field} {fs : List Field}
    (h : ∀ g, Refuses f (laterElements fs g) fun toks => ∃ g', ElementsBehind fs g toks g')
    (g : Given) :
    Refuses f (g.read f' >>= laterElements fs) fun toks =>
      ∃ g', ElementsFrom (f' :: fs) g toks g' := by
  refine ((refuses_given g f').bind (reads_given g f') h).mono ?_
  rintro toks name - ⟨_, u, v, a, as, rfl, ha, hlater, horder, rfl⟩
  obtain ⟨hfield, horder⟩ := List.cons_prefix_cons.1 horder
  exact ⟨u, v, g.assign a, rfl, ⟨a, ha, hfield, rfl⟩, _, as, hlater, horder, rfl⟩

/-- The elements behind one are refused, by induction on the parts that are still to come. -/
theorem refuses_laterElements (fs : List Field) (g : Given) :
    Refuses f (laterElements fs g) fun toks => ∃ g', ElementsBehind fs g toks g' := by
  induction fs generalizing g with
  | nil =>
    refine .none ?_
    rintro toks name hname ⟨_, as, h, horder, -⟩
    obtain rfl := List.map_eq_nil_iff.1 (List.prefix_nil.1 horder)
    cases h
    simp at hname
  | cons f' fs ih =>
    rintro toks later name v t r ⟨_, as, h, horder, rfl⟩ hname hv hbegins
    generalize hall : toks ++ .string name.toList :: later = all at h
    cases h with
    | close => simp [List.append_eq_cons_iff] at hall
    | @next u w a as ha hrest =>
      cases toks with
      | nil => cases (List.cons.inj hall).1
      | cons tok toks =>
        obtain ⟨rfl, hplace⟩ := List.cons.inj hall
        have hfrom : ElementsFrom (f' :: fs) g (toks ++ .string name.toList :: later) _ :=
          ⟨u, w, a, as, hplace, ha, hrest, horder, rfl⟩
        obtain ⟨m, hmore, hm⟩ := laterElement_of_element hbegins hfrom.opensElement_cut
        exact .behind hmore (refuses_elementsFrom ih g ⟨_, hfrom⟩ hname hv hm)

/-- In a list the name may be in the element of any part, with the elements of the parts before it
in front. -/
theorem refuses_elements :
    Refuses f elements fun toks =>
      ∃ as, Items ValueTokens ']' toks as ∧
        as.map Assignment.field <+: [.seedPolicy, .fixedSeed, .backend] := by
  rintro toks later name v t r ⟨as, h, horder⟩ hname hv hbegins
  generalize hall : toks ++ .string name.toList :: later = all at h
  cases h with
  | close => simp [List.append_eq_cons_iff] at hall
  | @first u w a as ha hrest =>
    have hfrom : ElementsFrom [.seedPolicy, .fixedSeed, .backend] .nothing
        (toks ++ .string name.toList :: later) _ :=
      ⟨u, w, a, as, hall, ha, hrest, horder, rfl⟩
    obtain ⟨m, hmore, hm⟩ := firstElement_of_element hbegins hfrom.opensElement_cut
    rw [elements_eq]
    exact .behind hmore
      (refuses_elementsFrom (refuses_laterElements _) .nothing ⟨_, hfrom⟩ hname hv hm)

/-! ## Whole texts -/

/-- **A name that is not known is refused in a whole configuration.** Wherever the name of a part
could stand behind a beginning of a configuration, any other string there is the fault that is
reported, and what comes behind it has no part in it. -/
theorem refuses_value : Refuses f value fun toks => ∃ as, ConfigTokens toks as := by
  have hmembers := Refuses.followed (refuses_members (f := f)) fun g => pure g.config
  have helements := Refuses.followed (refuses_elements (f := f)) fun g => pure g.config
  have hobject : Refuses f value fun toks => ∃ rest, toks = .mark '{' :: rest ∧ _ :=
    refuses_mark rfl hmembers
  have hlist : Refuses f value fun toks => ∃ rest, toks = .mark '[' :: rest ∧ _ :=
    refuses_mark rfl helements
  refine (hobject.or hlist).mono ?_
  rintro toks name - ⟨as, ⟨h, hdistinct⟩ | ⟨h, horder⟩⟩
  · exact .inl ⟨_, rfl, as, h, hdistinct⟩
  · exact .inr ⟨_, rfl, as, h, horder⟩

end Config

end DeviceReadings
