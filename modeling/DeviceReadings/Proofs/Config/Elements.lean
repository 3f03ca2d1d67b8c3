import DeviceReadings.Proofs.Config.Members

/-!
# Lists

What is read as the elements of a list: values of the parts in their order, as many as there are,
up to a closing bracket (`reads_elements`). The decoder is the same for every part, which
`laterElements` says once for a list of parts (`elements_eq`), so that what it reads is settled by
induction on the parts that are still to come.
-/

namespace DeviceReadings

open Json

variable {α : Type}

/-! ## Beginnings of elements -/

/-- Tokens that do not begin like the end of a list. -/
def OpensElement (toks : List Token) : Prop :=
  ∃ tok rest, toks = tok :: rest ∧ ¬ tok.Starts ']'

/-- Where nothing is left there is no element to begin. -/
theorem not_opensElement_nil : ¬ OpensElement [] := by
  rintro ⟨_, _, heq, -⟩
  cases heq

/-- What begins an element is not the closing bracket, so a reader that looks for the bracket first
does not end the list too early. -/
theorem OpensElement.not_starts {tok : Token} {toks : List Token} (h : OpensElement (tok :: toks)) :
    ¬ tok.Starts ']' := by
  obtain ⟨_, _, heq, hnot⟩ := h
  obtain ⟨rfl, -⟩ := List.cons.inj heq
  exact hnot

/-- Whether an element begins is decided by its first token alone. So a reader can tell before it
knows the rest. -/
theorem OpensElement.append {toks : List Token} (h : OpensElement toks) (rest : List Token) :
    OpensElement (toks ++ rest) := by
  obtain ⟨tok, toks, rfl, hnot⟩ := h
  exact ⟨tok, toks ++ rest, rfl, hnot⟩

/-- A name begins with a quote or with an opening brace. -/
theorem NameTokens.opensElement {names : List (String × α)} {toks : List Token} {a : α}
    (h : NameTokens names toks a) : OpensElement toks := by
  cases h with
  | string _ => exact ⟨_, _, rfl, nofun⟩
  | object _ => exact ⟨_, _, rfl, nofun⟩

/-- A seed begins with its `null` or its first digit. -/
theorem SeedTokens.opensElement {toks : List Token} {seed : Option UInt64}
    (h : SeedTokens toks seed) : OpensElement toks := by
  cases h with
  | null => exact ⟨_, _, rfl, nofun⟩
  | natural _ => exact ⟨_, _, rfl, nofun⟩

/-- No value begins like the end of a list. The values of all three parts may thus stand as
elements. -/
theorem ValueTokens.opensElement {toks : List Token} {a : Assignment} (h : ValueTokens toks a) :
    OpensElement toks := by
  cases h with
  | seedPolicy h => exact h.opensElement
  | fixedSeed h => exact h.opensElement
  | backend h => exact h.opensElement

namespace Config

/-! ## Does an element follow? -/

variable {k : Bool → Decoder α} {L₀ L₁ : List Token → α → Prop}

/-- What is left for a list is its closing bracket or an element. The element is left whole for the
reader of it: only its first byte has been looked at. -/
theorem reads_firstElement (h₀ : Reads .tokens (k false) L₀) (h₁ : Reads .tokens (k true) L₁)
    (hopen : ∀ toks a, L₁ toks a → OpensElement toks) :
    Reads .tokens (firstElement >>= k) fun toks a =>
      (∃ rest, toks = .mark ']' :: rest ∧ L₀ rest a) ∨ L₁ toks a := by
  have hstart : ∀ a, ¬ L₁ [] a := fun a h => not_opensElement_nil (hopen [] a h)
  have hpeek : firstElement >>= k = peekToken .list >>= fun b =>
      if b = ascii ']' then advance >>= fun _ => k false else k true := by
    rw [firstElement, bind_assoc]
    refine bind_congr fun b => ?_
    split
    · rw [bind_assoc]
      rfl
    · rfl
  rw [hpeek]
  refine reads_of_peek ?_ fun c hc => .ite (by decide) (fun _ => ?_) fun hbracket => ?_
  · rintro a (⟨_, heq, -⟩ | h)
    · cases heq
    · exact hstart a h
  · refine (readsFront_mark (by decide) h₀).congr fun tok toks a hstarts => ?_
    exact (or_iff_left fun h => (hopen _ a h).not_starts hstarts).symm
  · refine (h₁.front hc hstart).congr fun tok toks a hstarts => ?_
    refine (or_iff_right ?_).symm
    rintro ⟨_, heq, -⟩
    obtain ⟨rfl, -⟩ := List.cons.inj heq
    exact hbracket hstarts

/-- Behind a comma an element has to follow. A closing bracket there is a comma too many, and this
is where the two languages of a list part. -/
theorem reads_elementAhead (h₁ : Reads .tokens (k true) L₁)
    (hopen : ∀ toks a, L₁ toks a → OpensElement toks) :
    Reads .tokens
      (peekToken .value >>= fun b =>
        if b = ascii ']' then failNext .trailingComma else k true)
      L₁ := by
  have hstart : ∀ a, ¬ L₁ [] a := fun a h => not_opensElement_nil (hopen [] a h)
  refine reads_of_peek hstart fun c hc => .ite (by decide) (fun _ => ?_)
    fun _ => h₁.front hc hstart
  exact .fail (failNext_ne_ok _) fun tok toks a hstarts h => (hopen _ a h).not_starts hstarts

/-- What follows an element is the closing bracket, or a comma and one more element. It is
`reads_firstElement` with a comma in front. -/
theorem reads_laterElement (h₀ : Reads .tokens (k false) L₀) (h₁ : Reads .tokens (k true) L₁)
    (hopen : ∀ toks a, L₁ toks a → OpensElement toks) :
    Reads .tokens (laterElement >>= k) fun toks a =>
      (∃ rest, toks = .mark ']' :: rest ∧ L₀ rest a) ∨
        ∃ rest, toks = .mark ',' :: rest ∧ L₁ rest a := by
  have hpeek : laterElement >>= k = peekToken .list >>= fun b =>
      if b = ascii ']' then advance >>= fun _ => k false
      else if b = ascii ',' then
        advance >>= fun _ => peekToken .value >>= fun b =>
          if b = ascii ']' then failNext .trailingComma else k true
      else failNext .expectedCommaOrBracket := by
    rw [laterElement, bind_assoc]
    refine bind_congr fun b => ?_
    split
    · rw [bind_assoc]
      rfl
    · split
      · rw [bind_assoc]
        refine bind_congr fun _ => ?_
        rw [bind_assoc]
        refine bind_congr fun b' => ?_
        split <;> rfl
      · rfl
  rw [hpeek]
  refine reads_of_peek ?_ fun c hc => .ite (by decide) (fun _ => ?_)
    fun hbracket => .ite (by decide) (fun _ => ?_) fun hcomma => ?_
  · rintro a (⟨_, heq, -⟩ | ⟨_, heq, -⟩) <;> cases heq
  · refine (readsFront_mark (by decide) h₀).congr fun tok toks a hstarts => ?_
    refine (or_iff_left ?_).symm
    rintro ⟨_, heq, -⟩
    obtain ⟨rfl, -⟩ := List.cons.inj heq
    cases hstarts
  · refine (readsFront_mark (by decide) (reads_elementAhead h₁ hopen)).congr
      fun tok toks a hstarts => ?_
    refine (or_iff_right ?_).symm
    rintro ⟨_, heq, -⟩
    obtain ⟨rfl, -⟩ := List.cons.inj heq
    cases hstarts
  · refine .fail (failNext_ne_ok _) ?_
    rintro tok toks a hstarts (⟨_, heq, -⟩ | ⟨_, heq, -⟩)
    · obtain ⟨rfl, -⟩ := List.cons.inj heq
      exact hbracket hstarts
    · obtain ⟨rfl, -⟩ := List.cons.inj heq
      exact hcomma hstarts

/-- Behind the last element the closing bracket is read. -/
theorem reads_closeList : Reads .tokens closeList fun toks _ => toks = [.mark ']'] := by
  refine reads_of_peek nofun fun c hc => .ite (by decide) (fun _ => readsFront_advance (by decide))
    fun hbracket => .ite (by decide) (fun _ => ?_) fun _ => ?_
  · refine .fail ?_ ?_
    · refine bind_ne_ok fun _ => bind_ne_ok fun _ => bind_ne_ok fun rest => ?_
      split
      · exact failNext_ne_ok _
      · exact failNext_ne_ok _
    · rintro tok toks a hstarts heq
      obtain ⟨rfl, -⟩ := List.cons.inj heq
      cases hstarts
  · refine .fail (failNext_ne_ok _) ?_
    rintro tok toks a hstarts heq
    obtain ⟨rfl, -⟩ := List.cons.inj heq
    exact hbracket hstarts

/-! ## Elements up to the closing bracket -/

/-- The elements after the first one, for the parts that are still to come. -/
def laterElements : List Field → Given → Decoder Given
  | [], g => do
    closeList
    return g
  | f :: fs, g => do
    if !(← laterElement) then return g
    laterElements fs (← g.read f)

/-- A list is read part by part, in the order in which the parts are declared. The list may end
before any of them. -/
theorem elements_eq :
    elements = firstElement >>= fun more =>
      if !more then pure .nothing
      else Given.nothing.read .seedPolicy >>= laterElements [.fixedSeed, .backend] := by
  simp only [elements, laterElements, Given.read, Given.nothing, bind_assoc, pure_bind]

/-- The tokens behind an element, for the parts that are still to come, and what is given with
them. -/
def ElementsBehind (fs : List Field) (g : Given) (toks : List Token) (g' : Given) : Prop :=
  ∃ as, LaterItems ValueTokens ']' toks as ∧ as.map Assignment.field <+: fs ∧
    g' = as.foldl Given.assign g

/-- The tokens of an element and of those behind it. -/
def ElementsFrom (fs : List Field) (g : Given) (toks : List Token) (g' : Given) : Prop :=
  ∃ u v a as, toks = u ++ v ∧ ValueTokens u a ∧ LaterItems ValueTokens ']' v as ∧
    (a :: as).map Assignment.field <+: fs ∧ g' = (a :: as).foldl Given.assign g

/-- What is left before an element begins with it, whatever stands behind. -/
theorem ElementsFrom.opensElement {fs : List Field} {g g' : Given} {toks : List Token}
    (h : ElementsFrom fs g toks g') : OpensElement toks := by
  obtain ⟨u, v, a, as, rfl, ha, -⟩ := h
  exact ha.opensElement.append v

/-- An element and those behind it are read, if those behind it are. This is the step from the parts
behind a part to the part itself. -/
theorem reads_elementsFrom {f : Field} {fs : List Field}
    (h : ∀ g, Reads .tokens (laterElements fs g) (ElementsBehind fs g)) (g : Given) :
    Reads .tokens (g.read f >>= laterElements fs) (ElementsFrom (f :: fs) g) := by
  refine ((reads_given g f).bind h).congr fun toks g' => ?_
  refine ⟨?_, ?_⟩
  · intro h
    obtain ⟨u, v, _, rfl, ⟨a, ha, rfl, rfl⟩, as, hlater, horder, rfl⟩ := h
    exact ⟨u, v, a, as, rfl, ha, hlater, List.cons_prefix_cons.2 ⟨rfl, horder⟩, rfl⟩
  · intro h
    obtain ⟨u, v, a, as, rfl, ha, hlater, horder, rfl⟩ := h
    obtain ⟨hfield, horder⟩ := List.cons_prefix_cons.1 horder
    exact ⟨u, v, g.assign a, rfl, ⟨a, ha, hfield, rfl⟩, as, hlater, horder, rfl⟩

/-- What is left behind an element is read as the elements of the parts that are left. The induction
is on these parts. -/
theorem reads_laterElements (fs : List Field) (g : Given) :
    Reads .tokens (laterElements fs g) (ElementsBehind fs g) := by
  induction fs generalizing g with
  | nil =>
    refine (reads_closeList.map fun _ => g).congr fun toks g' => ?_
    refine ⟨?_, ?_⟩
    · intro h
      obtain ⟨_, rfl, rfl⟩ := h
      exact ⟨[], .close, List.prefix_rfl, rfl⟩
    · intro h
      obtain ⟨as, h, horder, rfl⟩ := h
      obtain rfl := List.map_eq_nil_iff.1 (List.prefix_nil.1 horder)
      cases h
      exact ⟨(), rfl, rfl⟩
  | cons f fs ih =>
    have hchoice := reads_laterElement
      (k := fun more => if !more then pure g else g.read f >>= laterElements fs)
      (Reads.pure g) (reads_elementsFrom ih g) fun _ _ h => h.opensElement
    refine hchoice.congr fun toks g' => ?_
    refine ⟨?_, ?_⟩
    · intro h
      rcases h with ⟨_, rfl, rfl, rfl⟩ | ⟨_, rfl, u, v, a, as, rfl, ha, hlater, horder, rfl⟩
      · exact ⟨[], .close, List.nil_prefix, rfl⟩
      · exact ⟨a :: as, .next ha hlater, horder, rfl⟩
    · intro h
      obtain ⟨as, h, horder, rfl⟩ := h
      cases h with
      | close => exact .inl ⟨[], rfl, rfl, rfl⟩
      | @next u v a as ha hlater =>
        exact .inr ⟨u ++ v, rfl, u, v, a, as, rfl, ha, hlater, horder, rfl⟩

/-- **What is read as the elements of a list is values of the parts in their order up to the closing
bracket.** The list may end early, and the parts behind its end keep their defaults. -/
theorem reads_elements :
    Reads .tokens elements fun toks g =>
      ∃ as, Items ValueTokens ']' toks as ∧
        as.map Assignment.field <+: [.seedPolicy, .fixedSeed, .backend] ∧
        g = as.foldl Given.assign .nothing := by
  have hchoice := reads_firstElement
    (k := fun more => if !more then pure .nothing
      else Given.nothing.read .seedPolicy >>= laterElements [.fixedSeed, .backend])
    (Reads.pure Given.nothing)
    (reads_elementsFrom (reads_laterElements [.fixedSeed, .backend]) .nothing)
    fun _ _ h => h.opensElement
  rw [← elements_eq] at hchoice
  refine hchoice.congr fun toks g => ?_
  refine ⟨?_, ?_⟩
  · intro h
    rcases h with ⟨_, rfl, rfl, rfl⟩ | ⟨u, v, a, as, rfl, ha, hlater, horder, rfl⟩
    · exact ⟨[], .close, List.nil_prefix, rfl⟩
    · exact ⟨a :: as, .first ha hlater, horder, rfl⟩
  · intro h
    obtain ⟨as, h, horder, rfl⟩ := h
    cases h with
    | close => exact .inl ⟨[], rfl, rfl, rfl⟩
    | @first u v a as ha hlater => exact .inr ⟨u, v, a, as, rfl, ha, hlater, horder, rfl⟩

end Config

end DeviceReadings
