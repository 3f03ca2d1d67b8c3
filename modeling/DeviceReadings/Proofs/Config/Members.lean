import DeviceReadings.Proofs.Config.Values

/-!
# Objects

What is read as the members of an object: items with different keys up to a closing brace
(`reads_members`). While the members are read, `Given` holds what they have assigned so far
(`Given.assign`), and a member is read just if its part has not been given yet (`reads_member`).
-/

namespace DeviceReadings

namespace Config

open Json

/-! ## What has been given -/

namespace Given

/-- What is given after one more assignment. -/
def assign (g : Given) : Assignment → Given
  | .seedPolicy kind => { g with seedPolicy := some kind }
  | .fixedSeed seed => { g with fixedSeed := some seed }
  | .backend backend => { g with backend := some backend }

/-- A part has been given when it is the one just assigned or was given before. Nothing that has
been given is taken back. -/
theorem has_assign (g : Given) (a : Assignment) (f : Field) :
    (g.assign a).has f = (decide (a.field = f) || g.has f) := by
  cases a <;> cases f <;> rfl

/-- To give a part is to assign it in the configuration that is made in the end. The parts still
missing have their defaults on both sides. -/
@[simp] theorem config_assign (g : Given) (a : Assignment) :
    (g.assign a).config = g.config.assign a := by
  cases a <;> rfl

/-- Parts given one after another make the configuration that the same assignments make. By
induction, with `config_assign` for each of them. -/
theorem config_foldl (as : List Assignment) (g : Given) :
    (as.foldl assign g).config = as.foldl Config.assign g.config := by
  induction as generalizing g with
  | nil => rfl
  | cons a as ih => rw [List.foldl_cons, ih, config_assign, List.foldl_cons]

/-- What some assignments give makes the configuration of them. With nothing given before them, the
defaults are all that they start from. -/
theorem config_foldl_nothing (as : List Assignment) :
    (as.foldl assign nothing).config = Config.ofAssignments as :=
  config_foldl as nothing

/-- Assignments of parts that have not been given, each of another part. -/
def Admits (g : Given) (as : List Assignment) : Prop :=
  (∀ a ∈ as, g.has a.field = false) ∧ (as.map Assignment.field).Nodup

/-- Where nothing has been given, assignments are admitted just if they are to different parts. -/
theorem admits_nothing {as : List Assignment} :
    nothing.Admits as ↔ (as.map Assignment.field).Nodup := by
  refine and_iff_right fun a _ => ?_
  cases a <;> rfl

/-- Assignments are admitted one by one, each beside what has been given before it. -/
theorem admits_cons {g : Given} {a : Assignment} {as : List Assignment} :
    g.Admits (a :: as) ↔ g.has a.field = false ∧ (g.assign a).Admits as := by
  simp only [Admits, List.forall_mem_cons, List.map_cons, List.nodup_cons, has_assign,
    Bool.or_eq_false_iff, decide_eq_false_iff_not, List.mem_map, not_exists, not_and]
  refine ⟨?_, ?_⟩
  · intro h
    obtain ⟨⟨ha, has⟩, hnew, hnodup⟩ := h
    exact ⟨ha, fun b hb => ⟨fun h => hnew b hb h.symm, has b hb⟩, hnodup⟩
  · intro h
    obtain ⟨ha, hall, hnodup⟩ := h
    exact ⟨⟨ha, fun b hb => (hall b hb).2⟩, fun b hb h => (hall b hb).1 h.symm, hnodup⟩

end Given

/-! ## Members -/

/-- What is read for a part is a value for it. The three parts differ only in the grammar of their
values. -/
theorem reads_given (g : Given) (f : Field) :
    Reads .tokens (g.read f) fun toks g' =>
      ∃ a, ValueTokens toks a ∧ a.field = f ∧ g' = g.assign a := by
  cases f with
  | seedPolicy =>
    refine ((reads_oneOfNames PolicyKind.names).map _).congr fun toks g' => ?_
    refine ⟨?_, ?_⟩
    · intro h
      obtain ⟨kind, h, rfl⟩ := h
      exact ⟨.seedPolicy kind, .seedPolicy h, rfl, rfl⟩
    · intro h
      obtain ⟨_, ⟨h⟩ | ⟨_⟩ | ⟨_⟩, hfield, rfl⟩ := h
      · exact ⟨_, h, rfl⟩
      · cases hfield
      · cases hfield
  | fixedSeed =>
    refine (reads_seedValue.map _).congr fun toks g' => ?_
    refine ⟨?_, ?_⟩
    · intro h
      obtain ⟨seed, h, rfl⟩ := h
      exact ⟨.fixedSeed seed, .fixedSeed h, rfl, rfl⟩
    · intro h
      obtain ⟨_, ⟨_⟩ | ⟨h⟩ | ⟨_⟩, hfield, rfl⟩ := h
      · cases hfield
      · exact ⟨_, h, rfl⟩
      · cases hfield
  | backend =>
    refine ((reads_oneOfNames Backend.names).map _).congr fun toks g' => ?_
    refine ⟨?_, ?_⟩
    · intro h
      obtain ⟨backend, h, rfl⟩ := h
      exact ⟨.backend backend, .backend h, rfl, rfl⟩
    · intro h
      obtain ⟨_, ⟨_⟩ | ⟨_⟩ | ⟨h⟩, hfield, rfl⟩ := h
      · cases hfield
      · cases hfield
      · exact ⟨_, h, rfl⟩

/-- A fault of the object is a fault wherever it is placed, so a member that is refused as unknown,
repeated or missing never leaves a value. -/
theorem failObject_ne_ok {α : Type} (cause : Cause) :
    ∀ s p, (failObject cause : Decoder α) s ≠ .ok p := by
  refine bind_ne_ok fun _ => bind_ne_ok fun rest => ?_
  intro s p
  dsimp only
  split
  · exact bind_ne_ok (fun _ => failHere_ne_ok cause) s p
  · exact failHere_ne_ok cause s p

/-- **A member is read behind its opening quote if its part has not been given yet.** A second
member for a part is refused before its value is read. -/
theorem reads_member (g : Given) :
    ReadsBehind '"' (member g) fun toks g' =>
      ∃ a, MemberTokens toks a ∧ g.has a.field = false ∧ g' = g.assign a := by
  refine (readsBehind_string (M := fun name toks g' => ∃ rest a, toks = .mark ':' :: rest ∧
    named? Field.names name = some a.field ∧ ValueTokens rest a ∧ g.has a.field = false ∧
    g' = g.assign a) fun name => ?_).congr fun toks g' => ?_
  · cases named? Field.names name with
    | none => exact (Reads.fail (failObject_ne_ok _)).congr fun toks g' => by simp
    | some field =>
      refine (Reads.ite (fun _ => Reads.fail (failObject_ne_ok _))
        fun _ => reads_colon.bind fun _ => reads_given g field).congr fun toks g' => ?_
      refine ⟨?_, ?_⟩
      · intro h
        rcases h with ⟨-, h⟩ | ⟨hnew, _, rest, _, rfl, rfl, a, h, rfl, rfl⟩
        · exact h.elim
        · exact ⟨rest, a, rfl, rfl, h, eq_false_of_ne_true hnew, rfl⟩
      · intro h
        obtain ⟨rest, a, rfl, hfield, h, hnew, rfl⟩ := h
        obtain rfl := Option.some.inj hfield
        exact .inr ⟨ne_true_of_eq_false hnew, [.mark ':'], rest, (), rfl, rfl, a, h, rfl, rfl⟩
  · refine ⟨?_, ?_⟩
    · intro h
      obtain ⟨name, _, rfl, rest, a, rfl, hkey, h, hnew, rfl⟩ := h
      exact ⟨a, .mk hkey h, hnew, rfl⟩
    · intro h
      obtain ⟨a, ⟨hkey, h⟩, hnew, rfl⟩ := h
      exact ⟨_, _, rfl, _, a, rfl, hkey, h, hnew, rfl⟩

/-! ## Members up to the closing brace -/

/-- What follows a member: one more behind a comma, or the closing brace. -/
def laterMember (g : Given) : Decoder (Option Given) := do
  let b ← peekToken .object
  if b = ascii '}' then
    advance
    pure none
  else if b = ascii ',' then
    advance
    let b ← peekToken .value
    if b = ascii '"' then
      advance
      return some (← member g)
    else if b = ascii '}' then failNext .trailingComma
    else failNext .keyNotString
  else failNext .expectedCommaOrBrace

/-- The members after the first one are read one by one, each beside those given before it. -/
theorem laterMembers_succ (fuel : Nat) (g : Given) :
    laterMembers (fuel + 1) g = laterMember g >>= fun next =>
      match next with
      | none => pure g
      | some g' => laterMembers fuel g' := by
  rw [laterMembers, laterMember, bind_assoc]
  refine bind_congr fun b => ?_
  split
  · simp
  · split
    · rw [bind_assoc]
      refine bind_congr fun _ => ?_
      rw [bind_assoc]
      refine bind_congr fun b' => ?_
      split
      · simp
      · split <;> rfl
    · rfl

/-- Behind a comma a member has to follow. A closing brace there is a comma too many. -/
theorem reads_memberAhead (g : Given) :
    Reads .tokens
      (do
        let b ← peekToken .value
        if b = ascii '"' then
          advance
          return some (← member g)
        else if b = ascii '}' then failNext .trailingComma
        else failNext .keyNotString)
      fun toks next =>
        ∃ a, MemberTokens toks a ∧ g.has a.field = false ∧ next = some (g.assign a) := by
  have hstart : ∀ tok toks (next : Option Given) (c : Char), Token.Starts tok c →
      (∃ a, MemberTokens (tok :: toks) a ∧ g.has a.field = false ∧ next = some (g.assign a)) →
      c = '"' := by
    rintro tok toks next c hstarts ⟨a, ⟨_, _⟩, -, -⟩
    exact hstarts
  refine reads_of_peek (fun _ ⟨_, h, _⟩ => nomatch h) fun c hc => .ite (by decide) (fun _ => ?_)
    fun hquote => .ite (by decide) (fun _ => ?_) fun _ => ?_
  · refine (((reads_member g).bind fun g' => Reads.pure (some g')).front (by decide)).congr
      fun tok toks next _ => ?_
    refine ⟨?_, ?_⟩
    · intro h
      obtain ⟨u, _, _, heq, -, ⟨a, h, hnew, rfl⟩, rfl, rfl⟩ := h
      rw [List.append_nil] at heq
      exact ⟨a, heq ▸ h, hnew, rfl⟩
    · intro h
      obtain ⟨a, h, hnew, rfl⟩ := h
      exact ⟨tok :: toks, [], g.assign a, (List.append_nil _).symm, List.cons_ne_nil tok toks,
        ⟨a, h, hnew, rfl⟩, rfl, rfl⟩
  · refine .fail (failNext_ne_ok _) fun tok toks next hstarts h => ?_
    cases hstart tok toks next _ hstarts h
  · refine .fail (failNext_ne_ok _) fun tok toks next hstarts h => ?_
    exact hquote (hstart tok toks next _ hstarts h)

/-- What follows a member is the closing brace, or a comma and one more member for a part that has
not been given. -/
theorem reads_laterMember (g : Given) :
    Reads .tokens (laterMember g) fun toks next =>
      toks = [.mark '}'] ∧ next = none ∨
        ∃ rest a, toks = .mark ',' :: rest ∧ MemberTokens rest a ∧ g.has a.field = false ∧
          next = some (g.assign a) := by
  have hnil : ∀ next, ¬ (([] : List Token) = [.mark '}'] ∧ next = none ∨
      ∃ rest a, [] = Token.mark ',' :: rest ∧ MemberTokens rest a ∧ g.has a.field = false ∧
        next = some (g.assign a)) := by
    rintro next (⟨h, -⟩ | ⟨_, _, h, -⟩) <;> cases h
  refine reads_of_peek hnil fun c hc => .ite (by decide) (fun _ => ?_)
    fun hbrace => .ite (by decide) (fun _ => ?_) fun hcomma => ?_
  · refine (readsFront_mark (by decide) (Reads.pure none)).congr fun tok toks next hstarts => ?_
    refine ⟨?_, ?_⟩
    · intro h
      obtain ⟨_, heq, rfl, rfl⟩ := h
      exact .inl ⟨heq, rfl⟩
    · intro h
      rcases h with ⟨heq, rfl⟩ | ⟨_, _, heq, -⟩
      · exact ⟨[], heq, rfl, rfl⟩
      · obtain ⟨rfl, -⟩ := List.cons.inj heq
        cases hstarts
  · refine (readsFront_mark (by decide) (reads_memberAhead g)).congr fun tok toks next hstarts => ?_
    refine ⟨?_, ?_⟩
    · intro h
      obtain ⟨rest, heq, a, h⟩ := h
      exact .inr ⟨rest, a, heq, h⟩
    · intro h
      rcases h with ⟨heq, -⟩ | ⟨rest, a, heq, h⟩
      · obtain ⟨rfl, -⟩ := List.cons.inj heq
        cases hstarts
      · exact ⟨rest, heq, a, h⟩
  · refine .fail (failNext_ne_ok _) ?_
    rintro tok toks next hstarts (⟨heq, -⟩ | ⟨_, _, heq, -⟩)
    · obtain ⟨rfl, -⟩ := List.cons.inj heq
      exact hbrace hstarts
    · obtain ⟨rfl, -⟩ := List.cons.inj heq
      exact hcomma hstarts

/-- With fuel for every byte the later members are read up to the closing brace. The induction is on
the fuel: a member takes at least the byte of its comma, so the fuel left is enough for the bytes
left. -/
theorem laterMembers_eq_ok {fuel : Nat} {t : List Char} (hfuel : (Utf8.encode t).length < fuel)
    {g g' : Given} {s : List UInt8} :
    laterMembers fuel g (Utf8.encode t) = .ok (g', s) ↔
      ∃ toks r, Begins t toks r ∧
        (∃ as, LaterItems MemberTokens '}' toks as ∧ g.Admits as ∧ g' = as.foldl Given.assign g) ∧
        s = Utf8.encode r := by
  induction fuel generalizing t g with
  | zero => cases hfuel
  | succ fuel ih =>
    rw [laterMembers_succ, bind_eq_ok]
    refine ⟨?_, ?_⟩
    · intro h
      obtain ⟨next, s', hnext, hrest⟩ := h
      obtain ⟨toks, m, hbegins, h, rfl⟩ := (reads_laterMember g t next s').1 hnext
      rcases h with ⟨rfl, rfl⟩ | ⟨toks, a, rfl, hmember, hnew, rfl⟩
      · obtain ⟨rfl, rfl⟩ := pure_eq_ok.1 hrest
        exact ⟨_, m, hbegins, ⟨[], .close, ⟨nofun, .nil⟩, rfl⟩, rfl⟩
      · have hshort := length_lt_of_begins hbegins
        obtain ⟨toks', r, hbegins', ⟨as, hlater, has, rfl⟩, rfl⟩ :=
          (ih (Nat.lt_of_lt_of_le hshort (Nat.le_of_lt_succ hfuel))).1 hrest
        exact ⟨.mark ',' :: toks ++ toks', r, begins_append_iff.2 ⟨m, hbegins, hbegins'⟩,
          ⟨a :: as, .next hmember hlater, Given.admits_cons.2 ⟨hnew, has⟩, rfl⟩, rfl⟩
    · intro h
      obtain ⟨toks, r, hbegins, ⟨as, hlater, has, rfl⟩, rfl⟩ := h
      cases hlater with
      | close =>
        exact ⟨none, _, (reads_laterMember g t none _).2 ⟨_, r, hbegins, .inl ⟨rfl, rfl⟩, rfl⟩, rfl⟩
      | @next toks rest a as hmember hlater =>
        obtain ⟨hnew, has⟩ := Given.admits_cons.1 has
        obtain ⟨m, hfirst, hbegins⟩ :=
          begins_append_iff.1 (show Begins t (.mark ',' :: toks ++ rest) r from hbegins)
        have hshort := length_lt_of_begins hfirst
        exact ⟨some (g.assign a), _, (reads_laterMember g t _ _).2 ⟨_, m, hfirst,
          .inr ⟨toks, a, rfl, hmember, hnew, rfl⟩, rfl⟩,
          (ih (Nat.lt_of_lt_of_le hshort (Nat.le_of_lt_succ hfuel))).2
            ⟨rest, r, hbegins, ⟨as, hlater, has, rfl⟩, rfl⟩⟩

/-- The later members of an object are read with fuel for the bytes that are left, which is
enough. -/
theorem reads_laterMembers (g : Given) :
    Reads .tokens (do laterMembers ((← get).length + 1) g) fun toks g' =>
      ∃ as, LaterItems MemberTokens '}' toks as ∧ g.Admits as ∧ g' = as.foldl Given.assign g :=
  fun _ _ _ => laterMembers_eq_ok (Nat.lt_succ_self _)

/-- **What is read as the members of an object is items with different keys up to the closing
brace.** What they give does not depend on their order. -/
theorem reads_members :
    Reads .tokens members fun toks g =>
      ∃ as, Items MemberTokens '}' toks as ∧ (as.map Assignment.field).Nodup ∧
        g = as.foldl Given.assign .nothing := by
  have hfirst := (reads_member .nothing).bind reads_laterMembers
  -- The next token is none, a closing brace, a quote, or one that begins no member.
  refine reads_of_peek ?_ fun c hc => .ite (by decide) (fun _ => ?_)
    fun hbrace => .ite (by decide) (fun _ => ?_) fun hquote => ?_
  · rintro g ⟨as, h, -⟩
    rcases items_iff.1 h with ⟨heq, -⟩ | ⟨u, v, a, _, heq, -, hmember, -⟩
    · cases heq
    · cases hmember
      cases heq
  · refine (readsFront_mark (by decide) (Reads.pure Given.nothing)).congr
      fun tok toks g hstarts => ?_
    refine ⟨?_, ?_⟩
    · intro h
      obtain ⟨_, heq, rfl, rfl⟩ := h
      rw [heq]
      exact ⟨[], .close, .nil, rfl⟩
    · intro h
      obtain ⟨as, h, -, rfl⟩ := h
      rcases items_iff.1 h with ⟨heq, rfl⟩ | ⟨u, v, a, _, heq, -, hmember, -⟩
      · exact ⟨[], heq, rfl, rfl⟩
      · cases hmember
        obtain ⟨rfl, -⟩ := List.cons.inj heq
        cases hstarts
  · refine (hfirst.front (by decide)).congr fun tok toks g hstarts => ?_
    refine ⟨?_, ?_⟩
    · intro h
      obtain ⟨_, _, _, heq, -, ⟨a, hmember, hnew, rfl⟩, as, hlater, has, rfl⟩ := h
      rw [heq]
      exact ⟨a :: as, .first hmember hlater,
        Given.admits_nothing.1 (Given.admits_cons.2 ⟨hnew, has⟩), rfl⟩
    · intro h
      obtain ⟨as, h, hdistinct, rfl⟩ := h
      rcases items_iff.1 h with ⟨heq, -⟩ | ⟨u, v, a, later, heq, rfl, hmember, hlater⟩
      · obtain ⟨rfl, -⟩ := List.cons.inj heq
        cases hstarts
      · obtain ⟨hnew, has⟩ := Given.admits_cons.1 (Given.admits_nothing.2 hdistinct)
        have hne : u ≠ [] := by
          cases hmember
          exact List.cons_ne_nil _ _
        exact ⟨u, v, _, heq, hne, ⟨a, hmember, hnew, rfl⟩, later, hlater, has, rfl⟩
  · refine .fail (failNext_ne_ok _) ?_
    rintro tok toks g hstarts ⟨as, h, -⟩
    rcases items_iff.1 h with ⟨heq, -⟩ | ⟨u, v, a, _, heq, -, hmember, -⟩
    · obtain ⟨rfl, -⟩ := List.cons.inj heq
      exact hbrace hstarts
    · cases hmember
      obtain ⟨rfl, -⟩ := List.cons.inj heq
      exact hquote hstarts

end Config

end DeviceReadings
