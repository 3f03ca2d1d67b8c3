import DeviceReadings.Proofs.Config.Document
import DeviceReadings.Proofs.Json.Truncation

/-!
# How far a configuration is read

A configuration is read by a strict decoder (`strict_value`), and a whole text by a local one
(`local_document`). Names are strict. A seed is so only together with what follows it
(`strict_seedValue_bind`), as its digits may be cut short and still be a seed. This carries over to
members and elements, which are taken together with what follows them until the last bracket.
-/

namespace DeviceReadings

namespace Config

open Json

variable {α β : Type}

/-! ## Other values -/

/-- What is found instead of an expected value is told by its first byte, and a word has to be
spelled out for that. -/
theorem local_foundWord (letters : List Char) (found : Found) : Local (foundWord letters found) :=
  ((strict_restOfWord letters).map fun _ => found).toLocal

/-- A number that is found where none is expected is read as any number is. -/
theorem local_foundNumber : Local foundNumber :=
  (local_numberLiteral (.failNext _)).map Number.found

/-- Whatever is found is told by its next byte and a decoder for it. Of lists and objects that byte
is all that is looked at. -/
theorem local_foundValue : Local foundValue := by
  have hword : ∀ letters found, Local (advance >>= fun _ => foundWord letters found) :=
    fun letters found => Local.advance.bind fun _ => local_foundWord letters found
  have hstring : Local (advance >>= fun _ => foundString) :=
    Local.advance.bind fun _ => (strict_stringLiteral.map _).toLocal
  refine .ofByte
    (fun b => if b = ascii 'n' then advance >>= fun _ => foundWord ['u', 'l', 'l'] .null
      else if b = ascii 't' then advance >>= fun _ => foundWord ['r', 'u', 'e'] (.boolean true)
      else if b = ascii 'f' then
        advance >>= fun _ => foundWord ['a', 'l', 's', 'e'] (.boolean false)
      else if b = ascii '"' then advance >>= fun _ => foundString
      else if b = ascii '[' then pure .sequence
      else if b = ascii '{' then pure .map
      else foundNumber)
    (.failNext .expectedValue)
    (fun _ => .ite (hword _ _) (.ite (hword _ _) (.ite (hword _ _) (.ite hstring
      (.ite (.pure _) (.ite (.pure _) local_foundNumber))))))
    rfl fun b s => ?_
  simp only [ite_run]
  rfl

/-- Reporting what was found instead of what is expected reads it first, and then fails at the place
behind it. -/
theorem local_mismatch (expected : Expected) : Local (mismatch expected : Decoder α) :=
  local_foundValue.bind fun _ => .failHere _

/-- It comes to no value, and there is nothing to cut (`Strict.fail`). -/
theorem strict_mismatch (expected : Expected) : Strict (mismatch expected : Decoder α) :=
  .fail (local_mismatch expected) (mismatch_ne_ok expected)

/-! ## Names and seeds -/

/-- A colon has to be there behind a key. -/
theorem strict_colon : Strict colon :=
  .peek fun _ => .ite strictAhead_advance (.failNext _)

/-- The word `null` is needed whole, and anything else is a fault. -/
theorem strict_nullValue : Strict nullValue :=
  .peek fun _ => .ite (.advance (strict_restOfWord _)) (strict_mismatch _).ahead

/-- A name is needed with its closing quote. Whether it is known is asked after that. -/
theorem strict_knownName (names : List (String × α)) : Strict (knownName names) := by
  refine strict_stringLiteral.bind fun name => ?_
  cases named? names name with
  | none => exact .failHere _
  | some a => exact .pure a

/-- An object with one key is needed up to its closing brace. -/
theorem strict_soleKey (names : List (String × α)) : Strict (soleKey names) := by
  refine .peek fun b => .ite (.advance ?_)
    (.ite (.failNext _) (.failNext _))
  refine (strict_knownName names).bind fun a => strict_colon.bind fun _ =>
    strict_nullValue.bind fun _ => ?_
  exact .peek fun _ => .ite (.advance (.pure a)) (Strict.failHere _).ahead

/-- A name may be written in either way, and the next byte says which. -/
theorem strict_oneOfNames (names : List (String × α)) : Strict (oneOfNames names) :=
  .peek fun _ => .ite (.advance (strict_knownName names))
    (.ite (.advance (strict_soleKey names)) (.failNext _))

/-- What number a seed is has nothing to do with the text behind it. -/
theorem local_seedOfNumber (number : Number) : Local (seedOfNumber number) := by
  cases number with
  | natural n => exact .pure _
  | negative n => exact .failHere _
  | floating bits => exact .failHere _

/-- A seed is `null` or a number, chosen by the next byte. -/
theorem local_seedValue : Local seedValue :=
  (local_peekToken _).bind fun _ => .ite
    (Local.advance.bind fun _ => ((strict_restOfWord _).map fun _ => none).toLocal)
    ((local_numberLiteral (local_mismatch _)).bind fun number =>
      (local_seedOfNumber number).map some)

/-- What follows a choice follows each of its branches. A branch that ends with a number is strict
only together with what follows it. -/
theorem ite_bind {p : Prop} [Decidable p] (d d' : Decoder α) (k : α → Decoder β) :
    (if p then d else d') >>= k = if p then d >>= k else d' >>= k := by
  split <;> rfl

section

variable {k : Option UInt64 → Decoder α}

/-- Only a natural number is gone on with as a seed; every other one is a fault, whatever would
follow. -/
theorem seedOfNumber_ne_ok {number : Number} (hnot : ∀ n, number ≠ .natural n) (s : List UInt8)
    (p : α × List UInt8) : (seedOfNumber number >>= fun seed => k (some seed)) s ≠ .ok p := by
  intro h
  obtain ⟨_, _, hseed, -⟩ := bind_eq_ok.1 h
  cases number with
  | natural n => exact hnot n rfl
  | negative n => cases hseed
  | floating bits => cases hseed

/-- **A seed with what follows it is strict** if something has to follow. The digits of a seed may
be cut short and still be a seed. -/
theorem strict_seedValue_bind (hk : ∀ seed, Strict (k seed)) (hend : ∀ seed, Ended (k seed [])) :
    Strict (seedValue >>= k) := by
  have hnull : StrictAhead ((do
      advance
      restOfWord ['u', 'l', 'l']
      pure none) >>= k) := by
    simp only [bind_assoc, pure_bind]
    exact .advance ((strict_restOfWord _).bind fun _ => hk none)
  have hnumber : StrictAhead ((do
      return some (← seedOfNumber (← numberLiteral (mismatch .word)))) >>= k) := by
    have heq : ((do return some (← seedOfNumber (← numberLiteral (mismatch .word)))) >>= k) =
        numberLiteral (mismatch .word) >>= fun number =>
          seedOfNumber number >>= fun seed => k (some seed) := by
      simp only [bind_assoc, pure_bind]
    rw [heq]
    exact strictAhead_natural (local_mismatch _) (mismatch_ne_ok _)
      (fun number => (local_seedOfNumber number).bind fun seed => (hk (some seed)).toLocal)
      (fun n => hk (some (UInt64.ofNat n))) (fun n => hend (some (UInt64.ofNat n)))
      fun number hnot => seedOfNumber_ne_ok hnot
  rw [seedValue, bind_assoc]
  refine .peek fun b => ?_
  rw [ite_bind]
  exact .ite hnull hnumber

end

/-! ## Members -/

/-- The value of a part is read by the decoder of the part, which is another one for each of the
three parts. -/
theorem local_given (g : Given) (f : Field) : Local (g.read f) := by
  cases f with
  | seedPolicy => exact ((strict_oneOfNames _).map _).toLocal
  | fixedSeed => exact local_seedValue.map _
  | backend => exact ((strict_oneOfNames _).map _).toLocal

/-- A look at the next byte that is no blank, if there is one. It stays, and nothing is done at the
end of the text. -/
theorem local_behindBlanks {k : Option UInt8 → Decoder α} (hk : ∀ x, Local (k x)) :
    Local (do
      skipBlanks
      k (← get).head?) :=
  local_skipBlanks.bind fun _ => .ofHead k hk fun _ => rfl

/-- A fault inside an object looks for the closing brace first, since it is placed behind the brace
if this comes next. -/
theorem local_failObject (cause : Cause) : Local (failObject cause : Decoder α) :=
  local_behindBlanks
    (k := fun x => if x = some (ascii '}') then advance >>= fun _ => failHere cause
      else failHere cause)
    fun _ => .ite (Local.advance.bind fun _ => .failHere _) (.failHere _)

/-- A member is its key and its value, and an unknown key is a fault of the object, which is placed
by the byte behind the key (`local_failObject`). -/
theorem local_member (g : Given) : Local (member g) := by
  refine strict_stringLiteral.toLocal.bind fun name => ?_
  cases named? Field.names name with
  | none => exact local_failObject _
  | some field =>
    exact .ite (local_failObject _) (strict_colon.toLocal.bind fun _ => local_given g field)

section

variable {k : Given → Decoder α}

/-- The value of a part with what follows it is strict if something has to follow. This is needed
for the seed, whose digits may be cut short. -/
theorem strict_given_bind (hk : ∀ g, Strict (k g)) (hend : ∀ g, Ended (k g [])) (g : Given)
    (f : Field) : Strict (g.read f >>= k) := by
  cases f with
  | seedPolicy => exact ((strict_oneOfNames _).map _).bind hk
  | fixedSeed =>
    simp only [Given.read, bind_assoc, pure_bind]
    exact strict_seedValue_bind (fun _ => hk _) fun _ => hend _
  | backend => exact ((strict_oneOfNames _).map _).bind hk

/-- A member with what follows it is strict if something has to follow. Its value may be a seed, and
a number alone is not strict. -/
theorem strict_member_bind (hk : ∀ g, Strict (k g)) (hend : ∀ g, Ended (k g [])) (g : Given) :
    Strict (member g >>= k) := by
  have hfail : ∀ cause, Strict (failObject cause >>= k) := fun cause =>
    .fail ((local_failObject cause).bind fun g => (hk g).toLocal) fun s p h => by
      obtain ⟨_, _, hobject, -⟩ := bind_eq_ok.1 h
      exact failObject_ne_ok cause _ _ hobject
  rw [member, bind_assoc]
  refine strict_stringLiteral.bind fun name => ?_
  cases named? Field.names name with
  | none => exact hfail _
  | some field =>
    dsimp only
    rw [ite_bind, bind_assoc]
    exact .ite (hfail _) (strict_colon.bind fun _ => strict_given_bind hk hend g field)

end

/-- A member takes bytes, which is why the loop over members may run on the number of bytes. -/
theorem laterMember_shrinks {g g' : Given} {s m : List UInt8}
    (h : laterMember g s = .ok (some g', m)) : m.length < s.length := by
  obtain ⟨b, r, hpeek, h⟩ := bind_eq_ok.1 h
  have hr : r.length ≤ s.length := (local_peekToken _).length_le hpeek
  have hpos : 0 < r.length := by
    cases r with
    | nil => exact absurd hpeek (peekToken_ne_nil _ _ _)
    | cons b r => exact Nat.succ_pos _
  rw [ite_run, ite_run] at h
  split at h
  · obtain ⟨_, _, -, h⟩ := bind_eq_ok.1 h
    exact nomatch (pure_eq_ok.1 h).1
  · split at h
    · obtain ⟨_, r', hadvance, h⟩ := bind_eq_ok.1 h
      obtain rfl : r.tail = r' := congrArg Prod.snd (Except.ok.inj hadvance)
      have hrest : m.length ≤ r.tail.length := by
        refine Local.length_le ?_ h
        exact (local_peekToken _).bind fun _ => .ite
          (Local.advance.bind fun _ => (local_member g).map some)
          (.ite (.failNext _) (.failNext _))
      rw [List.length_tail] at hrest
      omega
    · cases h

/-- More rounds than bytes make no difference. The induction is on the rounds, and each member takes
a byte at least. -/
theorem laterMembers_fuel {fuel fuel' : Nat} {s : List UInt8} (g : Given) (h : s.length < fuel)
    (h' : s.length < fuel') : laterMembers fuel g s = laterMembers fuel' g s := by
  induction fuel generalizing fuel' s g with
  | zero => cases h
  | succ fuel ih =>
    obtain ⟨fuel', rfl⟩ := Nat.exists_eq_add_one_of_ne_zero (Nat.ne_zero_of_lt h')
    rw [laterMembers_succ, laterMembers_succ]
    refine bind_congr_of_ok fun next m hnext => ?_
    cases next with
    | none => rfl
    | some g' =>
      have hm := laterMember_shrinks hnext
      exact ih g' (by omega) (by omega)

/-- What follows a member has to be there: a comma or a closing brace. At the end of a text a member
is thus cut, even one that could be whole. -/
theorem ended_laterMembers (fuel : Nat) (g : Given) : Ended (laterMembers fuel g []) := by
  cases fuel with
  | zero => exact ⟨.object, rfl⟩
  | succ fuel => exact (Ended.peekToken_nil .object).bind _

/-- The members behind the first one are needed up to the closing brace. The induction is on the
rounds of the loop. -/
theorem strict_laterMembers (fuel : Nat) (g : Given) : Strict (laterMembers fuel g) := by
  induction fuel generalizing g with
  | zero => exact .failHere _
  | succ fuel ih =>
    have hmember := strict_member_bind ih (ended_laterMembers fuel) g
    exact .peek fun _ => .ite (.advance (.pure g)) (.ite
      (.advance (.peek fun _ => .ite (.advance hmember)
        (.ite (.failNext _) (.failNext _))))
      (.failNext _))

/-- An object is needed whole, from its first member or its closing brace on. Rounds by the number
of bytes are enough (`laterMembers_fuel`). -/
theorem strict_members : Strict members := by
  refine .peek fun _ => .ite (.advance (.pure _)) (.ite (.advance ?_) (.failNext _))
  refine strict_member_bind (k := fun g => do laterMembers ((← get).length + 1) g) (fun g => ?_)
    (fun g => ended_laterMembers 1 g) _
  exact .ofFuel (fun fuel => strict_laterMembers fuel g) fun fuel s h =>
    laterMembers_fuel g (Nat.lt_succ_self _) h

/-! ## Elements -/

/-- The first element is told from the end of an empty list by the next byte. -/
theorem strict_firstElement : Strict firstElement :=
  .peek fun _ => .ite (.advance (.pure false)) (Strict.pure true).ahead

/-- Before a later element there is a comma, or the list ends. -/
theorem strict_laterElement : Strict laterElement :=
  .peek fun _ => .ite (.advance (.pure false)) (.ite
    (.advance (.peek fun _ => .ite (.failNext _) (Strict.pure true).ahead))
    (.failNext _))

/-- A full list is needed up to its closing bracket. -/
theorem strict_closeList : Strict closeList := by
  refine .peek fun _ => .ite strictAhead_advance (.ite (.advance ?_) (.failNext _))
  refine .fail (local_behindBlanks
    (k := fun x => if x = some (ascii ']') then failNext .trailingComma
      else failNext .trailingCharacters) fun _ => .ite (.failNext _) (.failNext _)) ?_
  refine bind_ne_ok fun _ => bind_ne_ok fun rest => ?_
  split
  · exact failNext_ne_ok _
  · exact failNext_ne_ok _

/-- What follows an element has to be there: a comma or a closing bracket. At the end of a text an
element is thus cut, even one that could be whole. -/
theorem ended_laterElements (fs : List Field) (g : Given) : Ended (laterElements fs g []) := by
  cases fs with
  | nil => exact ((Ended.peekToken_nil .list).bind _).bind _
  | cons f fs => exact ((Ended.peekToken_nil .list).bind _).bind _

/-- The elements behind the first one are needed up to the closing bracket, by induction on the
parts that are left. -/
theorem strict_laterElements (fs : List Field) (g : Given) : Strict (laterElements fs g) := by
  induction fs generalizing g with
  | nil => exact strict_closeList.map fun _ => g
  | cons f fs ih =>
    exact strict_laterElement.bind fun _ => .ite (.pure g)
      (strict_given_bind ih (ended_laterElements fs) g f)

/-- A list is needed whole, from its first element or its closing bracket on. -/
theorem strict_elements : Strict elements := by
  rw [elements_eq]
  exact strict_firstElement.bind fun _ => .ite (.pure _)
    (strict_given_bind (strict_laterElements _) (ended_laterElements _) _ _)

/-! ## Whole texts -/

/-- **A configuration is read by a strict decoder,** whether it is written as an object or as a
list. -/
theorem strict_value : Strict value :=
  .peek fun _ => .ite (.advance (strict_members.map _))
    (.ite (.advance (strict_elements.map _)) (strict_mismatch _).ahead)

/-- **A whole text is read by a local decoder:** a configuration, which is strict, and then the end
of the text. -/
theorem local_document : Local document :=
  strict_value.toLocal.bind fun _ => local_endOfText.map _

end Config

end DeviceReadings
