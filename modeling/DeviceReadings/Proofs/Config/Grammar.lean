import DeviceReadings.Config.Decode
import DeviceReadings.Proofs.Json.Tokens

/-!
# The grammar of configurations

Which texts are configurations, and which configurations they are. A text assigns values to some of
the parts of a configuration (`ConfigTokens`): as the members of an object, in any order and with
different keys, or as the elements of a list, in the order of the parts. What is not assigned keeps
its default. `Config.Denotes` is the relation between a text and the configuration that it means.
-/

namespace DeviceReadings

open Json

/-! ## Assignments -/

/-- A part of a configuration with a value for it. -/
inductive Assignment where
  | seedPolicy (kind : PolicyKind)
  | fixedSeed (seed : Option UInt64)
  | backend (backend : Backend)
  deriving DecidableEq, Repr

/-- The part that a value is assigned to. -/
def Assignment.field : Assignment → Field
  | seedPolicy _ => .seedPolicy
  | fixedSeed _ => .fixedSeed
  | backend _ => .backend

/-- A configuration with a value assigned to one part. -/
def Config.assign (c : Config) : Assignment → Config
  | .seedPolicy kind => { c with seedPolicy := kind }
  | .fixedSeed seed => { c with fixedSeed := seed }
  | .backend backend => { c with backend := backend }

/-! ## Values -/

/-- One of several names, as a string or as the only key of an object whose value is `null`. -/
inductive NameTokens {α : Type} (names : List (String × α)) : List Token → α → Prop where
  | string {name : List Char} {a : α} (h : named? names name = some a) :
      NameTokens names [.string name] a
  | object {name : List Char} {a : α} (h : named? names name = some a) :
      NameTokens names [.mark '{', .string name, .mark ':', .null, .mark '}'] a

/-- No seed, or one of 64 bits. -/
inductive SeedTokens : List Token → Option UInt64 → Prop where
  | null : SeedTokens [.null] none
  | natural {n : Nat} (h : n < UInt64.size) : SeedTokens [.natural n] (some (UInt64.ofNat n))

/-- The value of an assignment. -/
inductive ValueTokens : List Token → Assignment → Prop where
  | seedPolicy {toks : List Token} {kind : PolicyKind} (h : NameTokens PolicyKind.names toks kind) :
      ValueTokens toks (.seedPolicy kind)
  | fixedSeed {toks : List Token} {seed : Option UInt64} (h : SeedTokens toks seed) :
      ValueTokens toks (.fixedSeed seed)
  | backend {toks : List Token} {backend : Backend} (h : NameTokens Backend.names toks backend) :
      ValueTokens toks (.backend backend)

/-- An assignment with the name of its part for a key. -/
inductive MemberTokens : List Token → Assignment → Prop where
  | mk {key : List Char} {toks : List Token} {a : Assignment}
      (hkey : named? Field.names key = some a.field) (h : ValueTokens toks a) :
      MemberTokens (.string key :: .mark ':' :: toks) a

/-! ## Objects and lists -/

section

variable (item : List Token → Assignment → Prop) (closing : Char)

/-- What follows an item: more items, each behind a comma, up to the closing mark. -/
inductive LaterItems : List Token → List Assignment → Prop where
  | close : LaterItems [.mark closing] []
  | next {toks rest : List Token} {a : Assignment} {as : List Assignment} (hitem : item toks a)
      (hrest : LaterItems rest as) : LaterItems (.mark ',' :: (toks ++ rest)) (a :: as)

/-- Items with commas between them, up to the closing mark. -/
inductive Items : List Token → List Assignment → Prop where
  | close : Items [.mark closing] []
  | first {toks rest : List Token} {a : Assignment} {as : List Assignment} (hitem : item toks a)
      (hrest : LaterItems item closing rest as) : Items (toks ++ rest) (a :: as)

end

/-- There are no items before the closing mark, or a first one and others. A reader that looks for a
first item and then for later ones is compared with this form. -/
theorem items_iff {item : List Token → Assignment → Prop} {closing : Char} {toks : List Token}
    {as : List Assignment} :
    Items item closing toks as ↔
      toks = [.mark closing] ∧ as = [] ∨
        ∃ u v a later, toks = u ++ v ∧ as = a :: later ∧ item u a ∧
          LaterItems item closing v later := by
  refine ⟨?_, ?_⟩
  · intro h
    cases h with
    | close => exact .inl ⟨rfl, rfl⟩
    | first hitem hrest => exact .inr ⟨_, _, _, _, rfl, rfl, hitem, hrest⟩
  · intro h
    rcases h with ⟨rfl, rfl⟩ | ⟨u, v, a, later, rfl, rfl, hitem, hrest⟩
    · exact .close
    · exact .first hitem hrest

/-- A whole configuration, as an object with different keys or as a list in the order of the
parts. -/
inductive ConfigTokens : List Token → List Assignment → Prop where
  | object {toks : List Token} {as : List Assignment} (h : Items MemberTokens '}' toks as)
      (hdistinct : (as.map Assignment.field).Nodup) : ConfigTokens (.mark '{' :: toks) as
  | list {toks : List Token} {as : List Assignment} (h : Items ValueTokens ']' toks as)
      (horder : as.map Assignment.field <+: [.seedPolicy, .fixedSeed, .backend]) :
      ConfigTokens (.mark '[' :: toks) as

/-- The configuration of some assignments. -/
def Config.ofAssignments (as : List Assignment) : Config :=
  as.foldl Config.assign Config.default

/-- A text that is a configuration with any blanks around it. -/
def Config.Denotes (t : List Char) (c : Config) : Prop :=
  ∃ toks as r, Begins t toks r ∧ Blanks r ∧ ConfigTokens toks as ∧ c = Config.ofAssignments as

end DeviceReadings
