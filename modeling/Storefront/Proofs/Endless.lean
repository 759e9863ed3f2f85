import Storefront.Proofs.Step

/-! # Shops that do not run out of identifiers

A search for a new token is given up after too many collisions.  A shop is endless if no search
fails, however many there are.  What tokens are found depends on nothing but the tokens that were
handed out and those that the supply has, so that an endless shop stays endless whatever else is
done in it.  A supply that makes up all of its tokens makes the shop endless.

* `Endless` : a new token is always found
* `Exhausts` : actions that fail only in a shop that is not endless
* `endless_new` : an endless shop -/

namespace Storefront.Shop

open Act (Within Carries)

variable {s s' : Shop} {α β : Type}

/-- Searches for new tokens of the kinds, one after the other. -/
def freshTokens (kinds : List String) : Act Shop (List String) :=
  kinds.mapM fun kind => freshToken kind (maxCollisions + 1)

/-- However many tokens are asked for, and of whatever kinds, each is found. -/
def Endless (s : Shop) : Prop := ∀ kinds, ∃ ts, (Act.on (freshTokens kinds) s).1 = .ok ts

/-! ### What tokens depend on -/

/-- The shops have handed out the same tokens and have the same ones left. -/
structure SameTokens (s s' : Shop) : Prop where
  seen : s'.seen = s.seen
  tokens : s'.supply.tokens = s.supply.tokens
  counts : s'.supply.tokenCounts = s.supply.tokenCounts

/-- A shop has the same tokens as itself. -/
theorem SameTokens.refl (s : Shop) : SameTokens s s := ⟨rfl, rfl, rfl⟩

namespace SameTokens

/-- The supply hands out the same token. -/
theorem supply_token (h : SameTokens s s') (kind : String) :
    (Supply.token kind s'.supply).1 = (Supply.token kind s.supply).1 ∧
      SameTokens { s with supply := (Supply.token kind s.supply).2 }
        { s' with supply := (Supply.token kind s'.supply).2 } := by
  unfold Supply.token
  rw [h.tokens, h.counts]
  split
  · exact ⟨rfl, h.seen, rfl, rfl⟩
  · exact ⟨rfl, h.seen, rfl, rfl⟩

/-- The same token is found, or none is. -/
theorem on_freshToken (h : SameTokens s s') (kind : String) (n : Nat) :
    (Act.on (freshToken kind n) s').1 = (Act.on (freshToken kind n) s).1 ∧
      SameTokens (Act.on (freshToken kind n) s).2 (Act.on (freshToken kind n) s').2 := by
  -- The induction is on the tries that are left.
  induction n generalizing s s' with
  | zero => exact ⟨rfl, h⟩
  | succ n ih =>
    obtain ⟨same, h₁⟩ := h.supply_token kind
    have drawn : ∀ s : Shop, Act.on (supplied (Supply.token kind)) s =
        (.ok (Supply.token kind s.supply).1, { s with supply := (Supply.token kind s.supply).2 }) :=
      fun _ => rfl
    rw [freshToken, Act.on_bind_of_ok (drawn s), Act.on_bind_of_ok (drawn s'),
      Act.on_bind_of_ok (Act.on_get _), Act.on_bind_of_ok (Act.on_get _), same]
    by_cases known : (Supply.token kind s.supply).1 ∈ s.seen
    · rw [if_pos known, if_pos (h.seen ▸ known)]
      exact ih h₁
    · rw [if_neg known, if_neg (h.seen ▸ known)]
      exact ⟨rfl, congrArg (· ++ [_]) h.seen, h₁.tokens, h₁.counts⟩

/-- Searches for any number of tokens find the same. -/
theorem on_freshTokens (h : SameTokens s s') (kinds : List String) :
    (Act.on (freshTokens kinds) s').1 = (Act.on (freshTokens kinds) s).1 := by
  induction kinds generalizing s s' with
  | nil => rfl
  | cons kind kinds ih =>
    obtain ⟨same, later⟩ := h.on_freshToken kind (maxCollisions + 1)
    rw [freshTokens, List.mapM_cons, Act.on_bind, Act.on_bind]
    -- Each search comes to the same in both shops, so the cases in which they differ are
    -- impossible.
    rcases hr : Act.on (freshToken kind (maxCollisions + 1)) s with ⟨f | t, s₁⟩ <;>
      rcases hr' : Act.on (freshToken kind (maxCollisions + 1)) s' with ⟨f' | t', s₁'⟩ <;>
      rw [hr, hr'] at same later
    · obtain rfl := Except.error.inj same
      rfl
    · cases same
    · cases same
    · obtain rfl := Except.ok.inj same
      have rest := ih later
      dsimp only
      rw [← freshTokens, Act.on_bind, Act.on_bind]
      rcases hs : Act.on (freshTokens kinds) s₁ with ⟨f | ts, s₂⟩ <;>
        rcases hs' : Act.on (freshTokens kinds) s₁' with ⟨f' | ts', s₂'⟩ <;>
        rw [hs, hs'] at rest
      · obtain rfl := Except.error.inj rest
        rfl
      · cases rest
      · cases rest
      · obtain rfl := Except.ok.inj rest
        rfl

end SameTokens

/-- A shop with the tokens of an endless one is endless. -/
theorem Endless.of_same (h : s.Endless) (same : SameTokens s s') : s'.Endless := by
  intro kinds
  obtain ⟨ts, found⟩ := h kinds
  exact ⟨ts, (same.on_freshTokens kinds).trans found⟩

/-- A token is found, and so are those after it. -/
theorem Endless.exists_token (h : s.Endless) (kind : String) : ∃ t s',
    Act.on (freshToken kind (maxCollisions + 1)) s = (.ok t, s') ∧ s'.Endless := by
  -- A longer list of kinds starts with the search for this one.
  have first : ∀ kinds, ∃ t s', Act.on (freshToken kind (maxCollisions + 1)) s = (.ok t, s') ∧
      ∃ ts, (Act.on (freshTokens kinds) s').1 = .ok ts := by
    intro kinds
    obtain ⟨ts, found⟩ := h (kind :: kinds)
    rw [freshTokens, List.mapM_cons] at found
    obtain ⟨t, s', first, found⟩ := Act.on_bind_eq_ok.1 (Prod.ext found rfl)
    obtain ⟨ts, s'', rest, -⟩ := Act.on_bind_eq_ok.1 found
    exact ⟨t, s', first, ts, congrArg Prod.fst rest⟩
  obtain ⟨t, s', found, -⟩ := first []
  refine ⟨t, s', found, fun kinds => ?_⟩
  -- All lists of kinds find the same first token, as the search does not depend on the list.
  obtain ⟨_, _, found', rest⟩ := first kinds
  obtain ⟨-, rfl⟩ := Prod.mk.inj (found.symm.trans found')
  exact rest

/-! ### Lack of identifiers -/

/-- The action fails only for lack of identifiers, and in no endless shop; an endless shop
stays so. -/
structure Exhausts (x : Act Shop α) : Prop where
  fails : ∀ {s fault s'}, Act.on x s = (.error fault, s') → ¬ s.Endless ∧ fault = .exhausted
  lasts : Within (Carries Endless) x

namespace Exhausts

variable {x : Act Shop α}

/-- The action does not fail, and no tokens are taken. -/
theorem of_same (h : ∀ s, ∃ a s', Act.on x s = (.ok a, s') ∧ SameTokens s s') : Exhausts x where
  fails {s _ _} failed := by
    obtain ⟨a, s', done, -⟩ := h s
    cases done.symm.trans failed
  lasts s endless := by
    obtain ⟨a, s', done, same⟩ := h s
    rw [done]
    exact endless.of_same same

/-- A result is there without a token. -/
protected theorem pure (a : α) : Exhausts (pure a) := of_same fun s => ⟨a, s, rfl, .refl s⟩

/-- To look at the shop takes no token. -/
protected theorem get : Exhausts (get : Act Shop Shop) := of_same fun s => ⟨s, s, rfl, .refl s⟩

/-- If each of two steps can only run out of tokens, so can both in a row. -/
protected theorem bind {f : α → Act Shop β} (hx : Exhausts x) (hf : ∀ a, Exhausts (f a)) :
    Exhausts (x >>= f) where
  fails h := by
    rcases Act.on_bind_eq_error.1 h with h | ⟨a, s₁, ha, h⟩
    · exact hx.fails h
    · obtain ⟨finite, exhausted⟩ := (hf a).fails h
      exact ⟨fun endless => finite (hx.lasts.of_on ha endless), exhausted⟩
  lasts := .bind hx.lasts fun a => (hf a).lasts

/-- What is made of a result afterwards needs no token. -/
protected theorem map (g : α → β) (hx : Exhausts x) : Exhausts (g <$> x) := by
  rw [map_eq_pure_bind]
  exact hx.bind fun _ => .pure _

/-- Nor does it matter how many items there are to go through. -/
theorem mapM {f : α → Act Shop β} (hf : ∀ a, Exhausts (f a)) (as : List α) :
    Exhausts (as.mapM f) := by
  induction as with
  | nil => exact .pure []
  | cons a as ih =>
    rw [List.mapM_cons]
    exact (hf a).bind fun _ => ih.bind fun _ => .pure _

end Exhausts

/-- To ask for an entity takes no token. -/
theorem has_exhausts (kind : String) (id : Key) : Exhausts (has kind id) :=
  .of_same fun s => ⟨_, s, on_has s kind id, .refl s⟩

/-- To find an entity takes no token. -/
theorem find?_exhausts (kind : String) (id : Key) : Exhausts (find? kind id) :=
  .of_same fun s => ⟨_, s, on_find? s kind id, .refl s⟩

/-- To keep an entity takes no token. -/
theorem keep_exhausts (kind : String) (id : Key) (e : Entity) : Exhausts (keep kind id e) :=
  .of_same fun s => ⟨(), _, on_keep s kind id e, ⟨rfl, rfl, rfl⟩⟩

/-- What is drawn aside from tokens is always drawn. -/
theorem supplied_exhausts {draw : Supply → α × Supply}
    (aside : ∀ u, (draw u).2.tokens = u.tokens ∧ (draw u).2.tokenCounts = u.tokenCounts) :
    Exhausts (supplied draw) :=
  .of_same fun s => ⟨_, _, rfl, rfl, (aside s.supply).1, (aside s.supply).2⟩

/-- A search for a token can only be given up. -/
theorem freshToken_exhausts (kind : String) : Exhausts (freshToken kind (maxCollisions + 1)) where
  fails {s fault s'} h := by
    -- That it is given up for lack of identifiers is shown try by try.
    refine ⟨fun endless => ?_, ?_⟩
    · obtain ⟨t, s₁, found, -⟩ := endless.exists_token kind
      cases found.symm.trans h
    · revert s h
      induction maxCollisions + 1 with
      | zero => exact fun h => (Except.error.inj (Prod.mk.inj h).1).symm
      | succ n ih =>
        intro s h
        rw [freshToken] at h
        rcases Act.on_bind_eq_error.1 h with h | ⟨token, s₁, -, h⟩
        · cases h
        · rw [Act.on_bind_of_ok (Act.on_get _)] at h
          split at h
          · exact ih h
          · cases h
  lasts s endless := by
    obtain ⟨t, s', found, later⟩ := endless.exists_token kind
    rw [found]
    exact later

/-- So can a search for an identifier. -/
theorem freshId_exhausts {start : String} (hne : start ≠ "") : Exhausts (freshId start) := by
  unfold freshId
  rw [if_neg hne]
  exact (freshToken_exhausts _).bind fun _ => .pure _

/-! ### Supplies that make up their tokens -/

/-- A token that a supply makes up of a kind. -/
def madeUp (kind : String) (n : Nat) : String := kind ++ "-" ++ Decimal.whole n

/-- The text of a token that is made up is its kind, a dash and its number. -/
theorem toList_madeUp (kind : String) (n : Nat) :
    (madeUp kind n).toList = kind.toList ++ '-' :: Decimal.digits n := by
  simp [madeUp, Decimal.whole]

/-- A number has no dash in it. -/
theorem dash_not_mem_digits (n : Nat) : '-' ∉ Decimal.digits n := fun h => by
  cases Nat.isDigit_of_mem_toDigits (by decide) (by decide) h

/-- What follows the last dash of a token is its number. -/
theorem madeUp_inj {kind kind' : String} {n n' : Nat} (h : madeUp kind n = madeUp kind' n') :
    kind = kind' ∧ n = n' := by
  -- Two texts that are split at a last dash are split alike.
  have split : ∀ {a b c d : List Char}, '-' ∉ c → '-' ∉ d → a ++ '-' :: c = b ++ '-' :: d →
      a = b ∧ c = d := by
    intro a b c d hc hd h
    rcases List.append_eq_append_iff.1 h with ⟨e, rfl, h⟩ | ⟨e, rfl, h⟩ <;> cases e <;> simp_all
  have lists := congrArg String.toList h
  rw [toList_madeUp, toList_madeUp] at lists
  obtain ⟨kinds, numbers⟩ := split (dash_not_mem_digits n) (dash_not_mem_digits n') lists
  have read := congrArg (Nat.ofDigitChars 10 · 0) numbers
  simp only [Decimal.digits, Nat.ofDigitChars_toDigits (by decide : 1 < 10) (by decide)] at read
  exact ⟨String.toList_injective kinds, read⟩

/-- All tokens are made up, and those that were handed out were counted. -/
structure MakesUp (s : Shop) : Prop where
  tokens : s.supply.tokens = []
  seen : ∀ t ∈ s.seen, ∃ kind n, t = madeUp kind n ∧ n ≤ Supply.countOf s.supply.tokenCounts kind

/-- One count is changed at a time. -/
theorem countOf_put (counts : List (String × Nat)) (kind other : String) (n : Nat) :
    Supply.countOf (Assoc.put counts kind n) other =
      if other = kind then n else Supply.countOf counts other := by
  unfold Supply.countOf
  split
  · rename_i same
    rw [same, Assoc.get?_put_self, Option.getD_some]
  · rename_i differs
    rw [Assoc.get?_put_of_ne _ (by simpa using differs)]

/-- The next token of a kind is a new one. -/
theorem MakesUp.exists_token (h : s.MakesUp) (kind : String) (n : Nat) : ∃ t s',
    Act.on (freshToken kind (n + 1)) s = (.ok t, s') ∧ s'.MakesUp := by
  obtain ⟨count, hcount⟩ : ∃ count, count = Supply.countOf s.supply.tokenCounts kind := ⟨_, rfl⟩
  obtain ⟨supply, hsupply⟩ : ∃ supply, supply = { s.supply with
    tokenCounts := Assoc.put s.supply.tokenCounts kind (count + 1) } := ⟨_, rfl⟩
  -- All tokens that were handed out have numbers up to the count of their kind, and this one is
  -- larger.
  have new : madeUp kind (count + 1) ∉ s.seen := fun known => by
    obtain ⟨kind', n, same, counted⟩ := h.seen _ known
    obtain ⟨rfl, rfl⟩ := madeUp_inj same
    omega
  have next : Supply.token kind s.supply = (madeUp kind (count + 1), supply) := by
    unfold Supply.token
    split
    · rename_i given
      cases h.tokens.symm.trans given
    · rw [hsupply, hcount]
      rfl
  have drawn : Act.on (supplied (Supply.token kind)) s =
      (.ok (madeUp kind (count + 1)), { s with supply }) := by
    show (Except.ok (Supply.token kind s.supply).1,
      { s with supply := (Supply.token kind s.supply).2 }) = _
    rw [next]
  refine ⟨madeUp kind (count + 1), { s with seen := s.seen ++ [madeUp kind (count + 1)], supply },
    ?_, by rw [hsupply]; exact h.tokens, fun t ht => ?_⟩
  · rw [freshToken, Act.on_bind_of_ok drawn, Act.on_bind_of_ok (Act.on_get _), if_neg new]
    rfl
  · rw [hsupply]
    dsimp only
    -- The counts that grow still bound all numbers that were handed out.
    rcases List.mem_append.1 ht with known | ht
    · obtain ⟨kind', n, rfl, counted⟩ := h.seen t known
      refine ⟨kind', n, rfl, ?_⟩
      rw [countOf_put]
      split
      · rename_i same
        subst same
        omega
      · exact counted
    · refine ⟨kind, count + 1, List.mem_singleton.1 ht, Nat.le_of_eq ?_⟩
      rw [countOf_put, if_pos rfl]

/-- A shop that makes up its tokens is endless. -/
theorem MakesUp.endless (h : s.MakesUp) : s.Endless := by
  intro kinds
  induction kinds generalizing s with
  | nil => exact ⟨[], rfl⟩
  | cons kind kinds ih =>
    obtain ⟨t, s', found, later⟩ := h.exists_token kind maxCollisions
    obtain ⟨ts, rest⟩ := ih later
    refine ⟨t :: ts, ?_⟩
    rw [freshTokens, List.mapM_cons, Act.on_bind_of_ok found, ← freshTokens,
      Act.on_bind_of_ok (Prod.ext rest rfl)]
    rfl

/-- A new shop whose supply makes up all tokens does not run out of them. -/
theorem endless_new (context : Context) (now seed : Int) :
    (Shop.new context (.fresh now seed [])).Endless :=
  MakesUp.endless ⟨rfl, nofun⟩

end Storefront.Shop
