import Storefront.Proofs.Act

/-! # The tokens of new identifiers

A new identifier ends in a token of the supply.  Tokens are drawn until one turns up that was not
handed out before, whatever kind it was handed out for; the search is given up when as many were
drawn as may be, and all of them were handed out before.  Whoever asks for identifiers, and however
often a search is given up, no token is handed out twice.

* `Supply.upcoming`, `Supply.after` : the tokens that are drawn next, and the supply without them
* `on_freshToken` : how a search ends
* `newIds` : calls for identifiers, one after the other
* `newIds_seen` : what such calls hand out
* `tokens_new` : each call by itself, and no token twice -/

namespace Storefront

namespace Supply

/-- The next tokens of a kind, in the order in which they are drawn. -/
def upcoming (kind : String) : Nat → Supply → List String
  | 0, _ => []
  | n + 1, s => (token kind s).1 :: upcoming kind n (token kind s).2

/-- The supply after a number of tokens of a kind were drawn. -/
def after (kind : String) : Nat → Supply → Supply
  | 0, s => s
  | n + 1, s => after kind n (token kind s).2

/-- As many tokens are looked at as are asked for. -/
theorem length_upcoming (kind : String) (n : Nat) (s : Supply) :
    (upcoming kind n s).length = n := by
  induction n generalizing s with
  | zero => rfl
  | succ n ih => rw [upcoming, List.length_cons, ih]

end Supply

namespace Shop

/-! ### One search -/

/-- A search for a token draws up to the first that was not handed out before, or all that may be
drawn if they were all handed out. -/
theorem on_freshToken (kind : String) (n : Nat) (s : Shop) :
    (∃ used t rest, s.supply.upcoming kind n = used ++ t :: rest ∧ (∀ u ∈ used, u ∈ s.seen) ∧
      t ∉ s.seen ∧ Act.on (freshToken kind n) s =
        (.ok t, { s with
          seen := s.seen ++ [t]
          supply := s.supply.after kind (used.length + 1) })) ∨
    ((∀ t ∈ s.supply.upcoming kind n, t ∈ s.seen) ∧
      Act.on (freshToken kind n) s =
        (.error .exhausted, { s with supply := s.supply.after kind n })) := by
  induction n generalizing s with
  | zero => exact .inr ⟨List.forall_mem_nil _, rfl⟩
  | succ n ih =>
    obtain ⟨t, supply, drawn⟩ : ∃ t supply, s.supply.token kind = (t, supply) := ⟨_, _, rfl⟩
    have first : Act.on (supplied (Supply.token kind)) s = (.ok t, { s with supply }) := by
      show (Except.ok (s.supply.token kind).1, { s with supply := (s.supply.token kind).2 }) = _
      rw [drawn]
    have upcoming : s.supply.upcoming kind (n + 1) = t :: supply.upcoming kind n := by
      rw [Supply.upcoming, drawn]
    have after (m : Nat) : s.supply.after kind (m + 1) = supply.after kind m := by
      rw [Supply.after, drawn]
    rw [upcoming, freshToken, Act.on_bind_of_ok first, Act.on_bind_of_ok (Act.on_get _)]
    by_cases known : t ∈ s.seen
    · -- The search goes on with what the supply has left, and with the same tokens handed out.
      rw [if_pos known]
      rcases ih { s with supply } with ⟨used, t', rest, tokens, hused, hnew, found⟩ | ⟨all, failed⟩
      · refine .inl ⟨t :: used, t', rest, congrArg (t :: ·) tokens, ?_, hnew, ?_⟩
        · exact List.forall_mem_cons.2 ⟨known, hused⟩
        · rw [found, List.length_cons, after]
      · refine .inr ⟨List.forall_mem_cons.2 ⟨known, all⟩, ?_⟩
        rw [failed, after]
    · refine .inl ⟨[], t, _, rfl, List.forall_mem_nil _, known, ?_⟩
      rw [if_neg known, List.length_nil, after]
      rfl

/-- What the identifiers of a kind start with, with the slash that stands before their tokens. -/
def separated (start : String) : String :=
  if start.toList.getLast? = some '/' then start else start ++ "/"

/-- An identifier is its kind and a token, unless there is no kind. -/
theorem on_freshId {start : String} (h : start ≠ "") (s : Shop) :
    Act.on (freshId start) s =
      Act.on ((separated start ++ ·) <$> freshToken (tokenKind start) (maxCollisions + 1)) s := by
  rw [freshId, if_neg h, map_eq_pure_bind]
  rfl

/-! ### Several calls -/

/-- The outcomes of calls for new identifiers, one after the other and whether or not they succeed,
and the shop after them. -/
def newIds : List String → Shop → List (Except Fault String) × Shop
  | [], s => ([], s)
  | start :: starts, s =>
    let first := Act.on (freshId start) s
    let others := newIds starts first.2
    (first.1 :: others.1, others.2)

/-- The token of an identifier that was asked for, if there is one. -/
def tokenOf? (start : String) : Except Fault String → Option String
  | .ok id => some (Gid.dropStart (separated start) id)
  | .error _ => none

/-- The tokens that calls handed out, in the order of the calls. -/
def tokensOf : List String → List (Except Fault String) → List String
  | start :: starts, outcome :: outcomes =>
    (tokenOf? start outcome).toList ++ tokensOf starts outcomes
  | _, _ => []

end Shop

/-- The start of an identifier is dropped again. -/
theorem Gid.dropStart_append (start s : String) : dropStart start (start ++ s) = s := by
  have starts : startsWith (start ++ s) start = true := by
    simp [startsWith]
  rw [dropStart, if_pos starts, String.toList_append, ← String.length_toList, List.drop_left,
    String.ofList_toList]

namespace Shop

/-- A call hands out nothing, or a token that was not handed out before. -/
theorem freshId_seen (start : String) (s : Shop) :
    (tokenOf? start (Act.on (freshId start) s).1 = none ∧
      (Act.on (freshId start) s).2.seen = s.seen) ∨
    ∃ t, t ∉ s.seen ∧ tokenOf? start (Act.on (freshId start) s).1 = some t ∧
      (Act.on (freshId start) s).2.seen = s.seen ++ [t] := by
  -- Without a kind no token is drawn.
  by_cases h : start = ""
  · subst h
    exact .inl ⟨rfl, rfl⟩
  · rw [on_freshId h, Act.on_map]
    rcases on_freshToken (tokenKind start) (maxCollisions + 1) s with
      ⟨used, t, rest, -, -, hnew, found⟩ | ⟨-, failed⟩
    · rw [found]
      exact .inr ⟨t, hnew, congrArg some (Gid.dropStart_append _ t), rfl⟩
    · rw [failed]
      exact .inl ⟨rfl, rfl⟩

/-- Calls hand out tokens that were not handed out before, no two of them the same, and remember
them all. -/
theorem newIds_seen (starts : List String) (s : Shop) :
    (newIds starts s).2.seen = s.seen ++ tokensOf starts (newIds starts s).1 ∧
      (tokensOf starts (newIds starts s).1).Nodup ∧
      ∀ t ∈ tokensOf starts (newIds starts s).1, t ∉ s.seen := by
  induction starts generalizing s with
  | nil => exact ⟨(List.append_nil _).symm, List.nodup_nil, List.forall_mem_nil _⟩
  | cons start starts ih =>
    obtain ⟨seen, nodup, fresh⟩ := ih (Act.on (freshId start) s).2
    rw [newIds, tokensOf]
    rcases freshId_seen start s with ⟨none, same⟩ | ⟨t, hnew, some, more⟩
    · rw [same] at seen fresh
      rw [none]
      exact ⟨seen, nodup, fresh⟩
    · -- The later calls start where the token is remembered, so none of them hands it out.
      rw [more] at seen fresh
      rw [some]
      refine ⟨by rw [seen, List.append_assoc]; rfl, ?_, ?_⟩
      · exact List.nodup_cons.2 ⟨fun later => fresh t later (by simp), nodup⟩
      · exact List.forall_mem_cons.2 ⟨hnew, fun u hu known => fresh u hu (by simp [known])⟩

/-- A call draws at most twenty-one tokens.  It hands out the first of them that was not handed out
before and remembers it; if there is none, it fails after all twenty-one and remembers nothing.
Hence no calls, whatever they ask for and however many of them fail, hand out one token twice. -/
theorem tokens_new {start : String} (h : start ≠ "") (s : Shop) (starts : List String) :
    ((∃ used t rest, s.supply.upcoming (tokenKind start) 21 = used ++ t :: rest ∧
        (∀ u ∈ used, u ∈ s.seen) ∧ t ∉ s.seen ∧ used.length + 1 ≤ 21 ∧
        Act.on (freshId start) s = (.ok (separated start ++ t),
          { s with
            seen := s.seen ++ [t]
            supply := s.supply.after (tokenKind start) (used.length + 1) })) ∨
      ((∀ t ∈ s.supply.upcoming (tokenKind start) 21, t ∈ s.seen) ∧
        Act.on (freshId start) s =
          (.error .exhausted, { s with supply := s.supply.after (tokenKind start) 21 }))) ∧
      (tokensOf starts (newIds starts s).1).Nodup ∧
      ∀ t ∈ tokensOf starts (newIds starts s).1, t ∉ s.seen := by
  refine ⟨?_, (newIds_seen starts s).2⟩
  rw [on_freshId h, Act.on_map]
  -- The token that was found is among the 21 that come next, or all of them were seen.
  rcases on_freshToken (tokenKind start) (maxCollisions + 1) s with
    ⟨used, t, rest, tokens, hused, hnew, found⟩ | ⟨all, failed⟩
  · have drawn : (used ++ t :: rest).length = 21 :=
      tokens ▸ Supply.length_upcoming (tokenKind start) 21 s.supply
    have within : used.length + 1 ≤ 21 := by
      rw [List.length_append, List.length_cons] at drawn
      omega
    exact .inl ⟨used, t, rest, tokens, hused, hnew, within, by rw [found]; rfl⟩
  · exact .inr ⟨all, by rw [failed]; rfl⟩

/-- A shop that has handed out one token, with others to come. -/
def usedShop (tokens : List String) : Shop :=
  { new default (.fresh 0 0 tokens) with seen := ["used"] }

/-- The first twenty tokens were handed out before; after them only one that was not is left. -/
theorem tokens_new_sample :
    let s := usedShop (List.replicate 20 "used" ++ ["new"])
    let start := "gid://shopify/Cart"
    let starts := [start, "", "gid://shopify/CartLine/", start]
    start ≠ "" ∧
      ((∃ used t rest, s.supply.upcoming (tokenKind start) 21 = used ++ t :: rest ∧
          (∀ u ∈ used, u ∈ s.seen) ∧ t ∉ s.seen ∧ used.length + 1 ≤ 21 ∧
          Act.on (freshId start) s = (.ok (separated start ++ t),
            { s with
              seen := s.seen ++ [t]
              supply := s.supply.after (tokenKind start) (used.length + 1) })) ∨
        ((∀ t ∈ s.supply.upcoming (tokenKind start) 21, t ∈ s.seen) ∧
          Act.on (freshId start) s =
            (.error .exhausted, { s with supply := s.supply.after (tokenKind start) 21 }))) ∧
      (tokensOf starts (newIds starts s).1).Nodup ∧
      ∀ t ∈ tokensOf starts (newIds starts s).1, t ∉ s.seen := by
  intro s start starts
  have named : start ≠ "" := by decide
  exact ⟨named, tokens_new named s starts⟩

/-- The last token that may be drawn is still handed out; of more used ones the search does not get
to see the new one, which the next call begins with. -/
example :
    (newIds ["gid://shopify/Cart"]
      (usedShop (List.replicate 20 "used" ++ ["new"]))).1.map Except.toOption =
      [some "gid://shopify/Cart/new"] ∧
    (newIds ["gid://shopify/Cart", "gid://shopify/Cart/"]
      (usedShop (List.replicate 21 "used" ++ ["new"]))).1.map Except.toOption =
      [none, some "gid://shopify/Cart/new"] := by decide +kernel

end Shop
end Storefront
