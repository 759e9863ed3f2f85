import Storefront.Proofs.Additions

/-! # Removing lines from a cart

Removing lines takes away those that are named and leaves all others as they are, in their order.
It does not matter whether lines are named at once or in two goes, or twice; and since no line of a
cart ever has the identifier of another, lines that were added for new variants can be taken away
again.

* `removeLines_relinesBy` : a removal does nothing but take lines away
* `lines_of_addLines_new` : adding new variants leaves all lines as they are and appends others
* `Reachable.removals_exact` : what a removal comes to, in one go, in two, and after an addition -/

namespace Storefront

namespace Cart

/-- The lines that none of some identifiers, in any form, names. -/
def unnamed (ids : List String) (ls : List Line) : List Line :=
  ls.filter fun l => l.id ∉ ids.map Gid.decode

/-- Which lines a removal names depends on their ids only, so prices may be left out before or
after. -/
theorem map_bare_unnamed (ids : List String) (ls : List Line) :
    (unnamed ids ls).map Line.bare = unnamed ids (ls.map Line.bare) := by
  rw [unnamed, unnamed, List.filter_map]
  rfl

/-- Leaving out what some identifiers name and then what others do leaves out what either name. -/
theorem unnamed_unnamed (xs ys : List String) (ls : List Line) :
    unnamed ys (unnamed xs ls) = unnamed (xs ++ ys) ls := by
  rw [unnamed, unnamed, List.filter_filter, unnamed]
  refine List.filter_congr fun l _ => ?_
  simp only [List.map_append, List.mem_append, not_or, Bool.decide_and]
  exact Bool.and_comm _ _

/-- Naming the same lines twice removes nothing more. -/
theorem unnamed_append_self (ids : List String) (ls : List Line) :
    unnamed (ids ++ ids) ls = unnamed ids ls :=
  List.filter_congr fun l _ => by simp

/-- A removal of what another one left is the removal of both lists at once. -/
theorem map_bare_unnamed_append (xs ys : List String) {ls ls' : List Line}
    (h : ls'.map Line.bare = (unnamed xs ls).map Line.bare) :
    (unnamed ys ls').map Line.bare = (unnamed (xs ++ ys) ls).map Line.bare := by
  rw [map_bare_unnamed, h, ← map_bare_unnamed, unnamed_unnamed]

/-- Where no two lines have the same identifier, leaving out those that the identifiers of the last
lines name leaves the lines before them. -/
theorem unnamed_drop {ids : List String} {ls : List Line} {n : Nat} (h : (ls.map (·.id)).Nodup)
    (hids : ∀ i, i ∈ ids.map Gid.decode ↔ i ∈ (ls.drop n).map (·.id)) :
    unnamed ids ls = ls.take n := by
  have cut : ls.take n ++ ls.drop n = ls := List.take_append_drop n ls
  -- the ids differ from each other, so none stands on both sides of the cut
  rw [← cut, List.map_append, List.nodup_append] at h
  obtain ⟨-, -, apart⟩ := h
  -- no line before the cut is named
  have first : (ls.take n).filter (fun l => l.id ∉ ids.map Gid.decode) = ls.take n := by
    refine List.filter_eq_self.2 fun l hl => decide_eq_true fun named => ?_
    exact apart _ (List.mem_map_of_mem hl) _ ((hids _).1 named) rfl
  -- and every line after it is
  have last : (ls.drop n).filter (fun l => l.id ∉ ids.map Gid.decode) = [] := by
    refine List.filter_eq_nil_iff.2 fun l hl => ?_
    simpa using (hids l.id).2 (List.mem_map_of_mem hl)
  calc unnamed ids ls = unnamed ids (ls.take n ++ ls.drop n) := by rw [cut]
    _ = ls.take n := by rw [unnamed, List.filter_append, first, last, List.append_nil]

/-- Whether quantities can be counted does not depend on what the lines cost. -/
theorem countable_of_map_bare {ls ls' : List Line} (h : ls.map Line.bare = ls'.map Line.bare) :
    (∀ l ∈ ls, Decimal.ofInt? l.quantity ≠ none) ↔
      ∀ l ∈ ls', Decimal.ofInt? l.quantity ≠ none := by
  have quantities : ls.map (·.quantity) = ls'.map (·.quantity) :=
    Line.map_comp_bare h (·.quantity)
  have counted : ∀ ls : List Line, (∀ l ∈ ls, Decimal.ofInt? l.quantity ≠ none) ↔
      ∀ n ∈ ls.map (·.quantity), Decimal.ofInt? n ≠ none := by
    intro ls
    rw [List.forall_mem_map]
  rw [counted, quantities, ← counted]

end Cart

namespace Shop

variable {s s' s₁ : Shop} {id country country₁ country₂ : Value} {k : String} {c c₁ : Cart}
  {a : Option KeptCart} {r : Except Fault (Option KeptCart)} {lines : List Value}
  {ids xs ys : List String}

/-! ### One removal -/

/-- A removal does nothing but take lines away. -/
theorem removeLines_relinesBy (hne : ids ≠ []) (hids : "" ∉ ids) :
    (CartEdit.removeLines (.texts ids)).RelinesBy (Cart.unnamed ids) := by
  intro country c s _
  -- The guards let a list through that is not empty and has no empty text in it.
  have listed :
      ¬ ((ids.map Value.text).isEmpty || !(ids.map Value.text).all (·.truthy)) = true := by
    simpa [hne, Value.truthy] using hids
  -- Texts are decoded one by one and none of them fails.
  have decoded : (ids.map Value.text).mapM (fun v => do (← Gid.decodeValue v).asText) =
      (.ok (ids.map Gid.decode) : Except Fault (List String)) := by
    rw [List.mapM_map]
    exact List.mapM_pure
  -- The code keeps the lines whose id is not listed, which is what `unnamed` says.
  have kept : c.lines.filter (fun l => !(ids.map Gid.decode).contains l.id) =
      Cart.unnamed ids c.lines := by
    refine List.filter_congr fun l _ => ?_
    rw [List.contains_eq_mem, decide_not]
  rw [CartEdit.draft, CartEdit.listed, Value.texts, Value.elementsOrNone_list,
    Act.on_bind_of_ok (Act.on_lift _ s)]
  show Act.on (liftM (withRemovals (ids.map .text) (.made c))) s = _
  rw [withRemovals, if_neg listed, decoded, ← kept]
  rfl

/-! ### Two removals -/

/-- Removing lines in two goes, at whatever times, leaves the same behind as removing them at once.
The first go returns exactly if the quantities that it leaves can be counted. -/
theorem removeLines_append (hs : Coherent s) (hid : Names id k) (hc : s.HasCart k c) (hxs : xs ≠ [])
    (hys : ys ≠ []) (htexts : "" ∉ xs ++ ys)
    (h : Act.on (Shop.removeLines id country (.texts (xs ++ ys))) s = (.ok a, s')) (t₁ t₂ : Int) :
    ((∃ b s₁, Act.on (Shop.removeLines id country (.texts xs)) (s.atTime t₁) = (.ok b, s₁)) ↔
      ∀ l ∈ Cart.unnamed xs c.lines, Decimal.ofInt? l.quantity ≠ none) ∧
    ∃ a₂ s₂, Act.on (Shop.removeLines id country (.texts ys))
        ((Act.on (Shop.removeLines id country (.texts xs)) (s.atTime t₁)).2.atTime t₂) =
          (.ok a₂, s₂) ∧
      ReturnsAlike k a s' a₂ s₂ := by
  have both := removeLines_relinesBy (List.append_ne_nil_of_left_ne_nil hxs ys) htexts
  have first := removeLines_relinesBy hxs fun none => htexts (List.mem_append_left ys none)
  have second := removeLines_relinesBy hys fun none => htexts (List.mem_append_right xs none)
  -- the batch succeeded, so the market could be stood for
  obtain ⟨market, -⟩ := (exists_run_iff both hs hid hc).1 ⟨a, s', h⟩
  constructor
  · -- the first half can fail only by a quantity it leaves that cannot be counted
    exact (exists_run_iff first (coherent_atTime hs t₁) hid hc).trans (and_iff_right market)
  · exact run_run_alike both first second (fun _ _ => Cart.map_bare_unnamed_append xs ys) hs hid hc
      h t₁ t₂

/-- Removing lines once more, at whatever times, changes nothing. -/
theorem removeLines_again (hs : Coherent s) (hid : Names id k) (hc : s.HasCart k c) (hne : ids ≠ [])
    (htexts : "" ∉ ids) (h : Act.on (Shop.removeLines id country (.texts ids)) s = (.ok a, s'))
    (t₁ t₂ : Int) : ∃ b s₁ a₂ s₂,
      Act.on (Shop.removeLines id country (.texts ids)) (s.atTime t₁) = (.ok b, s₁) ∧
      Act.on (Shop.removeLines id country (.texts ids)) (s₁.atTime t₂) = (.ok a₂, s₂) ∧
      ReturnsAlike k a s' a₂ s₂ := by
  have removal := removeLines_relinesBy hne htexts
  have twice : ∀ ls ls' : List Line, ls'.map Line.bare = (Cart.unnamed ids ls).map Line.bare →
      (Cart.unnamed ids ls').map Line.bare = (Cart.unnamed ids ls).map Line.bare := by
    -- removing again what is gone already changes nothing
    intro ls ls' same
    rw [Cart.map_bare_unnamed_append ids ids same, Cart.unnamed_append_self]
  -- What is removed again was left by a run that succeeded, so its quantities can be counted.
  obtain ⟨b, s₁, first⟩ :=
    exists_run_of_le removal removal hs hid hc (fun l hl => ⟨l, hl, le_rfl⟩) h t₁
  obtain ⟨a₂, s₂, second, alike⟩ := run_run_alike removal removal removal twice hs hid hc h t₁ t₂
  rw [first] at second
  exact ⟨b, s₁, a₂, s₂, first, second, alike⟩

/-! ### A removal after an addition -/

/-- The requests that are read from a batch name what its lines name. -/
theorem exists_line_of_lineRequests {idName : String} {rs : List LineRequest}
    (h : lineRequests idName lines = .ok (some rs)) :
    ∀ r ∈ rs, ∃ line ∈ lines, line.member idName = .ok r.id := by
  induction lines generalizing rs with
  | nil =>
    obtain rfl : [] = rs := Option.some.inj (Except.ok.inj h)
    exact nofun
  | cons line lines ih =>
    -- Each guard of the loop either ends it, so there is no batch, or passes the entry on to the
    -- rest.
    simp only [lineRequests, Act.except_bind_eq_ok] at h
    obtain ⟨id, hid, h⟩ := h
    split at h
    · cases h
    · obtain ⟨quantity, -, h⟩ := Act.except_bind_eq_ok.1 h
      split at h
      · cases h
      · obtain ⟨attributes, -, h⟩ := Act.except_bind_eq_ok.1 h
        obtain ⟨rest, hrest, h⟩ := Act.except_bind_eq_ok.1 h
        obtain ⟨rs', rfl, rfl⟩ := Option.map_eq_some_iff.1 (Except.ok.inj h)
        -- this entry is the one read from this line
        refine List.forall_mem_cons.2 ⟨⟨line, List.mem_cons_self, hid⟩, fun r hr => ?_⟩
        -- the others are read from the rest
        obtain ⟨line', hline', hmember⟩ := ih hrest r hr
        exact ⟨line', List.mem_cons_of_mem _ hline', hmember⟩

/-- An addition with a draft was asked for lines that are in order. -/
theorem exists_requests_of_draft {o : KeptCart}
    (h : Act.on ((CartEdit.addLines (.list lines)).draft country (.made c)) s =
      (.ok (some o), s')) :
    ∃ rs, requestsOf "merchandiseId" lines = .ok (some rs) ∧
      ∀ r ∈ rs, ∃ line ∈ lines, line.member "merchandiseId" = .ok r.id := by
  rw [CartEdit.draft, CartEdit.listed, Value.elementsOrNone_list,
    Act.on_bind_of_ok (Act.on_lift _ s), CartEdit.change, withAdditions] at h
  -- A batch that cannot be read leaves no draft.
  obtain ⟨_ | rs, hr, h⟩ := Act.on_lift_bind_eq_ok.1 h
  · cases h
  · refine ⟨rs, hr, exists_line_of_lineRequests ?_⟩
    rw [requestsOf] at hr
    split at hr
    · cases hr
    · exact hr

/-- Adding lines for variants of which a cart has none leaves those that it has as they are and
appends others, whether or not the addition returns. -/
theorem lines_of_addLines_new (hs : Coherent s) (hid : Names id k) (hc : s.HasCart k c)
    (new : ∀ line ∈ lines, ∀ named, line.member "merchandiseId" = .ok (.text named) →
      Gid.decode named ∉ c.lines.map (·.variant))
    (h : Act.on (Shop.addLines id country (.list lines)) s = (r, s₁)) (hc₁ : s₁.HasCart k c₁) :
    ∃ added, c₁.lines.map Line.bare = c.lines.map Line.bare ++ added := by
  have keeps : ∀ {o s₂}, Act.on ((CartEdit.addLines (.list lines)).draft country (.made c)) s =
      (o, s₂) → s₂.HasCart k c := fun hd =>
    (((CartEdit.draft_isEdit country _ _).grows.of_on hd).keeps.hasCart_iff k c).2 hc
  have run : Act.on ((CartEdit.addLines (.list lines)).run id country) s = (r, s₁) := h
  have asItWas : s₁.HasCart k c → ∃ added,
      c₁.lines.map Line.bare = c.lines.map Line.bare ++ added := by
    intro kept
    obtain rfl := Entity.cart.inj (Option.some.inj (hc₁.symm.trans kept))
    exact ⟨[], (List.append_nil _).symm⟩
  rcases hd : Act.on ((CartEdit.addLines (.list lines)).draft country (.made c)) s
    with ⟨f | _ | kc, s₂⟩
  · rw [on_run hid hc, hd] at run
    obtain ⟨-, rfl⟩ := Prod.mk.inj run
    exact asItWas (keeps hd)
  · rw [on_run hid hc, hd] at run
    obtain ⟨-, rfl⟩ := Prod.mk.inj run
    exact asItWas (keeps hd)
  · obtain ⟨rs, hr, hlines⟩ := exists_requests_of_draft hd
    obtain ⟨key, kc, hkey, ⟨⟩, hfold⟩ := (draft_addLines_eq_ok_iff hr).1 hd
    obtain ⟨ps, ls, hrs, rfl, added, rfl, -⟩ :=
      addRequests_portions (hs.carts k c hc).lines.variants hfold
    -- No portion is for a variant that the cart has, so no line of it is topped up.
    have named := (List.forall₂_and_left rs ps).2 ⟨hlines, hrs⟩
    have missing : ∀ p ∈ ps, p.id ∉ c.lines.map (·.variant) := by
      refine ((List.forall₂_and_left ps rs).1 (named.flip.imp fun p r hr => ⟨?_, hr.2⟩)).1
      obtain ⟨⟨line, hline, hmember⟩, hp⟩ := hr
      obtain ⟨text, htext, hdecoded⟩ := Gid.decodeValue_eq_text hp.id
      rw [htext] at hmember
      rw [← hdecoded]
      exact new line hline text hmember
    rw [Line.map_topped_of_forall_not_mem missing] at hd
    obtain ⟨_, c₂, run₂, content, -⟩ := exists_run_of_draft hs hid hc hd hkey
    obtain ⟨-, rfl⟩ := Prod.mk.inj (run.symm.trans run₂)
    obtain rfl := Entity.cart.inj (Option.some.inj (hc₁.symm.trans (hasCart_withCart_self s₂ k c₂)))
    exact ⟨added.map Line.bare, (Cart.map_bare_of_content_eq content).trans (List.map_append ..)⟩

/-- Taking away what was appended leaves the lines as they were before. -/
theorem removeLines_addLines (hs : Coherent s) (hid : Names id k) (hc : s.HasCart k c)
    (new : ∀ line ∈ lines, ∀ named, line.member "merchandiseId" = .ok (.text named) →
      Gid.decode named ∉ c.lines.map (·.variant))
    (h : Act.on (Shop.addLines id country₁ (.list lines)) s = (r, s₁)) (hc₁ : s₁.HasCart k c₁)
    (hne : ids ≠ []) (htexts : "" ∉ ids)
    (hids : ∀ i, i ∈ ids.map Gid.decode ↔ i ∈ (c₁.lines.drop c.lines.length).map (·.id)) (t : Int) :
    ((∃ a₂ s₂, Act.on (Shop.removeLines id country₂ (.texts ids)) (s₁.atTime t) = (.ok a₂, s₂)) ↔
      (∃ key, (KeptCart.made c₁).countryFor country₂ = .ok key) ∧ c.Countable) ∧
    ∀ a₂ s₂, Act.on (Shop.removeLines id country₂ (.texts ids)) (s₁.atTime t) = (.ok a₂, s₂) →
      ∃ c₂, a₂ = some (.made c₂) ∧ s₂.HasCart k c₂ ∧
        c₂.lines.map Line.bare = c.lines.map Line.bare := by
  -- What the addition left is coherent, whether or not it was answered.
  have coherent := hs.steps (((CartEdit.addLines (.list lines)).run_steps id country₁).of_on h)
  have removal := removeLines_relinesBy hne htexts
  obtain ⟨added, bare⟩ := lines_of_addLines_new hs hid hc new h hc₁
  -- The lines named are the ones appended, so without them the first lines are left, and those kept
  -- their bare form.
  have back : (Cart.unnamed ids c₁.lines).map Line.bare = c.lines.map Line.bare := by
    rw [Cart.unnamed_drop (coherent.carts k c₁ hc₁).lines.ids hids, List.map_take, bare]
    exact List.take_left' (List.length_map _)
  constructor
  · -- the removal succeeds when the market and the old quantities are good
    refine (exists_run_iff removal (coherent_atTime coherent t) hid hc₁).trans ?_
    rw [Cart.countable_of_map_bare back]
    rfl
  · -- and then it leaves the old lines
    intro a₂ s₂ h₂
    obtain ⟨c₂, rfl, hc₂, lines₂⟩ := lines_of_run removal (coherent_atTime coherent t) hid hc₁ h₂
    exact ⟨c₂, rfl, hc₂, lines₂.trans back⟩

/-! ### What removals come to -/

/-- Removing lines leaves exactly those that are not named, as they were and in their order.
Removing them in two goes, or twice, at whatever times, leaves the same behind.  And what was
appended for variants that a cart did not have can be taken away again, so that its lines are those
that it had. -/
theorem Reachable.removals_exact (h : Reachable s) (hid : Names id k) (hc : s.HasCart k c) :
    (∀ ids country a s', ids ≠ [] → "" ∉ ids →
      Act.on (Shop.removeLines id country (.texts ids)) s = (.ok a, s') →
      (∃ c', a = some (.made c') ∧ s'.HasCart k c' ∧
        c'.lines.map Line.bare = (Cart.unnamed ids c.lines).map Line.bare) ∧
      (∀ xs ys, ids = xs ++ ys → xs ≠ [] → ys ≠ [] → ∀ t₁ t₂,
        ((∃ b s₁, Act.on (Shop.removeLines id country (.texts xs)) (s.atTime t₁) = (.ok b, s₁)) ↔
          ∀ l ∈ Cart.unnamed xs c.lines, Decimal.ofInt? l.quantity ≠ none) ∧
        ∃ a₂ s₂, Act.on (Shop.removeLines id country (.texts ys))
            ((Act.on (Shop.removeLines id country (.texts xs)) (s.atTime t₁)).2.atTime t₂) =
              (.ok a₂, s₂) ∧
          ReturnsAlike k a s' a₂ s₂) ∧
      ∀ t₁ t₂, ∃ b s₁ a₂ s₂,
        Act.on (Shop.removeLines id country (.texts ids)) (s.atTime t₁) = (.ok b, s₁) ∧
        Act.on (Shop.removeLines id country (.texts ids)) (s₁.atTime t₂) = (.ok a₂, s₂) ∧
        ReturnsAlike k a s' a₂ s₂) ∧
    ∀ lines country₁ r s₁ c₁,
      (∀ line ∈ lines, ∀ named, line.member "merchandiseId" = .ok (.text named) →
        Gid.decode named ∉ c.lines.map (·.variant)) →
      Act.on (Shop.addLines id country₁ (.list lines)) s = (r, s₁) → s₁.HasCart k c₁ →
      ∀ ids, ids ≠ [] → "" ∉ ids →
        (∀ i, i ∈ ids.map Gid.decode ↔ i ∈ (c₁.lines.drop c.lines.length).map (·.id)) →
      ∀ country₂ t,
        ((∃ a₂ s₂,
            Act.on (Shop.removeLines id country₂ (.texts ids)) (s₁.atTime t) = (.ok a₂, s₂)) ↔
          (∃ key, (KeptCart.made c₁).countryFor country₂ = .ok key) ∧ c.Countable) ∧
        ∀ a₂ s₂, Act.on (Shop.removeLines id country₂ (.texts ids)) (s₁.atTime t) = (.ok a₂, s₂) →
          ∃ c₂, a₂ = some (.made c₂) ∧ s₂.HasCart k c₂ ∧
            c₂.lines.map Line.bare = c.lines.map Line.bare := by
  have hs := h.coherent
  constructor
  · -- ids of a batch: what is left, cut in two, and removed again
    intro ids country a s' hne htexts hremoved
    refine ⟨lines_of_run (removeLines_relinesBy hne htexts) hs hid hc hremoved, ?_,
      removeLines_again hs hid hc hne htexts hremoved⟩
    rintro xs ys rfl hxs hys t₁ t₂
    exact removeLines_append hs hid hc hxs hys htexts hremoved t₁ t₂
  · -- lines just added, removed
    intro lines country₁ r s₁ c₁ new hadded hc₁ ids hne htexts hids country₂ t
    exact removeLines_addLines hs hid hc new hadded hc₁ hne htexts hids t

/-- The identifiers and the variants of the lines of a cart that the shop has made. -/
def lineNames? (s : Shop) (k : String) : Option (List String × List String) :=
  match s.cart? k with
  | some (.made c) => some (c.lines.map (·.id), c.lines.map (·.variant))
  | _ => none

/-- What the decidable look at a cart's lines tells of the cart itself. -/
theorem exists_hasCart_of_lineNames? {ids variants : List String}
    (h : s.lineNames? k = some (ids, variants)) :
    ∃ c, s.HasCart k c ∧ c.lines.map (·.id) = ids ∧ c.lines.map (·.variant) = variants := by
  rw [lineNames?] at h
  split at h
  · rename_i c hc
    obtain ⟨hids, hvariants⟩ := Prod.mk.inj (Option.some.inj h)
    exact ⟨c, cart?_eq_made.1 hc, hids, hvariants⟩
  · cases h

/-- A line that the cart of `sample` does not have, and the one that it has, in both forms. -/
def staleIds : List String :=
  [Gid.cartLinePrefix ++ "CartLine-9", "Z2lkOi8vc2hvcGlmeS9DYXJ0TGluZS9DYXJ0TGluZS0x",
    Gid.cartLinePrefix ++ "CartLine-1"]

/-- The line that the next addition to the cart of `sample` appends, in both forms. -/
def nextIds : List String :=
  ["Z2lkOi8vc2hvcGlmeS9DYXJ0TGluZS9DYXJ0TGluZS0y", Gid.cartLinePrefix ++ "CartLine-2"]

/-- The theorem on the sample, whose one line is removed, and a second line added and removed a day
later. -/
theorem Reachable.removals_exact_sample : ∃ c a s' c₁ a₂ s₂, sample.HasCart sampleId c ∧
    Act.on (Shop.removeLines sampleId "FR" (.texts staleIds)) sample = (.ok a, s') ∧
    (∃ c', a = some (.made c') ∧ s'.HasCart sampleId c' ∧
      c'.lines.map Line.bare = (Cart.unnamed staleIds c.lines).map Line.bare) ∧
    (Act.on (Shop.addLines sampleId "FR" (.list [lineFor "2" 3])) sample).2.HasCart sampleId c₁ ∧
    Act.on (Shop.removeLines sampleId "FR" (.texts nextIds))
      ((Act.on (Shop.addLines sampleId "FR" (.list [lineFor "2" 3])) sample).2.atTime 86400) =
        (.ok a₂, s₂) ∧
    ∃ c₂, a₂ = some (.made c₂) ∧ s₂.HasCart sampleId c₂ ∧
      c₂.lines.map Line.bare = c.lines.map Line.bare := by
  -- The lines of the sample, before and after the addition, are read off by running it.
  have first : sample.lineNames? sampleId =
      some ([Gid.cartLinePrefix ++ "CartLine-1"], [Gid.variantPrefix ++ "1"]) := by decide +kernel
  have second : (Act.on (Shop.addLines sampleId "FR" (.list [lineFor "2" 3])) sample).2.lineNames?
      sampleId = some ([Gid.cartLinePrefix ++ "CartLine-1", Gid.cartLinePrefix ++ "CartLine-2"],
        [Gid.variantPrefix ++ "1", Gid.variantPrefix ++ "2"]) := by decide +kernel
  obtain ⟨c, hc, ids, variants⟩ := exists_hasCart_of_lineNames? first
  obtain ⟨c₁, hc₁, ids₁, -⟩ := exists_hasCart_of_lineNames? second
  obtain ⟨a, ha⟩ := Act.eq_ok_of_toBool
    (p := Act.on (Shop.removeLines sampleId "FR" (.texts staleIds)) sample) (by decide +kernel)
  obtain ⟨a₂, ha₂⟩ := Act.eq_ok_of_toBool
    (p := Act.on (Shop.removeLines sampleId "FR" (.texts nextIds))
      ((Act.on (Shop.addLines sampleId "FR" (.list [lineFor "2" 3])) sample).2.atTime 86400))
    (by decide +kernel)
  have named : Names sampleId sampleId := ⟨rfl, by decide⟩
  obtain ⟨removed, undone⟩ := Reachable.removals_exact reachable_sample named hc
  -- The line added is of a variant the cart has no line of.
  have new : ∀ line ∈ [lineFor "2" 3], ∀ variant,
      line.member "merchandiseId" = .ok (.text variant) →
      Gid.decode variant ∉ c.lines.map (·.variant) := by
    rw [variants, List.forall_mem_singleton]
    rintro _ ⟨⟩
    decide +kernel
  -- The ids removed, sent twice, are the ids of the lines appended.
  have appended : ∀ i, i ∈ nextIds.map Gid.decode ↔
      i ∈ (c₁.lines.drop c.lines.length).map (·.id) := by
    have length : c.lines.length = 1 := (List.length_map _).symm.trans (congrArg List.length ids)
    have decoded : nextIds.map Gid.decode =
        [Gid.cartLinePrefix ++ "CartLine-2", Gid.cartLinePrefix ++ "CartLine-2"] := by
      decide +kernel
    rw [length, List.map_drop, ids₁, decoded]
    simp
  have exactly := removed staleIds "FR" a _ nofun (by decide +kernel) ha
  have back := undone [lineFor "2" 3] "FR" _ _ c₁ new (Prod.eta _).symm hc₁ nextIds nofun
    (by decide +kernel) appended "FR" 86400
  exact ⟨c, a, _, c₁, a₂, _, hc, ha, exactly.1, hc₁, ha₂, back.2 a₂ _ ha₂⟩

end Shop
end Storefront
