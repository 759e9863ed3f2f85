import Storefront.Proofs.Portions
import Storefront.Proofs.Relining

/-! # Adding lines to a cart

Adding a batch of lines merges what the batch asks for into the lines of the cart: a line of a
variant that is asked for is topped up, and each other variant gets one new line.  Variants and
identifiers are drawn for the new lines in the order of the batch, whatever the lines of the cart
cost.  So a batch may be cut in two: the second part finds the shop as it would have been in the
middle of the whole.

* `addLines_eq_ok_iff` : when adding lines returns, and what it leaves behind
* `additions_alike` : adding to carts with the same content
* `Reachable.additions_merge` : what the batch comes to, and that it may be cut -/

namespace Storefront.Shop

open KeptCart (RelinedAlike)
open Portion (AskedBy)

variable {s s' : Shop} {id country : Value} {k : String} {key : Key} {c : Cart}
  {a : Option KeptCart} {lines : List Value} {rs : List LineRequest} {ps : List Portion}

/-- The draft of an addition is what its requests make of the cart, one after the other. -/
theorem draft_addLines_eq_ok_iff {o : Option KeptCart}
    (hr : requestsOf "merchandiseId" lines = .ok (some rs)) :
    Act.on ((CartEdit.addLines (.list lines)).draft country (.made c)) s = (.ok o, s') ↔
      ∃ key kc, (KeptCart.made c).countryFor country = .ok key ∧ o = some kc ∧
        Act.on (rs.foldlM (addRequest (Market.ofKey key).currency) (.made c)) s = (.ok kc, s') := by
  -- The batch is readable, so the draft is the fold of its requests over the cart, in the currency
  -- its country stands for.
  have draft : Act.on ((CartEdit.addLines (.list lines)).draft country (.made c)) s =
      Act.on (withAdditions country lines (.made c)) s := by
    rw [CartEdit.draft, CartEdit.listed, Value.elementsOrNone_list,
      Act.on_bind_of_ok (Act.on_lift _ s), CartEdit.change]
  rw [draft, withAdditions, hr, Act.on_bind_of_ok (Act.on_lift _ s)]
  dsimp only
  rw [Act.on_lift_bind_eq_ok]
  constructor
  · rintro ⟨key, hkey, h⟩
    obtain ⟨kc, s₁, hfold, h⟩ := Act.on_bind_eq_ok.1 h
    obtain ⟨ho, rfl⟩ := Prod.mk.inj h
    exact ⟨key, kc, hkey, (Except.ok.inj ho).symm, hfold⟩
  · rintro ⟨key, kc, hkey, rfl, hfold⟩
    exact ⟨key, hkey, Act.on_bind_eq_ok.2 ⟨kc, s', hfold, rfl⟩⟩

/-- Adding lines returns exactly if there is a market, the requests can be done and what they make
of the cart can be priced; the cart is left dated and priced. -/
theorem addLines_eq_ok_iff (hs : Coherent s) (hid : Names id k) (hc : s.HasCart k c)
    (hr : requestsOf "merchandiseId" lines = .ok (some rs)) :
    Act.on (Shop.addLines id country (.list lines)) s = (.ok a, s') ↔
      ∃ key d s₁ qs, (KeptCart.made c).countryFor country = .ok key ∧
        Act.on (rs.foldlM (addRequest (Market.ofKey key).currency) (.made c)) s =
          (.ok (.made d), s₁) ∧
        s₁.Quotes (Market.ofKey key) d.lines qs ∧
        a = some (.made ((d.dated s₁.supply.timestamp).quoted key qs)) ∧
        s' = s₁.withCart k ((d.dated s₁.supply.timestamp).quoted key qs) := by
  have variants := (hs.carts k c hc).lines.variants
  -- The requests leave the cart in its country.
  have sameMarket : ∀ {key kc s₁},
      Act.on (rs.foldlM (addRequest (Market.ofKey key).currency) (.made c)) s = (.ok kc, s₁) →
      ∃ d, kc = .made d ∧
        (KeptCart.made d).countryFor country = (KeptCart.made c).countryFor country := by
    intro key kc s₁ h
    obtain ⟨-, ls, -, rfl, -⟩ := addRequests_portions variants h
    exact ⟨_, rfl, rfl⟩
  have run : Act.on (Shop.addLines id country (.list lines)) s =
      Act.on ((CartEdit.addLines (.list lines)).run id country) s := rfl
  constructor
  · intro h
    rw [run, on_run hid hc] at h
    rcases hd : Act.on ((CartEdit.addLines (.list lines)).draft country (.made c)) s
      with ⟨f | _ | kc, s₁⟩
    · rw [hd] at h
      cases h
    · obtain ⟨_, _, -, ⟨⟩, -⟩ := (draft_addLines_eq_ok_iff hr).1 hd
    · obtain ⟨key, kc, hkey, ⟨⟩, hfold⟩ := (draft_addLines_eq_ok_iff hr).1 hd
      obtain ⟨d, rfl, same⟩ := sameMarket hfold
      rw [← on_run hid hc, run_eq_ok_iff hs hid hc hd] at h
      obtain ⟨key', qs, hkey', hqs, ha, hs'⟩ := h
      obtain rfl := Except.ok.inj (hkey'.symm.trans (same.trans hkey))
      exact ⟨key', d, s₁, qs, hkey, hfold, hqs, ha, hs'⟩
  · rintro ⟨key, d, s₁, qs, hkey, hfold, hqs, ha, hs'⟩
    obtain ⟨_, ⟨⟩, same⟩ := sameMarket hfold
    have hd := (draft_addLines_eq_ok_iff hr).2 ⟨key, _, hkey, rfl, hfold⟩
    rw [run, run_eq_ok_iff hs hid hc hd]
    exact ⟨key, qs, same.trans hkey, hqs, ha, hs'⟩

/-! ### What a batch comes to -/

/-- The lines of a cart after an addition, but for their costs. -/
theorem lines_of_addLines (hs : Coherent s) (hid : Names id k) (hc : s.HasCart k c)
    (hne : lines ≠ []) (hps : List.Forall₂ (AskedBy "merchandiseId") lines ps)
    (h : Act.on (Shop.addLines id country (.list lines)) s = (.ok a, s')) :
    ∃ c' ls, a = some (.made c') ∧ s'.HasCart k c' ∧ c'.lines.map Line.bare = ls.map Line.bare ∧
      Cart.Merged c.lines ps ls := by
  obtain ⟨rs, hrs, hr⟩ := Portion.exists_requestsOf hne hps
  obtain ⟨key, d, s₁, qs, -, hfold, hqs, rfl, rfl⟩ := (addLines_eq_ok_iff hs hid hc hr).1 h
  obtain ⟨ps', ls, hrs', hd, merged⟩ := addRequests_portions (hs.carts k c hc).lines.variants hfold
  obtain rfl := List.right_unique_forall₂' Portion.ReadFrom.unique hrs hrs'
  obtain rfl := KeptCart.made.inj hd
  exact ⟨_, ls, rfl, hasCart_withCart_self _ _ _, Line.map_bare_quoted _ hqs.length_eq, merged⟩

/-! ### Two batches in a row -/

/-- Requests are added alike to two carts with the same content, where either is kept. -/
theorem additions_alike {d c₁ : Cart} (hc : s.HasCart k c) (content : c₁.content = d.content)
    (rs : List LineRequest) (currency : String) : ∃ r r' s₂,
      Act.on (rs.foldlM (addRequest currency) (.made d)) s = (r, s₂) ∧
      Act.on (rs.foldlM (addRequest currency) (.made c₁)) (s.withCart k c₁) =
        (r', s₂.withCart k c₁) ∧ Alike (RelinedAlike d c₁) r r' := by
  have start : RelinedAlike d c₁ (.made d) (.made c₁) :=
    .intro (Cart.map_bare_of_content_eq content).symm
  obtain ⟨r, r', s₂, first, second, alike, -⟩ :=
    SideBySide.foldlM (fun _ _ r h => addRequest_sideBySide h currency r) rs start s c c₁ hc
  exact ⟨r, r', s₂, first, second, alike⟩

/-- Adding to a cart that was priced and kept comes to what adding to its draft would have. -/
theorem addLines_priced_iff {d c₁ : Cart} (ht : Coherent (s.withCart k c₁)) (hid : Names id k)
    (hc : s.HasCart k c) (content : c₁.content = d.content)
    (hkey : (KeptCart.made c₁).countryFor country = .ok key)
    (hr : requestsOf "merchandiseId" lines = .ok (some rs)) :
    Act.on (Shop.addLines id country (.list lines)) (s.withCart k c₁) = (.ok a, s') ↔
      ∃ d₂ s₂ qs, Act.on (rs.foldlM (addRequest (Market.ofKey key).currency) (.made d)) s =
          (.ok (.made d₂), s₂) ∧
        s₂.Quotes (Market.ofKey key) d₂.lines qs ∧
        a = some (.made ((d₂.dated s₂.supply.timestamp).quoted key qs)) ∧
        s' = s₂.withCart k ((d₂.dated s₂.supply.timestamp).quoted key qs) := by
  -- Run the requests on both carts at once: they differ in prices and dates only, so the two folds
  -- end alike.
  obtain ⟨r, r', s₂, first, second, alike⟩ :=
    additions_alike hc content rs (Market.ofKey key).currency
  -- Which quotes a shop gives a cart's lines depends on the lines without their prices.
  have quotes : ∀ {ls ls' : List Line} {qs}, ls.map Line.bare = ls'.map Line.bare →
      ((s₂.withCart k c₁).Quotes (Market.ofKey key) ls' qs ↔
        s₂.Quotes (Market.ofKey key) ls qs) := by
    intro ls ls' qs same
    rw [quotes_withCart, ← quotes_map_bare, ← same, quotes_map_bare]
  rw [addLines_eq_ok_iff ht hid (hasCart_withCart_self s k c₁) hr]
  constructor
  · -- from the repriced cart to the draft
    rintro ⟨key', e, t, qs, hkey', hfold, hqs, rfl, rfl⟩
    obtain rfl := Except.ok.inj (hkey.symm.trans hkey')
    obtain ⟨rfl, rfl⟩ := Prod.mk.inj (second.symm.trans hfold)
    cases alike with
    | ok alike =>
      obtain @⟨ls, ls', same⟩ := alike
      have final := Cart.content_relined content same.symm
      refine ⟨_, s₂, qs, first, (quotes same).1 hqs, ?_, ?_⟩
      · rw [Cart.dated_quoted_of_content_eq final]
        rfl
      · rw [withCart_withCart, Cart.dated_quoted_of_content_eq final]
        rfl
  · -- and back: the fold on the draft has the same run on the repriced cart
    rintro ⟨d₂, t, qs, hfold, hqs, rfl, rfl⟩
    obtain ⟨rfl, rfl⟩ := Prod.mk.inj (first.symm.trans hfold)
    cases alike with
    | ok alike =>
      obtain @⟨ls, ls', same⟩ := alike
      have final := Cart.content_relined content same.symm
      refine ⟨key, _, _, qs, hkey, second, (quotes same).2 hqs, ?_, ?_⟩
      · rw [← Cart.dated_quoted_of_content_eq final]
        rfl
      · rw [withCart_withCart, ← Cart.dated_quoted_of_content_eq final]
        rfl

/-- What requests make of a cart, whether or not it can be priced. -/
theorem draft_of_addRequests (hs : Coherent s) (hc : s.HasCart k c)
    (hr : requestsOf "merchandiseId" lines = .ok (some rs))
    (hkey : (KeptCart.made c).countryFor country = .ok key) {kc : KeptCart}
    (h : Act.on (rs.foldlM (addRequest (Market.ofKey key).currency) (.made c)) s = (.ok kc, s')) :
    ∃ d, kc = .made d ∧ d.country = c.country ∧ s'.HasCart k c ∧
      (d.lines.map (·.variant)).Nodup ∧
      ∀ l ∈ d.lines, 1 ≤ l.quantity ∧ ∃ x, s'.price? l.variant = some (.float x) := by
  obtain ⟨-, ls, -, rfl, -⟩ := addRequests_portions (hs.carts k c hc).lines.variants h
  have hd := (draft_addLines_eq_ok_iff hr).2 ⟨key, _, hkey, rfl, h⟩
  have keeps : Keeps s s' := ((CartEdit.draft_isEdit country _ _).grows.of_on hd).keeps
  exact ⟨_, rfl, rfl, (keeps.hasCart_iff k c).2 hc, lines_of_draft hs hc hd⟩

/-- A batch that follows another is added to what that leaves behind as it is to its draft. -/
theorem addLines_after_iff {xs ys : List Value} {d : Cart} {s₁ t : Shop} {qs : List Quote}
    {b : Option KeptCart} (hs : Coherent s) (hid : Names id k)
    (hkey : (KeptCart.made c).countryFor country = .ok key) (same : d.country = c.country)
    (hc : s₁.HasCart k c) (hqs : s₁.Quotes (Market.ofKey key) d.lines qs)
    (hx : Act.on (Shop.addLines id country (.list xs)) s = (.ok b, t))
    (ht : t = s₁.withCart k ((d.dated s₁.supply.timestamp).quoted key qs))
    (hr : requestsOf "merchandiseId" ys = .ok (some rs)) :
    Act.on (Shop.addLines id country (.list ys)) t = (.ok a, s') ↔
      ∃ d₂ s₂ qs, Act.on (rs.foldlM (addRequest (Market.ofKey key).currency) (.made d)) s₁ =
          (.ok (.made d₂), s₂) ∧
        s₂.Quotes (Market.ofKey key) d₂.lines qs ∧
        a = some (.made ((d₂.dated s₂.supply.timestamp).quoted key qs)) ∧
        s' = s₂.withCart k ((d₂.dated s₂.supply.timestamp).quoted key qs) := by
  -- The first batch left the cart dated and quoted; name that instant, since the second batch dates
  -- it anew.
  have coherent := hs.steps (((CartEdit.addLines (.list xs)).run_steps id country).of_on hx)
  rw [ht] at coherent ⊢
  generalize s₁.supply.timestamp = now at coherent ⊢
  have dated : (KeptCart.made (d.dated now)).countryFor country = .ok key := by
    rw [← hkey]
    exact countryFor_congr same country
  exact addLines_priced_iff coherent hid hc (Cart.content_quoted hqs.length_eq key)
    (countryFor_quoted dated qs) hr

/-- A batch may be cut in two.  It returns exactly if both parts do, one after the other, and then
with the same answer and with the same shop left behind. -/
theorem addLines_append_iff {xs ys : List Value} {ps' : List Portion} (hs : Coherent s)
    (hid : Names id k) (hc : s.HasCart k c) (hxs : xs ≠ []) (hys : ys ≠ [])
    (hps : List.Forall₂ (AskedBy "merchandiseId") xs ps)
    (hps' : List.Forall₂ (AskedBy "merchandiseId") ys ps') :
    Act.on (Shop.addLines id country (.list (xs ++ ys))) s = (.ok a, s') ↔
      ∃ b s₁, Act.on (Shop.addLines id country (.list xs)) s = (.ok b, s₁) ∧
        Act.on (Shop.addLines id country (.list ys)) s₁ = (.ok a, s') := by
  obtain ⟨rs, rs', -, hrs', hr, hr', hboth⟩ := Portion.exists_requestsOf_append hxs hys hps hps'
  constructor
  · intro h
    obtain ⟨key, d₂, s₂, qs, hkey, hfold, hqs, ha, hs'⟩ := (addLines_eq_ok_iff hs hid hc hboth).1 h
    rw [List.foldlM_append] at hfold
    obtain ⟨kc, s₁, hfirst, hrest⟩ := Act.on_bind_eq_ok.1 hfold
    obtain ⟨d, rfl, same, kept, distinct, priced⟩ := draft_of_addRequests hs hc hr hkey hfirst
    obtain ⟨ps₂, ls₂, hreads, hd₂, merged⟩ := addRequests_portions distinct hrest
    obtain rfl := List.right_unique_forall₂' Portion.ReadFrom.unique hrs' hreads
    obtain rfl := KeptCart.made.inj hd₂
    -- No line has more pieces in the middle than in the end, so the first part can be priced.
    obtain ⟨qs₁, hqs₁⟩ : ∃ qs₁, s₁.Quotes (Market.ofKey key) d.lines qs₁ := by
      refine exists_quotes_of_le (fun l hl => (priced l hl).2) hqs fun l hl => ⟨?_, ?_⟩
      · have := (priced l hl).1
        omega
      · exact merged.exists_le (Portion.positive_of_askedBy hps') hl
    have hx := (addLines_eq_ok_iff hs hid hc hr).2 ⟨key, d, s₁, qs₁, hkey, hfirst, hqs₁, rfl, rfl⟩
    exact ⟨_, _, hx, (addLines_after_iff hs hid hkey same kept hqs₁ hx rfl hr').2
      ⟨_, s₂, qs, hrest, hqs, ha, hs'⟩⟩
  · rintro ⟨b, t, hx, hy⟩
    obtain ⟨key, d, s₁, qs₁, hkey, hfirst, hqs₁, -, ht⟩ := (addLines_eq_ok_iff hs hid hc hr).1 hx
    obtain ⟨_, ⟨⟩, same, kept, -⟩ := draft_of_addRequests hs hc hr hkey hfirst
    obtain ⟨d₂, s₂, qs, hrest, hqs, ha, hs'⟩ :=
      (addLines_after_iff hs hid hkey same kept hqs₁ hx ht hr').1 hy
    refine (addLines_eq_ok_iff hs hid hc hboth).2 ⟨key, d₂, s₂, qs, hkey, ?_, hqs, ha, hs'⟩
    rw [List.foldlM_append]
    exact (Act.on_bind_of_ok hfirst).trans hrest

/-- Adding a batch to a cart tops up the lines of the variants that the batch asks for, and puts all
else that it asks for into new lines, one for each variant, in the order of their first appearance.
And a batch may be cut in two, each with lines: with the same country, time and chance, adding the
one and then the other answers and leaves behind the same. -/
theorem Reachable.additions_merge (h : Reachable s) (hid : Names id k) (hc : s.HasCart k c)
    (hne : lines ≠ []) (hps : List.Forall₂ (AskedBy "merchandiseId") lines ps) (country : Value) :
    (∀ a s', Act.on (Shop.addLines id country (.list lines)) s = (.ok a, s') →
      ∃ c' new, a = some (.made c') ∧ s'.HasCart k c' ∧
        c'.lines.map Line.bare = c.lines.map (fun l => (l.topped ps l.variant).bare) ++ new ∧
        new.map Line.portion =
          (Portion.others ps (c.lines.map (·.variant))).map (Portion.total ps)) ∧
    ∀ xs ys, lines = xs ++ ys → xs ≠ [] → ys ≠ [] → ∀ a s',
      Act.on (Shop.addLines id country (.list lines)) s = (.ok a, s') ↔
        ∃ b s₁, Act.on (Shop.addLines id country (.list xs)) s = (.ok b, s₁) ∧
          Act.on (Shop.addLines id country (.list ys)) s₁ = (.ok a, s') := by
  constructor
  · -- one batch: what each old line becomes, then the lines that are new
    intro a s' hadd
    obtain ⟨c', ls, ha, kept, bare, added, rfl, hadded⟩ :=
      lines_of_addLines h.coherent hid hc hne hps hadd
    refine ⟨c', added.map Line.bare, ha, kept, ?_, ?_⟩
    · rw [bare, List.map_append, List.map_map]
      rfl
    · rw [List.map_map]
      exact hadded
  · -- cut in two: the requests read from the batch split with it
    rintro xs ys rfl hxs hys a s'
    obtain ⟨first, rest, hfirst, hrest, -⟩ := Portion.exists_of_askedBy_append hps
    exact addLines_append_iff h.coherent hid hc hxs hys hfirst hrest

/-- A batch that names one variant in two forms, and another that the cart of `sample` has
a line of. -/
def mixedBatch : List Value :=
  [lineFor "2" 3, lineFor "1" 1,
    .ofFields [("merchandiseId", "Z2lkOi8vc2hvcGlmeS9Qcm9kdWN0VmFyaWFudC8y"), ("quantity", "4"),
      ("attributes", .list [.ofFields [("key", "Gift"), ("value", "yes")]])]]

/-- What the batch asks for. -/
def mixedPortions : List Portion :=
  [⟨Gid.variantPrefix ++ "2", 3, []⟩, ⟨Gid.variantPrefix ++ "1", 1, []⟩,
    ⟨Gid.variantPrefix ++ "2", 4, [.ofFields [("key", "Gift"), ("value", "yes")]]⟩]

/-- The portions of the mixed batch are the ones its lines ask for. -/
theorem askedBy_mixedBatch : List.Forall₂ (AskedBy "merchandiseId") mixedBatch mixedPortions := by
  refine .cons ?_ (.cons ?_ (.cons ?_ .nil))
  · exact ⟨⟨_, rfl, by decide, by decide +kernel⟩, ⟨_, rfl, rfl⟩, by decide, .inr ⟨rfl, rfl⟩⟩
  · exact ⟨⟨_, rfl, by decide, by decide +kernel⟩, ⟨_, rfl, rfl⟩, by decide, .inr ⟨rfl, rfl⟩⟩
  · exact ⟨⟨_, rfl, by decide, by decide +kernel⟩, ⟨_, rfl, rfl⟩, by decide, .inl rfl⟩

/-- The theorem at a batch that tops up a line twice and adds a new one, cut after its second entry.
-/
theorem Reachable.additions_merge_sample : ∃ c a s', sample.HasCart sampleId c ∧
    Act.on (Shop.addLines sampleId "FR" (.list mixedBatch)) sample = (.ok a, s') ∧
    (∃ c' new, a = some (.made c') ∧ s'.HasCart sampleId c' ∧
      c'.lines.map Line.bare =
        c.lines.map (fun l => (l.topped mixedPortions l.variant).bare) ++ new ∧
      new.map Line.portion = (Portion.others mixedPortions (c.lines.map (·.variant))).map
        (Portion.total mixedPortions)) ∧
    ∃ b s₁, Act.on (Shop.addLines sampleId "FR" (.list (mixedBatch.take 2))) sample = (.ok b, s₁) ∧
      Act.on (Shop.addLines sampleId "FR" (.list (mixedBatch.drop 2))) s₁ = (.ok a, s') := by
  obtain ⟨c, hc⟩ := exists_hasCart_sample
  -- That the call succeeds is decided by running it.
  obtain ⟨a, ha⟩ := Act.eq_ok_of_toBool
    (p := Act.on (Shop.addLines sampleId "FR" (.list mixedBatch)) sample) (by decide +kernel)
  have named : Names sampleId sampleId := ⟨rfl, by decide⟩
  have merged := Reachable.additions_merge reachable_sample named hc (by decide)
    askedBy_mixedBatch "FR"
  exact ⟨c, a, _, hc, ha, merged.1 a _ ha,
    (merged.2 (mixedBatch.take 2) (mixedBatch.drop 2) rfl nofun nofun a _).1 ha⟩

end Storefront.Shop
