import Storefront.Proofs.Naming

/-! # Two runs that differ in a stored cart

Whoever works out a change of a cart looks at the cart that it is given, and never at the carts that
the store keeps.  So it does the same to two shops that differ in nothing but a stored cart:
`SideBySide k R x y` says so of `x` on the one and of `y` on the other, and `R` relates the results.
`Overlooks k x` says it of one action on both.

* `variant_overlooks`, `newLine_overlooks` : making up variants and lines overlooks the carts
* `Cart.SameLines` : two carts with the same lines, but for their costs
* `withAdditions_sideBySide`, `withUpdates_alike`, `withRemovals_alike` : the lines of such carts
  are changed alike -/

namespace Storefront

namespace Shop

variable {α β γ δ : Type} {k : String}

/-- Where another cart is kept under `k`, the second action does what the first does otherwise: the
outcomes are alike, and the shops that are left behind differ in that cart only. -/
def SideBySide (k : String) (R : α → β → Prop) (x : Act Shop α) (y : Act Shop β) : Prop :=
  ∀ s c c', s.HasCart k c → ∃ r r' s₁, Act.on x s = (r, s₁) ∧
    Act.on y (s.withCart k c') = (r', s₁.withCart k c') ∧ Alike R r r' ∧ s₁.HasCart k c

/-- Whatever cart is kept under `k`, the action does the same. -/
abbrev Overlooks (k : String) (x : Act Shop α) : Prop := SideBySide k Eq x x

/-! ### How actions are put together -/

namespace SideBySide

variable {R : α → β → Prop} {S : γ → δ → Prop} {x : Act Shop α} {y : Act Shop β}
  {f : α → Act Shop γ} {g : β → Act Shop δ}

/-- Checks that turn out alike do not look at the shop. -/
protected theorem lift {e : Except Fault α} {e' : Except Fault β} (h : Alike R e e') :
    SideBySide k R (liftM e) (liftM e') :=
  fun s _ _ hc => ⟨e, e', s, rfl, rfl, h, hc⟩

/-- Answers that are related. -/
protected theorem pure {a : α} {b : β} (h : R a b) : SideBySide k R (pure a) (pure b) :=
  fun s _ _ hc => ⟨_, _, s, rfl, rfl, .ok h, hc⟩

/-- What follows related answers runs side by side. -/
protected theorem bind (hx : SideBySide k R x y)
    (hf : ∀ a b, R a b → SideBySide k S (f a) (g b)) : SideBySide k S (x >>= f) (y >>= g) := by
  intro s c c' hc
  obtain ⟨r, r', s₁, hx, hy, alike, hc₁⟩ := hx s c c' hc
  cases alike with
  | error e =>
    -- Both fail, with the same fault.
    exact ⟨_, _, s₁, Act.on_bind_of_error hx, Act.on_bind_of_error hy, .error e, hc₁⟩
  | ok h =>
    -- The cart is still in its place, so what follows runs side by side as well.
    obtain ⟨r, r', s₂, hf, hg, alike, hc₂⟩ := hf _ _ h s₁ c c' hc₁
    exact ⟨r, r', s₂, (Act.on_bind_of_ok hx).trans hf, (Act.on_bind_of_ok hy).trans hg, alike, hc₂⟩

/-- To relate more asks for less. -/
theorem mono {R' : α → β → Prop} (hx : SideBySide k R x y) (h : ∀ a b, R a b → R' a b) :
    SideBySide k R' x y := by
  intro s c c' hc
  obtain ⟨r, r', s₁, hx, hy, alike, hc₁⟩ := hx s c c' hc
  refine ⟨r, r', s₁, hx, hy, ?_, hc₁⟩
  cases alike with
  | error e => exact .error e
  | ok hab => exact .ok (h _ _ hab)

/-- Folds over one list run side by side if their steps do, by induction over the list. -/
theorem foldlM {ι : Type} {f : α → ι → Act Shop α} {g : β → ι → Act Shop β}
    (hf : ∀ a b i, R a b → SideBySide k R (f a i) (g b i)) (is : List ι) {a : α} {b : β}
    (h : R a b) : SideBySide k R (is.foldlM f a) (is.foldlM g b) := by
  induction is generalizing a b with
  | nil => exact .pure h
  | cons i is ih =>
    rw [List.foldlM_cons, List.foldlM_cons]
    exact .bind (hf a b i h) fun a b hab => ih hab

end SideBySide

namespace Overlooks

variable {x : Act Shop α} {f : α → Act Shop γ}

/-- To answer at once overlooks everything. -/
theorem pure (a : α) : Overlooks k (pure a : Act Shop α) := SideBySide.pure rfl

/-- A check overlooks everything. -/
theorem lift (e : Except Fault α) : Overlooks k (liftM e : Act Shop α) :=
  SideBySide.lift (.of_eq (fun _ => rfl) rfl)

/-- To fail at once overlooks everything. -/
theorem throw (e : Fault) : Overlooks k (throw e : Act Shop α) :=
  fun s _ _ hc => ⟨_, _, s, rfl, rfl, .error e, hc⟩

/-- A sequence overlooks the carts if its actions do. -/
theorem bind (hx : Overlooks k x) (hf : ∀ a, Overlooks k (f a)) : Overlooks k (x >>= f) :=
  SideBySide.bind hx fun a _ hab => hab ▸ hf a

/-- What becomes of an answer makes no difference. -/
theorem map (g : α → γ) (hx : Overlooks k x) : Overlooks k (g <$> x) := by
  rw [map_eq_pure_bind]
  exact hx.bind fun a => pure (g a)

/-- A list of actions overlooks the carts if each of them does. -/
theorem mapM {f : α → Act Shop γ} (hf : ∀ a, Overlooks k (f a)) (as : List α) :
    Overlooks k (as.mapM f) := by
  induction as with
  | nil => exact pure []
  | cons a as ih =>
    rw [List.mapM_cons]
    exact (hf a).bind fun _ => ih.bind fun _ => pure _

/-- An action may look at the shop, if what it does then is the same whatever the carts are. -/
theorem get_bind {f : Shop → Act Shop γ} (hf : ∀ s, Overlooks k (f s))
    (same : ∀ s c, f (s.withCart k c) = f s) : Overlooks k (get >>= f) := by
  intro s c c' hc
  obtain ⟨r, r', s₁, hx, hy, alike, hc₁⟩ := hf s s c c' hc
  refine ⟨r, r', s₁, hx, ?_, alike, hc₁⟩
  rw [Act.on_bind_of_ok (Act.on_get _), same s c']
  exact hy

end Overlooks

/-! ### The catalogue and the supply -/

/-- The supply is no part of the store. -/
theorem supplied_overlooks (draw : Supply → α × Supply) : Overlooks k (supplied draw) :=
  fun _ _ _ hc => ⟨_, _, _, rfl, rfl, .ok rfl, hc⟩

/-- Entities of another kind are looked up past the carts. -/
theorem find?_overlooks {kind : String} (h : kind ≠ Gid.cartPrefix) (id : Key) :
    Overlooks k (find? kind id) := by
  intro s c c' hc
  refine ⟨_, _, s, on_find? s kind id, on_find? _ kind id, .ok ?_, hc⟩
  exact (entity?_withEntity_of_ne s (.inl h) _).symm

/-- Entities of another kind are looked for past the carts. -/
theorem has_overlooks {kind : String} (h : kind ≠ Gid.cartPrefix) (id : Key) :
    Overlooks k (has kind id) := by
  intro s c c' hc
  refine ⟨_, _, s, on_has s kind id, on_has _ kind id, .ok ?_, hc⟩
  rw [withCart, entity?_withEntity_of_ne s (.inl h)]

/-- An entity that is no cart may be kept before or after a cart is replaced. -/
theorem withEntity_withCart {s : Shop} {c : Cart} (hc : s.HasCart k c) {kind : String}
    (h : kind ≠ Gid.cartPrefix) (id : Key) (e : Entity) (c' : Cart) :
    (s.withCart k c').withEntity kind id e = (s.withEntity kind id e).withCart k c' := by
  have hne : (Key.text kind == Key.text Gid.cartPrefix) = false := by simpa using h
  -- The cart has its place already, so neither write changes where the other puts its entity.
  have swapped := Store.set_comm_of_get? hc hne id (some (.cart c')) (some e)
  simp only [withCart, withEntity, swapped]

/-- Entities of another kind are kept past the carts. -/
theorem keep_overlooks {kind : String} (h : kind ≠ Gid.cartPrefix) (id : Key) (e : Entity) :
    Overlooks k (keep kind id e) := by
  intro s c c' hc
  refine ⟨_, _, s.withEntity kind id e, on_keep s kind id e, ?_, .ok rfl, ?_⟩
  · rw [on_keep, withEntity_withCart hc h]
  · rw [HasCart, entity?_withEntity_of_ne s (.inl h.symm)]
    exact hc

/-- Tokens are drawn past the carts. -/
theorem freshToken_overlooks (kind : String) (attempts : Nat) :
    Overlooks k (freshToken kind attempts) := by
  induction attempts with
  | zero => exact .throw _
  | succ attempts ih =>
    -- The tokens that were handed out are looked at, and no cart is among them.
    refine (supplied_overlooks _).bind fun token => .get_bind (fun s => ?_) fun _ _ => rfl
    split
    · exact ih
    · exact .bind (fun _ _ _ hc => ⟨_, _, _, rfl, rfl, .ok rfl, hc⟩) fun _ => .pure _

/-- Identifiers are drawn past the carts. -/
theorem freshId_overlooks (start : String) : Overlooks k (freshId start) := by
  unfold freshId
  extract_lets draw
  have hdraw : ∀ u, Overlooks k (draw u) := fun _ =>
    (freshToken_overlooks _ _).bind fun _ => .pure _
  split
  · exact (Overlooks.throw _).bind hdraw
  · exact hdraw ()

/-- Names are drawn past the carts. -/
theorem makeName_overlooks : Overlooks k makeName :=
  (Overlooks.mapM (fun _ => supplied_overlooks _) _).bind fun _ => .pure _

/-- Addresses of pictures are drawn past the carts; the shop's own address is part of the context.
-/
theorem makePictureAddress_overlooks : Overlooks k makePictureAddress :=
  (supplied_overlooks _).bind fun _ => (supplied_overlooks _).bind fun _ =>
    (supplied_overlooks _).bind fun _ => (supplied_overlooks _).bind fun _ =>
    (supplied_overlooks _).bind fun _ => .get_bind (fun _ => .pure _) fun _ _ => rfl

/-- A variant is made up past the carts. -/
theorem makeVariant_overlooks (product variant : Key) :
    Overlooks k (makeVariant product variant) := by
  unfold makeVariant
  extract_lets make
  have hmake : ∀ id, Overlooks k (make id) := fun _ =>
    makeName_overlooks.bind fun _ => (supplied_overlooks _).bind fun _ =>
      (freshId_overlooks _).bind fun _ => makePictureAddress_overlooks.bind fun _ => .pure _
  split
  · exact (Overlooks.pure _).bind hmake
  · exact (Overlooks.map _ (freshId_overlooks _)).bind hmake

/-- A variant is looked up past the carts. -/
theorem variant_overlooks (id : Key) (make : Bool) : Overlooks k (variant id make) := by
  have other : Gid.variantPrefix ≠ Gid.cartPrefix := by decide
  refine (has_overlooks other id).bind fun known => ?_
  split
  · exact (freshId_overlooks _).bind fun _ => (makeVariant_overlooks _ _).bind fun _ =>
      (keep_overlooks other _ _).bind fun _ => find?_overlooks other id
  · exact find?_overlooks other id

/-- The record of a variant is looked up past the carts. -/
theorem variantRecord_overlooks (id : String) : Overlooks k (variantRecord id) := by
  refine (variant_overlooks _ _).bind fun found => ?_
  split
  · exact .pure _
  · exact .throw _

/-- A new line is made past the carts. -/
theorem newLine_overlooks (variant : String) (quantity : Int) (attributes : Value)
    (currency : String) : Overlooks k (newLine variant quantity attributes currency) :=
  (variantRecord_overlooks _).bind fun _ => (Overlooks.lift _).bind fun _ =>
    (freshId_overlooks _).bind fun _ => (Overlooks.map _ (.lift _)).bind fun _ =>
    (Overlooks.lift _).bind fun _ => (Overlooks.map _ (.lift _)).bind fun _ =>
    (Overlooks.lift _).bind fun _ => (Overlooks.lift _).bind fun _ =>
    (Overlooks.lift _).bind fun _ => .pure _

end Shop

/-! ### Lines that are the same but for their costs -/

/-- To replace the first line of a kind replaces it among the bare lines, if it is told by what is
left of it. -/
theorem Cart.map_bare_replaceFirst {p : Line → Bool} {f : Line → Line} (hp : ∀ l, p l.bare = p l)
    (hf : ∀ l, (f l).bare = f l.bare) (ls : List Line) :
    (replaceFirst p f ls).map Line.bare = replaceFirst p f (ls.map Line.bare) := by
  induction ls with
  | nil => rfl
  | cons l ls ih =>
    rw [replaceFirst, List.map_cons, replaceFirst, hp]
    split
    · rw [List.map_cons, hf]
    · rw [List.map_cons, ih]

/-- Two carts of one country have the same lines, but for what these cost. -/
structure Cart.SameLines (c c' : Cart) : Prop where
  lines : c.lines.map Line.bare = c'.lines.map Line.bare
  country : c.country = c'.country

/-- Two carts that were given other lines, the same but for what these cost. -/
inductive KeptCart.RelinedAlike (c c' : Cart) : KeptCart → KeptCart → Prop
  | intro {ls ls' : List Line} (h : ls.map Line.bare = ls'.map Line.bare) :
      RelinedAlike c c' (.made { c with lines := ls }) (.made { c' with lines := ls' })

namespace Shop

open KeptCart (RelinedAlike)

variable {k : String} {c c' : Cart} {kc kc' : KeptCart} {attributes : Value}

/-- Which line is extended does not depend on what lines cost. -/
theorem extend?_alike (h : RelinedAlike c c' kc kc') {idOf : Line → String}
    (hid : ∀ l : Line, idOf l.bare = idOf l) (idOfEdge : Value → Except Fault Value) (id : String)
    (quantity : Int) : Alike (Option.Rel (RelinedAlike c c'))
      (kc.extend? idOf idOfEdge id quantity attributes)
      (kc'.extend? idOf idOfEdge id quantity attributes) := by
  obtain @⟨ls, ls', h⟩ := h
  -- The costs of a line do not tell whether there is one to extend.
  have any_bare : ∀ ls : List Line, ls.any (idOf · = id) = (ls.map Line.bare).any
    (idOf · = id) := by
    intro ls
    simp [List.any_map, Function.comp_def, hid]
  have any_eq : ls.any (idOf · = id) = ls'.any (idOf · = id) := by
    rw [any_bare ls, h, ← any_bare ls']
  simp only [KeptCart.extend?, any_eq]
  split
  · exact .ok .none
  · refine .bind (.of_eq (fun _ => rfl) rfl) fun as _ has => ?_
    subst has
    -- The line is replaced among the bare lines just as among the lines themselves.
    have replaced : ∀ ls : List Line,
        (Cart.replaceFirst (idOf · = id) (Cart.extended · quantity as) ls).map Line.bare =
          Cart.replaceFirst (idOf · = id) (Cart.extended · quantity as) (ls.map Line.bare) :=
      Cart.map_bare_replaceFirst (fun l => by simp [hid]) fun _ => rfl
    exact .ok (.some (.intro (by rw [replaced, h, ← replaced])))

/-- A new line is the same on both sides, and goes to the end of lists of one length. -/
theorem withNewLine_sideBySide (h : RelinedAlike c c' kc kc') (currency variant : String)
    (quantity : Int) : SideBySide k (RelinedAlike c c')
      (withNewLine currency kc variant quantity attributes)
      (withNewLine currency kc' variant quantity attributes) := by
  obtain ⟨h⟩ := h
  refine .bind (newLine_overlooks variant quantity attributes currency) fun l _ hl => ?_
  subst hl
  exact .pure (.intro (by simp [h]))

/-- The same line is extended on both sides, or the same line is added. -/
theorem addRequest_sideBySide (h : RelinedAlike c c' kc kc') (currency : String) (r : LineRequest) :
    SideBySide k (RelinedAlike c c') (addRequest currency kc r) (addRequest currency kc' r) := by
  refine .bind (Overlooks.lift _) fun id _ hid => ?_
  subst hid
  refine .bind (Overlooks.lift _) fun variant _ hvariant => ?_
  subst hvariant
  refine .bind (.lift (extend?_alike h (fun _ => rfl) _ _ _)) fun found found' hfound => ?_
  -- The line is found on both sides or on neither.
  cases hfound with
  | none => exact withNewLine_sideBySide h _ _ _
  | some hfound => exact .pure hfound

/-- Lines are added alike to carts with the same lines. -/
theorem withAdditions_sideBySide (h : c.SameLines c') (country : Value) (lines : List Value) :
    SideBySide k (Option.Rel (RelinedAlike c c')) (withAdditions country lines (.made c))
      (withAdditions country lines (.made c')) := by
  refine .bind (Overlooks.lift _) fun requests _ hrequests => ?_
  subst hrequests
  cases requests with
  | none => exact .pure .none
  | some requests =>
    -- Both carts have the same country, so both additions are in the same market.
    have same : (KeptCart.made c).countryFor country = (KeptCart.made c').countryFor country := by
      simp only [KeptCart.countryFor, h.country]
    refine .bind (.lift (.of_eq (fun _ => rfl) same)) fun key _ hkey => ?_
    subst hkey
    exact .bind (.foldlM (fun _ _ r h => addRequest_sideBySide h _ r) requests (.intro h.lines))
      fun _ _ hadded => .pure (.some hadded)

/-- The same line is updated on both sides, or none. -/
theorem updateRequest_alike (h : RelinedAlike c c' kc kc') (r : LineRequest) :
    Alike (RelinedAlike c c') (updateRequest kc r) (updateRequest kc' r) := by
  refine .bind (.of_eq (fun _ => rfl) rfl) fun id _ hid => ?_
  subst hid
  refine .bind (.of_eq (fun _ => rfl) rfl) fun id _ hid => ?_
  subst hid
  refine .bind (extend?_alike h (fun _ => rfl) _ _ _) fun found found' hfound => ?_
  cases hfound with
  | none => exact .ok h
  | some hfound => exact .ok hfound

/-- Updates are alike one after the other, by induction over what is asked for. -/
theorem updated_alike (requests : List LineRequest) (h : RelinedAlike c c' kc kc') :
    Alike (RelinedAlike c c') (updated kc requests) (updated kc' requests) := by
  induction requests generalizing kc kc' with
  | nil => exact .ok h
  | cons r requests ih =>
    rw [updated, updated, List.foldlM_cons, List.foldlM_cons]
    exact .bind (updateRequest_alike h r) fun _ _ h => ih h

/-- Lines are updated alike in carts with the same lines. -/
theorem withUpdates_alike (h : c.SameLines c') (lines : List Value) :
    Alike (Option.Rel (RelinedAlike c c')) (withUpdates lines (.made c))
      (withUpdates lines (.made c')) := by
  refine .bind (.of_eq (fun _ => rfl) rfl) fun requests _ hrequests => ?_
  subst hrequests
  cases requests with
  | none => exact .ok .none
  | some requests =>
    exact .bind (updated_alike requests (.intro h.lines)) fun _ _ h => .ok (.some h)

/-- Lines are removed alike from carts with the same lines. -/
theorem withRemovals_alike (h : c.SameLines c') (lineIds : List Value) :
    Alike (Option.Rel (RelinedAlike c c')) (withRemovals lineIds (.made c))
      (withRemovals lineIds (.made c')) := by
  rw [withRemovals, withRemovals]
  split
  · exact .ok .none
  · refine .bind (.of_eq (fun _ => rfl) rfl) fun removed _ hremoved => ?_
    subst hremoved
    -- A line is named by its identifier, which is not among its costs.
    have filtered : ∀ ls : List Line, (ls.filter fun l => !removed.contains l.id).map Line.bare =
        (ls.map Line.bare).filter fun l => !removed.contains l.id := by
      intro ls
      rw [List.filter_map]
      rfl
    exact .ok (.some (.intro (by rw [filtered, h.lines, ← filtered])))

end Shop
end Storefront
