import Storefront.Proofs.Portions
import Storefront.Proofs.Relining

/-! # Updating the lines of a cart

Updating lines tops up the lines that a batch names, each by all that is for it, and leaves their
order and all else alone.  Since no two lines have the same identifier, nothing is topped up twice,
and what names no line has no effect.

* `updateLines_relinesBy` : an update does nothing but top lines up
* `Reachable.updates_add` : what an update comes to, and how it may be rearranged -/

namespace Storefront.Shop

open Portion (AskedBy)

variable {s s' : Shop} {id country : Value} {k : String} {c : Cart} {a : Option KeptCart}
  {lines : List Value} {ps ps' : List Portion}

/-- An update of lines does nothing but top them up. -/
theorem updateLines_relinesBy (hne : lines ≠ []) (hps : List.Forall₂ (AskedBy "id") lines ps) :
    (CartEdit.updateLines (.list lines)).RelinesBy
      (List.map fun l => l.topped ps l.id) := by
  intro country c s ids
  obtain ⟨rs, hrs, hr⟩ := Portion.exists_requestsOf hne hps
  rw [CartEdit.draft, CartEdit.listed, Value.elementsOrNone_list,
    Act.on_bind_of_ok (Act.on_lift _ s)]
  show Act.on (liftM (withUpdates lines (.made c))) s = _
  rw [withUpdates, hr]
  show Act.on (liftM (updated (.made c) rs >>= fun kc => pure (some kc))) s = _
  rw [updated_portions hrs ids]
  rfl

/-- Topping up a line and leaving its price out may be done in either order. -/
theorem map_bare_topped (ps : List Portion) (ls : List Line) :
    (ls.map fun l => l.topped ps l.id).map Line.bare =
      (ls.map Line.bare).map fun l => l.topped ps l.id := by
  rw [List.map_map, List.map_map]
  rfl

/-- Topping lines up by two lots of portions, one after the other, is the same as by
both at once. -/
theorem map_bare_topped_append (ps ps' : List Portion) {ls ls' : List Line}
    (h : ls'.map Line.bare = (ls.map fun l => l.topped ps l.id).map Line.bare) :
    (ls'.map fun l => l.topped ps' l.id).map Line.bare =
      (ls.map fun l => l.topped (ps ++ ps') l.id).map Line.bare := by
  rw [map_bare_topped, h, map_bare_topped, map_bare_topped, List.map_map]
  exact List.map_congr_left fun l _ => (Line.topped_append l ps ps' l.id).symm

/-- What names no line of a cart tops none of them up. -/
theorem map_topped_of_not_mem (before after : List Portion) {p : Portion} {ls : List Line}
    (h : p.id ∉ ls.map (·.id)) :
    (ls.map fun l => l.topped (before ++ p :: after) l.id) =
      ls.map fun l => l.topped (before ++ after) l.id := by
  refine List.map_congr_left fun l hl => ?_
  rw [← List.singleton_append, Line.topped_append, Line.topped_append, Line.topped_append,
    Line.topped_singleton, if_neg fun same => h (List.mem_map.2 ⟨l, hl, same⟩)]

/-- Batches with the same portions in another order leave as many pieces of each line. -/
theorem map_quantity_topped_perm (h : ps.Perm ps') (ls : List Line) :
    (ls.map fun l => l.topped ps l.id).map (fun l => (l.id, l.quantity)) =
      (ls.map fun l => l.topped ps' l.id).map fun l => (l.id, l.quantity) := by
  rw [List.map_map, List.map_map]
  refine List.map_congr_left fun l _ => ?_
  show (l.id, l.quantity + Portion.pieces ps l.id) = (l.id, l.quantity + Portion.pieces ps' l.id)
  rw [Portion.pieces_perm h]

/-- A batch in another order is taken as well, and leaves the same quantities. -/
theorem updateLines_perm {lines' : List Value} (hs : Coherent s) (hid : Names id k)
    (hc : s.HasCart k c) (hne : lines ≠ []) (hps : List.Forall₂ (AskedBy "id") lines ps)
    (hrun : Act.on (Shop.updateLines id country (.list lines)) s = (.ok a, s'))
    (hperm : lines.Perm lines') : ∃ c' s'',
      Act.on (Shop.updateLines id country (.list lines')) s = (.ok (some (.made c')), s'') ∧
      c'.lines.map (fun l => (l.id, l.quantity)) =
        (c.lines.map fun l => l.topped ps l.id).map fun l => (l.id, l.quantity) := by
  obtain ⟨ps', hps', hperm'⟩ := List.perm_comp_forall₂ hperm.symm hps
  have hne' : lines' ≠ [] := fun none => hne (List.Perm.eq_nil (none ▸ hperm))
  have relines := updateLines_relinesBy hne hps
  have relines' := updateLines_relinesBy hne' hps'
  -- Each line has as many pieces in the one order as in the other.
  have le : ∀ l ∈ c.lines.map fun l => l.topped ps' l.id,
      ∃ l' ∈ c.lines.map fun l => l.topped ps l.id, l.quantity ≤ l'.quantity := by
    intro l hl
    obtain ⟨l₀, hl₀, rfl⟩ := List.mem_map.1 hl
    refine ⟨_, List.mem_map_of_mem hl₀, ?_⟩
    show l₀.quantity + Portion.pieces ps' l₀.id ≤ l₀.quantity + Portion.pieces ps l₀.id
    rw [Portion.pieces_perm hperm']
  obtain ⟨b, s'', hrun'⟩ := exists_run_of_le relines relines' hs hid hc le hrun s.supply.now
  obtain ⟨c', rfl, -, bare⟩ := lines_of_run relines' hs hid hc hrun'
  refine ⟨c', s'', hrun', ?_⟩
  rw [map_quantity_topped_perm hperm'.symm]
  exact Line.map_comp_bare bare fun l => (l.id, l.quantity)

/-- A line of a batch that names no line of the cart may be left out. -/
theorem updateLines_without {before after : List Value} {line : Value} {named : String}
    (hs : Coherent s) (hid : Names id k) (hc : s.HasCart k c) (hne : before ++ after ≠ [])
    (hps : List.Forall₂ (AskedBy "id") (before ++ line :: after) ps)
    (hnamed : line.member "id" = .ok (.text named))
    (missing : Gid.decode named ∉ c.lines.map (·.id)) :
    Act.on (Shop.updateLines id country (.list (before ++ after))) s =
      Act.on (Shop.updateLines id country (.list (before ++ line :: after))) s := by
  -- The portions split where the batch does, and the middle one names the line that is missing.
  obtain ⟨first, _, hfirst, hrest, rfl⟩ := Portion.exists_of_askedBy_append hps
  obtain ⟨p, last, hline, hlast, rfl⟩ := List.forall₂_cons_left_iff.1 hrest
  have ids := (hs.carts k c hc).lines.ids
  -- A line's portion carries the decoded id.
  have same : p.id = Gid.decode named := by
    obtain ⟨id, hid', -, hdecoded⟩ := hline.id
    obtain rfl := Value.text.inj (Except.ok.inj (hnamed.symm.trans hid'))
    exact hdecoded.symm
  -- Both batches relink the cart by a map over its lines, and the two maps agree on every line it
  -- has.
  have draft := updateLines_relinesBy (by simp) hps country c s ids
  have draft' := updateLines_relinesBy hne (List.rel_append hfirst hlast) country c s ids
  rw [map_topped_of_not_mem first last (same ▸ missing)] at draft
  show Act.on ((CartEdit.updateLines (.list (before ++ after))).run id country) s =
    Act.on ((CartEdit.updateLines (.list (before ++ line :: after))).run id country) s
  rw [on_run hid hc, on_run hid hc, draft, draft']

/-- A batch may be cut in two, for two updates at any times. -/
theorem updateLines_append {xs ys : List Value} (hs : Coherent s) (hid : Names id k)
    (hc : s.HasCart k c) (hxs : xs ≠ []) (hys : ys ≠ [])
    (hps : List.Forall₂ (AskedBy "id") (xs ++ ys) ps)
    (hrun : Act.on (Shop.updateLines id country (.list (xs ++ ys))) s = (.ok a, s')) (t₁ t₂ : Int) :
    ∃ b s₁ a₂ s₂, Act.on (Shop.updateLines id country (.list xs)) (s.atTime t₁) = (.ok b, s₁) ∧
      Act.on (Shop.updateLines id country (.list ys)) (s₁.atTime t₂) = (.ok a₂, s₂) ∧
      ReturnsAlike k a s' a₂ s₂ := by
  obtain ⟨first, rest, hfirst, hrest, rfl⟩ := Portion.exists_of_askedBy_append hps
  have relines := updateLines_relinesBy (by simp [hxs]) hps
  have relines₁ := updateLines_relinesBy hxs hfirst
  have relines₂ := updateLines_relinesBy hys hrest
  -- The first part leaves no line with more pieces than both do.
  have le : ∀ l ∈ c.lines.map fun l => l.topped first l.id,
      ∃ l' ∈ c.lines.map fun l => l.topped (first ++ rest) l.id, l.quantity ≤ l'.quantity := by
    intro l hl
    obtain ⟨l₀, hl₀, rfl⟩ := List.mem_map.1 hl
    refine ⟨_, List.mem_map_of_mem hl₀, ?_⟩
    rw [Line.topped_append]
    exact Int.le_add_of_nonneg_right
      (Portion.pieces_nonneg (Portion.positive_of_askedBy hrest) l₀.id)
  obtain ⟨b, s₁, hfirstRun⟩ := exists_run_of_le relines relines₁ hs hid hc le hrun t₁
  obtain ⟨a₂, s₂, hsecond, alike⟩ := run_run_alike relines relines₁ relines₂
    (fun _ _ => map_bare_topped_append first rest) hs hid hc hrun t₁ t₂
  rw [hfirstRun] at hsecond
  exact ⟨b, s₁, a₂, s₂, hfirstRun, hsecond, alike⟩

/-- Updating the lines of a cart adds to each of them the pieces and attributes that the batch has
for it, and keeps their order, identifiers and variants.  Whatever the order of the batch, the
quantities are the same; a line of the batch that names no line of the cart may be left out; and the
batch may be cut in two, for two updates at any times. -/
theorem Reachable.updates_add (h : Reachable s) (hid : Names id k) (hc : s.HasCart k c)
    (hne : lines ≠ []) (hps : List.Forall₂ (AskedBy "id") lines ps)
    (hrun : Act.on (Shop.updateLines id country (.list lines)) s = (.ok a, s')) :
    ∃ c', a = some (.made c') ∧ s'.HasCart k c' ∧
      c'.lines.map Line.bare = c.lines.map (fun l => (l.topped ps l.id).bare) ∧
      (∀ lines', lines.Perm lines' → ∃ c'' s'',
        Act.on (Shop.updateLines id country (.list lines')) s = (.ok (some (.made c'')), s'') ∧
        c''.lines.map (fun l => (l.id, l.quantity)) = c'.lines.map fun l => (l.id, l.quantity)) ∧
      (∀ before line after, lines = before ++ line :: after → before ++ after ≠ [] →
        (∃ named, line.member "id" = .ok (.text named) ∧ Gid.decode named ∉ c.lines.map (·.id)) →
        Act.on (Shop.updateLines id country (.list (before ++ after))) s = (.ok a, s')) ∧
      ∀ xs ys, lines = xs ++ ys → xs ≠ [] → ys ≠ [] → ∀ t₁ t₂, ∃ b s₁ a₂ s₂,
        Act.on (Shop.updateLines id country (.list xs)) (s.atTime t₁) = (.ok b, s₁) ∧
        Act.on (Shop.updateLines id country (.list ys)) (s₁.atTime t₂) = (.ok a₂, s₂) ∧
        ReturnsAlike k a s' a₂ s₂ := by
  have hs := h.coherent
  obtain ⟨c', rfl, kept, bare⟩ := lines_of_run (updateLines_relinesBy hne hps) hs hid hc hrun
  refine ⟨c', rfl, kept, by rw [bare, List.map_map]; rfl, fun lines' hperm => ?_, ?_, ?_⟩
  · -- in another order: each line's total is the same sum
    obtain ⟨c'', s'', hrun', quantities⟩ := updateLines_perm hs hid hc hne hps hrun hperm
    have toppedUp : c'.lines.map (fun l => (l.id, l.quantity)) =
        (c.lines.map fun l => l.topped ps l.id).map fun l => (l.id, l.quantity) :=
      Line.map_comp_bare bare fun l => (l.id, l.quantity)
    exact ⟨c'', s'', hrun', quantities.trans toppedUp.symm⟩
  · -- a line the cart does not have is passed over
    rintro before line after rfl hrest ⟨named, hnamed, missing⟩
    rw [updateLines_without hs hid hc hrest hps hnamed missing, hrun]
  · -- cut in two: the second half adds to what the first left
    rintro xs ys rfl hxs hys t₁ t₂
    exact updateLines_append hs hid hc hxs hys hps hrun t₁ t₂

/-- A line of a batch that asks for more pieces of a line. -/
def moreOf (id : String) (quantity : Int) : Value :=
  .ofFields [("id", id), ("quantity", .int quantity)]

/-- A batch that names the line of the cart of `sample` in two forms, and a line that it does not
have. -/
def mixedUpdates : List Value :=
  [moreOf (Gid.cartLinePrefix ++ "CartLine-1") 3, moreOf (Gid.cartLinePrefix ++ "CartLine-9") 1,
    moreOf "Z2lkOi8vc2hvcGlmeS9DYXJ0TGluZS9DYXJ0TGluZS0x" 4]

/-- What the batch asks for. -/
def mixedUpdatePortions : List Portion :=
  [⟨Gid.cartLinePrefix ++ "CartLine-1", 3, []⟩, ⟨Gid.cartLinePrefix ++ "CartLine-9", 1, []⟩,
    ⟨Gid.cartLinePrefix ++ "CartLine-1", 4, []⟩]

/-- The portions of the sample's updates are the ones its lines ask for. -/
theorem askedBy_mixedUpdates :
    List.Forall₂ (AskedBy "id") mixedUpdates mixedUpdatePortions := by
  refine .cons ?_ (.cons ?_ (.cons ?_ .nil)) <;>
    exact ⟨⟨_, rfl, by decide, by decide +kernel⟩, ⟨_, rfl, rfl⟩, by decide, .inr ⟨rfl, rfl⟩⟩

/-- The theorem at three updates of the sample's line, reversed and cut in two. -/
theorem Reachable.updates_add_sample : ∃ c c' s', sample.HasCart sampleId c ∧
    Act.on (Shop.updateLines sampleId "FR" (.list mixedUpdates)) sample =
      (.ok (some (.made c')), s') ∧ s'.HasCart sampleId c' ∧
    c'.lines.map Line.bare = c.lines.map (fun l => (l.topped mixedUpdatePortions l.id).bare) ∧
    (∃ c'' s'', Act.on (Shop.updateLines sampleId "FR" (.list mixedUpdates.reverse)) sample =
        (.ok (some (.made c'')), s'') ∧
      c''.lines.map (fun l => (l.id, l.quantity)) = c'.lines.map fun l => (l.id, l.quantity)) ∧
    ∃ b s₁ a₂ s₂, Act.on (Shop.updateLines sampleId "FR" (.list (mixedUpdates.take 1)))
        (sample.atTime 0) = (.ok b, s₁) ∧
      Act.on (Shop.updateLines sampleId "FR" (.list (mixedUpdates.drop 1))) (s₁.atTime 86400) =
        (.ok a₂, s₂) ∧
      ReturnsAlike sampleId (some (.made c')) s' a₂ s₂ := by
  obtain ⟨c, hc⟩ := exists_hasCart_sample
  obtain ⟨a, ha⟩ := Act.eq_ok_of_toBool
    (p := Act.on (Shop.updateLines sampleId "FR" (.list mixedUpdates)) sample) (by decide +kernel)
  have named : Names sampleId sampleId := ⟨rfl, by decide⟩
  -- That the call succeeds is decided by running it, and the theorem says what it did.
  obtain ⟨c', rfl, kept, bare, reordered, -, cut⟩ := Reachable.updates_add
    reachable_sample named hc (by decide) askedBy_mixedUpdates ha
  exact ⟨c, c', _, hc, ha, kept, bare, reordered _ (List.reverse_perm _).symm,
    cut (mixedUpdates.take 1) (mixedUpdates.drop 1) rfl nofun nofun 0 86400⟩

end Storefront.Shop
