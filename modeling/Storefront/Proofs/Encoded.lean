import Storefront.Proofs.Naming

/-! # Requests with encoded identifiers

The engine of carts decodes the identifiers that it is given.  So a request that names its cart, its
variants or its lines by encoded identifiers does the same, and is answered the same, as the one
that names them by raw ones.

* `Sent` : a line of a request, and the same line as it is sent
* `withAdditions_sent`, `withUpdates_sent`, `withRemovals_encode` : each change of a cart
* `CartEdit.run_congr` : edits that agree on the cart and on the change -/

namespace Storefront

open Value (SameId SameLine)

namespace Shop

/-! ### Lines of a request -/

/-- The second line is the first as it is sent: its identifier is encoded, and all else that is
looked at stays as it is. -/
structure Sent (idName : String) (line line' : Value) : Prop where
  id : ∃ s, line.member idName = .ok (.text s) ∧ line'.member idName = .ok (.text (Gid.encode s))
  quantity : line'.member "quantity" = line.member "quantity"
  attributes : line'.member "attributes" = line.member "attributes"

/-- A line as it is sent and the line it was made from are the same to the engine. -/
theorem Sent.sameLine {idName : String} {line line' : Value} (h : Sent idName line line') :
    SameLine idName line' line where
  id := by
    obtain ⟨s, hs, hs'⟩ := h.id
    rw [hs, hs']
    exact .ok (.text (Gid.decode_encode s))
  quantity := h.quantity
  attributes := h.attributes

/-- So are the lines of a batch. -/
theorem forall₂_sameLine {idName : String} {lines lines' : List Value}
    (h : List.Forall₂ (Sent idName) lines lines') :
    List.Forall₂ (SameLine idName) lines' lines :=
  (h.imp fun _ _ => Sent.sameLine).flip

variable {lines lines' : List Value}

/-- An addition as it is sent adds the same. -/
theorem withAdditions_sent (h : List.Forall₂ (Sent "merchandiseId") lines lines') (country : Value)
    (cart : KeptCart) : withAdditions country lines' cart = withAdditions country lines cart :=
  withAdditions_congr country cart (forall₂_sameLine h)

/-- An update as it is sent updates the same. -/
theorem withUpdates_sent (h : List.Forall₂ (Sent "id") lines lines') (cart : KeptCart) :
    withUpdates lines' cart = withUpdates lines cart :=
  withUpdates_congr cart (forall₂_sameLine h)

/-- Encoded identifiers remove the same lines. -/
theorem withRemovals_encode (ids : List String) (cart : KeptCart) :
    withRemovals (ids.map fun id => .text (Gid.encode id)) cart =
      withRemovals (ids.map .text) cart := by
  apply withRemovals_congr
  rw [List.forall₂_map_left_iff, List.forall₂_map_right_iff, List.forall₂_same]
  intro id _
  exact .text (Gid.decode_encode id)

/-! ### Edits -/

/-- Edits of the same cart that make the same change do the same. -/
theorem CartEdit.run_congr {e f : CartEdit} {id id' country : Value}
    (hid : Gid.decodeValue id = Gid.decodeValue id') {l l' : List Value} (hl : e.listed = .ok l)
    (hl' : f.listed = .ok l') (hchange : ∀ kc, e.change country l kc = f.change country l' kc)
    (s : Shop) : Act.on (e.run id country) s = Act.on (f.run id' country) s := by
  -- The cart is found under the decoded identifier, so only the change itself could differ.
  rw [e.run_eq, f.run_eq, editCart, editCart, findCart_congr hid, hl, hl', Act.on_bind, Act.on_bind]
  rcases Act.on (findCart id') s with ⟨fault | found, s₁⟩
  · rfl
  · dsimp only
    rw [Act.on_bind_of_ok (Act.on_lift _ s₁), Act.on_bind_of_ok (Act.on_lift _ s₁)]
    cases found with
    | none => rfl
    | some found =>
      obtain ⟨k, kc⟩ := found
      dsimp only
      rw [hchange]

end Shop
end Storefront
