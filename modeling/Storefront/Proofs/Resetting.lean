import Storefront.Proofs.Serving

/-! # Starting anew

A shop that is reset is as good as new: it is reached where it was reached before, and whatever
happens to it from then on is answered as it is in a new shop that finds the same time and chance.
What happened before the reset shows in no answer, in no entity and in no token that is handed out.

* `Router.Event`, `Router.history` : what may happen at a router, and how it is answered
* `Router.history_unmoved` : nothing that happens changes where the shop is reached
* `Router.reset_complete` : nothing of what happened before a reset is left after it -/

namespace Storefront

open Act (Within)

namespace Shop

/-- The second shop is reached where the first is. -/
def Unmoved (s s' : Shop) : Prop := s'.context = s.context

/-- What stays where it is is unmoved. -/
instance : Std.Refl Unmoved := ⟨fun _ => rfl⟩

/-- And so it is over two moves. -/
instance : IsTrans Shop Unmoved := ⟨fun _ _ _ h h' => Eq.trans h' h⟩

/-- All that a reset leaves is where the shop is reached, and the supply. -/
theorem reset_eq_new (s : Shop) : s.reset = .new s.context s.supply := rfl

end Shop

namespace Router

open Shop (Unmoved)

/-! ### Histories -/

/-- What may happen at a router. -/
inductive Event where
  | dispatch (document : Option String) (vars : Value)
  /-- A request to the engines behind the router. -/
  | engine (request : ShopRequest)
  /-- Time passes, and chance does what it will. -/
  | passage (supply : Supply)
  | reset

/-- What happens at an event; only a dispatch has an answer, but anything may fail. -/
def meet (r : Router) : Event → Act Shop (Option Value)
  | .dispatch document vars => r.dispatch document vars
  | .engine request => do
    request.run
    return none
  | .passage supply => do
    modify fun s => { s with supply }
    return none
  | .reset => do
    modify Shop.reset
    return none

/-- The answers to events, one after the other, and the shop after them.  A failure ends none but
the event that fails. -/
def history (r : Router) : List Event → Shop → List (Except Fault (Option Value)) × Shop
  | [], s => ([], s)
  | e :: es, s =>
    let (answer, s₁) := Act.on (r.meet e) s
    let (answers, s₂) := r.history es s₁
    (answer :: answers, s₂)

variable {r : Router}

/-- What happens later starts from what was left before. -/
theorem history_append (es es' : List Event) (s : Shop) : r.history (es ++ es') s =
    ((r.history es s).1 ++ (r.history es' (r.history es s).2).1,
      (r.history es' (r.history es s).2).2) := by
  induction es generalizing s with
  | nil => rfl
  | cons e es ih =>
    rw [List.cons_append, history, history]
    rcases Act.on (r.meet e) s with ⟨answer, s₁⟩
    dsimp only
    rw [ih]
    rfl

/-! ### Where the shop is reached -/

/-- One event changes nothing about where the shop is reached, unless a handler or a hook that was
put in does. -/
theorem meet_unmoved (h : r.Moves Unmoved) (e : Event) : Within Unmoved (r.meet e) := by
  have steps : ∀ s s', Shop.Steps s s' → Unmoved s s' := fun _ _ => Shop.Steps.context_eq
  cases e with
  | dispatch document vars => exact dispatch_within steps h document vars
  | engine request => exact .bind (request.run_steps.mono steps) fun _ => .pure _
  | passage supply => exact fun _ => rfl
  | reset => exact fun _ => rfl

/-- A history of moves that leave the shop unmoved leaves it so. -/
theorem history_unmoved (h : r.Moves Unmoved) (es : List Event) (s : Shop) :
    Unmoved s (r.history es s).2 := by
  induction es generalizing s with
  | nil => rfl
  | cons e es ih =>
    have first : Unmoved s (Act.on (r.meet e) s).2 := meet_unmoved h e s
    exact Eq.trans (ih _) first

/-! ### Resets -/

/-- A reset at some time, with some chance to come, is as good as a new shop at that time. -/
theorem history_reset (now : Supply) (s : Shop) :
    r.history [.reset, .passage now] s = ([.ok none, .ok none], .new s.context now) := by
  have meets : Act.on (r.meet .reset) s = (.ok none, s.reset) := rfl
  rw [history, meets, Shop.reset_eq_new]
  rfl

/-- What happens after a reset is answered, and leaves behind, what it does in a new shop that is
reached where the old one was, if both find the same time and chance.  That is where the shop was
reached from the start, unless a handler or a hook that was put in has changed it. -/
theorem reset_complete (r : Router) (context : Context) (start now : Supply)
    (before later : List Event) :
    let old := r.history before (.new context start)
    let fresh := r.history later (.new old.2.context now)
    r.history (before ++ ([.reset, .passage now] ++ later)) (.new context start) =
        (old.1 ++ ([.ok none, .ok none] ++ fresh.1), fresh.2) ∧
      (r.Moves Unmoved → old.2.context = context) := by
  intro old fresh
  constructor
  · rw [history_append, history_append, history_reset]
  · intro h
    exact history_unmoved h before (.new context start)

/-- A router with the hook for carts, and with a handler that answers its variables. -/
def echoing : Router :=
  (standard (some .standard)).register (.text "query Echo") fun _ vars => pure vars

/-- The router of the sample moves nothing. -/
theorem echoing_moves : echoing.Moves Unmoved where
  handlers p hp document vars := by
    obtain rfl := List.mem_singleton.1 hp
    exact .pure vars
  hook f hf params := by
    obtain rfl := Option.some.inj hf
    exact (Answer.call_steps params).mono fun _ _ => Shop.Steps.context_eq

/-- A cart is made, and an identifier is handed out. -/
def sampleEvents : List Event :=
  [.dispatch (some Document.cartCreate) .null, .engine (.side (.freshId Gid.variantPrefix))]

/-- Where the shop of the sample is reached. -/
def sampleContext : Context := { (default : Context) with shopBaseUrl := "shop.test" }

/-- A reset after these events, before they happen once more. -/
theorem reset_complete_sample :
    let now := Supply.fresh 60 7 ["a", "b"]
    let old := echoing.history sampleEvents (.new sampleContext (.fresh 0 0 []))
    let fresh := echoing.history sampleEvents (.new sampleContext now)
    echoing.Moves Unmoved ∧
      echoing.history (sampleEvents ++ ([.reset, .passage now] ++ sampleEvents))
        (.new sampleContext (.fresh 0 0 [])) =
        (old.1 ++ ([.ok none, .ok none] ++ fresh.1), fresh.2) := by
  obtain ⟨answers, unmoved⟩ := reset_complete echoing sampleContext (.fresh 0 0 [])
    (.fresh 60 7 ["a", "b"]) sampleEvents sampleEvents
  rw [unmoved echoing_moves] at answers
  exact ⟨echoing_moves, answers⟩

end Router
end Storefront
