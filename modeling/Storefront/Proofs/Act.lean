import Mathlib.Order.Defs.Unbundled
import Storefront.Shop

/-! # Reasoning about actions

An action takes a state to an outcome and another state; `Act.on` is both.  The lemmas `on_*` say
what each way of making an action does to a state, and `on_bind_eq_ok` takes a sequence apart that
succeeds.

`Within R` says that an action moves every state along `R`, whatever its outcome.  For a relation
that is reflexive and transitive it follows from the parts of an action, with one rule for each way
of putting them together. -/

namespace Storefront.Act

variable {σ α β : Type}

/-- The outcome of an action on a state, and the state after it. -/
def on (x : Act σ α) (s : σ) : Except Fault α × σ := x s

/-- A sequence of checks passes when each of them does. -/
theorem except_bind_eq_ok {x : Except Fault α} {f : α → Except Fault β} {b : β} :
    (x >>= f) = .ok b ↔ ∃ a, x = .ok a ∧ f a = .ok b := by
  cases x <;> simp [bind, Except.bind]

/-- A result that is worked on further succeeds when it did. -/
theorem except_map_eq_ok {x : Except Fault α} {f : α → β} {b : β} :
    f <$> x = .ok b ↔ ∃ a, x = .ok a ∧ f a = b := by
  cases x <;> simp [Functor.map, Except.map]

/-! ### Runs -/

/-- To answer at once leaves the state alone. -/
@[simp] theorem on_pure (a : α) (s : σ) : on (pure a) s = (.ok a, s) := rfl

/-- To fail at once leaves the state alone too: nothing is rolled back or forward. -/
@[simp] theorem on_throw (f : Fault) (s : σ) : on (throw f : Act σ α) s = (.error f, s) := rfl

/-- A check reads nothing of the state and changes nothing. -/
@[simp] theorem on_lift (e : Except Fault α) (s : σ) : on (liftM e) s = (e, s) := rfl

/-- To read the state gives the state. -/
@[simp] theorem on_get (s : σ) : on (get : Act σ σ) s = (.ok s, s) := rfl

/-- To change the state answers with nothing in particular. -/
@[simp] theorem on_modify (f : σ → σ) (s : σ) : on (modify f) s = (.ok (), f s) := rfl

/-- A sequence runs its second action where the first ended up, unless the first failed. -/
theorem on_bind (x : Act σ α) (f : α → Act σ β) (s : σ) :
    on (x >>= f) s = match on x s with
      | (.ok a, s') => on (f a) s'
      | (.error e, s') => (.error e, s') := by
  -- `bind` of the two transformers, unfolded to what it does to a state.
  change (x s >>= fun p => ExceptT.bindCont f p.1 p.2 : Id _) = _
  rw [on]
  rcases x s with ⟨_ | _, s'⟩ <;> rfl

/-- What is done to an outcome afterwards does not touch the state. -/
theorem on_map (f : α → β) (x : Act σ α) (s : σ) :
    on (f <$> x) s = ((on x s).1.map f, (on x s).2) := by
  rw [map_eq_pure_bind, on_bind]
  rcases on x s with ⟨_ | _, s'⟩ <;> rfl

/-- The handler of a failure starts in the state that the failed action left. -/
theorem on_tryCatch (x : Act σ α) (h : Fault → Act σ α) (s : σ) :
    on (tryCatch x h) s = match on x s with
      | (.ok a, s') => (.ok a, s')
      | (.error e, s') => on (h e) s' := by
  simp only [on, tryCatch, tryCatchThe, MonadExceptOf.tryCatch, ExceptT.tryCatch, ExceptT.mk, bind,
    StateT.bind]
  rcases x s with ⟨_ | _, s'⟩ <;> rfl

variable {x : Act σ α} {f : α → Act σ β} {s s' : σ}

/-- A sequence whose first action is known to succeed. -/
theorem on_bind_of_ok {a : α} (h : on x s = (.ok a, s')) : on (x >>= f) s = on (f a) s' := by
  rw [on_bind, h]

/-- A sequence whose first action is known to fail. -/
theorem on_bind_of_error {e : Fault} (h : on x s = (.error e, s')) :
    on (x >>= f) s = (.error e, s') := by
  rw [on_bind, h]

/-- A sequence succeeds when both actions do, the second after the first. -/
theorem on_bind_eq_ok {b : β} :
    on (x >>= f) s = (.ok b, s') ↔ ∃ a s₁, on x s = (.ok a, s₁) ∧ on (f a) s₁ = (.ok b, s') := by
  rw [on_bind]
  rcases on x s with ⟨e | a, s₁⟩ <;> simp [and_assoc]

/-- A sequence fails where its first action does, or where its second does after the first. -/
theorem on_bind_eq_error {e : Fault} : on (x >>= f) s = (.error e, s') ↔
    on x s = (.error e, s') ∨ ∃ a s₁, on x s = (.ok a, s₁) ∧ on (f a) s₁ = (.error e, s') := by
  rw [on_bind]
  rcases on x s with ⟨e | a, s₁⟩ <;> simp [and_assoc]

/-- `on_bind_eq_ok` for a sequence that starts with a check. -/
theorem on_lift_bind_eq_ok {c : Except Fault α} {b : β} :
    on (liftM c >>= f) s = (.ok b, s') ↔ ∃ a, c = .ok a ∧ on (f a) s = (.ok b, s') := by
  rw [on_bind, on_lift]
  cases c <;> simp

/-- `on_bind_eq_error` for a sequence that starts with a check: if the check fails, nothing has
changed. -/
theorem on_lift_bind_eq_error {c : Except Fault α} {e : Fault} :
    on (liftM c >>= f) s = (.error e, s') ↔
      (c = .error e ∧ s = s') ∨ ∃ a, c = .ok a ∧ on (f a) s = (.error e, s') := by
  rw [on_bind, on_lift]
  cases c <;> simp

/-- An action whose answer is thrown away succeeds when it does. -/
theorem on_discard_eq_ok {u : Unit} :
    on (discard x) s = (.ok u, s') ↔ ∃ a, on x s = (.ok a, s') := by
  rw [show discard x = (fun _ => ()) <$> x from rfl, on_map]
  rcases on x s with ⟨_ | a, s₁⟩ <;> simp [Except.map]

/-- The other direction of `on_discard_eq_ok`, for an outcome that is known. -/
theorem on_discard_of_ok {a : α} (h : on x s = (.ok a, s')) : on (discard x) s = (.ok (), s') := by
  rw [show discard x = (fun _ => ()) <$> x from rfl, on_map, h]
  rfl

/-- To throw the answer away makes no difference to the state. -/
theorem on_discard_snd : (on (discard x) s).2 = (on x s).2 := by
  rw [show discard x = (fun _ => ()) <$> x from rfl, on_map]

/-- Where a sequence ends up, whether or not its first action succeeds. -/
theorem on_bind_snd {P : σ → Prop} (hx : ∀ e s', on x s = (.error e, s') → P s')
    (hf : ∀ a s', on x s = (.ok a, s') → P (on (f a) s').2) : P (on (x >>= f) s).2 := by
  rw [on_bind]
  rcases h : on x s with ⟨e | a, s'⟩
  · exact hx e s' h
  · exact hf a s' h

/-- What is read of each item is read of all, if reading changes no state. -/
theorem on_mapM_of_ok {f : α → Act σ β} {g : α → β} {as : List α} {s : σ}
    (h : ∀ a ∈ as, on (f a) s = (.ok (g a), s)) : on (as.mapM f) s = (.ok (as.map g), s) := by
  induction as with
  | nil => rfl
  | cons a as ih =>
    -- The first action is done and the rest is read in the state it was read in, for `f` changes
    -- none.
    obtain ⟨ha, has⟩ := List.forall_mem_cons.1 h
    rw [List.mapM_cons, on_bind_of_ok ha, on_bind_of_ok (ih has)]
    rfl

/-- A list of actions is done one after the other, up to the first that fails. -/
theorem on_forM_eq_error {f : α → Act σ Unit} {as : List α} {s s' : σ} {e : Fault}
    (h : on (as.forM f) s = (.error e, s')) : ∃ done a rest s₁, as = done ++ a :: rest ∧
      on (done.forM f) s = (.ok (), s₁) ∧ on (f a) s₁ = (.error e, s') := by
  induction as generalizing s with
  | nil => cases h
  | cons a as ih =>
    rcases on_bind_eq_error.1 h with h | ⟨_, s₂, ha, h⟩
    · -- The first item already fails, so nothing was done before it.
      exact ⟨[], a, as, s, rfl, rfl, h⟩
    · obtain ⟨done, b, rest, s₁, rfl, hdone, hb⟩ := ih h
      exact ⟨a :: done, b, rest, s₁, rfl, (on_bind_of_ok ha).trans hdone, hb⟩

/-- A fold keeps what each of its steps keeps of what was worked out and of the state. -/
theorem foldlM_ok {V : β → σ → Prop} {f : β → α → Act σ β} {as : List α}
    (hf : ∀ a ∈ as, ∀ b s b' s', V b s → on (f b a) s = (.ok b', s') → V b' s')
    {b b' : β} {s s' : σ}
    (hb : V b s) (h : on (as.foldlM f b) s = (.ok b', s')) : V b' s' := by
  induction as generalizing b s with
  | nil =>
    obtain ⟨rfl, rfl⟩ : b = b' ∧ s = s' := by simpa using h
    exact hb
  | cons a as ih =>
    rw [List.foldlM_cons] at h
    obtain ⟨b₁, s₁, h₁, h⟩ := on_bind_eq_ok.1 h
    -- The first step keeps `V`, so the rest of the list starts where `V` holds.
    exact ih (fun a ha => hf a (.tail _ ha)) (hf a (.head _) b s b₁ s₁ hb h₁) h

/-! ### Outcomes -/

/-- An outcome that is not a failure is an answer. -/
theorem eq_ok_of_toBool {p : Except Fault α × σ} (h : p.1.toBool = true) :
    ∃ a, p = (.ok a, p.2) := by
  obtain ⟨e | a, s⟩ := p
  · cases h
  · exact ⟨a, rfl⟩

/-- An outcome that is not an answer is a failure. -/
theorem eq_error_of_toBool {p : Except Fault α × σ} (h : p.1.toBool = false) :
    ∃ e, p = (.error e, p.2) := by
  obtain ⟨e | a, s⟩ := p
  · exact ⟨e, rfl⟩
  · cases h

/-- An outcome that is known to be an answer, and none, is `none`. -/
theorem eq_ok_none {p : Except Fault (Option α) × σ}
    (h : p.1.toOption.map Option.isNone = some true) : p = (.ok none, p.2) := by
  obtain ⟨e | _ | a, s⟩ := p
  · cases h
  · rfl
  · cases h

/-! ### Moving along a relation -/

/-- Whatever its outcome, the action moves the state along a relation. -/
def Within (R : σ → σ → Prop) (x : Act σ α) : Prop := ∀ s, R s (on x s).2

namespace Within

variable {R : σ → σ → Prop} {x : Act σ α} {f : α → Act σ β}

/-- An action stays within any larger relation. -/
theorem mono {R' : σ → σ → Prop} (h : ∀ s s', R s s' → R' s s') (hx : Within R x) :
    Within R' x := fun s => h _ _ (hx s)

/-- Where one run of an action ends up. -/
theorem of_on {r : Except Fault α} {s s' : σ} (hx : Within R x) (h : on x s = (r, s')) :
    R s s' := by
  have := hx s
  rwa [h] at this

section

variable [Std.Refl R]

/-- To answer at once stays within every reflexive relation. -/
protected theorem pure (a : α) : Within R (pure a : Act σ α) := fun s => Std.Refl.refl s

/-- To fail at once stays within every reflexive relation. -/
protected theorem throw (e : Fault) : Within R (throw e : Act σ α) := fun s => Std.Refl.refl s

/-- A check stays within every reflexive relation. -/
protected theorem lift (e : Except Fault α) : Within R (liftM e : Act σ α) :=
  fun s => Std.Refl.refl s

/-- To read the state stays within every reflexive relation. -/
protected theorem get : Within R (get : Act σ σ) := fun s => Std.Refl.refl s

/-- An action that only reads the state moves it along any relation. -/
theorem of_eq (hx : Within Eq x) : Within R x := by
  intro s
  rw [← hx s]
  exact Std.Refl.refl s

end

/-- What becomes of the answer makes no difference to where the state goes. -/
theorem map_iff {g : α → β} : Within R (g <$> x) ↔ Within R x :=
  forall_congr' fun s => by rw [on_map]

/-- `map_iff` in the direction in which it is used. -/
protected theorem map (g : α → β) (hx : Within R x) : Within R (g <$> x) := map_iff.2 hx

/-- `map_iff` for an answer that is thrown away. -/
theorem discard_iff : Within R (discard x) ↔ Within R x := map_iff

variable [IsTrans σ R]

/-- The second action may use that it follows the first. -/
theorem bind_of_on (hx : Within R x)
    (hf : ∀ a s s', on x s = (.ok a, s') → R s' (on (f a) s').2) : Within R (x >>= f) := fun s =>
  on_bind_snd (fun _ _ h => hx.of_on h) fun a s' h =>
    IsTrans.trans _ _ _ (hx.of_on h) (hf a s s' h)

/-- A sequence stays within what both of its actions stay within. -/
protected theorem bind (hx : Within R x) (hf : ∀ a, Within R (f a)) : Within R (x >>= f) :=
  bind_of_on hx fun a _ s' _ => hf a s'

/-- A handler of failures stays within what the action and the handler both stay within. -/
protected theorem tryCatch {x : Act σ α} {h : Fault → Act σ α} (hx : Within R x)
    (hh : ∀ e, Within R (h e)) : Within R (tryCatch x h) := by
  intro s
  have first := hx s
  rw [on_tryCatch]
  rcases hr : on x s with ⟨e | a, s'⟩ <;> rw [hr] at first
  · -- What was done before the failure stays done: the handler starts in `s'`.
    exact IsTrans.trans _ _ _ first (hh e s')
  · exact first

variable [Std.Refl R]

/-- A list of actions stays within what each of them stays within. -/
theorem mapM {f : α → Act σ β} (hf : ∀ a, Within R (f a)) (as : List α) :
    Within R (as.mapM f) := by
  induction as with
  | nil => exact .pure []
  | cons a as ih =>
    rw [List.mapM_cons]
    exact .bind (hf a) fun b => .bind ih fun bs => .pure _

/-- What is worked out of an item is worked out in a state that the items before it led to. -/
theorem exists_of_mem_mapM {f : α → Act σ β} (hf : ∀ a, Within R (f a)) {as : List α} {bs : List β}
    {s s' : σ} (h : on (as.mapM f) s = (.ok bs, s')) {b : β} (hb : b ∈ bs) :
    ∃ a s₁ s₂, R s s₁ ∧ on (f a) s₁ = (.ok b, s₂) := by
  induction as generalizing bs s s' with
  | nil =>
    obtain rfl := Except.ok.inj (Prod.mk.inj h).1
    cases hb
  | cons a as ih =>
    rw [List.mapM_cons] at h
    obtain ⟨c, s₁, hc, h⟩ := on_bind_eq_ok.1 h
    obtain ⟨cs, s₂, hcs, h⟩ := on_bind_eq_ok.1 h
    obtain rfl := Except.ok.inj (Prod.mk.inj h).1
    rcases List.mem_cons.1 hb with rfl | hb
    · -- The item is the first: nothing was done before it.
      exact ⟨a, s, s₁, Std.Refl.refl s, hc⟩
    · obtain ⟨a', s₃, s₄, hs₃, ha'⟩ := ih hcs hb
      -- The item comes later: what was done for the first one is put in front.
      exact ⟨a', s₃, s₄, IsTrans.trans _ _ _ ((hf a).of_on hc) hs₃, ha'⟩

/-- A list of actions without answers stays within what each of them stays within. -/
theorem forM {f : α → Act σ Unit} (hf : ∀ a, Within R (f a)) (as : List α) :
    Within R (as.forM f) := by
  induction as with
  | nil => exact .pure ()
  | cons a as ih => exact .bind (hf a) fun _ => ih

/-- Each step may use that its item is one of the list. -/
theorem forM_mem {f : α → Act σ Unit} {as : List α} (hf : ∀ a ∈ as, Within R (f a)) :
    Within R (as.forM f) := by
  induction as with
  | nil => exact .pure ()
  | cons a as ih =>
    obtain ⟨ha, has⟩ := List.forall_mem_cons.1 hf
    exact .bind ha fun _ => ih has

/-- What follows a check may use that the check passed. -/
theorem bind_lift {e : Except Fault α} {f : α → Act σ β} (hf : ∀ a, e = .ok a → Within R (f a)) :
    Within R (liftM e >>= f) :=
  .bind_of_on (.lift e) fun a s s' h => by
    obtain ⟨ha, rfl⟩ := Prod.mk.inj h
    exact hf a ha s

/-- A fold stays within what each of its steps stays within. -/
theorem foldlM {f : β → α → Act σ β} (hf : ∀ b a, Within R (f b a)) (as : List α) (b : β) :
    Within R (as.foldlM f b) := by
  induction as generalizing b with
  | nil => exact .pure b
  | cons a as ih =>
    rw [List.foldlM_cons]
    exact .bind (hf b a) fun b => ih b

end Within

/-! ### Failing -/

/-- Where the action fails, it moves a state with an invariant along a relation. -/
def FailsWithin (I : σ → Prop) (R : σ → σ → Prop) (x : Act σ α) : Prop :=
  ∀ s, I s → ∀ e s', on x s = (.error e, s') → R s s'

namespace FailsWithin

variable {I : σ → Prop} {R : σ → σ → Prop} {x : Act σ α} {f : α → Act σ β}

/-- What follows a check may use that the check passed. -/
theorem bind_lift [Std.Refl R] {e : Except Fault α} (h : ∀ a, e = .ok a → FailsWithin I R (f a)) :
    FailsWithin I R (liftM e >>= f) := by
  intro s hs fault s' hfail
  rcases on_lift_bind_eq_error.1 hfail with ⟨-, rfl⟩ | ⟨a, ha, hf⟩
  · -- The check failed before anything was done.
    exact Std.Refl.refl s
  · exact h a ha s hs fault s' hf

end FailsWithin

/-! ### Invariants -/

/-- An invariant of one state is one of the other. -/
def Carries (I : σ → Prop) (s s' : σ) : Prop := I s → I s'

/-- Nothing that was an invariant is lost by doing nothing. -/
instance (I : σ → Prop) : Std.Refl (Carries I) := ⟨fun _ h => h⟩

/-- What is carried twice is carried. -/
instance (I : σ → Prop) : IsTrans σ (Carries I) := ⟨fun _ _ _ h h' => h' ∘ h⟩

end Storefront.Act
