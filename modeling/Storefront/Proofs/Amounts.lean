import Storefront.Proofs.Costs
import Storefront.Proofs.LinkFrame

/-! # Amounts that can be read back

What a shop writes as an amount is always the text of a number: two places behind a point, zero with
one, or the name of what is no finite number.  The prices of lines are written so in every cart that
is ever kept, also where an operation failed before it could price the cart.

* `Decimal.exists_readReal?_fixed` : a decimal with a fixed number of places can be read
* `Money.Written` : an amount that the shop has written
* `Shop.Reachable.pricesWritten` : the prices of all lines of all carts -/

namespace Storefront

open Act (Within Carries)

/-! ### Digits -/

namespace Text

variable {c : Char} {cs : List Char}

/-- The digits stand in a row among the characters. -/
theorem toNat_of_isDigit (h : c.isDigit = true) : 48 ≤ c.toNat ∧ c.toNat ≤ 57 :=
  Char.isDigit_iff_toNat.1 h

/-- No digit is spacing. -/
theorem isSpacing_of_isDigit (h : c.isDigit = true) : isSpacing c = false := by
  have range := toNat_of_isDigit h
  simp only [isSpacing, isBlank, Bool.and_eq_false_iff, Bool.or_eq_false_iff,
    decide_eq_false_iff_not, beq_eq_false_iff_ne]
  omega

/-- A text without spacing is not trimmed. -/
theorem trimSpacing_of_forall (h : ∀ c ∈ cs, isSpacing c = false) : trimSpacing cs = cs := by
  have kept : ∀ ds : List Char, (∀ d ∈ ds, isSpacing d = false) → ds.dropWhile isSpacing = ds := by
    intro ds hds
    cases ds with
    | nil => rfl
    | cons d ds => exact List.dropWhile_cons_of_neg (by simp [hds d (.head _)])
  rw [trimSpacing, kept cs h, kept _ fun c hc => h c (List.mem_reverse.1 hc), List.reverse_reverse]

/-- A digit stands for its distance from zero. -/
theorem digitValue?_of_isDigit (h : c.isDigit = true) : digitValue? c = some (c.toNat - 48) := by
  have range := toNat_of_isDigit h
  rw [digitValue?, if_pos (by omega), if_pos h]

end Text

namespace Decimal

open Text

/-- What a decimal is written with: ASCII digits, a point and a minus. -/
def IsPlain (c : Char) : Prop := c.isDigit = true ∨ c = '.' ∨ c = '-'

/-- Plain characters are their own ASCII form, and none of them is trimmed. -/
theorem asciiDigits_of_isPlain {cs : List Char} (h : ∀ c ∈ cs, IsPlain c) :
    asciiDigits (trimSpacing cs) = cs := by
  rw [trimSpacing_of_forall fun c hc => ?_, asciiDigits]
  · -- A digit stands for itself, and so do the sign and the point.
    refine (List.map_congr_left fun c hc => ?_).trans (List.map_id' cs)
    obtain digit | rfl | rfl := h c hc
    · have range := toNat_of_isDigit digit
      rw [digitValue?_of_isDigit digit]
      show Char.ofNat (48 + (c.toNat - 48)) = c
      rw [Nat.add_sub_cancel' range.1, Char.ofNat_toNat]
    · rfl
    · rfl
  · obtain digit | rfl | rfl := h c hc
    · exact isSpacing_of_isDigit digit
    · rfl
    · rfl

/-- A digit differs from any character that is none. -/
theorem ne_of_isDigit {c d : Char} (h : c.isDigit = true) (hd : d.isDigit = false) : c ≠ d := by
  rintro rfl
  rw [h] at hd
  cases hd

/-- A row of digits is read as it stands. -/
theorem readRun?_of_digits {cs : List Char} (hne : cs ≠ []) (h : ∀ c ∈ cs, c.isDigit = true) :
    readRun? cs = some cs := by
  -- No bar stands at the start, at the end, or next to another.
  have apart : ∀ prev, (cs = [] → prev = true) → barsBetweenDigits prev cs = true := by
    clear hne
    induction cs with
    | nil => exact fun prev hprev => hprev rfl
    | cons c cs ih =>
      intro prev _
      obtain ⟨hc, hcs⟩ := List.forall_mem_cons.1 h
      rw [barsBetweenDigits, if_neg (ne_of_isDigit hc (by decide))]
      exact ih hcs true fun _ => rfl
  rw [readRun?, if_pos (apart false fun none => absurd none hne),
    List.filter_eq_self.2 fun c hc => ?_]
  exact decide_eq_true (ne_of_isDigit (h c hc) (by decide))

/-- Digits with a point between them are read as a number. -/
theorem exists_readMagnitude? {ws fs : List Char} (hws : ws ≠ []) (hfs : fs ≠ [])
    (hw : ∀ c ∈ ws, c.isDigit = true) (hf : ∀ c ∈ fs, c.isDigit = true) :
    ∃ x, readMagnitude? (ws ++ '.' :: fs) = some x := by
  have row : ∀ c, c.isDigit = true → isDigitOrBar c = true := fun c hc => by simp [isDigitOrBar, hc]
  have point : isDigitOrBar '.' = false := by decide
  -- The point tells the number from the names of what is no finite number.
  have dotted : '.' ∈ (ws ++ '.' :: fs).map Char.toLower := by
    rw [List.mem_map]
    exact ⟨'.', by simp, by decide⟩
  have unnamed : ∀ name : String, '.' ∉ name.toList →
      (ws ++ '.' :: fs).map Char.toLower ≠ name.toList := fun name absent same =>
    absent (same ▸ dotted)
  have whole : (ws ++ '.' :: fs).takeWhile isDigitOrBar = ws := by
    rw [List.takeWhile_append_of_pos fun c hc => row c (hw c hc),
      List.takeWhile_cons_of_neg (by simp [point]), List.append_nil]
  have fraction : fs.takeWhile isDigitOrBar = fs :=
    List.takeWhile_eq_self_iff.2 fun c hc => row c (hf c hc)
  have rest : fs.dropWhile isDigitOrBar = [] :=
    List.dropWhile_eq_nil_iff.2 fun c hc => row c (hf c hc)
  refine ⟨ofScientific (ofDigits (ws ++ fs)) (0 - fs.length), ?_⟩
  rw [readMagnitude?]
  simp only [unnamed "inf" (by decide), unnamed "infinity" (by decide), unnamed "nan" (by decide),
    or_self, if_false, whole, List.drop_left, fraction, rest, hws, hfs, false_and,
    readRun?_of_digits hws hw, readRun?_of_digits hfs hf, readExponent?]
  rfl

/-- A row of digits with a point in it, behind a minus or not, is read as a number. -/
theorem exists_readReal?_pointed (negative : Bool) {ws fs : List Char} (hws : ws ≠ [])
    (hfs : fs ≠ [])
    (hw : ∀ c ∈ ws, c.isDigit = true) (hf : ∀ c ∈ fs, c.isDigit = true) :
    ∃ x, readReal? (String.ofList ((if negative then ['-'] else []) ++ (ws ++ '.' :: fs))) =
      some x := by
  obtain ⟨x, hx⟩ := exists_readMagnitude? hws hfs hw hf
  have plain : ∀ c ∈ (if negative then ['-'] else []) ++ (ws ++ '.' :: fs), IsPlain c := by
    simp only [List.mem_append, List.mem_cons]
    rintro c (sign | hc | rfl | hc)
    · cases negative <;> simp_all [IsPlain]
    · exact .inl (hw c hc)
    · exact .inr (.inl rfl)
    · exact .inl (hf c hc)
  -- The minus is split off, and a digit is no sign.
  have sign : splitSign ((if negative then ['-'] else []) ++ (ws ++ '.' :: fs)) =
      (negative, ws ++ '.' :: fs) := by
    cases negative with
    | true => rfl
    | false =>
      obtain ⟨c, ws, rfl⟩ := List.exists_cons_of_ne_nil hws
      have digit := hw c (.head _)
      have minus : c ≠ '-' := ne_of_isDigit digit (by decide)
      have plus : c ≠ '+' := ne_of_isDigit digit (by decide)
      simp [splitSign, minus, plus]
  rw [readReal?, String.toList_ofList, asciiDigits_of_isPlain plain, sign]
  exact ⟨_, congrArg (Option.map _) hx⟩

/-- What is padded is padded with zeros. -/
theorem isDigit_of_mem_padded {width n : Nat} {c : Char} (h : c ∈ padded width n) :
    c.isDigit = true := by
  obtain zero | digit := List.mem_append.1 h
  · rw [(List.mem_replicate.1 zero).2]
    decide
  · exact Nat.isDigit_of_mem_toDigits (by decide) (by decide) digit

/-- What is padded is as long as it should be. -/
theorem le_length_padded (width n : Nat) : width ≤ (padded width n).length := by
  simp only [padded, List.length_append, List.length_replicate]
  omega

/-- A decimal with a fixed number of places can be read, whatever it is written for. -/
theorem exists_readReal?_fixed {places : Nat} (h : 0 < places) (x : Float) :
    ∃ y, readReal? (fixed places x) = some y := by
  rw [fixed]
  split
  · exact ⟨_, rfl⟩
  · rename_i negative _
    cases negative <;> exact ⟨_, rfl⟩
  · rename_i m e _
    -- There is a digit on each side of the point.
    have long := le_length_padded (places + 1) (scaled places m e)
    rw [pointed]
    refine exists_readReal?_pointed _ ?_ ?_ ?_ ?_
    · rw [← List.length_pos_iff, List.length_take]
      omega
    · rw [← List.length_pos_iff, List.length_drop]
      omega
    · exact fun c hc => isDigit_of_mem_padded (List.mem_of_mem_take hc)
    · exact fun c hc => isDigit_of_mem_padded (List.mem_of_mem_drop hc)

end Decimal

/-! ### Written amounts -/

/-- The amount is written as a shop writes amounts. -/
def Money.Written (m : Money) : Prop :=
  m.amount = Money.zeroText ∨ ∃ x, m.amount = Decimal.fixed 2 x

/-- Nothing is written as zero. -/
theorem Money.written_zero (currency : String) : (Money.zero currency).Written := .inl rfl

/-- An amount is written as zero or with two places. -/
theorem Money.written_of (x : Float) (currency : String) : (Money.of x currency).Written := by
  show amountText x = zeroText ∨ ∃ y, amountText x = Decimal.fixed 2 y
  rw [amountText]
  split
  · exact .inl rfl
  · exact .inr ⟨x, rfl⟩

/-- What a shop writes as an amount can be read as a number. -/
theorem Money.Written.exists_readReal? {m : Money} (h : m.Written) :
    ∃ x, Decimal.readReal? m.amount = some x := by
  obtain h | ⟨x, h⟩ := h <;> rw [h]
  · have read := Decimal.exists_readReal?_pointed false (List.cons_ne_nil '0' [])
      (List.cons_ne_nil '0' []) (by decide) (by decide)
    exact read
  · exact Decimal.exists_readReal?_fixed (by decide) x

/-- A cart of the shop's own has lines whose prices are written as a shop writes them; of a cart
from outside nothing is said. -/
def KeptCart.PricesWritten : KeptCart → Prop
  | made c => ∀ l ∈ c.lines, l.price.Written
  | given _ => True

namespace Shop

/-- The prices of all lines of all carts are written as the shop writes them. -/
def PricesWritten (s : Shop) : Prop :=
  ∀ k c, s.HasCart k c → (KeptCart.made c).PricesWritten

variable {s s' : Shop} {id country : Value} {kc kc' : KeptCart}

/-- A shop that keeps its carts keeps their prices. -/
theorem Keeps.pricesWritten (h : Keeps s s') : Carries PricesWritten s s' :=
  fun written k c hc => written k c ((h.hasCart_iff k c).1 hc)

/-- A cart that is found has prices that are written. -/
theorem PricesWritten.cart? (h : s.PricesWritten) {k : String} (hkc : s.cart? k = some kc) :
    kc.PricesWritten := by
  cases kc with
  | made c => exact h k c (cart?_eq_made.1 hkc)
  | given v => trivial

/-- A cart with written prices may be kept. -/
theorem pricesWritten_withEntity (h : kc.PricesWritten) (k : String) :
    Carries PricesWritten s (s.withEntity Gid.cartPrefix (.text k) kc.toEntity) := by
  intro written k' c' hc'
  -- Another cart is as it was.
  by_cases same : k' = k
  · subst same
    rw [HasCart, entity?_withEntity_self] at hc'
    cases kc with
    | made c =>
      obtain rfl := Entity.cart.inj (Option.some.inj hc')
      exact h
    | given v => cases hc'
  · rw [HasCart, entity?_withEntity_of_ne s (.inr (by simpa using same))] at hc'
    exact written k' c' hc'

/-! ### Changes of lines -/

/-- A new line costs nothing until its cart is priced. -/
theorem newLine_price {variant : String} {quantity : Int} {attributes : Value} {currency : String}
    {l : Line} (h : Act.on (newLine variant quantity attributes currency) s = (.ok l, s')) :
    l.price = Money.zero currency := by
  simp only [newLine, Act.on_bind_eq_ok, Act.on_lift, Act.on_discard_eq_ok, Act.on_pure,
    Prod.mk.injEq, Except.ok.injEq] at h
  obtain ⟨_, _, -, _, _, -, _, _, -, _, _, -, _, _, -, _, _, -, _, _, -, _, _, -, _, _, -,
    rfl, -⟩ := h
  rfl

/-- A line that is extended keeps its price. -/
theorem extend?_pricesWritten {idOf : Line → String} {idOfEdge : Value → Except Fault Value}
    {line : String} {quantity : Int} {attributes : Value} (hkc : kc.PricesWritten)
    (h : kc.extend? idOf idOfEdge line quantity attributes = .ok (some kc')) :
    kc'.PricesWritten := by
  cases kc with
  | made c =>
    -- the quantities and attributes move, and the line's price stays with it
    simp only [KeptCart.extend?] at h
    split at h
    · cases h
    · obtain ⟨as, -, h⟩ := Act.except_bind_eq_ok.1 h
      obtain rfl := Option.some.inj (Except.ok.inj h)
      intro l hl
      obtain hl | ⟨l₀, hl₀, rfl⟩ := Cart.mem_replaceFirst hl
      · exact hkc l hl
      · exact hkc l₀ hl₀
  | given v =>
    obtain ⟨v', -, h⟩ := Act.except_bind_eq_ok.1 h
    obtain ⟨_, -, rfl⟩ := Option.map_eq_some_iff.1 (Except.ok.inj h)
    trivial

/-- A new line has a written price: zero. -/
theorem withNewLine_pricesWritten {currency variant : String} {quantity : Int} {attributes : Value}
    (hkc : kc.PricesWritten)
    (h : Act.on (withNewLine currency kc variant quantity attributes) s = (.ok kc', s')) :
    kc'.PricesWritten := by
  cases kc with
  | made c =>
    -- A new line costs nothing until it is priced.
    obtain ⟨l, s₁, hl, h⟩ := Act.on_bind_eq_ok.1 h
    obtain ⟨rfl, rfl⟩ : _ = kc' ∧ s₁ = s' := by simpa using h
    refine List.forall_mem_append.2 ⟨hkc, List.forall_mem_singleton.2 ?_⟩
    rw [newLine_price hl]
    exact Money.written_zero currency
  | given v =>
    simp only [withNewLine, Act.on_bind_eq_ok, Act.on_lift, Act.on_discard_eq_ok, Act.on_pure,
      Prod.mk.injEq, Except.ok.injEq] at h
    obtain ⟨_, _, -, _, _, -, _, _, -, _, _, -, rfl, -⟩ := h
    trivial

/-- To add what a line asks for keeps prices written. -/
theorem addRequest_pricesWritten {currency : String} {r : LineRequest} (hkc : kc.PricesWritten)
    (h : Act.on (addRequest currency kc r) s = (.ok kc', s')) : kc'.PricesWritten := by
  simp only [addRequest, Act.on_bind_eq_ok, Act.on_lift, Prod.mk.injEq] at h
  obtain ⟨_, _, -, variant, _, -, extended, _, ⟨he, rfl⟩, h⟩ := h
  split at h
  · rename_i kc₁
    obtain ⟨rfl, rfl⟩ : kc₁ = kc' ∧ _ = s' := by simpa using h
    exact extend?_pricesWritten hkc he
  · exact withNewLine_pricesWritten hkc h

/-- To add lines keeps prices written, by induction over what they ask for. -/
theorem withAdditions_pricesWritten {lines : List Value} (hkc : kc.PricesWritten)
    (h : Act.on (withAdditions country lines kc) s = (.ok (some kc'), s')) : kc'.PricesWritten := by
  obtain ⟨requests, s₀, hr, h⟩ := Act.on_bind_eq_ok.1 h
  split at h
  · simp at h
  · simp only [Act.on_bind_eq_ok, Act.on_lift, Act.on_pure, Prod.mk.injEq, Except.ok.injEq,
      Option.some.injEq] at h
    obtain ⟨_, _, -, kc₁, s₁, hfold, rfl, rfl⟩ := h
    exact Act.foldlM_ok (V := fun kc _ => kc.PricesWritten)
      (fun _ _ _ _ _ _ sofar h => addRequest_pricesWritten sofar h) hkc hfold

/-- To update lines keeps prices written. -/
theorem updated_pricesWritten {rs : List LineRequest} (hkc : kc.PricesWritten)
    (h : updated kc rs = .ok kc') : kc'.PricesWritten := by
  -- Line by line; a request about no line leaves the cart as it was.
  induction rs generalizing kc with
  | nil =>
    obtain rfl := Except.ok.inj h
    exact hkc
  | cons r rs ih =>
    rw [updated, List.foldlM_cons, Act.except_bind_eq_ok] at h
    obtain ⟨kc₁, h₁, h⟩ := h
    refine ih ?_ h
    simp only [updateRequest, Act.except_bind_eq_ok] at h₁
    obtain ⟨_, -, _, -, extended, he, h₁⟩ := h₁
    obtain rfl := Except.ok.inj h₁
    cases extended with
    | none => exact hkc
    | some kc₁ => exact extend?_pricesWritten hkc he

/-- No change of a cart gives it a line whose price is written in another way. -/
theorem change_pricesWritten {e : CartEdit} {listed : List Value} (hkc : kc.PricesWritten)
    (h : Act.on (e.change country listed kc) s = (.ok (some kc'), s')) : kc'.PricesWritten := by
  have along := (e.change_isEdit country listed kc).along h
  cases kc with
  | given v => cases kc' <;> first | exact along.elim | trivial
  -- The case split is on the change: only lines have prices.
  | made c =>
    cases e with
    | addLines lines => exact withAdditions_pricesWritten hkc h
    | updateLines lines =>
      obtain ⟨requests, -, h⟩ := Act.except_bind_eq_ok.1 (Prod.mk.inj h).1
      split at h
      · cases h
      · obtain ⟨kc₁, hu, h⟩ := Act.except_bind_eq_ok.1 h
        obtain rfl := Option.some.inj (Except.ok.inj h)
        exact updated_pricesWritten hkc hu
    | removeLines lineIds =>
      have removed : withRemovals listed (.made c) = .ok (some kc') := (Prod.mk.inj h).1
      rw [withRemovals] at removed
      split at removed
      · cases removed
      · obtain ⟨ids, -, removed⟩ := Act.except_bind_eq_ok.1 removed
        obtain rfl := Option.some.inj (Except.ok.inj removed)
        exact fun l hl => hkc l (List.mem_filter.1 hl).1
    | setNote note =>
      obtain rfl := Option.some.inj (Except.ok.inj (Prod.mk.inj h).1)
      exact hkc
    | setAttribute key value =>
      have attributed : withAttribute key value (.made c) = .ok (some kc') := (Prod.mk.inj h).1
      rw [withAttribute] at attributed
      split at attributed
      · cases attributed
      · obtain rfl := Option.some.inj (Except.ok.inj attributed)
        exact hkc
    | setDiscount codes =>
      cases listed with
      | nil => cases h
      | cons code codes =>
        obtain rfl := Option.some.inj (Except.ok.inj (Prod.mk.inj h).1)
        exact hkc

/-! ### Requests -/

/-- The prices of a cart that was priced are all written anew. -/
theorem priced_pricesWritten {key : Key} (h : Act.on (priced key kc) s = (.ok kc', s')) :
    kc'.PricesWritten := by
  cases kc with
  | made c =>
    obtain ⟨qs, -, rfl⟩ := priced_ok h
    intro l hl
    obtain ⟨l₀, q, rfl⟩ := mem_zipWith_quoted hl
    exact Money.written_of _ _
  | given v =>
    have along := priced_along h
    cases kc' <;> first | exact along.elim | trivial

/-- To price a kept cart again writes its prices anew. -/
theorem repriceCart_pricesWritten (raw : String) (country : Value) :
    Within (Carries PricesWritten) (repriceCart raw country) := by
  refine .bind (.of_eq (findCart_reads _)) fun found => ?_
  split
  · exact .pure _
  · refine .bind (.lift _) fun key => .bind_of_on
      ((priced_grows _ _).mono fun _ _ h => h.keeps.pricesWritten) fun kc' _ s h => ?_
    exact pricesWritten_withEntity (priced_pricesWritten h) _

/-- To move a cart to a country writes its prices anew. -/
theorem setCountry_pricesWritten (id country : Value) :
    Within (Carries PricesWritten) (setCountry id country) := by
  refine .bind (.of_eq (hasCart_reads _)) fun known => ?_
  split
  · exact .pure _
  · exact .bind (.lift _) fun _ => .bind (.lift _) fun _ => repriceCart_pricesWritten _ _

/-- To create a cart keeps the prices of all carts: the new one has no lines. -/
theorem createCart_pricesWritten (country given : Value) :
    Within (Carries PricesWritten) (createCart country given) := by
  intro s
  rcases h : Act.on (createCart country given) s with ⟨f | a, s'⟩
  · exact (createCart_failed h).keeps.pricesWritten
  · obtain ⟨-, rfl⟩ | ⟨key, k, s₁, -, -, -, hdrawn, -, rfl⟩ := createCart_eq_ok h
    · exact fun written => written
    · have drawn : Carries PricesWritten s s₁ := by
        obtain ⟨-, rfl⟩ | fresh := hdrawn
        · exact fun written => written
        · exact ((freshId_draws _).of_on fresh).keeps.pricesWritten
      -- A cart that was just made has no lines.
      have opened : (KeptCart.made (.opened key k s₁.supply.timestamp
        s₁.context.shopBaseUrl.display)).PricesWritten := fun l hl => absurd hl List.not_mem_nil
      exact fun written => pricesWritten_withEntity opened k (drawn written)

/-- A cart that is changed is kept with the time, which does not touch its prices. -/
theorem commit_pricesWritten (hkc : kc.PricesWritten) (k : String) (country : Value) :
    Within (Carries PricesWritten) (commit k kc country) := by
  refine .bind (fun _ written => written) fun now => .bind_lift fun dated hnow => ?_
  have along := changedAt_eq_ok hnow
  have hdated : dated.PricesWritten := by
    -- A cart of the shop's own is dated as the same cart, and one that was given holds no price of
    -- ours.
    cases kc with
    | made c =>
      cases dated with
      | made c' =>
        obtain rfl := along
        exact hkc
      | given v => trivial
    | given v => cases dated <;> first | exact along.elim | trivial
  exact .bind (fun s => pricesWritten_withEntity hdated k) fun _ =>
    repriceCart_pricesWritten k country

/-- An edit keeps prices written, also where it fails before its cart is priced. -/
theorem edit_pricesWritten (e : CartEdit) (id country : Value) :
    Within (Carries PricesWritten) (e.run id country) := by
  rw [e.run_eq]
  refine .bind_of_on (.of_eq (findCart_reads _)) fun found _ s hfound written => ?_
  cases found with
  | none =>
    exact (Within.bind (.lift _) fun _ => .pure _ : Within (Carries PricesWritten) _) s written
  | some found =>
    obtain ⟨k, kc⟩ := found
    obtain ⟨-, -, hkc, rfl⟩ := findCart_eq_some.1 hfound
    have hw : kc.PricesWritten := written.cart? hkc
    -- The change alone only makes the shop grow; what it makes of the cart is committed afterwards.
    refine (Within.bind (.lift _) fun listed => ?_ : Within (Carries PricesWritten) _) _ written
    refine .bind_of_on ((e.change_isEdit country listed kc).grows.mono fun _ _ h =>
      h.keeps.pricesWritten) fun changed s₁ s₂ hchange => ?_
    cases changed with
    | none => exact fun written => written
    | some kc' => exact commit_pricesWritten (change_pricesWritten hw hchange) k country s₂

/-- To empty a cart keeps the prices of all carts. -/
theorem emptyCart_pricesWritten (id country : Value) :
    Within (Carries PricesWritten) (emptyCart id country) := by
  refine .bind (setCountry_pricesWritten id country) fun cart => ?_
  split
  · exact .pure _
  · refine .bind (.lift _) fun lineIds => ?_
    split
    · exact .pure _
    · exact .bind (edit_pricesWritten (.removeLines (.list lineIds)) id country) fun _ => .pure _

end Shop

open Shop

/-- A request for a cart keeps the prices of all carts written. -/
theorem CartRequest.run_pricesWritten (r : CartRequest) :
    Within (Carries PricesWritten) r.run := by
  cases r with
  | create country id => exact .map _ (createCart_pricesWritten country id)
  | get id country => exact setCountry_pricesWritten id country
  | setCountry id country => exact setCountry_pricesWritten id country
  | edit id country e => exact edit_pricesWritten e id country

/-- Any request keeps the prices of all carts written. -/
theorem ShopRequest.run_pricesWritten (r : ShopRequest) : Within (Carries PricesWritten) r.run := by
  cases r with
  | cart r => exact .map _ (CartRequest.run_pricesWritten r)
  | hasCart id => exact .map _ (.of_eq (hasCart_reads id))
  | emptyCart id country => exact .map _ (emptyCart_pricesWritten id country)
  | side r => exact r.run_sideSteps.mono fun _ _ h => h.keeps.pricesWritten
  | dispatch hasFactory document vars =>
    exact ShopRequest.dispatch_within (fun _ _ h => h.draws.keeps.pricesWritten)
      (fun _ _ _ => CartRequest.run_pricesWritten)
      (fun _ _ r _ => r.run_sideSteps.mono fun _ _ h => h.keeps.pricesWritten) hasFactory

/-- In every shop that is ever reached, the prices of all lines are written as a shop
writes them. -/
theorem Shop.Reachable.pricesWritten {s : Shop} (h : Reachable s) : s.PricesWritten := by
  induction h with
  | new context supply => exact fun _ _ hc => nomatch hc
  | request _ r ih => exact ShopRequest.run_pricesWritten r _ ih
  | reset _ _ => exact fun _ _ hc => nomatch hc
  | passage _ supply ih => exact ih

end Storefront
