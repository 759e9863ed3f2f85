import Storefront.Proofs.Failures
import Storefront.Proofs.Overflow

/-! # Batches of lines that are rejected

The lines of a batch are checked one after the other, before anything is done for any of them.  A
line without an identifier, or one that asks for less than a piece, ends the checks, and the batch
is rejected.  What a line asks for may be anything; an infinite number of pieces, though, is not
taken for none: it fails.

* `InOrder`, `AsksInfinite` : the two kinds of lines that are not rejected
* `MeetsInfinite` : an infinite number of pieces is met while all before it is in order
* `quantityOf_cases` : what a quantity reads as
* `lineRequests_cases` : what the checks come to
* `batch_none_iff` : when checking a batch fails, and when the batch is rejected -/

namespace Storefront

open Shop

/-- A batch of lines that are named by one of their members. -/
inductive CartEdit.TakesBatch (lines : List Value) : String → CartEdit → Prop
  | add : TakesBatch lines "merchandiseId" (.addLines (.list lines))
  | update : TakesBatch lines "id" (.updateLines (.list lines))

/-! ### Lines of a request -/

/-- A line that names what it is about with a text, if perhaps the empty one. -/
def HasTextId (idName : String) (line : Value) : Prop :=
  ∃ id, line.member idName = .ok (.text id)

/-- A line has an identifier, and its quantity reads as a whole number that is not less than one. -/
structure InOrder (idName : String) (line : Value) : Prop where
  id : ∃ id, line.member idName = .ok (.text id) ∧ id ≠ ""
  quantity : ∃ q n, line.member "quantity" = .ok q ∧ q.wholeNumber = .ok n ∧ 1 ≤ n

/-- A line has an identifier, and its quantity is an infinite double. -/
structure AsksInfinite (idName : String) (line : Value) : Prop where
  id : ∃ id, line.member idName = .ok (.text id) ∧ id ≠ ""
  quantity : ∃ x, line.member "quantity" = .ok (.float x) ∧ x.isInf = true

/-- A line that asks for infinitely many pieces comes after none but lines in order. -/
inductive MeetsInfinite (idName : String) : List Value → Prop
  | here {line : Value} {lines : List Value} (h : AsksInfinite idName line) :
    MeetsInfinite idName (line :: lines)
  | later {line : Value} {lines : List Value} (hline : InOrder idName line)
    (h : MeetsInfinite idName lines) : MeetsInfinite idName (line :: lines)

/-! ### Reading a quantity -/

/-- Nothing that counts as nothing reads as another number than zero. -/
theorem Value.wholeNumber_of_not_truthy {v : Value} (h : v.truthy = false) {n : Int}
    (hn : v.wholeNumber = .ok n) : n = 0 := by
  -- Only what can be read as a whole number matters here; a falsy one of these is zero.
  cases v with
  | null => cases hn
  | bool b =>
    obtain rfl : b = false := h
    exact (Except.ok.inj hn).symm
  | int m =>
    obtain rfl : m = 0 := by simpa [Value.truthy] using h
    exact (Except.ok.inj hn).symm
  | float x =>
    have zero : (x == 0) = true := by simpa [Value.truthy] using h
    rw [Value.wholeNumber, Decimal.truncate_of_beq_zero zero] at hn
    exact (Except.ok.inj hn).symm
  | text s =>
    obtain rfl : s = "" := by simpa [Value.truthy] using h
    cases hn
  | list items => cases hn
  | record fields => cases hn

/-- Only an infinite double has an infinite whole part. -/
theorem Value.wholeNumber_eq_infinite {v : Value} (h : v.wholeNumber = .error .infiniteWhole) :
    ∃ x, v = .float x ∧ x.isInf = true := by
  -- Of all values only an infinite float has this fault.
  cases v with
  | float x =>
    refine ⟨x, rfl, (Decimal.truncate_eq_infinite_iff x).1 ?_⟩
    rw [Value.wholeNumber] at h
    split at h
    · cases h
    · assumption
    · cases h
  | text s =>
    rw [Value.wholeNumber] at h
    split at h <;> cases h
  | _ => cases h

namespace Shop

variable {idName : String} {line : Value} {lines : List Value}

/-! Nothing, where a quantity is missing or counts as nothing, reads as zero pieces. -/

/-- A quantity that reads as a number is asked for. -/
theorem quantityOf_of_read {q : Value} {n : Int} (h : line.member "quantity" = .ok q)
    (hq : (q.orElse (.int 0)).wholeNumber = .ok n) : quantityOf line = .ok n := by
  simp only [quantityOf, h, hq, bind, Except.bind]
  rfl

/-- A quantity that is infinite fails. -/
theorem quantityOf_of_infinite {q : Value} (h : line.member "quantity" = .ok q)
    (hq : (q.orElse (.int 0)).wholeNumber = .error .infiniteWhole) :
    quantityOf line = .error .infiniteWhole := by
  simp only [quantityOf, h, hq, bind, Except.bind]
  rfl

/-- Any other quantity that does not read as a number asks for none. -/
theorem quantityOf_of_unread {q : Value} {f : Fault} (h : line.member "quantity" = .ok q)
    (hq : (q.orElse (.int 0)).wholeNumber = .error f) (hf : f ≠ .infiniteWhole) :
    quantityOf line = .ok 0 := by
  simp only [quantityOf, h, hq, bind, Except.bind]
  cases f with
  | infiniteWhole => exact absurd rfl hf
  | _ => rfl

/-- An infinite double is not nothing, so it is read and fails. -/
theorem quantityOf_of_isInf {x : Float} (h : line.member "quantity" = .ok (.float x))
    (hx : x.isInf = true) : quantityOf line = .error .infiniteWhole := by
  have truthy : (Value.float x).truthy = true := by
    rw [Value.truthy, Decimal.beq_zero_of_isInf hx, Bool.not_false]
  refine quantityOf_of_infinite h ?_
  rw [Value.orElse, if_pos truthy, Value.wholeNumber, (Decimal.truncate_eq_infinite_iff x).2 hx]

/-- A quantity that reads as one piece or more is asked for; any other asks for none, or for
infinitely many. -/
theorem quantityOf_cases {q : Value} (h : line.member "quantity" = .ok q) :
    (∃ x, q = .float x ∧ x.isInf = true) ∨ ∃ n, quantityOf line = .ok n ∧
      ∀ m, 1 ≤ m → (q.wholeNumber = .ok m ↔ n = m) := by
  cases truthy : q.truthy with
  | false =>
    -- Zero takes the place of what counts as nothing.
    have zero : q.orElse (.int 0) = .int 0 := by rw [Value.orElse, if_neg (by simp [truthy])]
    refine .inr ⟨0, quantityOf_of_read h (by rw [zero]; rfl), fun m hm => ?_⟩
    refine iff_of_false (fun hq => ?_) (by omega)
    have := Value.wholeNumber_of_not_truthy truthy hq
    omega
  | true =>
    have same : q.orElse (.int 0) = q := by rw [Value.orElse, if_pos truthy]
    cases hq : q.wholeNumber with
    | ok n =>
      refine .inr ⟨n, quantityOf_of_read h (by rw [same, hq]), fun m _ => ?_⟩
      rw [Except.ok.injEq]
    | error f =>
      by_cases infinite : f = .infiniteWhole
      · exact .inl (Value.wholeNumber_eq_infinite (hq.trans (congrArg _ infinite)))
      · refine .inr ⟨0, quantityOf_of_unread h (by rw [same, hq]) infinite, fun m hm => ?_⟩
        refine iff_of_false (fun read => ?_) (by omega)
        cases read

/-! ### Checking lines -/

/-- A line with a member has any other member, if only as null. -/
theorem exists_member {name : String} {v : Value} (h : line.member name = .ok v) (other : String) :
    ∃ w, line.member other = .ok w := by
  cases line with
  | record fields => exact ⟨_, rfl⟩
  | _ => cases h

/-- A line that is not rejected leaves the checks to the lines after it. -/
theorem lineRequests_cons {id : String} {n : Int} {attributes : Value}
    (hid : line.member idName = .ok (.text id)) (hne : id ≠ "") (hn : quantityOf line = .ok n)
    (hpos : 1 ≤ n) (hattributes : line.member "attributes" = .ok attributes) (lines : List Value) :
    lineRequests idName (line :: lines) =
      (lineRequests idName lines).map (Option.map (⟨.text id, n, attributes⟩ :: ·)) := by
  have named : ¬ (!(Value.text id).truthy) = true := by simpa [Value.truthy] using hne
  have some : ¬ n < 1 := by omega
  rw [lineRequests, hid]
  show (if (!(Value.text id).truthy) = true then _ else _) = _
  rw [if_neg named, hn]
  show (if n < 1 then _ else _) = _
  rw [if_neg some, hattributes]
  cases lineRequests idName lines <;> rfl

/-- A line in order is not rejected. -/
theorem lineRequests_of_inOrder (h : InOrder idName line) (lines : List Value) :
    ∃ r, lineRequests idName (line :: lines) =
      (lineRequests idName lines).map (Option.map (r :: ·)) := by
  obtain ⟨⟨id, hid, hne⟩, q, n, hq, hn, hpos⟩ := h
  obtain ⟨attributes, hattributes⟩ := exists_member hq "attributes"
  have asked : quantityOf line = .ok n := by
    obtain ⟨x, rfl, hx⟩ | ⟨m, hm, hread⟩ := quantityOf_cases hq
    · rw [Value.wholeNumber, (Decimal.truncate_eq_infinite_iff x).2 hx] at hn
      cases hn
    · rw [hm, (hread n hpos).1 hn]
  exact ⟨_, lineRequests_cons hid hne asked hpos hattributes lines⟩

/-- A line that asks for infinitely many pieces fails, whatever comes after it. -/
theorem lineRequests_of_asksInfinite (h : AsksInfinite idName line) (lines : List Value) :
    lineRequests idName (line :: lines) = .error .infiniteWhole := by
  obtain ⟨⟨id, hid, hne⟩, x, hq, hx⟩ := h
  have named : ¬ (!(Value.text id).truthy) = true := by simpa [Value.truthy] using hne
  rw [lineRequests, hid]
  show (if (!(Value.text id).truthy) = true then _ else _) = _
  rw [if_neg named, quantityOf_of_isInf hq hx]
  rfl

/-- Any other line ends the checks, whatever comes after it. -/
theorem lineRequests_of_rejected (htext : HasTextId idName line) (hinf : ¬ AsksInfinite idName line)
    (hord : ¬ InOrder idName line) (lines : List Value) :
    lineRequests idName (line :: lines) = .ok none := by
  obtain ⟨id, hid⟩ := htext
  rw [lineRequests, hid]
  show (if (!(Value.text id).truthy) = true then _ else _) = _
  -- The identifier may be empty.
  by_cases hne : id = ""
  · rw [hne]
    rfl
  have named : ¬ (!(Value.text id).truthy) = true := by simpa [Value.truthy] using hne
  obtain ⟨q, hq⟩ := exists_member hid "quantity"
  obtain ⟨x, rfl, hx⟩ | ⟨n, hn, hread⟩ := quantityOf_cases hq
  · exact absurd ⟨⟨id, hid, hne⟩, x, hq, hx⟩ hinf
  · -- Otherwise it is the quantity that is too small, or the line would be in order.
    have few : n < 1 := by
      by_contra hpos
      have pos : 1 ≤ n := by omega
      exact hord ⟨⟨id, hid, hne⟩, q, n, hq, (hread n pos).2 rfl, pos⟩
    rw [if_neg named, hn]
    show (if n < 1 then _ else _) = _
    rw [if_pos few]
    rfl

/-- What the checks come to: an infinite number of pieces is met, or the batch is rejected, or each
line is in order. -/
theorem lineRequests_cases (h : ∀ line ∈ lines, HasTextId idName line) :
    (MeetsInfinite idName lines ∧ lineRequests idName lines = .error .infiniteWhole) ∨
    (¬ MeetsInfinite idName lines ∧ (∃ line ∈ lines, ¬ InOrder idName line) ∧
      lineRequests idName lines = .ok none) ∨
    (¬ MeetsInfinite idName lines ∧ (∀ line ∈ lines, InOrder idName line) ∧
      ∃ rs, lineRequests idName lines = .ok (some rs)) := by
  -- The first line decides if it is not in order; else the lines after it do.
  induction lines with
  | nil => exact .inr (.inr ⟨nofun, nofun, [], rfl⟩)
  | cons line lines ih =>
    obtain ⟨htext, h⟩ := List.forall_mem_cons.1 h
    by_cases hinf : AsksInfinite idName line
    · exact .inl ⟨.here hinf, lineRequests_of_asksInfinite hinf lines⟩
    by_cases hord : InOrder idName line
    · have meets : MeetsInfinite idName (line :: lines) ↔ MeetsInfinite idName lines := by
        refine ⟨fun hm => ?_, .later hord⟩
        cases hm with
        | here hinf' => exact absurd hinf' hinf
        | later _ hm => exact hm
      obtain ⟨r, hr⟩ := lineRequests_of_inOrder hord lines
      rw [meets, hr]
      obtain ⟨hm, hl⟩ | ⟨hm, ⟨l, hl, bad⟩, hnone⟩ | ⟨hm, all, rs, hrs⟩ := ih h
      · exact .inl ⟨hm, by rw [hl]; rfl⟩
      · exact .inr (.inl ⟨hm, ⟨l, .tail _ hl, bad⟩, by rw [hnone]; rfl⟩)
      · exact .inr (.inr ⟨hm, List.forall_mem_cons.2 ⟨hord, all⟩, r :: rs, by rw [hrs]; rfl⟩)
    · refine .inr (.inl ⟨fun hm => ?_, ⟨line, .head _, hord⟩,
        lineRequests_of_rejected htext hinf hord lines⟩)
      cases hm with
      | here hinf' => exact hinf hinf'
      | later hord' _ => exact hord hord'

/-! ### Rejected batches -/

variable {e : CartEdit} {s : Shop} {id country : Value} {k : String} {kc : KeptCart}

/-- The lines of a batch are those that are listed. -/
theorem listed_of_takesBatch (h : e.TakesBatch lines idName) : e.listed = .ok lines := by
  cases h <;> exact Value.elementsOrNone_list lines

/-! Nothing is worked out for a batch before its lines are checked. -/

/-- A fault of the checks is passed on, and nothing has changed. -/
theorem on_change_of_error (he : e.TakesBatch lines idName) {f : Fault}
    (hr : requestsOf idName lines = .error f) :
    Act.on (e.change country lines kc) s = (.error f, s) := by
  cases he with
  | add =>
    show Act.on (withAdditions country lines kc) s = _
    rw [withAdditions, hr]
    rfl
  | update =>
    show Act.on (liftM (withUpdates lines kc)) s = _
    rw [withUpdates, hr]
    rfl

/-- A batch that is rejected by the checks changes nothing. -/
theorem on_change_of_none (he : e.TakesBatch lines idName)
    (hr : requestsOf idName lines = .ok none) :
    Act.on (e.change country lines kc) s = (.ok none, s) := by
  cases he with
  | add =>
    show Act.on (withAdditions country lines kc) s = _
    rw [withAdditions, hr]
    rfl
  | update =>
    show Act.on (liftM (withUpdates lines kc)) s = _
    rw [withUpdates, hr]
    rfl

/-- No batch is rejected once its lines are checked. -/
theorem change_ne_none (he : e.TakesBatch lines idName) {rs : List LineRequest}
    (hr : requestsOf idName lines = .ok (some rs)) (s' : Shop) :
    Act.on (e.change country lines kc) s ≠ (.ok none, s') := by
  -- Once the batch was read, nothing turns the change down any more.
  cases he with
  | add =>
    show Act.on (withAdditions country lines kc) s ≠ _
    rw [withAdditions, hr]
    intro h
    obtain ⟨_, ⟨⟩, h⟩ := Act.on_lift_bind_eq_ok.1 h
    obtain ⟨_, -, h⟩ := Act.on_lift_bind_eq_ok.1 h
    obtain ⟨_, _, -, h⟩ := Act.on_bind_eq_ok.1 h
    cases h
  | update =>
    show Act.on (liftM (withUpdates lines kc)) s ≠ _
    rw [withUpdates, hr]
    intro h
    obtain ⟨_, ⟨⟩, h⟩ := Act.except_bind_eq_ok.1 (Prod.mk.inj h).1
    obtain ⟨_, -, h⟩ := Act.except_bind_eq_ok.1 h
    cases h

/-- What checking the lines of a batch comes to. -/
theorem requestsOf_cases (h : ∀ line ∈ lines, HasTextId idName line) :
    (MeetsInfinite idName lines ∧ requestsOf idName lines = .error .infiniteWhole) ∨
    (¬ MeetsInfinite idName lines ∧ (lines = [] ∨ ∃ line ∈ lines, ¬ InOrder idName line) ∧
      requestsOf idName lines = .ok none) ∨
    (¬ MeetsInfinite idName lines ∧ ¬ (lines = [] ∨ ∃ line ∈ lines, ¬ InOrder idName line) ∧
      ∃ rs, requestsOf idName lines = .ok (some rs)) := by
  cases lines with
  | nil => exact .inr (.inl ⟨nofun, .inl rfl, rfl⟩)
  -- With a first line the list is not empty, so the code reads the lines.
  | cons line lines =>
    have checked : requestsOf idName (line :: lines) = lineRequests idName (line :: lines) := rfl
    rw [checked]
    obtain ⟨meets, hr⟩ | ⟨meets, bad, hr⟩ | ⟨meets, all, rs, hr⟩ := lineRequests_cases h
    · exact .inl ⟨meets, hr⟩
    · exact .inr (.inl ⟨meets, .inr bad, hr⟩)
    · refine .inr (.inr ⟨meets, ?_, rs, hr⟩)
      rintro (none | ⟨line', hline', bad⟩)
      · cases none
      · exact bad (all line' hline')

/-- Checking a batch for a cart that is there fails exactly if an infinite number of pieces is met,
and then nothing changes; otherwise the batch is rejected, and nothing changes either, exactly if it
has no lines or one that is not in order. -/
theorem batch_none_iff (hid : Names id k) (hkc : s.cart? k = some kc)
    (he : e.TakesBatch lines idName) (hlines : ∀ line ∈ lines, HasTextId idName line) :
    ((∃ f, requestsOf idName lines = .error f) ↔ MeetsInfinite idName lines) ∧
    (MeetsInfinite idName lines → Act.on (e.run id country) s = (.error .infiniteWhole, s)) ∧
    ∀ s', Act.on (e.run id country) s = (.ok none, s') ↔
      s' = s ∧ ¬ MeetsInfinite idName lines ∧
        (lines = [] ∨ ∃ line ∈ lines, ¬ InOrder idName line) := by
  rw [e.run_eq, listed_of_takesBatch he, on_editCart hid hkc]
  obtain ⟨meets, hr⟩ | ⟨meets, bad, hr⟩ | ⟨meets, good, rs, hr⟩ := requestsOf_cases hlines
  · rw [on_change_of_error he hr]
    refine ⟨iff_of_true ⟨_, hr⟩ meets, fun _ => rfl, fun s' => iff_of_false ?_ ?_⟩
    · intro h
      cases h
    · exact fun h => h.2.1 meets
  · rw [on_change_of_none he hr]
    refine ⟨iff_of_false ?_ meets, fun h => absurd h meets, fun s' => ?_⟩
    · rintro ⟨f, hf⟩
      cases hr.symm.trans hf
    · constructor
      · rintro ⟨⟩
        exact ⟨rfl, meets, bad⟩
      · rintro ⟨rfl, -⟩
        rfl
  · refine ⟨iff_of_false ?_ meets, fun h => absurd h meets, fun s' => iff_of_false ?_ ?_⟩
    · rintro ⟨f, hf⟩
      cases hr.symm.trans hf
    · -- What is worked out is committed, and a commit answers with a cart.
      rcases hchange : Act.on (e.change country lines kc) s with ⟨f | _ | kc', s₁⟩
      · intro h
        cases h
      · exact absurd hchange (change_ne_none he hr s₁)
      · exact commit_ne_none hid.raw s'
    · exact fun h => good h.2.2

/-- A line that asks for infinitely many pieces. -/
def infiniteLine : Value :=
  .ofFields [("merchandiseId", Gid.variantPrefix ++ "1"),
    ("quantity", .float (.ofBits 0x7FF0000000000000))]

/-- A line of the samples has an identifier. -/
theorem hasTextId_lineFor (token : String) (quantity : Int) :
    HasTextId "merchandiseId" (lineFor token quantity) := ⟨_, rfl⟩

/-- The sample asks for infinitely many pieces. -/
theorem asksInfinite_infiniteLine : AsksInfinite "merchandiseId" infiniteLine :=
  ⟨⟨_, rfl, by decide⟩, _, rfl, rfl⟩

/-- Whether one line asks for no pieces or another for infinitely many depends on which
comes first. -/
theorem batch_none_iff_sample : ∃ c, sample.cart? sampleId = some (.made c) ∧
    Names sampleId sampleId ∧
    ∀ lines ∈ [[lineFor "1" 0, infiniteLine], [lineFor "1" 1, infiniteLine]],
      (CartEdit.addLines (.list lines)).TakesBatch lines "merchandiseId" ∧
      (∀ line ∈ lines, HasTextId "merchandiseId" line) ∧
      (((∃ f, requestsOf "merchandiseId" lines = .error f) ↔ MeetsInfinite "merchandiseId" lines) ∧
        (MeetsInfinite "merchandiseId" lines →
          Act.on ((CartEdit.addLines (.list lines)).run sampleId .null) sample =
            (.error .infiniteWhole, sample)) ∧
        ∀ s', Act.on ((CartEdit.addLines (.list lines)).run sampleId .null) sample =
          (.ok none, s') ↔
          s' = sample ∧ ¬ MeetsInfinite "merchandiseId" lines ∧
            (lines = [] ∨ ∃ line ∈ lines, ¬ InOrder "merchandiseId" line)) := by
  -- The premises hold of both batches, the one that is turned down first and the one that fails
  -- first.
  obtain ⟨c, hc⟩ := exists_hasCart_sample
  have named : Names sampleId sampleId := ⟨rfl, by decide⟩
  have texts : ∀ quantity, ∀ line ∈ [lineFor "1" quantity, infiniteLine],
      HasTextId "merchandiseId" line := by
    intro quantity
    rw [List.forall_mem_cons, List.forall_mem_singleton]
    exact ⟨hasTextId_lineFor _ _, _, rfl⟩
  refine ⟨c, cart?_eq_made.2 hc, named, ?_⟩
  rw [List.forall_mem_cons, List.forall_mem_singleton]
  exact ⟨⟨.add, texts 0, batch_none_iff named (cart?_eq_made.2 hc) .add (texts 0)⟩,
    ⟨.add, texts 1, batch_none_iff named (cart?_eq_made.2 hc) .add (texts 1)⟩⟩

/-- A batch that asks for infinitely many pieces is not in order, and it fails instead of being
rejected. -/
theorem infinite_batch_fails : Reachable sample ∧ (∃ c, sample.HasCart sampleId c) ∧
    HasTextId "merchandiseId" infiniteLine ∧ ¬ InOrder "merchandiseId" infiniteLine ∧
    requestsOf "merchandiseId" [infiniteLine] = .error .infiniteWhole ∧
    ∃ f s', Act.on (Shop.addLines sampleId .null (.list [infiniteLine])) sample =
      (.error f, s') := by
  have checked := lineRequests_of_asksInfinite asksInfinite_infiniteLine []
  obtain ⟨f, hf⟩ := Act.eq_error_of_toBool
    (p := Act.on (Shop.addLines sampleId .null (.list [infiniteLine])) sample) (by decide +kernel)
  refine ⟨reachable_sample, exists_hasCart_sample, ⟨_, rfl⟩, fun hord => ?_, checked, f, _, hf⟩
  obtain ⟨r, hr⟩ := lineRequests_of_inOrder hord []
  cases hr.symm.trans checked

end Shop
end Storefront
