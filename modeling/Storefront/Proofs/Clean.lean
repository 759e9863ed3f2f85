import Mathlib.Data.List.Nodup
import Storefront.Proofs.Sendable
import Storefront.Server

/-! # Values that arrive as they were sent

A server shows a value without its hidden members, writes it as JSON and sends it; who receives it
reads the JSON.  A `Clean` value comes through all this as it is: it is JSON with finite numbers,
its texts can be sent, and none of its members is hidden.

* `Clean.shown_eq`, `Clean.wire_eq`, `Clean.allFinite` : the three things that could go wrong
* `Clean.sent_eq` : a clean value arrives as it was sent
* `clean_ofFields`, `Clean.put`, `Clean.get?` : records
* `clean_of_isClean` : a test -/

namespace Storefront

open Text (Sendable)

/-! ### Names and values -/

/-- A name that can be sent and is not hidden. -/
def IsMemberName (name : String) : Prop :=
  Sendable name.toList ∧ Gid.startsWith name Server.hiddenMark = false

/-- The test that decides it. -/
instance (name : String) : Decidable (IsMemberName name) :=
  inferInstanceAs (Decidable (_ ∧ _))

/-- A value that arrives as it was sent. -/
inductive Value.Clean : Value → Prop
  | null : Clean .null
  | bool (b : Bool) : Clean (.bool b)
  | int (n : Int) : Clean (.int n)
  | float {x : Float} (h : x.isFinite = true) : Clean (.float x)
  | text {s : String} (h : Sendable s.toList) : Clean (.text s)
  | list {vs : List Value} (h : ∀ v ∈ vs, Clean v) : Clean (.list vs)
  | record {fs : List (Key × Value)}
      (names : ∀ p ∈ fs, ∃ name, p.1 = Key.text name ∧ IsMemberName name)
      (distinct : (fs.map Prod.fst).Nodup) (h : ∀ p ∈ fs, Clean p.2) : Clean (.record fs)

namespace Value

variable {vs : List Value} {fs : List (Key × Value)}

/-- The items of a clean list are clean. -/
theorem Clean.items (h : Clean (.list vs)) : ∀ v ∈ vs, v.Clean := by
  cases h with
  | list h => exact h

/-- The members of a clean record have names that can be sent and are not hidden. -/
theorem Clean.names (h : Clean (.record fs)) :
    ∀ p ∈ fs, ∃ name, p.1 = Key.text name ∧ IsMemberName name := by
  cases h with
  | record names => exact names

/-- No name of a clean record stands twice. -/
theorem Clean.distinct (h : Clean (.record fs)) : (fs.map Prod.fst).Nodup := by
  cases h with
  | record _ distinct => exact distinct

/-- The members of a clean record are clean. -/
theorem Clean.values (h : Clean (.record fs)) : ∀ p ∈ fs, p.2.Clean := by
  cases h with
  | record _ _ h => exact h

/-- A clean text can be sent. -/
theorem Clean.sendable {s : String} (h : Clean (.text s)) : Sendable s.toList := by
  cases h with
  | text h => exact h

/-- A clean number is finite. -/
theorem Clean.isFinite {x : Float} (h : Clean (.float x)) : x.isFinite = true := by
  cases h with
  | float h => exact h

/-- A clean record is clean member by member. -/
theorem clean_record_cons {k : Key} {v : Value} (h : Clean (.record ((k, v) :: fs))) :
    (∃ name, k = Key.text name ∧ IsMemberName name) ∧ v.Clean ∧ k ∉ fs.map Prod.fst ∧
      Clean (.record fs) := by
  obtain ⟨hk, names⟩ := List.forall_mem_cons.1 h.names
  obtain ⟨hv, values⟩ := List.forall_mem_cons.1 h.values
  obtain ⟨hnew, distinct⟩ := List.nodup_cons.1 h.distinct
  exact ⟨hk, hv, hnew, .record names distinct values⟩

/-- What a message shows of a clean value can be sent. -/
theorem Clean.sendable_display {v : Value} (h : v.Clean) : Sendable v.display.toList := by
  cases v with
  | text s => exact h.sendable
  | _ => exact Value.sendable_quoted _

/-! ### Records -/

/-- The empty record is clean. -/
theorem clean_record_nil : Clean (.record []) :=
  .record (fun _ h => absurd h List.not_mem_nil) List.nodup_nil
    fun _ h => absurd h List.not_mem_nil

/-- The empty list is clean. -/
theorem clean_list_nil : Clean (.list []) := .list fun _ h => absurd h List.not_mem_nil

/-- A list of texts is clean if they can be sent. -/
theorem clean_texts {ss : List String} (h : ∀ s ∈ ss, Sendable s.toList) : Clean (.texts ss) := by
  refine .list fun v hv => ?_
  obtain ⟨s, hs, rfl⟩ := List.mem_map.1 hv
  exact .text (h s hs)

/-- A value that may be missing is clean if it is when it is there. -/
theorem clean_ofOption {v : Option Value} (h : ∀ w, v = some w → w.Clean) :
    Clean (.ofOption v) := by
  cases v with
  | none => exact .null
  | some w => exact h w rfl

/-- A record with fixed names is clean if its members are. -/
theorem clean_ofNames {names : List String} (hnames : fs.map Prod.fst = names.map Key.text)
    (hall : ∀ name ∈ names, IsMemberName name) (hdistinct : names.Nodup)
    (h : ∀ p ∈ fs, p.2.Clean) : Clean (.record fs) := by
  refine .record (fun p hp => ?_) ?_ h
  · have mem : p.1 ∈ names.map Key.text := hnames ▸ List.mem_map_of_mem hp
    obtain ⟨name, hname, heq⟩ := List.mem_map.1 mem
    exact ⟨name, heq.symm, hall name hname⟩
  · rw [hnames]
    exact hdistinct.map fun _ _ e => Key.text.inj e

/-- `clean_ofNames` for a record that is written out. -/
theorem clean_ofFields {fields : List (String × Value)} (names : List String)
    (hnames : fields.map Prod.fst = names) (hall : ∀ name ∈ names, IsMemberName name)
    (hdistinct : names.Nodup) (h : fields.Forall fun p => p.2.Clean) :
    Clean (.ofFields fields) := by
  subst hnames
  refine clean_ofNames ?_ hall hdistinct fun p hp => ?_
  · rw [List.map_map, List.map_map]
    rfl
  · obtain ⟨q, hq, rfl⟩ := List.mem_map.1 hp
    exact List.forall_iff_forall_mem.1 h q hq

/-- A record of one member. -/
theorem clean_single {name : String} {v : Value} (hname : IsMemberName name) (h : v.Clean) :
    Clean (.ofFields [(name, v)]) :=
  clean_ofFields [name] rfl (List.forall_mem_singleton.2 hname) (List.nodup_singleton _) h

/-- What is looked up in a clean record is clean. -/
theorem Clean.get? (h : Clean (.record fs)) {k : Key} {w : Value}
    (hw : Assoc.get? fs k = some w) : w.Clean := by
  obtain ⟨_, -, hm⟩ := Assoc.mem_of_get? hw
  exact h.values _ hm

/-- A member put into a record. -/
theorem Clean.put (h : Clean (.record fs)) {name : String} (hname : IsMemberName name) {w : Value}
    (hw : w.Clean) : Clean (.record (Assoc.put fs (.text name) w)) := by
  refine .record ?_ ?_ ?_
  · intro p hp
    rcases Assoc.mem_put hp with hp | ⟨-, hp | ⟨b, hp⟩⟩
    · -- The name is new.
      exact h.names p hp
    · exact ⟨name, hp, hname⟩
    · -- The name was there, and stays where it was.
      exact h.names (p.1, b) hp
  · exact Assoc.nodup_keys_put h.distinct _ w
  · intro p hp
    rcases Assoc.mem_put hp with hp | ⟨hp, -⟩
    · exact h.values p hp
    · exact hp ▸ hw

/-! ### A test -/

mutual

/-- Whether a value is clean. -/
def isClean : Value → Bool
  | .null | .bool _ | .int _ => true
  | .float x => x.isFinite
  | .text s => decide (Sendable s.toList)
  | .list vs => itemsClean vs
  | .record fs => fieldsClean fs && decide (fs.map Prod.fst).Nodup

/-- Whether the items of a list are clean. -/
def itemsClean : List Value → Bool
  | [] => true
  | v :: vs => isClean v && itemsClean vs

/-- Whether the members of a record have names that are seen and values that are clean. -/
def fieldsClean : List (Key × Value) → Bool
  | [] => true
  | (.text name, v) :: fs => decide (IsMemberName name) && isClean v && fieldsClean fs
  | _ :: _ => false

end

mutual

/-- What passes the test is clean, by the recursion of the test. -/
theorem clean_of_isClean : ∀ {v : Value}, isClean v = true → v.Clean
  | .null, _ => .null
  | .bool b, _ => .bool b
  | .int n, _ => .int n
  | .float _, h => .float h
  | .text _, h => .text (of_decide_eq_true h)
  | .list _, h => .list (clean_of_itemsClean h)
  | .record fs, h => by
    rw [isClean, Bool.and_eq_true] at h
    have members := clean_of_fieldsClean h.1
    exact .record (fun p hp => (members p hp).1) (of_decide_eq_true h.2)
      fun p hp => (members p hp).2

/-- The items that pass are clean. -/
theorem clean_of_itemsClean : ∀ {vs : List Value}, itemsClean vs = true → ∀ v ∈ vs, v.Clean
  | [], _ => fun _ h => absurd h List.not_mem_nil
  | v :: vs, h => by
    rw [itemsClean, Bool.and_eq_true] at h
    exact List.forall_mem_cons.2 ⟨clean_of_isClean h.1, clean_of_itemsClean h.2⟩

/-- The members that pass are clean, and have proper names. -/
theorem clean_of_fieldsClean : ∀ {fs : List (Key × Value)}, fieldsClean fs = true →
    ∀ p ∈ fs, (∃ name, p.1 = Key.text name ∧ IsMemberName name) ∧ p.2.Clean
  | [], _ => fun _ h => absurd h List.not_mem_nil
  | (.text name, v) :: fs, h => by
    rw [fieldsClean, Bool.and_eq_true, Bool.and_eq_true] at h
    exact List.forall_mem_cons.2 ⟨⟨⟨name, rfl, of_decide_eq_true h.1.1⟩, clean_of_isClean h.1.2⟩,
      clean_of_fieldsClean h.2⟩

end

/-! ### Through the server -/

mutual

/-- Nothing of a clean value is hidden. -/
theorem Clean.shown_eq : ∀ {v : Value}, v.Clean → Server.shown v = v
  | .null, _ | .bool _, _ | .int _, _ | .float _, _ | .text _, _ => rfl
  | .list vs, h => by rw [Server.shown, shownAll_eq h.items]
  | .record fs, h => by rw [Server.shown, shownFields_eq h]

/-- Nothing is hidden of any item. -/
theorem shownAll_eq : ∀ {vs : List Value}, (∀ v ∈ vs, v.Clean) → Server.shownAll vs = vs
  | [], _ => rfl
  | v :: vs, h => by
    obtain ⟨hv, hvs⟩ := List.forall_mem_cons.1 h
    rw [Server.shownAll, hv.shown_eq, shownAll_eq hvs]

/-- No member is hidden, and nothing of any member. -/
theorem shownFields_eq : ∀ {fs : List (Key × Value)}, Clean (.record fs) →
    Server.shownFields fs = fs
  | [], _ => rfl
  | (k, v) :: fs, h => by
    obtain ⟨⟨name, hk, hname⟩, hv, -, hfs⟩ := clean_record_cons h
    have visible : Server.isShown k = true := by simp [hk, Server.isShown, hname.2]
    rw [Server.shownFields, if_pos visible, hv.shown_eq, shownFields_eq hfs]

end

mutual

/-- Every number in a clean value is finite. -/
theorem Clean.allFinite : ∀ {v : Value}, v.Clean → Json.allFinite v = true
  | .null, _ | .bool _, _ | .int _, _ | .text _, _ => rfl
  | .float _, h => h.isFinite
  | .list vs, h => by rw [Json.allFinite, allFiniteItems_of_clean h.items]
  | .record fs, h => by rw [Json.allFinite, allFiniteFields_of_clean h]

/-- Every number in the items is finite. -/
theorem allFiniteItems_of_clean : ∀ {vs : List Value}, (∀ v ∈ vs, v.Clean) →
    Json.allFiniteItems vs = true
  | [], _ => rfl
  | v :: vs, h => by
    obtain ⟨hv, hvs⟩ := List.forall_mem_cons.1 h
    rw [Json.allFiniteItems, hv.allFinite, allFiniteItems_of_clean hvs]
    rfl

/-- Every number in the members is finite. -/
theorem allFiniteFields_of_clean : ∀ {fs : List (Key × Value)}, Clean (.record fs) →
    Json.allFiniteFields fs = true
  | [], _ => rfl
  | (k, v) :: fs, h => by
    obtain ⟨⟨name, rfl, -⟩, hv, -, hfs⟩ := clean_record_cons h
    simp only [Json.allFiniteFields, hv.allFinite, allFiniteFields_of_clean hfs, Bool.and_self]

end

/-- Texts that are put in one after the other, no two alike, are a record as they are. -/
theorem foldl_put_of_distinct (before : List (Key × Value))
    (hd : ((before ++ fs).map Prod.fst).Nodup)
    (names : ∀ p ∈ before ++ fs, ∃ name, p.1 = Key.text name) :
    fs.foldl (fun m (k, a) => Assoc.put m k a) before = before ++ fs := by
  induction fs generalizing before with
  | nil => rw [List.append_nil]; rfl
  | cons p fs ih =>
    obtain ⟨k, v⟩ := p
    obtain ⟨name, rfl⟩ : ∃ name, k = Key.text name := names (k, v) (by simp)
    -- The name does not stand before, so it is put at the end.
    have fresh : Assoc.has before (.text name) = false := by
      rw [Assoc.has_iff, List.any_eq_false]
      intro k' hk' e
      rw [List.map_append, List.map_cons, List.nodup_append] at hd
      obtain rfl := Key.text_beq_iff.1 (BEq.symm e)
      exact hd.2.2 _ hk' _ (.head _) rfl
    rw [List.foldl_cons]
    simp only [Assoc.put_of_not_has fresh]
    rw [ih _ (by simpa using hd) (by simpa using names), List.append_assoc]
    rfl

/-- `foldl_put_of_distinct` from the empty record. -/
theorem ofPairs_of_distinct (h : (fs.map Prod.fst).Nodup)
    (names : ∀ p ∈ fs, ∃ name, p.1 = Key.text name) : Assoc.ofPairs fs = fs :=
  foldl_put_of_distinct [] h names

mutual

/-- A clean value is read back as it was written. -/
theorem Clean.wire_eq : ∀ {v : Value}, v.Clean → Json.wire v = v
  | .null, _ | .bool _, _ | .int _, _ | .float _, _ | .text _, _ => by simp only [Json.wire]
  | .list vs, h => by rw [Json.wire, wireAll_eq h.items]
  | .record fs, h => by
    have names : ∀ p ∈ fs, ∃ name, p.1 = Key.text name := fun p hp =>
      (h.names p hp).imp fun _ hn => hn.1
    rw [Json.wire, wireFields_eq h, ofPairs_of_distinct h.distinct names]

/-- The items are read back as they were written. -/
theorem wireAll_eq : ∀ {vs : List Value}, (∀ v ∈ vs, v.Clean) → Json.wireAll vs = vs
  | [], _ => rfl
  | v :: vs, h => by
    obtain ⟨hv, hvs⟩ := List.forall_mem_cons.1 h
    rw [Json.wireAll, hv.wire_eq, wireAll_eq hvs]

/-- The members are read back as they were written. -/
theorem wireFields_eq : ∀ {fs : List (Key × Value)}, Clean (.record fs) → Json.wireFields fs = fs
  | [], _ => rfl
  | (k, v) :: fs, h => by
    obtain ⟨⟨name, rfl, -⟩, hv, -, hfs⟩ := clean_record_cons h
    rw [Json.wireFields, hv.wire_eq, wireFields_eq hfs]
    rfl

end

/-! ### Written out -/

/-- A character is written as itself or escaped, in ASCII either way. -/
theorem sendable_escaped {c : Char} (h : Text.isStandIn c = false) :
    Sendable (Json.escaped .sent c) := by
  -- An escape is a backslash and four digits.
  have escape : ∀ n, Sendable (Json.unitEscape n) := fun n =>
    .cons (by decide) (.cons (by decide) (Text.sendable_hex 4 n))
  unfold Json.escaped
  split_ifs
  · decide
  · decide
  · decide
  · decide
  · decide
  · decide
  · decide
  · exact .cons h .nil
  · exact escape _
  · split
    · exact escape _
    · exact (escape _).append (escape _)

/-- A text is written in quotes, character by character. -/
theorem sendable_jsonText {s : String} (h : Sendable s.toList) :
    Sendable (Json.text .sent s).toList :=
  Text.sendable_ofList (.append (.cons (by decide) (.flatMap fun c hc => sendable_escaped (h c hc)))
    (.cons (by decide) .nil))

/-- A number is written in digits, or by one of three names. -/
theorem sendable_jsonFloat (x : Float) : Sendable (Json.float x).toList := by
  rw [Json.float]
  split
  · decide
  · split <;> decide
  · exact Text.sendable_ofList (Decimal.sendable_plainFinite _ _ _)

/-- A list or a record is written between brackets, with its items in between. -/
theorem sendable_bracketed {left right : String} (hl : Sendable left.toList)
    (hr : Sendable right.toList) {items : List String} (h : ∀ s ∈ items, Sendable s.toList)
    (level : Nat) : Sendable (Json.bracketed .sent level left right items).toList := by
  unfold Json.bracketed
  split
  · exact hl.append_text hr
  · exact (hl.append_text (Text.sendable_joined (by decide) h)).append_text hr

mutual

/-- The JSON of a clean value can be sent. -/
theorem Clean.sendable_writeAt : ∀ {v : Value}, v.Clean → ∀ level,
    Sendable (Json.writeAt .sent level v).toList
  | .null, _, _ => by rw [Json.writeAt]; decide
  | .bool b, _, _ => by rw [Json.writeAt]; cases b <;> decide
  | .int n, _, _ => by rw [Json.writeAt]; exact Decimal.sendable_whole n
  | .float x, _, _ => by rw [Json.writeAt]; exact sendable_jsonFloat x
  | .text s, h, _ => by rw [Json.writeAt]; exact sendable_jsonText h.sendable
  | .list vs, h, level => by
    rw [Json.writeAt]
    exact sendable_bracketed (by decide) (by decide) (sendable_writeAll h.items _) _
  | .record fs, h, level => by
    rw [Json.writeAt]
    exact sendable_bracketed (by decide) (by decide) (sendable_writeFields h _) _

/-- What is written of the items can be sent. -/
theorem sendable_writeAll : ∀ {vs : List Value}, (∀ v ∈ vs, v.Clean) → ∀ level,
    ∀ s ∈ Json.writeAll .sent level vs, Sendable s.toList
  | [], _, _, _, hs => by rw [Json.writeAll] at hs; exact absurd hs List.not_mem_nil
  | v :: vs, h, level, s, hs => by
    obtain ⟨hv, hvs⟩ := List.forall_mem_cons.1 h
    rw [Json.writeAll] at hs
    rcases List.mem_cons.1 hs with rfl | hs
    · exact hv.sendable_writeAt level
    · exact sendable_writeAll hvs level s hs

/-- What is written of the members can be sent. -/
theorem sendable_writeFields : ∀ {fs : List (Key × Value)}, Clean (.record fs) → ∀ level,
    ∀ s ∈ Json.writeFields .sent level fs, Sendable s.toList
  | [], _, _, _, hs => by rw [Json.writeFields] at hs; exact absurd hs List.not_mem_nil
  | (k, v) :: fs, h, level, s, hs => by
    obtain ⟨⟨name, rfl, hname⟩, hv, -, hfs⟩ := clean_record_cons h
    rw [Json.writeFields] at hs
    rcases List.mem_cons.1 hs with rfl | hs
    · exact .append_text (.append_text (sendable_jsonText hname.1) (by decide))
        (hv.sendable_writeAt level)
    · exact sendable_writeFields hfs level s hs

end

/-- A clean value arrives as it was sent. -/
theorem Clean.sent_eq {v : Value} (h : v.Clean) : Json.sent v = .ok v := by
  have octets := Text.unencodable?_eq_none (h.sendable_writeAt 0)
  rw [Json.sent, h.allFinite, Json.write, octets, h.wire_eq]
  rfl

end Value

/-- The response of the server as it arrives: without its hidden members, and as JSON. -/
def Server.Arrives (response received : Value) : Prop :=
  Json.sent (Server.shown response) = .ok received

/-- A clean value arrives as it is. -/
theorem Value.Clean.arrives {v : Value} (h : v.Clean) : Server.Arrives v v := by
  rw [Server.Arrives, h.shown_eq, h.sent_eq]

end Storefront
