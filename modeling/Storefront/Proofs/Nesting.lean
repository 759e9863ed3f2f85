import Storefront.Json.Reader

/-! # How deeply a text is nested

A reader that may nest lists and records to some depth reads a part of a text from the start, and it
finds too many of them only where more are opened.  Each list that is opened counts.

* `Reads` : what holds of every reader of a part
* `opened_of_tooDeep` : where too many lists and records are nested, more are opened
* `readChars_opening` : where so many lists are opened, too many are nested -/

namespace Storefront

/-- A fault that is reported in other words was a fault before. -/
theorem Except.mapError_eq_error {ε ε' α : Type} {x : Except ε α} {g : ε → ε'} {e' : ε'}
    (h : x.mapError g = .error e') : ∃ e, x = .error e ∧ g e = e' := by
  cases x with
  | error e => exact ⟨e, rfl, Except.error.inj h⟩
  | ok a => cases h

namespace Json

/-- Whether a list or a record begins with a character. -/
def isOpening (c : Char) : Bool := c == '[' || c == '\x7b'

/-- How many lists and records are opened at most; what stands in a text counts as well. -/
def opened (cs : List Char) : Nat := cs.countP isOpening

/-- A part of a text opens no more than the whole. -/
theorem opened_le {cs cs' : List Char} (h : cs' <:+ cs) : opened cs' ≤ opened cs :=
  h.sublist.countP_le

/-- What is left after spaces is a part of the text. -/
theorem skipSpace_suffix (cs : List Char) : skipSpace cs <:+ cs := List.dropWhile_suffix _

/-- What is behind a character after spaces is a part of the text. -/
theorem suffix_of_skipSpace {c : Char} {cs rest : List Char} (h : skipSpace cs = c :: rest) :
    rest <:+ cs :=
  (List.suffix_cons c rest).trans (h ▸ skipSpace_suffix cs)

/-- What is wrong is not that too much is nested. -/
def Malformed.IsShallow (cause : Malformed) : Prop := ∀ isList, cause ≠ .tooDeep isList

/-- A reader read a part of a text within which lists and records may be nested `depth` times. -/
structure Reads {α : Type} (depth : Nat) (cs : List Char) (result : Except Defect (α × List Char)) :
    Prop where
  suffix : ∀ v rest, result = .ok (v, rest) → rest <:+ cs
  deep : ∀ isList rest, result = .error ⟨.tooDeep isList, rest⟩ → depth < opened cs

namespace Reads

variable {α β : Type} {depth : Nat} {cs cs' : List Char}
  {result : Except Defect (α × List Char)}

/-- What is read as a value leaves a part of the text. -/
theorem ok (v : α) (h : cs' <:+ cs) : Reads depth cs (.ok (v, cs')) where
  suffix := by
    rintro _ _ ⟨⟩
    exact h
  deep := nofun

/-- What is wrong in another way is not too deep. -/
theorem error {d : Defect} (h : d.cause.IsShallow) : Reads (α := α) depth cs (.error d) where
  suffix := nofun
  deep := by
    rintro isList _ ⟨⟩
    exact absurd rfl (h isList)

/-- A part of a part is a part. -/
theorem mono (hr : Reads depth cs' result) (h : cs' <:+ cs) : Reads depth cs result where
  suffix v rest read := (hr.suffix v rest read).trans h
  deep isList rest read := Nat.lt_of_lt_of_le (hr.deep isList rest read) (opened_le h)

/-- So is a text without its first characters. -/
theorem drop (n : Nat) (hr : Reads depth (cs.drop n) result) : Reads depth cs result :=
  hr.mono (List.drop_suffix n cs)

/-- Of two readers in a row, the second reads what the first left. -/
theorem bind {f : α × List Char → Except Defect (β × List Char)} (hr : Reads depth cs result)
    (hf : ∀ v rest, rest <:+ cs → Reads depth cs (f (v, rest))) :
    Reads depth cs (result >>= f) := by
  cases result with
  | error d =>
    refine ⟨nofun, ?_⟩
    rintro isList rest ⟨⟩
    exact hr.deep isList rest rfl
  | ok p => exact hf p.1 p.2 (hr.suffix p.1 p.2 rfl)

/-- The list or record that is opened first makes up for one more that may be nested. -/
theorem cons {c : Char} (opening : isOpening c = true) (hr : Reads depth cs result) :
    Reads (depth + 1) (c :: cs) result where
  suffix v rest read := (hr.suffix v rest read).trans (List.suffix_cons c cs)
  deep isList rest read := by
    have more := hr.deep isList rest read
    have one : opened (c :: cs) = opened cs + 1 := List.countP_cons_of_pos opening
    omega

end Reads

/-! ### Readers -/

/-- A text is read to its end, with its escapes. -/
theorem reads_readText (depth : Nat) (start acc cs : List Char) :
    Reads depth cs (readText start acc cs) := by
  fun_induction readText start acc cs with
  | case1 => exact .error nofun
  | case2 => exact .ok _ (List.suffix_cons _ _)
  | case3 => exact .error nofun
  -- An escape of a code unit has six characters, and so has that of the other half.
  | case4 _ _ _ _ _ _ _ _ _ _ _ ih => exact .drop 12 ih
  | case5 _ _ _ _ _ _ _ _ _ _ ih => exact .drop 6 ih
  | case6 => exact .error nofun
  | case7 _ _ _ _ _ _ _ ih => exact .drop 2 ih
  | case8 => exact .error nofun
  | case9 => exact .error nofun
  | case10 => exact .error nofun
  | case11 _ _ _ _ _ _ _ _ _ ih => exact .drop 1 ih

/-- A number is read with its places, if it has any. -/
theorem reads_readUnsigned (depth : Nat) (start : List Char) (negative : Bool) (cs : List Char) :
    Reads depth cs (readUnsigned start negative cs) := by
  unfold readUnsigned
  extract_lets run rest places behind
  -- What is left is behind the digits, and behind the places if there are any.
  have left : behind <:+ cs := by
    have digits : rest <:+ cs := List.drop_suffix _ _
    unfold behind
    split
    · exact digits
    · exact (List.drop_suffix _ _).trans digits
  split
  · exact .error nofun
  split
  · split
    · exact .error nofun
    · exact .ok _ left
  · exact .ok _ ((List.drop_suffix _ _).trans left)

/-- A word or a number opens nothing. -/
theorem reads_readScalar (depth : Nat) (cs : List Char) : Reads depth cs (readScalar cs) := by
  unfold readScalar
  split
  · exact .ok _ (List.drop_suffix _ _)
  · unfold readNumber
    split
    · exact (reads_readUnsigned _ _ _ _).mono (List.suffix_cons _ _)
    · exact reads_readUnsigned _ _ _ _

/-- Each of the readers that call one another reads a part. -/
theorem reads (fuel : Nat) :
    (∀ depth cs, Reads depth cs (readValue fuel depth cs)) ∧
      (∀ depth acc cs, Reads depth cs (readItems fuel depth acc cs)) ∧
      (∀ depth acc cs, Reads depth cs (readMembers fuel depth acc cs)) := by
  -- The readers call one another with less fuel, so the induction is on the fuel for all three at
  -- once.
  induction fuel with
  | zero => exact ⟨fun _ _ => .error nofun, fun _ _ _ => .error nofun, fun _ _ _ => .error nofun⟩
  | succ fuel ih =>
    obtain ⟨value, items, members⟩ := ih
    refine ⟨fun depth cs => ?_, fun depth acc cs => ?_, fun depth acc cs => ?_⟩
    · unfold readValue
      split
      · exact .error nofun
      · exact .bind ((reads_readText _ _ _ _).mono (List.suffix_cons _ _)) fun _ _ h => .ok _ h
      -- Nothing may be nested, but a list or a record begins.
      · exact ⟨nofun, fun _ _ _ => List.countP_pos_iff.2 ⟨_, .head _, rfl⟩⟩
      · exact ⟨nofun, fun _ _ _ => List.countP_pos_iff.2 ⟨_, .head _, rfl⟩⟩
      · refine .cons rfl ?_
        split
        · exact .ok _ (suffix_of_skipSpace ‹_›)
        · exact (items _ _ _).mono (skipSpace_suffix _)
      · refine .cons rfl ?_
        split
        · exact .ok _ (suffix_of_skipSpace ‹_›)
        · exact (members _ _ _).mono (skipSpace_suffix _)
      · exact reads_readScalar _ _
    · unfold readItems
      refine .bind (value _ _) fun v rest h => ?_
      dsimp only
      split
      · exact .ok _ ((suffix_of_skipSpace ‹_›).trans h)
      · exact (items _ _ _).mono ((skipSpace_suffix _).trans ((suffix_of_skipSpace ‹_›).trans h))
      · exact .error nofun
    · unfold readMembers
      split
      · refine .bind ((reads_readText _ _ _ _).mono (List.suffix_cons _ _)) fun name rest h => ?_
        dsimp only
        split
        · have colon := (suffix_of_skipSpace ‹_›).trans h
          refine .bind ((value _ _).mono ((skipSpace_suffix _).trans colon)) fun v rest h => ?_
          dsimp only
          split
          · exact .ok _ ((suffix_of_skipSpace ‹_›).trans h)
          · exact (members _ _ _).mono
              ((skipSpace_suffix _).trans ((suffix_of_skipSpace ‹_›).trans h))
          · exact .error nofun
        · exact .error nofun
      · exact .error nofun

/-! ### Texts that are nested too deeply -/

/-- Where too many lists and records are nested, more are opened. -/
theorem opened_of_tooDeep {depth : Nat} {cs : List Char} {e : ReadError} {isList : Bool}
    (h : readChars depth cs = .error e) (deep : e.cause = .tooDeep isList) : depth < opened cs := by
  unfold readChars at h
  -- Only reading a value can fail for its depth; text after it is another fault.
  split at h
  · rename_i d read
    obtain rfl := Except.error.inj h
    obtain ⟨cause, rest⟩ := d
    obtain rfl : cause = .tooDeep isList := deep
    exact Nat.lt_of_lt_of_le (((reads _).1 _ _).deep isList rest read)
      (opened_le (skipSpace_suffix cs))
  · split at h
    · cases h
    · obtain rfl := Except.error.inj h
      cases deep

/-- What is wrong with a text that arrived is wrong with its characters. -/
theorem readArrived_eq_text {depth : Nat} {s : String} {e : ReadError}
    (h : readArrived depth s = .error (.text e)) :
    ∃ cs, Text.arrived s = .ok cs ∧ readChars depth cs = .error e := by
  rw [readArrived] at h
  cases arrived : Text.arrived s with
  | error e' => rw [arrived] at h; cases h
  | ok cs =>
    rw [arrived] at h
    have failed : (readChars depth cs).mapError ArrivalError.text = .error (.text e) := h
    obtain ⟨e', read, same⟩ := Except.mapError_eq_error failed
    obtain rfl := ArrivalError.text.inj same
    exact ⟨cs, rfl, read⟩

/-- Each list that is opened is nested in those before; the first that is one too many is found. -/
theorem readValue_opening {fuel depth : Nat} (more : Nat) (enough : 2 * depth < fuel) :
    readValue fuel depth (List.replicate (more + depth + 1) '[') =
      .error ⟨.tooDeep true, List.replicate (more + 1) '['⟩ := by
  induction depth generalizing fuel with
  | zero =>
    obtain ⟨fuel, rfl⟩ : ∃ n, fuel = n + 1 := ⟨fuel - 1, by omega⟩
    rfl
  | succ depth ih =>
    obtain ⟨fuel, rfl⟩ : ∃ n, fuel = n + 2 := ⟨fuel - 2, by omega⟩
    have inner : readValue fuel depth (List.replicate (more + depth + 1) '[') =
        .error ⟨.tooDeep true, List.replicate (more + 1) '['⟩ := ih (by omega)
    -- The first item of the outer list is what the rest of the text reads as.
    calc readValue (fuel + 2) (depth + 1) (List.replicate (more + (depth + 1) + 1) '[')
      _ = readItems (fuel + 1) depth [] (List.replicate (more + depth + 1) '[') := rfl
      _ = .error ⟨.tooDeep true, List.replicate (more + 1) '['⟩ := by
        rw [readItems, inner]
        rfl

/-- Where more lists are opened than may be nested, too many are nested. -/
theorem readChars_opening {depth n : Nat} (deeper : depth < n) : ∃ e, e.cause = .tooDeep true ∧
    readChars depth (List.replicate n '[') = .error e := by
  obtain ⟨more, rfl⟩ : ∃ more, n = more + depth + 1 := ⟨n - depth - 1, by omega⟩
  have read : readValue (2 * (more + depth + 1) + 2) depth
      (List.replicate (more + depth + 1) '[') = _ := readValue_opening more (by omega)
  refine ⟨ReadError.locate (List.replicate (more + depth + 1) '[')
    ⟨.tooDeep true, List.replicate (more + 1) '['⟩, rfl, ?_⟩
  have spaced : skipSpace (List.replicate (more + depth + 1) '[') =
      List.replicate (more + depth + 1) '[' := rfl
  rw [readChars, List.length_replicate, spaced, read]

/-- A text of opened lists arrives as it is. -/
theorem readArrived_opening {depth n : Nat} (deeper : depth < n) (several : 4 ≤ n) :
    ∃ e, e.cause = .tooDeep true ∧
      readArrived depth (String.ofList (List.replicate n '[')) = .error (.text e) := by
  obtain ⟨e, cause, read⟩ := readChars_opening deeper
  have arrived : Text.arrived (String.ofList (List.replicate n '[')) =
      .ok (List.replicate n '[') := by
    -- The first four characters tell the encoding.
    obtain ⟨rest, rfl⟩ : ∃ rest, n = rest + 4 := ⟨n - 4, by omega⟩
    rw [Text.arrived, String.toList_ofList]
    rfl
  refine ⟨e, cause, ?_⟩
  calc readArrived depth (String.ofList (List.replicate n '['))
    _ = (readChars depth (List.replicate n '[')).mapError ArrivalError.text := by
      rw [readArrived, arrived]
      rfl
    _ = .error (.text e) := by
      rw [read]
      rfl

end Json
end Storefront
