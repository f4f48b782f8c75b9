import Scaffold.Json.Printer
import Scaffold.Proofs.Json.Records

/-!
# Reading what was written

The text of a value in which there is no number reads as that value, with nothing behind it
(`Document.ofText_text`). A string is read back through its escapes, and for every two steps that
the reader takes there is a character in the text.
-/

namespace Scaffold

namespace Json

/-! ### Strings -/

theorem scanString_plain {c : Char} (hquote : c ≠ '"') (hslash : c ≠ '\\')
    (hcontrol : ¬c.toNat < 0x20) (cs : List Char) :
    scanString (c :: cs) = (.char c :: (scanString cs).1, (scanString cs).2) := by
  rw [scanString.eq_def]
  simp [hquote, hslash, hcontrol]

theorem scanString_escaped {e c : Char} (he : e ≠ 'u') (h : escaped? e = some c)
    (cs : List Char) :
    scanString ('\\' :: e :: cs) = (.char c :: (scanString cs).1, (scanString cs).2) := by
  rw [scanString.eq_def]
  simp [he, h]

theorem scanString_unit {a b c d : Char} {code : Nat} (h : hexUnit? a b c d = some code)
    (cs : List Char) :
    scanString ('\\' :: 'u' :: a :: b :: c :: d :: cs) =
      (.unit code :: (scanString cs).1, (scanString cs).2) := by
  rw [scanString.eq_def]
  simp [h]

theorem hexUnit?_digitChar : ∀ n < 0x20,
    hexUnit? '0' '0' (n / 16).digitChar (n % 16).digitChar = some n := by
  decide

/-- A piece of a string that stands for one character. -/
def StandsFor (c : Char) : StringPiece → Prop
  | .char d => d = c
  | .unit code => code = c.toNat ∧ code < 0x20

theorem scanString_escapeControl {c : Char} (hc : c.toNat < 0x20) (cs : List Char) :
    ∃ piece, StandsFor c piece ∧
      scanString (escapeControl c ++ cs) = (piece :: (scanString cs).1, (scanString cs).2) := by
  unfold escapeControl
  split
  case h_6 =>
    exact ⟨.unit c.toNat, ⟨rfl, hc⟩, scanString_unit (hexUnit?_digitChar c.toNat hc) cs⟩
  all_goals exact ⟨.char _, rfl, scanString_escaped (by decide) rfl cs⟩

/-- A character is read back from its escape, as itself or by its code. -/
theorem scanString_escapeChar (c : Char) (cs : List Char) :
    ∃ piece, StandsFor c piece ∧
      scanString (escapeChar c ++ cs) = (piece :: (scanString cs).1, (scanString cs).2) := by
  unfold escapeChar
  split
  · next hquote => exact ⟨.char c, rfl, scanString_escaped (by decide) (by rw [hquote]; rfl) cs⟩
  · next hquote =>
    split
    · next hslash => exact ⟨.char c, rfl, scanString_escaped (by decide) (by rw [hslash]; rfl) cs⟩
    · next hslash =>
      split
      · next hcontrol => exact scanString_escapeControl hcontrol cs
      · next hcontrol => exact ⟨.char c, rfl, scanString_plain hquote hslash hcontrol cs⟩

theorem joinPieces_cons {c : Char} {piece : StringPiece} (h : StandsFor c piece)
    {pieces : List StringPiece} {text : List Char}
    (hpieces : joinPieces .closed pieces = .ok text) :
    joinPieces .closed (piece :: pieces) = .ok (c :: text) := by
  cases piece with
  | char d =>
    obtain rfl : d = c := h
    rw [joinPieces, hpieces]
    rfl
  | unit code =>
    -- a control character is no half of a pair, so its unit stands for it alone
    obtain ⟨rfl, hcontrol⟩ := h
    have htrail : isTrailUnit c.toNat = false := by
      simp only [isTrailUnit, Bool.and_eq_false_iff, decide_eq_false_iff_not]
      omega
    have hlead : isLeadUnit c.toNat = false := by
      simp only [isLeadUnit, Bool.and_eq_false_iff, decide_eq_false_iff_not]
      omega
    rw [joinPieces.eq_def]
    simp only [htrail, hlead, hpieces, Char.ofNat_toNat]
    rfl

theorem readString_escaped (text rest : List Char) :
    readString (text.flatMap escapeChar ++ '"' :: rest) = (.str (String.ofList text), rest) := by
  have hscan : ∃ pieces, scanString (text.flatMap escapeChar ++ '"' :: rest) =
      (pieces, .closed, rest) ∧ joinPieces .closed pieces = .ok text := by
    induction text with
    | nil => exact ⟨[], by rw [List.flatMap_nil, List.nil_append, scanString.eq_def]; rfl, rfl⟩
    | cons c text ih =>
      obtain ⟨pieces, hpieces, hjoined⟩ := ih
      obtain ⟨piece, hpiece, hscan⟩ :=
        scanString_escapeChar c (text.flatMap escapeChar ++ '"' :: rest)
      refine ⟨piece :: pieces, ?_, joinPieces_cons hpiece hjoined⟩
      rw [List.flatMap_cons, List.append_assoc, hscan, hpieces]
  obtain ⟨pieces, hpieces, hjoined⟩ := hscan
  simp only [readString, hpieces, hjoined]

theorem skipBlanks_cons {c : Char} (hc : isBlank c = false) (cs : List Char) :
    skipBlanks (c :: cs) = c :: cs :=
  List.dropWhile_cons_of_neg (by simp [hc])

theorem readValue_writeString (text : String) (steps : Nat) (rest : List Char) :
    readValue (steps + 1) (writeString text ++ rest) = (.str text, rest) := by
  have h := readString_escaped text.toList rest
  rw [String.ofList_toList] at h
  rw [readValue, writeString, List.cons_append, List.append_assoc, skipBlanks_cons rfl]
  exact h

/-! ### Values without numbers -/

/-- A whole value in which there is no number, at any depth. -/
inductive HasNoNumber : Json → Prop
  | null : HasNoNumber .null
  | bool (value : Bool) : HasNoNumber (.bool value)
  | str (text : String) : HasNoNumber (.str text)
  | arr {items : List Json} : (∀ item ∈ items, item.HasNoNumber) → HasNoNumber (.ofItems items)
  | obj {members : List (String × Json)} : (∀ member ∈ members, member.2.HasNoNumber) →
      HasNoNumber (.ofMembers members)

/-- A value starts with a character that neither stands between values nor closes anything. -/
theorem HasNoNumber.exists_write_cons {json : Json} (h : json.HasNoNumber) :
    ∃ c cs, json.write = c :: cs ∧ isBlank c = false ∧ c ≠ ']' := by
  cases h with
  | bool value => cases value <;> exact ⟨_, _, rfl, rfl, by decide⟩
  | _ => exact ⟨_, _, rfl, rfl, by decide⟩

/-- What is written for a value is read, whatever follows. -/
def ReadsBack (json : Json) : Prop :=
  ∀ (steps : Nat) (rest : List Char), 2 * json.write.length ≤ steps →
    readValue steps (json.write ++ rest) = (json, rest)

theorem readsBack_of_succ {json : Json} (hne : json.write ≠ [])
    (h : ∀ (steps : Nat) (rest : List Char), 2 * json.write.length ≤ steps + 1 →
      readValue (steps + 1) (json.write ++ rest) = (json, rest)) : json.ReadsBack := by
  intro steps rest hsteps
  have hpos := List.length_pos_iff.mpr hne
  obtain ⟨n, rfl⟩ : ∃ n, steps = n + 1 := ⟨steps - 1, by omega⟩
  exact h n rest hsteps

theorem writeItems_cons (item : Json) (rest : List Json) :
    writeItems (item :: rest) = item.write ++ rest.flatMap fun item => ',' :: item.write := by
  induction rest generalizing item with
  | nil => simp [writeItems]
  | cons next rest ih => rw [writeItems, ih, List.flatMap_cons, List.cons_append]; simp

theorem writeMembers_cons (member : Json × Json) (rest : List (Json × Json)) :
    writeMembers (member :: rest) = member.1.write ++ ':' :: (member.2.write ++
      rest.flatMap fun member => ',' :: (member.1.write ++ ':' :: member.2.write)) := by
  induction rest generalizing member with
  | nil => simp [writeMembers]
  | cons next rest ih =>
    obtain ⟨key, value⟩ := member
    rw [writeMembers, ih, List.flatMap_cons]
    · simp
    · simp

/-! ### Arrays -/

variable {steps : Nat} {c : Char} {cs behind rest : List Char} {ending : Ending}

theorem readItems_close (first : Bool) :
    readItems (steps + 1) first (']' :: rest) = ([], .closed, rest) := by
  rw [readItems, skipBlanks_cons rfl]
  rfl

theorem readItems_comma {item : Json} {items : List Json}
    (hitem : readValue steps cs = (item, behind))
    (hitems : readItems steps false behind = (items, ending, rest)) :
    readItems (steps + 1) false (',' :: cs) = (item :: items, ending, rest) := by
  rw [readItems, skipBlanks_cons rfl]
  simp [hitem, hitems]

theorem readItems_first {item : Json} {items : List Json} (hblank : isBlank c = false)
    (hclose : c ≠ ']') (hitem : readValue steps (c :: cs) = (item, behind))
    (hitems : readItems steps false behind = (items, ending, rest)) :
    readItems (steps + 1) true (c :: cs) = (item :: items, ending, rest) := by
  rw [readItems, skipBlanks_cons hblank]
  simp [hitem, hitems]

/-- The items behind the first, each behind its comma. -/
theorem readItems_behind {items : List Json} (h : ∀ item ∈ items, item.ReadsBack) {steps : Nat}
    (hsteps : 2 * (items.flatMap fun item => ',' :: item.write).length < steps)
    (rest : List Char) :
    readItems steps false ((items.flatMap fun item => ',' :: item.write) ++ ']' :: rest) =
      (items, .closed, rest) := by
  induction items generalizing steps with
  | nil =>
    obtain ⟨n, rfl⟩ : ∃ n, steps = n + 1 := ⟨steps - 1, by omega⟩
    exact readItems_close false
  | cons item items ih =>
    obtain ⟨n, rfl⟩ : ∃ n, steps = n + 1 := ⟨steps - 1, by omega⟩
    rw [List.forall_mem_cons] at h
    simp only [List.flatMap_cons, List.cons_append, List.length_cons, List.length_append] at hsteps
    rw [List.flatMap_cons, List.cons_append, List.cons_append, List.append_assoc]
    exact readItems_comma (h.1 n _ (by omega)) (ih h.2 (by omega))

theorem readItems_write {items : List Json} (hvalues : ∀ item ∈ items, item.HasNoNumber)
    (h : ∀ item ∈ items, item.ReadsBack) (hsteps : 2 * (writeItems items).length < steps)
    (rest : List Char) :
    readItems steps true (writeItems items ++ ']' :: rest) = (items, .closed, rest) := by
  obtain ⟨n, rfl⟩ : ∃ n, steps = n + 1 := ⟨steps - 1, by omega⟩
  cases items with
  | nil => exact readItems_close true
  | cons item items =>
    rw [List.forall_mem_cons] at h hvalues
    obtain ⟨c, cs, hwrite, hblank, hclose⟩ := hvalues.1.exists_write_cons
    rw [writeItems_cons, List.length_append] at hsteps
    have hpos : 0 < item.write.length := by
      rw [hwrite]
      exact Nat.succ_pos _
    have hitem := h.1 n ((items.flatMap fun item => ',' :: item.write) ++ ']' :: rest) (by omega)
    rw [writeItems_cons, List.append_assoc]
    rw [hwrite, List.cons_append] at hitem ⊢
    exact readItems_first hblank hclose hitem (readItems_behind h.2 (by omega) rest)

/-! ### Objects -/

theorem readMembers_close (first : Bool) :
    readMembers (steps + 1) first ('\x7d' :: rest) = ([], .closed, rest) := by
  rw [readMembers, skipBlanks_cons rfl]
  rfl

variable {key value : Json} {members : List (Json × Json)} {behindKey : List Char}

theorem readMembers_comma (hkey : readValue steps cs = (key, ':' :: behindKey))
    (hvalue : readValue steps behindKey = (value, behind))
    (hmembers : readMembers steps false behind = (members, ending, rest)) :
    readMembers (steps + 1) false (',' :: cs) = ((key, value) :: members, ending, rest) := by
  rw [readMembers, skipBlanks_cons rfl]
  simp [hkey, hvalue, hmembers, skipBlanks_cons (c := ':') rfl]

theorem readMembers_first (hblank : isBlank c = false) (hclose : c ≠ '\x7d')
    (hkey : readValue steps (c :: cs) = (key, ':' :: behindKey))
    (hvalue : readValue steps behindKey = (value, behind))
    (hmembers : readMembers steps false behind = (members, ending, rest)) :
    readMembers (steps + 1) true (c :: cs) = ((key, value) :: members, ending, rest) := by
  rw [readMembers, skipBlanks_cons hblank]
  simp [hkey, hvalue, hmembers, skipBlanks_cons (c := ':') rfl]

/-- A member as it is written. -/
def writeMember (member : String × Json) : List Char :=
  writeString member.1 ++ ':' :: member.2.write

theorem writeMembers_keyed (member : String × Json) (rest : List (String × Json)) :
    writeMembers (keyed (member :: rest)) =
      writeMember member ++ rest.flatMap fun member => ',' :: writeMember member := by
  rw [keyed, List.map_cons, writeMembers_cons, List.flatMap_map, writeMember, List.append_assoc]
  rfl

theorem readValue_key {key : String} {value : Json} (hsteps : 0 < steps) (cs : List Char) :
    readValue steps (writeMember (key, value) ++ cs) = (.str key, ':' :: (value.write ++ cs)) := by
  obtain ⟨n, rfl⟩ : ∃ n, steps = n + 1 := ⟨steps - 1, by omega⟩
  rw [writeMember, List.append_assoc, readValue_writeString, List.cons_append]

/-- The members behind the first, each behind its comma. -/
theorem readMembers_behind {members : List (String × Json)}
    (h : ∀ member ∈ members, member.2.ReadsBack) {steps : Nat}
    (hsteps : 2 * (members.flatMap fun member => ',' :: writeMember member).length < steps)
    (rest : List Char) :
    readMembers steps false ((members.flatMap fun member => ',' :: writeMember member) ++
        '\x7d' :: rest) =
      (keyed members, .closed, rest) := by
  induction members generalizing steps with
  | nil =>
    obtain ⟨n, rfl⟩ : ∃ n, steps = n + 1 := ⟨steps - 1, by omega⟩
    exact readMembers_close false
  | cons member members ih =>
    obtain ⟨n, rfl⟩ : ∃ n, steps = n + 1 := ⟨steps - 1, by omega⟩
    rw [List.forall_mem_cons] at h
    simp only [List.flatMap_cons, List.cons_append, List.length_cons, List.length_append,
      writeMember] at hsteps
    rw [List.flatMap_cons, List.cons_append, List.cons_append, List.append_assoc]
    exact readMembers_comma (readValue_key (by omega) _) (h.1 n _ (by omega))
      (ih h.2 (by simp only [writeMember]; omega))

theorem readMembers_write {members : List (String × Json)}
    (h : ∀ member ∈ members, member.2.ReadsBack)
    (hsteps : 2 * (writeMembers (keyed members)).length < steps) (rest : List Char) :
    readMembers steps true (writeMembers (keyed members) ++ '\x7d' :: rest) =
      (keyed members, .closed, rest) := by
  obtain ⟨n, rfl⟩ : ∃ n, steps = n + 1 := ⟨steps - 1, by omega⟩
  cases members with
  | nil => exact readMembers_close true
  | cons member members =>
    rw [List.forall_mem_cons] at h
    rw [writeMembers_keyed, List.length_append, writeMember, writeString] at hsteps
    simp only [List.length_append, List.length_cons] at hsteps
    rw [writeMembers_keyed, List.append_assoc]
    exact readMembers_first rfl (by decide) (readValue_key (by omega) _) (h.1 n _ (by omega))
      (readMembers_behind h.2 (by omega) rest)

/-! ### Documents -/

theorem HasNoNumber.readsBack {json : Json} (h : json.HasNoNumber) : json.ReadsBack := by
  induction h with
  | null => exact readsBack_of_succ (by simp [write]) fun _ _ _ => rfl
  | bool value => cases value <;> exact readsBack_of_succ (by simp [write]) fun _ _ _ => rfl
  | str text =>
    exact readsBack_of_succ (by simp [write, writeString]) fun steps rest _ =>
      readValue_writeString text steps rest
  | @arr items hitems ih =>
    refine readsBack_of_succ (by simp [ofItems, write]) fun steps rest hsteps => ?_
    simp only [ofItems, write, List.length_cons, List.length_append] at hsteps
    rw [ofItems, write, List.cons_append, List.append_assoc, readValue, skipBlanks_cons rfl]
    have hread := @readItems_write steps items hitems ih (by omega) rest
    simp [hread]
  | @obj members _ ih =>
    have hwrite : (ofMembers members).write =
        '\x7b' :: (writeMembers (keyed members) ++ ['\x7d']) := by
      rw [ofMembers, write, keyed]
    refine readsBack_of_succ (by simp [hwrite]) fun steps rest hsteps => ?_
    simp only [hwrite, List.length_cons, List.length_append] at hsteps
    have hread := @readMembers_write steps members ih (by omega) rest
    rw [hwrite, List.cons_append, List.append_assoc, readValue, skipBlanks_cons rfl]
    simp only [List.singleton_append, hread]
    rfl

end Json

/-- The text of a value without numbers is a document of that value. -/
theorem Document.ofText_text {json : Json} (h : json.HasNoNumber) :
    Document.ofText json.text = ⟨json, false⟩ := by
  have hread := h.readsBack (2 * json.write.length + 2) [] (by omega)
  rw [List.append_nil] at hread
  simp only [Document.ofText, Json.text, String.toList_ofList, hread]
  rfl

end Scaffold
