import Yori.Store.SqliteRow

/-! Lists of strings in one blob, and the cursor that reads them. -/

namespace Yori
open Checked List

/-- The byte behind a cursor. A read outside of the blob fails with its place. -/
def byteAt (blob : ByteString) (cursor : Nat) : Except Nat UInt8 := require blob[cursor]? cursor

/-- `end - cursor`, as an unsigned number. -/
def remaining (blob : ByteString) (cursor : Nat) : Nat := (((blob.length : Int) - cursor) % 2 ^ 64).toNat

/-- So many bytes from the cursor on. -/
def bytesAt (blob : ByteString) (cursor : Nat) : Nat → Except Nat ByteString
  | 0 => return []
  | length + 1 => do
    let byte ← byteAt blob cursor
    return byte :: (← bytesAt blob (cursor + 1) length)

/-- The number behind the cursor and the cursor behind the number. -/
def takeU32Le (blob : ByteString) (cursor : Nat) : Except Nat (Option (Nat × Nat)) := do
  if remaining blob cursor < 4 then return none
  else return some (LittleEndian.number (← bytesAt blob cursor 4), cursor + 4)

def takeStrings (blob : ByteString) : Nat → Nat → Except Nat (Option (List ByteString × Nat))
  | 0, cursor => return some ([], cursor)
  | count + 1, cursor => do
    match ← takeU32Le blob cursor with
    | none => return none
    | some (length, cursor) =>
      if remaining blob cursor < length then return none
      else
        let item ← bytesAt blob cursor length
        return (← takeStrings blob count (cursor + length)).map fun found => (item :: found.1, found.2)

/-- The decoder as it moves its cursor over the blob. -/
def scanStringList (blob : ByteString) : Except Nat (Option (List ByteString)) := do
  if blob.length < 4 then return none
  else match ← takeU32Le blob 0 with
    | none => return none
    | some (count, cursor) =>
      if count > maxEncodedItems then return none
      else match ← takeStrings blob count cursor with
        | none => return none
        | some (items, cursor) => return if cursor = blob.length then some items else none

variable {blob : ByteString} {cursor : Nat}

theorem remaining_eq (fits : blob.length < 2 ^ 31) (within : cursor ≤ blob.length) :
    remaining blob cursor = (blob.drop cursor).length := by
  rw [remaining, length_drop]
  omega

theorem bytesAt_eq {length : Nat} (within : cursor + length ≤ blob.length) :
    bytesAt blob cursor length = .ok ((blob.drop cursor).take length) := by
  induction length generalizing cursor with
  | zero => rfl
  | succ length ih =>
    have inside : cursor < blob.length := by omega
    rw [bytesAt, byteAt, getElem?_eq_getElem inside, ih (by omega), drop_eq_getElem_cons inside, take_succ_cons]
    rfl

theorem takeU32Le_eq (fits : blob.length < 2 ^ 31) (within : cursor ≤ blob.length) :
    takeU32Le blob cursor = .ok ((u32Le.take (blob.drop cursor)).map fun found => (found.1, cursor + 4)) := by
  rw [takeU32Le, remaining_eq fits within]
  show _ = Except.ok (Option.map _ (if (blob.drop cursor).length < 4 then none else _))
  split
  · rfl
  · rename_i enough
    rw [length_drop] at enough
    rw [bytesAt_eq (by omega)]
    rfl

theorem takeStrings_eq (fits : blob.length < 2 ^ 31) (within : cursor ≤ blob.length) (count : Nat) :
    takeStrings blob count cursor = .ok ((u32Le.block.takeMany count (blob.drop cursor)).map fun found =>
      (found.1, blob.length - found.2.length)) := by
  induction count generalizing cursor with
  | zero =>
    have same : blob.length - (blob.drop cursor).length = cursor := by
      rw [length_drop]
      omega
    show _ = Except.ok (some ([], blob.length - (blob.drop cursor).length))
    rw [same]
    rfl
  | succ count ih =>
    rw [takeStrings, takeU32Le_eq fits within, PrefixCodec.takeMany]
    have head : u32Le.take (blob.drop cursor) = if (blob.drop cursor).length < 4 then none
        else some (LittleEndian.number ((blob.drop cursor).take 4), blob.drop (cursor + 4)) := by
      rw [← drop_drop]
      rfl
    have item : u32Le.block.take (blob.drop cursor) = (u32Le.take (blob.drop cursor)).bind fun found =>
        if found.2.length < found.1 then none else some (found.2.take found.1, found.2.drop found.1) := rfl
    rw [item, head]
    split
    · rfl
    · rename_i enough
      rw [length_drop] at enough
      simp only [Option.bind_some, Option.map_some]
      show (if remaining blob (cursor + 4) < _ then _ else _) = _
      rw [remaining_eq fits (by omega)]
      split
      · rfl
      · rename_i room
        rw [length_drop] at room
        rw [bytesAt_eq (by omega), ih (by omega)]
        simp only [Option.bind_eq_bind, Option.bind_some, drop_drop]
        cases u32Le.block.takeMany count _ with
        | none | some => rfl

/-- The cursor never leaves the blob, and what it finds is what the list stands for. -/
theorem scanStringList_eq (fits : blob.length < 2 ^ 31) : scanStringList blob = .ok (decodeStringList blob) := by
  have head := takeU32Le_eq fits (Nat.zero_le _)
  rw [scanStringList, head]
  rw [drop_zero]
  have start : u32Le.take blob = if blob.length < 4 then none
      else some (LittleEndian.number (blob.take 4), blob.drop 4) := rfl
  rw [decodeStringList, PrefixCodec.decodeList, start]
  split
  · rfl
  · rename_i enough
    simp only [Option.map_some, Option.bind_eq_bind, Option.bind_some]
    show (if _ > maxEncodedItems then _ else _) = _
    split
    · rfl
    · rw [takeStrings_eq fits (by omega)]
      cases u32Le.block.takeMany _ (blob.drop (0 + 4)) with
      | none => rfl
      | some found =>
        have ended : blob.length - found.2.length = blob.length ↔ found.2.isEmpty = true := by
          rw [List.isEmpty_iff, ← List.length_eq_zero_iff]
          omega
        show Except.ok (if _ = _ then _ else _) = _
        simp only [ended, Option.bind_some]

theorem decodeStringList_eq_some_iff {items : List ByteString} : decodeStringList blob = some items ↔
    items.length ≤ 512 ∧ (∀ item ∈ items, item.length < 2 ^ 32) ∧ blob = encodeStringList items := by
  have words : u32Le.Canonical := LittleEndian.word_canonical 4
  refine PrefixCodec.decodeList_eq_some_iff ?_ words words.block
  intro count few
  show count < 256 ^ 4
  rw [maxEncodedItems] at few
  omega

/-- A blob is decoded exactly if it is the encoding of a list that the limits allow. So two such lists have different
encodings, and a blob that is altered is refused or stands for another list. -/
theorem string_list_codec (blob : ByteString) :
    (∀ items, decodeStringList blob = some items ↔
      items.length ≤ 512 ∧ (∀ item ∈ items, item.length < 2 ^ 32) ∧ blob = encodeStringList items) ∧
    (∀ items others, items.length ≤ 512 → (∀ item ∈ items, item.length < 2 ^ 32) → others.length ≤ 512 →
      (∀ item ∈ others, item.length < 2 ^ 32) → encodeStringList items = encodeStringList others → items = others) ∧
    (∀ items, blob ≠ encodeStringList items →
      decodeStringList blob = none ∨ ∃ others, others ≠ items ∧ blob = encodeStringList others) ∧
    (blob.length < 2 ^ 31 → scanStringList blob = .ok (decodeStringList blob)) := by
  refine ⟨fun _ => decodeStringList_eq_some_iff, ?_, ?_, scanStringList_eq⟩
  · intro items others few short fewOthers shortOthers same
    have first := decodeStringList_eq_some_iff.mpr ⟨few, short, rfl⟩
    have second := decodeStringList_eq_some_iff.mpr ⟨fewOthers, shortOthers, same⟩
    exact Option.some.inj (first.symm.trans second)
  · intro items altered
    cases decoded : decodeStringList blob with
    | none => exact .inl rfl
    | some others =>
      obtain ⟨_, _, same⟩ := decodeStringList_eq_some_iff.mp decoded
      exact .inr ⟨others, fun unchanged => altered (unchanged ▸ same), same⟩

theorem string_list_codec_two_items :
    scanStringList [2, 0, 0, 0, 1, 0, 0, 0, 104, 0, 0, 0, 0] = .ok (some [[104], []]) := by
  have codec := string_list_codec [2, 0, 0, 0, 1, 0, 0, 0, 104, 0, 0, 0, 0]
  rw [codec.2.2.2 (by decide), (codec.1 [[104], []]).mpr ⟨by decide, by decide, by decide⟩]

end Yori
