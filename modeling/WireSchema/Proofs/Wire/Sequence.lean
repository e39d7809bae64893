import WireSchema.Proofs.Wire.Oversize

/-!
Values of mixed types written to one buffer and read back. An operation that fails leaves the buffer as it
was, so that the bytes added by a run are those of the operations that succeeded, one after another. Reading
with the operations of the same kinds gives these values and stops where their bytes end.
-/

namespace WireSchema.Wire

open WireSchema.Schema

/-! ## Entries -/

/-- What one operation reads or writes. -/
inductive EntryKind where
  | primitive (p : Primitive)
  | arrayLength
  deriving DecidableEq, Repr

/-- What one operation writes: a primitive value or the length of an array. -/
inductive Entry where
  | primitive (p : Primitive) (x : PrimitiveValue p)
  | arrayLength (n : Nat)

namespace Entry

def kind : Entry → EntryKind
  | .primitive p _ => .primitive p
  | .arrayLength _ => .arrayLength

def put : Entry → Written
  | .primitive p x => encodePrimitive p x
  | .arrayLength n => putArrayLength n

/-- The part of the entry that may be too long. -/
def item? : Entry → Option Item
  | .primitive p x => primitiveItem? p x
  | .arrayLength n => some ⟨.array, n⟩

/-- The answer of the operation on a buffer, and the buffer after it. -/
def write (e : Entry) (buffer : List UInt8) : Except Error Unit × List UInt8 :=
  match e.put with
  | ⟨bytes, none⟩ => (.ok (), buffer ++ bytes)
  | ⟨bytes, some error⟩ => (.error error, buffer ++ bytes)

end Entry

def EntryKind.read : EntryKind → Decoder Entry
  | .primitive p => do
    let x ← decodePrimitive p
    return .primitive p x
  | .arrayLength => do
    let n ← Decoder.arrayLength
    return .arrayLength n

/-! ## One operation -/

/-- Nothing is written together with an error. -/
def Written.Whole (w : Written) : Prop :=
  (∃ bytes, w = .ok bytes) ∨ ∃ error, w = .failed error

theorem Written.whole_bounded (limit n : Nat) (error : Error) (bytes : List UInt8) :
    (if limit < n then Written.failed error else .ok bytes).Whole := by
  split
  · exact Or.inr ⟨error, rfl⟩
  · exact Or.inl ⟨bytes, rfl⟩

theorem Written.Whole.andThen_ok {w : Written} (h : w.Whole) (bytes : List UInt8) :
    (w.andThen (.ok bytes)).Whole := by
  rcases h with ⟨front, rfl⟩ | ⟨error, rfl⟩
  · exact Or.inl ⟨front ++ bytes, rfl⟩
  · exact Or.inr ⟨error, rfl⟩

theorem encodePrimitive_whole (p : Primitive) (x : PrimitiveValue p) : (encodePrimitive p x).Whole := by
  cases p with
  | string => exact Written.whole_bounded _ _ _ _
  | bytes => exact (Written.whole_bounded _ _ _ _).andThen_ok x
  | _ => exact Or.inl ⟨_, rfl⟩

namespace Entry

theorem put_whole (e : Entry) : e.put.Whole := by
  cases e with
  | primitive p x => exact encodePrimitive_whole p x
  | arrayLength n => exact Written.whole_bounded _ _ _ _

theorem put_error (e : Entry) : e.put.error = e.item?.bind Item.error? := by
  cases e with
  | primitive p x =>
      rw [put, item?, encodePrimitive_error]
      cases primitiveItem? p x with
      | none => rfl
      | some item => rw [Option.toList_some, List.findSome?_singleton, Option.bind_some]
  | arrayLength n => exact putLength_error (by decide) n

/-- An operation writes all bytes of its value or, with an error, none. -/
theorem write_cases (e : Entry) (buffer : List UInt8) :
    (∃ bytes, e.put = .ok bytes ∧ e.write buffer = (.ok (), buffer ++ bytes)) ∨
      ∃ error, e.put = .failed error ∧ e.write buffer = (.error error, buffer) := by
  rcases e.put_whole with ⟨bytes, hput⟩ | ⟨error, hput⟩
  · exact Or.inl ⟨bytes, hput, by rw [write, hput]; rfl⟩
  · refine Or.inr ⟨error, hput, ?_⟩
    rw [write, hput]
    exact congrArg _ (List.append_nil buffer)

theorem write_fst_eq_ok_iff (e : Entry) (buffer : List UInt8) :
    (e.write buffer).1 = .ok () ↔ ∀ item, e.item? = some item → ¬ item.Oversized := by
  have hanswer : (e.write buffer).1 = .ok () ↔ e.put.error = none := by
    rcases e.write_cases buffer with ⟨bytes, hput, hwrite⟩ | ⟨error, hput, hwrite⟩
    · rw [hput, hwrite]
      exact iff_of_true rfl rfl
    · rw [hput, hwrite]
      exact iff_of_false (by simp) (by simp [Written.failed])
  rw [hanswer, put_error, Option.bind_eq_none_iff]
  simp only [Item.error?_eq_none]

theorem read_of_put {e : Entry} {bytes : List UInt8} (h : e.put = .ok bytes) (rest : List UInt8) :
    e.kind.read (bytes ++ rest) = (.ok e, rest) := by
  cases e with
  | primitive p x =>
      have hread : decodePrimitive p (bytes ++ rest) = (.ok x, rest) :=
        (decodePrimitive_accepts p _ _ _).mpr ⟨bytes, rfl, encodePrimitive_spells h⟩
      exact Decoder.bind_eq_ok.mpr ⟨x, rest, hread, rfl⟩
  | arrayLength n =>
      obtain ⟨hle, rfl⟩ := putLength_eq_ok.mp h
      have hread : Decoder.arrayLength (wordBytes 4 n ++ rest) = (.ok n, rest) :=
        (Decoder.accepts_arrayLength _ _ _).mpr ⟨_, rfl, spellsLong_wordBytes hle⟩
      exact Decoder.bind_eq_ok.mpr ⟨n, rest, hread, rfl⟩

end Entry

/-! ## Runs -/

/-- The answers of a run of operations, and the buffer after it. The run goes on after an error. -/
def writeAll : List Entry → List UInt8 → List (Except Error Unit) × List UInt8
  | [], buffer => ([], buffer)
  | e :: es, buffer =>
    let first := e.write buffer
    let others := writeAll es first.2
    (first.1 :: others.1, others.2)

/-- The entries that were answered without an error. -/
def accepted (es : List Entry) (answers : List (Except Error Unit)) : List Entry :=
  ((es.zip answers).filter fun p => p.2.isOk).map Prod.fst

def readAll : List EntryKind → Decoder (List Entry)
  | [] => return []
  | kind :: kinds => do
    let e ← kind.read
    let es ← readAll kinds
    return e :: es

theorem writeAll_append (front back : List Entry) (buffer : List UInt8) :
    writeAll (front ++ back) buffer =
      ((writeAll front buffer).1 ++ (writeAll back (writeAll front buffer).2).1,
        (writeAll back (writeAll front buffer).2).2) := by
  induction front generalizing buffer with
  | nil => rfl
  | cons e front ih => rw [List.cons_append, writeAll, ih, writeAll, List.cons_append]

theorem length_writeAll (es : List Entry) (buffer : List UInt8) : (writeAll es buffer).1.length = es.length := by
  induction es generalizing buffer with
  | nil => rfl
  | cons e es ih => rw [writeAll, List.length_cons, ih, List.length_cons]

/-- The answer at a position is that of its operation on what the operations before it left. -/
theorem getElem?_writeAll (front : List Entry) (e : Entry) (back : List Entry) (buffer : List UInt8) :
    (writeAll (front ++ e :: back) buffer).1[front.length]? = some (e.write (writeAll front buffer).2).1 := by
  have hlength := length_writeAll front buffer
  rw [writeAll_append, List.getElem?_append_right (Nat.le_of_eq hlength), hlength, Nat.sub_self]
  rfl

theorem accepted_cons_ok (e : Entry) (es : List Entry) (answers : List (Except Error Unit)) :
    accepted (e :: es) (.ok () :: answers) = e :: accepted es answers := rfl

theorem accepted_cons_error (e : Entry) (es : List Entry) (error : Error) (answers : List (Except Error Unit)) :
    accepted (e :: es) (.error error :: answers) = accepted es answers := rfl

/-- Reading takes the bytes of one accepted entry after another. -/
theorem readAll_writeAll (es : List Entry) (buffer : List UInt8) :
    ∃ added, (writeAll es buffer).2 = buffer ++ added ∧ ∀ rest,
      readAll ((accepted es (writeAll es buffer).1).map Entry.kind) (added ++ rest) =
        (.ok (accepted es (writeAll es buffer).1), rest) := by
  induction es generalizing buffer with
  | nil => exact ⟨[], (List.append_nil buffer).symm, fun rest => rfl⟩
  | cons e es ih =>
      rcases e.write_cases buffer with ⟨bytes, hput, hwrite⟩ | ⟨error, hput, hwrite⟩
      · obtain ⟨added, hbuffer, hread⟩ := ih (buffer ++ bytes)
        refine ⟨bytes ++ added, ?_, fun rest => ?_⟩
        · rw [writeAll, hwrite, hbuffer, List.append_assoc]
        · rw [writeAll, hwrite, accepted_cons_ok, List.map_cons, readAll, List.append_assoc]
          exact Decoder.bind_eq_ok.mpr ⟨e, added ++ rest, Entry.read_of_put hput _,
            Decoder.bind_eq_ok.mpr ⟨_, rest, hread rest, rfl⟩⟩
      · obtain ⟨added, hbuffer, hread⟩ := ih buffer
        refine ⟨added, ?_, fun rest => ?_⟩
        · rw [writeAll, hwrite, hbuffer]
        · rw [writeAll, hwrite, accepted_cons_error]
          exact hread rest

/-- In a run of operations on any buffer, an operation that is answered by an error leaves the buffer as it was.
The run only adds to the buffer, and from what it added, followed by anything, the operations of the same kinds
read the accepted values and leave what follows. An operation is refused just when its value is too long for the
word in front of it. -/
theorem writeAll_reads_back (es : List Entry) (buffer : List UInt8) :
    (∀ front e back error, es = front ++ e :: back →
      (writeAll es buffer).1[front.length]? = some (.error error) →
        (writeAll (front ++ [e]) buffer).2 = (writeAll front buffer).2) ∧
    (∃ added, (writeAll es buffer).2 = buffer ++ added ∧ ∀ rest,
      readAll ((accepted es (writeAll es buffer).1).map Entry.kind) (added ++ rest) =
        (.ok (accepted es (writeAll es buffer).1), rest)) ∧
    ∀ front e back, es = front ++ e :: back →
      ((writeAll es buffer).1[front.length]? = some (.ok ()) ↔
        ∀ item, e.item? = some item → ¬ item.Oversized) := by
  refine ⟨?_, readAll_writeAll es buffer, ?_⟩
  · rintro front e back error rfl hanswer
    rw [getElem?_writeAll, Option.some.injEq] at hanswer
    rcases e.write_cases (writeAll front buffer).2 with ⟨bytes, -, hwrite⟩ | ⟨_, -, hwrite⟩
    · rw [hwrite] at hanswer
      cases hanswer
    · rw [writeAll_append, writeAll, hwrite]
      rfl
  · rintro front e back rfl
    rw [getElem?_writeAll, Option.some.injEq]
    exact e.write_fst_eq_ok_iff _

/-- A length that no word of 31 bits holds is refused between two values, which are read back. -/
theorem writeAll_reads_back_refused :
    ∃ added,
      (writeAll [.primitive .bool true, .arrayLength 2147483648, .primitive .int16 (-2)] [9]).2 = [9] ++ added ∧
        ∀ rest, readAll [.primitive .bool, .primitive .int16] (added ++ rest) =
          (.ok [.primitive .bool true, .primitive .int16 (-2)], rest) :=
  (writeAll_reads_back [.primitive .bool true, .arrayLength 2147483648, .primitive .int16 (-2)] [9]).2.1

end WireSchema.Wire
