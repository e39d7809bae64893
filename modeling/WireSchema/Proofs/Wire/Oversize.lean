import WireSchema.Proofs.Address
import WireSchema.Proofs.Wire.RoundTrip

/-!
When encoding fails. The values with a length in front are the only ones that can be too long. Those that are on
the wire at a version are met in the order of their addresses, an array before its elements, and encoding stops at
the first that is too long.
-/

namespace WireSchema.Wire

open WireSchema.Schema WireSchema.Text

/-! ## Items -/

/-- A value with a length in front. -/
structure Item where
  kind : LengthKind
  length : Nat
  deriving DecidableEq, Repr

namespace Item

/-- The greatest length that the word in front can say. -/
def limit (item : Item) : Nat :=
  match item.kind with
  | .string => 32767
  | .bytes => 2147483647
  | .array => 2147483647

def Oversized (item : Item) : Prop :=
  item.limit < item.length

def error? (item : Item) : Option Error :=
  if item.limit < item.length then some (.invalidLength item.kind (reportedLength item.length)) else none

theorem error?_eq_some {item : Item} {e : Error} :
    item.error? = some e ↔ item.Oversized ∧ e = .invalidLength item.kind (reportedLength item.length) := by
  rw [error?, Oversized]
  by_cases hlong : item.limit < item.length
  · simp [hlong, eq_comm]
  · simp [hlong]

theorem error?_eq_none {item : Item} : item.error? = none ↔ ¬ item.Oversized := by
  rw [error?, Oversized]
  by_cases hlong : item.limit < item.length
  · simp [hlong]
  · simp [hlong]

end Item

/-- A string is as long as its encoding. -/
def primitiveItem? : (p : Primitive) → PrimitiveValue p → Option Item
  | .string, s => some ⟨.string, (Utf8.encode s).length⟩
  | .bytes, bytes => some ⟨.bytes, bytes.length⟩
  | _, _ => none

mutual

/-- The item at an address of a value. The branches of an array are its elements and those of a structure its
members, of which only those with an open guard are there. -/
def Shape.itemAt? (version : Int16) : (s : Shape) → s.Value → Address → Option Item
  | .primitive p, x, [] => primitiveItem? p x
  | .primitive _, _, _ :: _ => none
  | .array _, xs, [] => some ⟨.array, xs.length⟩
  | .array element, xs, i :: p => xs[i]?.bind fun x => element.itemAt? version x p
  | .struct _ members, x, p => members.itemAt? version x p

def Members.itemAt? (version : Int16) : (ms : Members) → ms.Value → Address → Option Item
  | .nil, _, _ => none
  | .cons _ _ _ _ _, _, [] => none
  | .cons _ guard _ shape _, (x, _), 0 :: p =>
    if guard.holds version then shape.itemAt? version x p else none
  | .cons _ _ _ _ rest, (_, xs), (i + 1) :: p => rest.itemAt? version xs (i :: p)

end

mutual

/-- The items of a value in the order in which they are met. -/
def Shape.items (version : Int16) : (s : Shape) → s.Value → List Item
  | .primitive p, x => (primitiveItem? p x).toList
  | .array element, xs => ⟨.array, xs.length⟩ :: xs.flatMap (element.items version)
  | .struct _ members, x => members.items version x

def Members.items (version : Int16) : (ms : Members) → ms.Value → List Item
  | .nil, _ => []
  | .cons _ guard _ shape rest, (x, xs) =>
    (if guard.holds version then shape.items version x else []) ++ rest.items version xs

end

theorem Members.itemAt?_nil (version : Int16) (ms : Members) (x : ms.Value) : ms.itemAt? version x [] = none := by
  cases ms <;> rfl

open Address (Lists)

mutual

theorem Shape.lists_items (version : Int16) :
    (s : Shape) → (x : s.Value) → Lists (s.itemAt? version x) (s.items version x)
  | .primitive p, x => by
      rw [Shape.items]
      cases hitem : primitiveItem? p x with
      | none =>
          refine .nil fun q => ?_
          cases q with
          | nil => exact hitem
          | cons i q => rfl
      | some item => exact (Lists.nil fun _ => rfl).cons rfl hitem fun _ _ => rfl
  | .array element, xs => by
      have helements : Lists (fun | [] => none | i :: p => (Shape.array element).itemAt? version xs (i :: p))
          (xs.flatMap (element.items version)) :=
        .flatMap (fun x _ => element.lists_items version x) rfl fun _ _ => rfl
      exact helements.cons rfl rfl fun _ _ => rfl
  | .struct _ members, x => members.lists_items version x

theorem Members.lists_items (version : Int16) :
    (ms : Members) → (x : ms.Value) → Lists (ms.itemAt? version x) (ms.items version x)
  | .nil, _ => .nil fun _ => rfl
  | .cons _ guard _ shape rest, (x, xs) => by
      have hfirst : Lists (fun p => if guard.holds version then shape.itemAt? version x p else none)
          (if guard.holds version then shape.items version x else []) := by
        split
        · exact shape.lists_items version x
        · exact .nil fun _ => rfl
      exact hfirst.append (rest.lists_items version xs) (rest.itemAt?_nil version xs) rfl (fun _ => rfl)
        fun _ _ => rfl

end

/-! ## The error of an encoding -/

theorem Written.andThen_error (a b : Written) : (a.andThen b).error = a.error.or b.error := by
  obtain ⟨bytes, _ | e⟩ := a <;> rfl

theorem Written.bounded_error {limit n : Nat} {e : Error} {written : List UInt8} :
    (if limit < n then Written.failed e else .ok written).error = if limit < n then some e else none := by
  split <;> rfl

theorem putLength_error {kind : LengthKind} (hkind : kind ≠ .string) (n : Nat) :
    (putLength kind n).error = Item.error? ⟨kind, n⟩ := by
  have hlimit : Item.limit ⟨kind, n⟩ = greatestLength := by
    cases kind <;> first | rfl | exact absurd rfl hkind
  rw [putLength, Written.bounded_error, Item.error?, hlimit]

theorem encodePrimitive_error (p : Primitive) (x : PrimitiveValue p) :
    (encodePrimitive p x).error = (primitiveItem? p x).toList.findSome? Item.error? := by
  have hone (item : Item) : (some item).toList.findSome? Item.error? = item.error? := by
    rw [Option.toList, List.findSome?_singleton]
  cases p with
  | string =>
      rw [primitiveItem?, hone, encodePrimitive, putString, Written.bounded_error]
      rfl
  | bytes =>
      rw [primitiveItem?, hone, encodePrimitive, putBytes, Written.andThen_error, putLength_error (by decide)]
      exact Option.or_none
  | _ => rfl

theorem encodeItems_error {α : Type} (encode : α → Written) (xs : List α) :
    (encodeItems encode xs).error = xs.findSome? fun x => (encode x).error := by
  induction xs with
  | nil => rfl
  | cons x xs ih =>
      rw [encodeItems, Written.andThen_error, ih, List.findSome?_cons]
      cases (encode x).error <;> rfl

mutual

theorem Shape.encode_error (version : Int16) :
    (s : Shape) → (x : s.Value) → (s.encode version x).error = (s.items version x).findSome? Item.error?
  | .primitive p, x => encodePrimitive_error p x
  | .array element, xs => by
      have helement : (fun x => (element.encode version x).error) =
          fun x => (element.items version x).findSome? Item.error? := by
        funext x
        exact element.encode_error version x
      rw [Shape.encode, Written.andThen_error, encodeItems_error, helement, ← Address.findSome?_flatMap,
        putArrayLength, putLength_error (by decide), Shape.items, List.findSome?_cons]
      cases Item.error? ⟨.array, xs.length⟩ <;> rfl
  | .struct _ members, x => members.encode_error version x

theorem Members.encode_error (version : Int16) :
    (ms : Members) → (x : ms.Value) → (ms.encode version x).error = (ms.items version x).findSome? Item.error?
  | .nil, _ => rfl
  | .cons _ guard _ shape rest, (x, xs) => by
      rw [Members.encode, Written.andThen_error, rest.encode_error version xs, Members.items, List.findSome?_append]
      split
      · rw [shape.encode_error version x]
      · rfl

end

/-! ## What is not on the wire -/

theorem encodeItems_map {α : Type} {encode : α → Written} {seen : α → α} (h : ∀ x, encode (seen x) = encode x)
    (xs : List α) : encodeItems encode (xs.map seen) = encodeItems encode xs := by
  induction xs with
  | nil => rfl
  | cons x xs ih => rw [List.map_cons, encodeItems, h, ih, encodeItems]

mutual

/-- Encoding looks only at what is seen at the version. -/
theorem Shape.encode_seenAt (version : Int16) :
    (s : Shape) → (x : s.Value) → s.encode version (s.seenAt version x) = s.encode version x
  | .primitive _, _ => rfl
  | .array element, xs => by
      rw [Shape.seenAt, Shape.encode, Shape.encode, List.length_map,
        encodeItems_map (element.encode_seenAt version)]
  | .struct _ members, x => members.encode_seenAt version x

theorem Members.encode_seenAt (version : Int16) :
    (ms : Members) → (x : ms.Value) → ms.encode version (ms.seenAt version x) = ms.encode version x
  | .nil, _ => rfl
  | .cons _ guard d shape rest, (x, xs) => by
      rw [Members.seenAt, Members.encode, Members.encode, rest.encode_seenAt version xs]
      split
      · rw [shape.encode_seenAt version x]
      · rfl

end

theorem reportedLength_eq {n : Nat} (h : n < 0x8000000000000000) : reportedLength n = n :=
  Int64.toInt_ofNat_of_lt h

theorem Shape.encodeAll_eq_error {version : Int16} {s : Shape} {x : s.Value} {e : Error} :
    s.encodeAll version x = .error e ↔ (s.encode version x).error = some e := by
  rw [Shape.encodeAll]
  rcases s.encode version x with ⟨bytes, _ | e'⟩ <;> simp

/-- Encoding fails just when an item that is on the wire is too long for the word in front of it, and then with the
kind and the length of the first of these. The length is reported as it is if it is one of 63 bits. What is not on
the wire at the version has no part in it. -/
theorem Shape.encodeAll_fails_iff (version : Int16) (s : Shape) (x : s.Value) :
    (∀ e, s.encodeAll version x = .error e ↔
      ∃ p item, s.itemAt? version x p = some item ∧ item.Oversized ∧
        e = .invalidLength item.kind (reportedLength item.length) ∧
        ∀ q, q.Before p → ∀ other, s.itemAt? version x q = some other → ¬ other.Oversized) ∧
    ((∃ e, s.encodeAll version x = .error e) ↔ ∃ p item, s.itemAt? version x p = some item ∧ item.Oversized) ∧
    (∀ n < 0x8000000000000000, reportedLength n = n) ∧
    s.encodeAll version (s.seenAt version x) = s.encodeAll version x ∧
    ∀ e, (s.encode version x).error = some e ↔ s.encodeAll version x = .error e := by
  have hlists := s.lists_items version x
  have herror (e : Error) : s.encodeAll version x = .error e ↔
      (s.items version x).findSome? Item.error? = some e := by
    rw [Shape.encodeAll_eq_error, s.encode_error version x]
  refine ⟨fun e => ?_, ?_, fun n => reportedLength_eq, ?_, fun e => Shape.encodeAll_eq_error.symm⟩
  · rw [herror, hlists.findSome?_eq_some]
    simp only [Item.error?_eq_some, Item.error?_eq_none, and_assoc]
  · simp only [herror, hlists.exists_findSome?_eq_some, ne_eq, Item.error?_eq_none, Classical.not_not]
  · rw [Shape.encodeAll, s.encode_seenAt version x, Shape.encodeAll]

end WireSchema.Wire
