import WireSchema.Proofs.Wire.Primitive

/-!
The wire format. `Shape.Spells version` relates a shape's values to the bytes that stand for them at a
version: the members whose guards are open follow one another, and a member whose guard is closed takes no
bytes and has its default. Decoding accepts exactly this relation, and encoding writes bytes that spell the
value as far as it is seen at the version. Both directions are inductions over the shape, with the items of
an array treated by an induction of their own.
-/

namespace WireSchema.Wire

open WireSchema.Schema WireSchema.Version

/-- Bytes that spell the items one after another. -/
def SpellsItems {α : Type} (spells : List UInt8 → α → Prop) : List UInt8 → List α → Prop
  | bytes, [] => bytes = []
  | bytes, x :: xs => ∃ front back, bytes = front ++ back ∧ spells front x ∧ SpellsItems spells back xs

mutual

/-- The bytes that spell a value at a version. -/
def Shape.Spells (version : Int16) : (s : Shape) → List UInt8 → s.Value → Prop
  | .primitive p, bytes, x => SpellsPrimitive p bytes x
  | .array element, bytes, xs =>
    ∃ head body, bytes = head ++ body ∧ SpellsLong head xs.length ∧
      SpellsItems (element.Spells version) body xs
  | .struct _ members, bytes, x => members.Spells version bytes x

def Members.Spells (version : Int16) : (ms : Members) → List UInt8 → ms.Value → Prop
  | .nil, bytes, _ => bytes = []
  | .cons _ guard d shape rest, bytes, (x, xs) =>
    if guard.holds version then
      ∃ front back, bytes = front ++ back ∧ shape.Spells version front x ∧ rest.Spells version back xs
    else x = shape.default d ∧ rest.Spells version bytes xs

end

/-! ## Decoding accepts the format -/

/-- `decode` succeeds on exactly the bytes that spell a value, whatever follows them. -/
def Reads {α : Type} (decode : List UInt8 → Decoded α) (spells : List UInt8 → α → Prop) : Prop :=
  Takes (fun input x rest => decode input = ⟨x, rest, none⟩) spells

theorem decodeItems_succ_eq {α : Type} {decode : List UInt8 → Decoded α} {n : Nat}
    {input rest : List UInt8} {xs : List α} :
    decodeItems decode (n + 1) input = ⟨xs, rest, none⟩ ↔
      ∃ x left, decode input = ⟨x, left, none⟩ ∧
        ∃ ys, decodeItems decode n left = ⟨ys, rest, none⟩ ∧ xs = x :: ys := by
  constructor
  · intro hrun
    simp only [decodeItems] at hrun
    cases hfirst : decode input with
    | mk x left error =>
        cases error with
        | some e => simp [hfirst] at hrun
        | none =>
            cases hothers : decodeItems decode n left with
            | mk ys right error =>
                cases error with
                | some e => simp [hfirst, hothers] at hrun
                | none =>
                    simp only [hfirst, hothers, Decoded.mk.injEq, and_true] at hrun
                    obtain ⟨rfl, rfl⟩ := hrun
                    exact ⟨x, left, rfl, ys, hothers, rfl⟩
  · rintro ⟨x, left, hfirst, ys, hothers, rfl⟩
    simp only [decodeItems, hfirst, hothers]

theorem decodeItems_reads {α : Type} {decode : List UInt8 → Decoded α} {spells : List UInt8 → α → Prop}
    (h : Reads decode spells) (n : Nat) :
    Reads (decodeItems decode n) fun bytes xs => xs.length = n ∧ SpellsItems spells bytes xs := by
  induction n with
  | zero =>
      intro input xs rest
      constructor
      · intro hrun
        cases hrun
        exact ⟨[], rfl, rfl, rfl⟩
      · rintro ⟨front, rfl, hlen, hspells⟩
        cases xs with
        | nil => cases hspells; rfl
        | cons x xs => cases hlen
  | succ n ih =>
      refine (Takes.andThen h fun x => Takes.map ih (x :: ·)).congr
        (fun _ _ _ => decodeItems_succ_eq) fun bytes xs => ?_
      constructor
      · rintro ⟨front, back, x, rfl, hx, ys, ⟨rfl, hys⟩, rfl⟩
        exact ⟨rfl, front, back, rfl, hx, hys⟩
      · rintro ⟨hlen, hspells⟩
        cases xs with
        | nil => cases hlen
        | cons x xs =>
            obtain ⟨front, back, rfl, hx, hxs⟩ := hspells
            exact ⟨front, back, x, rfl, hx, xs, ⟨Nat.succ.inj hlen, hxs⟩, rfl⟩

theorem Shape.decode_primitive_eq {version : Int16} {p : Primitive} {previous x : PrimitiveValue p}
    {input rest : List UInt8} :
    (Shape.primitive p).decode version previous input = ⟨x, rest, none⟩ ↔
      decodePrimitive p input = (.ok x, rest) := by
  cases hrun : decodePrimitive p input with
  | mk result left => cases result <;> simp [Shape.decode, hrun]

theorem Shape.decode_array_eq {version : Int16} {element : Shape} {previous xs : List element.Value}
    {input rest : List UInt8} :
    (Shape.array element).decode version previous input = ⟨xs, rest, none⟩ ↔
      ∃ n left, Decoder.arrayLength input = (.ok n, left) ∧
        decodeItems (element.decode version (element.default .absent)) n left = ⟨xs, rest, none⟩ := by
  constructor
  · intro hrun
    simp only [Shape.decode] at hrun
    cases hlength : Decoder.arrayLength input with
    | mk result left =>
        cases result with
        | error e => simp [hlength] at hrun
        | ok n =>
            refine ⟨n, left, rfl, ?_⟩
            cases hitems : decodeItems (element.decode version (element.default .absent)) n left with
            | mk ys right error => cases error <;> simp_all
  · rintro ⟨n, left, hlength, hitems⟩
    simp only [Shape.decode, hlength, hitems]

theorem Members.decode_open_eq {version : Int16} {name : String} {guard : Condition} {d : Default}
    {shape : Shape} {others : Members} (hguard : guard.holds version = true) {input rest : List UInt8}
    {x : (Members.cons name guard d shape others).Value} :
    (Members.cons name guard d shape others).decode version input = ⟨x, rest, none⟩ ↔
      ∃ y left, shape.decode version (shape.default d) input = ⟨y, left, none⟩ ∧
        ∃ ys, others.decode version left = ⟨ys, rest, none⟩ ∧ x = (y, ys) := by
  constructor
  · intro hrun
    simp only [Members.decode, hguard, if_true] at hrun
    cases hfirst : shape.decode version (shape.default d) input with
    | mk y left error =>
        cases error with
        | some e => simp [hfirst] at hrun
        | none =>
            cases hothers : others.decode version left with
            | mk ys right error =>
                simp only [hfirst, hothers, Decoded.mk.injEq] at hrun
                obtain ⟨rfl, rfl, rfl⟩ := hrun
                exact ⟨y, left, rfl, ys, hothers, rfl⟩
  · rintro ⟨y, left, hfirst, ys, hothers, rfl⟩
    simp only [Members.decode, hguard, if_true, hfirst, hothers]

theorem Members.decode_closed_eq {version : Int16} {name : String} {guard : Condition} {d : Default}
    {shape : Shape} {others : Members} (hguard : guard.holds version = false) {input rest : List UInt8}
    {x : (Members.cons name guard d shape others).Value} :
    (Members.cons name guard d shape others).decode version input = ⟨x, rest, none⟩ ↔
      ∃ ys, others.decode version input = ⟨ys, rest, none⟩ ∧ x = (shape.default d, ys) := by
  cases hothers : others.decode version input with
  | mk ys right error =>
      simp only [Members.decode, hguard, Bool.false_eq_true, if_false, hothers, Decoded.mk.injEq]
      constructor
      · rintro ⟨rfl, rfl, rfl⟩
        exact ⟨ys, ⟨rfl, rfl, rfl⟩, rfl⟩
      · rintro ⟨_, ⟨rfl, rfl, rfl⟩, rfl⟩
        exact ⟨rfl, rfl, rfl⟩

mutual

theorem Shape.decode_reads (version : Int16) :
    (s : Shape) → (previous : s.Value) → Reads (s.decode version previous) (s.Spells version)
  | .primitive p, _ =>
      Takes.congr (decodePrimitive_accepts p) (fun _ _ _ => Shape.decode_primitive_eq)
        fun _ _ => Iff.rfl
  | .array element, _ => by
      have hitems := decodeItems_reads (element.decode_reads version (element.default .absent))
      refine (Takes.andThen Decoder.accepts_arrayLength hitems).congr
        (fun _ _ _ => Shape.decode_array_eq) fun bytes xs => ?_
      constructor
      · rintro ⟨head, body, _, rfl, hhead, rfl, hbody⟩
        exact ⟨head, body, rfl, hhead, hbody⟩
      · rintro ⟨head, body, rfl, hhead, hbody⟩
        exact ⟨head, body, xs.length, rfl, hhead, rfl, hbody⟩
  | .struct _ members, _ => members.decode_reads version

theorem Members.decode_reads (version : Int16) :
    (ms : Members) → Reads (ms.decode version) (ms.Spells version)
  | .nil => by
      intro input x rest
      constructor
      · intro hrun
        cases hrun
        exact ⟨[], rfl, rfl⟩
      · rintro ⟨_, rfl, rfl⟩
        rfl
  | .cons _ guard d shape others => by
      have hshape := shape.decode_reads version (shape.default d)
      have hothers := others.decode_reads version
      cases hguard : guard.holds version with
      | true =>
          refine (Takes.andThen hshape fun y => Takes.map hothers (y, ·)).congr
            (fun _ _ _ => Members.decode_open_eq hguard) ?_
          rintro bytes ⟨x, xs⟩
          simp only [Members.Spells, hguard, if_true]
          constructor
          · rintro ⟨front, back, _, rfl, hx, _, hxs, ⟨⟩⟩
            exact ⟨front, back, rfl, hx, hxs⟩
          · rintro ⟨front, back, rfl, hx, hxs⟩
            exact ⟨front, back, x, rfl, hx, xs, hxs, rfl⟩
      | false =>
          refine (Takes.map hothers (shape.default d, ·)).congr
            (fun _ _ _ => Members.decode_closed_eq hguard) ?_
          rintro bytes ⟨x, xs⟩
          simp only [Members.Spells, hguard]
          constructor
          · rintro ⟨_, hxs, ⟨⟩⟩
            exact ⟨rfl, hxs⟩
          · rintro ⟨rfl, hxs⟩
            exact ⟨xs, hxs, rfl⟩

end

/-! ## Encoding writes the format -/

mutual

/-- The value as it is seen at a version: every member whose guard is closed, at any depth and in every
item of an array, has its default. -/
def Shape.seenAt (version : Int16) : (s : Shape) → s.Value → s.Value
  | .primitive _, x => x
  | .array element, xs => xs.map (element.seenAt version)
  | .struct _ members, x => members.seenAt version x

def Members.seenAt (version : Int16) : (ms : Members) → ms.Value → ms.Value
  | .nil, _ => ()
  | .cons _ guard d shape rest, (x, xs) =>
    (if guard.holds version then shape.seenAt version x else shape.default d, rest.seenAt version xs)

end

theorem encodeItems_spells {α : Type} {encode : α → Written} {spells : List UInt8 → α → Prop}
    {seen : α → α} (h : ∀ x bytes, encode x = .ok bytes → spells bytes (seen x)) :
    ∀ (xs : List α) (bytes : List UInt8), encodeItems encode xs = .ok bytes →
      SpellsItems spells bytes (xs.map seen) := by
  intro xs
  induction xs with
  | nil =>
      intro bytes hwritten
      cases hwritten
      rfl
  | cons x xs ih =>
      intro bytes hwritten
      obtain ⟨front, back, hfront, hback, rfl⟩ := Written.andThen_eq_ok.mp hwritten
      exact ⟨front, back, rfl, h x front hfront, ih back hback⟩

mutual

theorem Shape.encode_spells (version : Int16) :
    (s : Shape) → (x : s.Value) → (bytes : List UInt8) → s.encode version x = .ok bytes →
      s.Spells version bytes (s.seenAt version x)
  | .primitive _, _, _, hwritten => encodePrimitive_spells hwritten
  | .array element, xs, bytes, hwritten => by
      obtain ⟨head, body, hhead, hbody, rfl⟩ := Written.andThen_eq_ok.mp hwritten
      obtain ⟨hle, rfl⟩ := putLength_eq_ok.mp hhead
      have hitems := encodeItems_spells (element.encode_spells version) xs body hbody
      refine ⟨_, body, rfl, ?_, hitems⟩
      rw [Shape.seenAt, List.length_map]
      exact spellsLong_wordBytes hle
  | .struct _ members, x, bytes, hwritten => members.encode_spells version x bytes hwritten

theorem Members.encode_spells (version : Int16) :
    (ms : Members) → (x : ms.Value) → (bytes : List UInt8) → ms.encode version x = .ok bytes →
      ms.Spells version bytes (ms.seenAt version x)
  | .nil, _, bytes, hwritten => by
      cases hwritten
      rfl
  | .cons _ guard d shape others, (x, xs), bytes, hwritten => by
      obtain ⟨front, back, hfront, hback, rfl⟩ := Written.andThen_eq_ok.mp hwritten
      have hothers := others.encode_spells version xs back hback
      simp only [Members.Spells, Members.seenAt]
      by_cases hguard : guard.holds version
      · rw [if_pos hguard] at hfront
        simp only [hguard, if_true]
        exact ⟨front, back, rfl, shape.encode_spells version x front hfront, hothers⟩
      · rw [if_neg hguard] at hfront
        cases hfront
        simp only [hguard]
        exact ⟨rfl, hothers⟩

end

/-! ## What is spelled can be written -/

theorem encodeItems_of_spells {α : Type} {encode : α → Written} {spells : List UInt8 → α → Prop}
    (h : ∀ spelled x, spells spelled x → ∃ bytes, encode x = .ok bytes ∧ bytes.length = spelled.length) :
    ∀ (xs : List α) (spelled : List UInt8), SpellsItems spells spelled xs →
      ∃ bytes, encodeItems encode xs = .ok bytes ∧ bytes.length = spelled.length := by
  intro xs
  induction xs with
  | nil =>
      rintro _ rfl
      exact ⟨[], rfl, rfl⟩
  | cons x xs ih =>
      rintro _ ⟨front, back, rfl, hx, hxs⟩
      obtain ⟨first, hfirst, hfirstlen⟩ := h front x hx
      obtain ⟨second, hsecond, hsecondlen⟩ := ih back hxs
      refine ⟨first ++ second, Written.andThen_eq_ok.mpr ⟨first, second, hfirst, hsecond, rfl⟩, ?_⟩
      rw [List.length_append, List.length_append, hfirstlen, hsecondlen]

mutual

/-- A value that can be spelled can be written, in as many bytes. -/
theorem Shape.encode_of_spells (version : Int16) :
    (s : Shape) → (spelled : List UInt8) → (x : s.Value) → s.Spells version spelled x →
      ∃ bytes, s.encode version x = .ok bytes ∧ bytes.length = spelled.length
  | .primitive _, _, _, hspells => encodePrimitive_of_spells hspells
  | .array element, _, xs, ⟨head, body, rfl, hhead, hbody⟩ => by
      obtain ⟨items, hitems, hlen⟩ := encodeItems_of_spells (element.encode_of_spells version) xs body hbody
      have hlength : putArrayLength xs.length = .ok _ := putLength_eq_ok.mpr ⟨hhead.le_greatest, rfl⟩
      refine ⟨_, Written.andThen_eq_ok.mpr ⟨_, items, hlength, hitems, rfl⟩, ?_⟩
      rw [List.length_append, List.length_append, wordBytes_length, hhead.1, hlen]
  | .struct _ members, spelled, x, hspells => members.encode_of_spells version spelled x hspells

theorem Members.encode_of_spells (version : Int16) :
    (ms : Members) → (spelled : List UInt8) → (x : ms.Value) → ms.Spells version spelled x →
      ∃ bytes, ms.encode version x = .ok bytes ∧ bytes.length = spelled.length
  | .nil, _, _, hspells => by
      cases hspells
      exact ⟨[], rfl, rfl⟩
  | .cons _ guard d shape others, spelled, (x, xs), hspells => by
      simp only [Members.Spells] at hspells
      by_cases hguard : guard.holds version
      · simp only [hguard, if_true] at hspells
        obtain ⟨front, back, rfl, hx, hxs⟩ := hspells
        obtain ⟨first, hfirst, hfirstlen⟩ := shape.encode_of_spells version front x hx
        obtain ⟨second, hsecond, hsecondlen⟩ := others.encode_of_spells version back xs hxs
        refine ⟨first ++ second, Written.andThen_eq_ok.mpr ⟨first, second, ?_, hsecond, rfl⟩, ?_⟩
        · rw [if_pos hguard, hfirst]
        · rw [List.length_append, List.length_append, hfirstlen, hsecondlen]
      · simp only [hguard] at hspells
        obtain ⟨second, hsecond, hsecondlen⟩ := others.encode_of_spells version spelled xs hspells.2
        refine ⟨second, Written.andThen_eq_ok.mpr ⟨[], second, ?_, hsecond, rfl⟩, hsecondlen⟩
        rw [if_neg hguard]
        rfl

end

theorem SpellsItems.map_eq {α : Type} {spells : List UInt8 → α → Prop} {seen : α → α}
    (h : ∀ spelled x, spells spelled x → seen x = x) :
    ∀ (xs : List α) (spelled : List UInt8), SpellsItems spells spelled xs → xs.map seen = xs := by
  intro xs
  induction xs with
  | nil =>
      intro _ _
      rfl
  | cons x xs ih =>
      rintro _ ⟨front, back, rfl, hx, hxs⟩
      rw [List.map_cons, h front x hx, ih back hxs]

mutual

/-- A value that is spelled at a version is all seen there. -/
theorem Shape.seenAt_of_spells (version : Int16) :
    (s : Shape) → (spelled : List UInt8) → (x : s.Value) → s.Spells version spelled x →
      s.seenAt version x = x
  | .primitive _, _, _, _ => rfl
  | .array element, _, xs, ⟨_, body, _, _, hbody⟩ =>
      SpellsItems.map_eq (element.seenAt_of_spells version) xs body hbody
  | .struct _ members, spelled, x, hspells => members.seenAt_of_spells version spelled x hspells

theorem Members.seenAt_of_spells (version : Int16) :
    (ms : Members) → (spelled : List UInt8) → (x : ms.Value) → ms.Spells version spelled x →
      ms.seenAt version x = x
  | .nil, _, _, _ => rfl
  | .cons _ guard d shape others, spelled, (x, xs), hspells => by
      simp only [Members.Spells] at hspells
      rw [Members.seenAt]
      by_cases hguard : guard.holds version
      · simp only [hguard, if_true] at hspells
        obtain ⟨front, back, rfl, hx, hxs⟩ := hspells
        rw [if_pos hguard, shape.seenAt_of_spells version front x hx,
          others.seenAt_of_spells version back xs hxs]
      · simp only [hguard] at hspells
        obtain ⟨rfl, hxs⟩ := hspells
        rw [if_neg hguard, others.seenAt_of_spells version spelled xs hxs]

end

end WireSchema.Wire
