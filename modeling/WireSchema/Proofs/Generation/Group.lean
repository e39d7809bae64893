import WireSchema.Generation.Generator

/-!
Calls to a group. They come one at a time, in any order and with any messages. A slot keeps the first message
that is aimed at it and refuses every later one, so no more than one call can find its own slot empty and the
other one filled. That call is given the pair.
-/

namespace WireSchema.Generation

open WireSchema.Schema (Message)

/-- The error turns a document away: it cannot be read, it has no place, or its place is taken. -/
def Error.refuses : Error → Bool
  | .load .. | .conflict .. | .fault .. => true
  | .nameMismatch .. | .compile .. => false

def Slot.other : Slot → Slot
  | .request => .response
  | .response => .request

theorem Slot.other_ne (slot : Slot) : slot.other ≠ slot := by
  cases slot <;> decide

/-! ## Slots -/

namespace Slots

theorem get_set (s : Slots) (slot slot' : Slot) (m : Message) :
    (s.set slot m).get slot' = if slot' = slot then some m else s.get slot' := by
  cases slot <;> cases slot' <;> rfl

theorem isSome_pair?_iff (s : Slots) (slot : Slot) :
    s.pair?.isSome ↔ (s.get slot).isSome ∧ (s.get slot.other).isSome := by
  rcases s with ⟨_ | _, _ | _⟩ <;> cases slot <;> simp [pair?, get, Slot.other]

theorem pair?_eq_some {s : Slots} {pair : Pair} :
    s.pair? = some pair ↔
      s.get .request = some pair.request ∧ s.get .response = some pair.response := by
  rcases pair with ⟨request, response⟩
  rcases s with ⟨_ | _, _ | _⟩ <;> simp [pair?, get]

theorem missing_eq_some {s : Slots} {slot : Slot} :
    s.missing = some slot ↔ s.get slot = none ∧ (s.get slot.other).isSome := by
  rcases s with ⟨_ | _, _ | _⟩ <;> cases slot <;> simp [missing, get, Slot.other]

end Slots

namespace ApiGroup

/-- An empty group turns away no request and no response. -/
theorem fill_empty (key : Int16) {m : Message} (hkind : m.kind ≠ .header) :
    ∃ r, (ApiGroup.mk key {}).fill m = .ok r := by
  unfold fill slotOf
  cases hm : m.kind with
  | request => exact ⟨_, rfl⟩
  | response => exact ⟨_, rfl⟩
  | header => exact absurd hm hkind

theorem key_of_fill {g after : ApiGroup} {m : Message} {pair : Option Pair} (h : g.fill m = .ok (after, pair)) :
    after.key = g.key := by
  unfold fill at h
  cases hslot : slotOf g.key m with
  | error e =>
      rw [hslot] at h
      cases h
  | ok slot =>
      cases hfill : g.slots.fill (apiLabel g.key) slot m with
      | error e =>
          simp only [hslot, bind, Except.bind, hfill] at h
          cases h
      | ok r =>
          simp only [hslot, bind, Except.bind, hfill] at h
          cases h
          rfl

end ApiGroup

/-! ## Groups of both kinds -/

/-- Where messages are brought together: the API of a key, or the headers. -/
inductive Route where
  | api (key : Int16)
  | headers
  deriving DecidableEq, Repr

def Route.label : Route → String
  | .api key => apiLabel key
  | .headers => headersLabel

inductive Group where
  | api (g : ApiGroup)
  | headers (g : HeaderGroup)

namespace Group

/-- The group of a route before its first message. -/
def fresh (o : Options) : Route → Group
  | .api key => .api { key }
  | .headers => .headers { requestName := o.requestHeaderName, responseName := o.responseHeaderName }

def route : Group → Route
  | .api g => .api g.key
  | .headers _ => .headers

def slots : Group → Slots
  | .api g => g.slots
  | .headers g => g.slots

def withSlots : Group → Slots → Group
  | .api g, slots => .api { g with slots }
  | .headers g, slots => .headers { g with slots }

def slotOf : Group → Message → Except Error Slot
  | .api g => ApiGroup.slotOf g.key
  | .headers g => g.slotOf

def fill : Group → Message → Except Error (Group × Option Pair)
  | .api g, m => (g.fill m).map fun r => (.api r.1, r.2)
  | .headers g, m => (g.fill m).map fun r => (.headers r.1, r.2)

def missing : Group → Option Slot
  | .api g => g.missing
  | .headers g => g.missing

/-- One call: the group after it and the answer. A call that is refused leaves the group as it is. -/
def offer (g : Group) (m : Message) : Group × Except Error (Option Pair) :=
  match g.fill m with
  | .error e => (g, .error e)
  | .ok (after, pair) => (after, .ok pair)

/-- The calls one after another. -/
def serve (g : Group) : List Message → Group × List (Except Error (Option Pair))
  | [] => (g, [])
  | m :: ms =>
    let (g, answer) := g.offer m
    let (g, answers) := serve g ms
    (g, answer :: answers)

/-- Whether a message is meant for a slot. -/
def aims (g : Group) (slot : Slot) (m : Message) : Bool :=
  match g.slotOf m with
  | .ok own => own = slot
  | .error _ => false

def isPair : Except Error (Option Pair) → Bool
  | .ok (some _) => true
  | _ => false

@[simp] theorem slots_withSlots (g : Group) (s : Slots) : (g.withSlots s).slots = s := by
  cases g <;> rfl

@[simp] theorem slotOf_withSlots (g : Group) (s : Slots) : (g.withSlots s).slotOf = g.slotOf := by
  cases g <;> rfl

@[simp] theorem route_withSlots (g : Group) (s : Slots) : (g.withSlots s).route = g.route := by
  cases g <;> rfl

theorem withSlots_withSlots (g : Group) (s s' : Slots) : (g.withSlots s).withSlots s' = g.withSlots s' := by
  cases g <;> rfl

@[simp] theorem route_fresh (o : Options) (r : Route) : (fresh o r).route = r := by
  cases r <;> rfl

theorem get_fresh (o : Options) (r : Route) (slot : Slot) : (fresh o r).slots.get slot = none := by
  cases r <;> cases slot <;> rfl

theorem missing_eq (g : Group) : g.missing = g.slots.missing := by
  cases g <;> rfl

/-! ## One call -/

theorem fill_eq (g : Group) (m : Message) :
    g.fill m = (g.slotOf m).bind fun slot =>
      (g.slots.fill g.route.label slot m).map fun r => (g.withSlots r.1, r.2) := by
  cases g with
  | api g =>
      simp only [fill, ApiGroup.fill, slotOf, slots, route, Route.label]
      cases ApiGroup.slotOf g.key m with
      | error e => rfl
      | ok slot => cases hfill : g.slots.fill (apiLabel g.key) slot m <;> simp [Except.bind, bind, hfill] <;> rfl
  | headers g =>
      simp only [fill, HeaderGroup.fill, slotOf, slots, route, Route.label]
      cases g.slotOf m with
      | error e => rfl
      | ok slot => cases hfill : g.slots.fill headersLabel slot m <;> simp [Except.bind, bind, hfill] <;> rfl

theorem offer_of_error {g : Group} {m : Message} {e : Error} (h : g.slotOf m = .error e) :
    g.offer m = (g, .error e) := by
  simp [offer, fill_eq, h, Except.bind]

theorem offer_of_filled {g : Group} {m stored : Message} {slot : Slot} (h : g.slotOf m = .ok slot)
    (hslot : g.slots.get slot = some stored) :
    g.offer m = (g, .error (.conflict g.route.label slot stored.name m.name)) := by
  simp [offer, fill_eq, h, Slots.fill, hslot, Except.bind, Except.map]

theorem offer_of_empty {g : Group} {m : Message} {slot : Slot} (h : g.slotOf m = .ok slot)
    (hslot : g.slots.get slot = none) :
    g.offer m = (g.withSlots (g.slots.set slot m), .ok (g.slots.set slot m).pair?) := by
  simp [offer, fill_eq, h, Slots.fill, hslot, Except.bind, Except.map]

theorem refuses_of_slotOf {g : Group} {m : Message} {e : Error} (h : g.slotOf m = .error e) : e.refuses := by
  cases g with
  | api g =>
      simp only [slotOf, ApiGroup.slotOf] at h
      split at h <;> cases h
      rfl
  | headers g =>
      simp only [slotOf, HeaderGroup.slotOf] at h
      split at h
      · cases h
      · split at h <;> cases h
        rfl

/-- A call is refused, and the group stays as it is, or it fills an empty slot. -/
theorem offer_cases (g : Group) (m : Message) :
    (∃ e, e.refuses ∧ g.offer m = (g, .error e)) ∨
      ∃ slot, g.slotOf m = .ok slot ∧ g.slots.get slot = none ∧
        g.offer m = (g.withSlots (g.slots.set slot m), .ok (g.slots.set slot m).pair?) := by
  cases h : g.slotOf m with
  | error e => exact Or.inl ⟨e, refuses_of_slotOf h, offer_of_error h⟩
  | ok slot =>
      cases hslot : g.slots.get slot with
      | some stored => exact Or.inl ⟨_, rfl, offer_of_filled h hslot⟩
      | none => exact Or.inr ⟨slot, rfl, hslot, offer_of_empty h hslot⟩

theorem offer_slotOf (g : Group) (m : Message) : (g.offer m).1.slotOf = g.slotOf := by
  rcases g.offer_cases m with ⟨e, -, h⟩ | ⟨slot, -, -, h⟩ <;> simp [h]

theorem offer_route (g : Group) (m : Message) : (g.offer m).1.route = g.route := by
  rcases g.offer_cases m with ⟨e, -, h⟩ | ⟨slot, -, -, h⟩ <;> simp [h]

/-- The second group is the first one with no less in its slots. -/
structure Extends (g g' : Group) : Prop where
  slotOf : g'.slotOf = g.slotOf
  route : g'.route = g.route
  slots : ∀ slot stored, g.slots.get slot = some stored → g'.slots.get slot = some stored

theorem Extends.refl (g : Group) : g.Extends g :=
  ⟨rfl, rfl, fun _ _ h => h⟩

theorem extends_set (g : Group) {slot : Slot} (h : g.slots.get slot = none) (m : Message) :
    g.Extends (g.withSlots (g.slots.set slot m)) := by
  refine ⟨slotOf_withSlots g _, route_withSlots g _, fun slot' stored hstored => ?_⟩
  have hne : slot' ≠ slot := by
    rintro rfl
    cases h.symm.trans hstored
  rw [slots_withSlots, Slots.get_set, if_neg hne, hstored]

/-- What is refused is refused later too, for the same reason. -/
theorem Extends.offer_of_refused {g g' : Group} (h : g.Extends g') {m : Message} {e : Error}
    (hrefused : (g.offer m).2 = .error e) : g'.offer m = (g', .error e) := by
  have hsame : g'.slotOf m = g.slotOf m := congrFun h.slotOf m
  cases hslot : g.slotOf m with
  | error e' =>
      rw [offer_of_error hslot] at hrefused
      cases hrefused
      exact offer_of_error (hsame.trans hslot)
  | ok slot =>
      cases hget : g.slots.get slot with
      | none =>
          rw [offer_of_empty hslot hget] at hrefused
          cases hrefused
      | some stored =>
          rw [offer_of_filled hslot hget] at hrefused
          cases hrefused
          rw [offer_of_filled (hsame.trans hslot) (h.slots slot stored hget), h.route]

/-- After a call a slot holds what it held before it, or the message if it was empty and is aimed at. -/
theorem get_offer (g : Group) (m : Message) (slot : Slot) :
    (g.offer m).1.slots.get slot = (g.slots.get slot).or (if g.aims slot m then some m else none) := by
  cases h : g.slotOf m with
  | error e => simp [offer_of_error h, aims, h]
  | ok own =>
      cases hown : g.slots.get own with
      | some stored =>
          rw [offer_of_filled h hown]
          by_cases heq : own = slot
          · subst heq
            simp [hown]
          · simp [aims, h, heq]
      | none =>
          rw [offer_of_empty h hown, slots_withSlots, Slots.get_set]
          by_cases heq : own = slot
          · subst heq
            simp [aims, h, hown]
          · simp [aims, h, heq, Ne.symm heq]

/-- What a call may do, by what the slots hold before it. -/
structure Answers (before : Group) (m : Message) (after : Group) (answer : Except Error (Option Pair)) :
    Prop where
  /-- A message is accepted if its slot is empty. -/
  accepted : (∃ pair, answer = .ok pair) ↔
    ∃ slot, before.slotOf m = .ok slot ∧ before.slots.get slot = none
  /-- The pair goes to the call that fills the second slot. -/
  completes : ∀ pair, answer = .ok (some pair) ↔
    (∃ slot, before.slotOf m = .ok slot ∧ before.slots.get slot = none ∧
      (before.slots.get slot.other).isSome) ∧
    after.slots.get .request = some pair.request ∧ after.slots.get .response = some pair.response
  conflicts : ∀ slot stored, before.slotOf m = .ok slot → before.slots.get slot = some stored →
    answer = .error (.conflict before.route.label slot stored.name m.name)
  stray : ∀ e, before.slotOf m = .error e → answer = .error e
  /-- A call that is refused changes nothing. -/
  refused : ∀ e, answer = .error e → after = before

theorem answers_offer (g : Group) (m : Message) : Answers g m (g.offer m).1 (g.offer m).2 := by
  cases h : g.slotOf m with
  | error e =>
      rw [offer_of_error h]
      constructor <;> simp [h]
  | ok slot =>
      have hown : ∀ slot', g.slotOf m = .ok slot' → slot' = slot := fun slot' h' =>
        Except.ok.inj (h'.symm.trans h)
      cases hslot : g.slots.get slot with
      | some stored =>
          rw [offer_of_filled h hslot]
          constructor
          case conflicts =>
            intro slot' stored' h' hstored
            cases hown slot' h'
            cases hslot.symm.trans hstored
            rfl
          all_goals simp [h, hslot]
      | none =>
          rw [offer_of_empty h hslot]
          constructor
          case completes =>
            intro pair
            rw [Except.ok.injEq, slots_withSlots, ← Slots.pair?_eq_some]
            refine ⟨fun hpair => ⟨⟨slot, h, hslot, ?_⟩, hpair⟩, fun hpair => hpair.2⟩
            have hother := (((g.slots.set slot m).isSome_pair?_iff slot).mp (hpair ▸ rfl)).2
            rwa [Slots.get_set, if_neg slot.other_ne] at hother
          case conflicts =>
            intro slot' stored h' hstored
            cases hown slot' h'
            cases hslot.symm.trans hstored
          all_goals simp [h, hslot]

/-- The call that is given the pair is the one after which both slots are filled. -/
theorem isPair_offer (g : Group) (m : Message) :
    (isPair (g.offer m).2).toNat + g.slots.pair?.isSome.toNat = (g.offer m).1.slots.pair?.isSome.toNat := by
  rcases g.offer_cases m with ⟨e, -, h⟩ | ⟨slot, -, hslot, h⟩
  · simp [h, isPair]
  · have hbefore : g.slots.pair?.isSome = false := by
      rw [Bool.eq_false_iff, ne_eq, g.slots.isSome_pair?_iff slot, hslot]
      simp
    rw [h, slots_withSlots, hbefore]
    cases (g.slots.set slot m).pair? <;> rfl

/-! ## All calls -/

theorem serve_append (g : Group) (ms ms' : List Message) :
    g.serve (ms ++ ms') =
      (((g.serve ms).1.serve ms').1, (g.serve ms).2 ++ ((g.serve ms).1.serve ms').2) := by
  induction ms generalizing g with
  | nil => rfl
  | cons m ms ih => simp [serve, ih]

theorem length_serve (g : Group) (ms : List Message) : (g.serve ms).2.length = ms.length := by
  induction ms generalizing g with
  | nil => rfl
  | cons m ms ih => simp [serve, ih]

theorem serve_slotOf (g : Group) (ms : List Message) : (g.serve ms).1.slotOf = g.slotOf := by
  induction ms generalizing g with
  | nil => rfl
  | cons m ms ih => simp [serve, ih, offer_slotOf]

theorem serve_route (g : Group) (ms : List Message) : (g.serve ms).1.route = g.route := by
  induction ms generalizing g with
  | nil => rfl
  | cons m ms ih => simp [serve, ih, offer_route]

theorem get_serve (g : Group) (ms : List Message) (slot : Slot) :
    (g.serve ms).1.slots.get slot = (g.slots.get slot).or (ms.find? (g.aims slot)) := by
  induction ms generalizing g with
  | nil => simp [serve]
  | cons m ms ih =>
      have haims : (g.offer m).1.aims slot = g.aims slot := by
        funext m'
        simp [aims, offer_slotOf]
      rw [serve, ih, haims, get_offer, List.find?_cons]
      cases g.slots.get slot <;> cases g.aims slot m <;> simp

theorem countP_isPair_serve (g : Group) (ms : List Message) :
    (g.serve ms).2.countP isPair + g.slots.pair?.isSome.toNat = (g.serve ms).1.slots.pair?.isSome.toNat := by
  induction ms generalizing g with
  | nil => simp [serve]
  | cons m ms ih =>
      have hcount : (g.serve (m :: ms)).2.countP isPair =
          ((g.offer m).1.serve ms).2.countP isPair + (isPair (g.offer m).2).toNat := by
        rw [serve, List.countP_cons]
        cases isPair (g.offer m).2 <;> rfl
      calc (g.serve (m :: ms)).2.countP isPair + g.slots.pair?.isSome.toNat
          = ((g.offer m).1.serve ms).2.countP isPair + (g.offer m).1.slots.pair?.isSome.toNat := by
            rw [hcount, Nat.add_assoc, isPair_offer]
        _ = _ := ih (g.offer m).1

theorem get_serve_fresh (o : Options) (r : Route) (ms : List Message) (slot : Slot) :
    ((fresh o r).serve ms).1.slots.get slot = ms.find? ((fresh o r).aims slot) := by
  rw [get_serve, get_fresh, Option.none_or]

/-- What the call that comes after `earlier` is answered, and the group after it. -/
theorem serve_call (g : Group) (earlier : List Message) (m : Message) (later : List Message) :
    (g.serve (earlier ++ m :: later)).2[earlier.length]? = some ((g.serve earlier).1.offer m).2 ∧
      (g.serve (earlier ++ [m])).1 = ((g.serve earlier).1.offer m).1 := by
  refine ⟨?_, by rw [serve_append]; rfl⟩
  rw [serve_append, List.getElem?_append_right (Nat.le_of_eq (length_serve g earlier)), length_serve,
    Nat.sub_self]
  rfl

/-- In any order of calls to a new group no more than one is given the pair, and one is if there is a message
for each slot. Every call is answered by what the slots hold, which is the first message aimed at each. After
every call the group misses the slot that is empty while the other is filled. -/
theorem serve_completes_once (o : Options) (r : Route) (calls : List Message) :
    ((fresh o r).serve calls).2.countP isPair ≤ 1 ∧
    (((fresh o r).serve calls).2.countP isPair = 1 ↔
      (calls.find? ((fresh o r).aims .request)).isSome ∧ (calls.find? ((fresh o r).aims .response)).isSome) ∧
    (∀ earlier m later, calls = earlier ++ m :: later → ∃ after answer,
      ((fresh o r).serve (earlier ++ [m])).1 = after ∧
      ((fresh o r).serve calls).2[earlier.length]? = some answer ∧
      Answers ((fresh o r).serve earlier).1 m after answer ∧
      ∀ pair, answer = .ok (some pair) →
        calls.find? ((fresh o r).aims .request) = some pair.request ∧
        calls.find? ((fresh o r).aims .response) = some pair.response) ∧
    ∀ earlier, earlier <+: calls →
      ((fresh o r).serve earlier).1.route = r ∧
      ((fresh o r).serve earlier).1.slotOf = (fresh o r).slotOf ∧
      ∀ slot,
        ((fresh o r).serve earlier).1.slots.get slot = earlier.find? ((fresh o r).aims slot) ∧
        (((fresh o r).serve earlier).1.missing = some slot ↔
          ((fresh o r).serve earlier).1.slots.get slot = none ∧
            (((fresh o r).serve earlier).1.slots.get slot.other).isSome) := by
  have hcount := (fresh o r).countP_isPair_serve calls
  have hempty : (fresh o r).slots.pair?.isSome = false := by
    rw [Bool.eq_false_iff, ne_eq, Slots.isSome_pair?_iff _ .request, get_fresh]
    simp
  rw [hempty, Bool.toNat_false, Nat.add_zero] at hcount
  refine ⟨hcount ▸ Bool.toNat_le _, ?_, ?_, fun earlier _ => ⟨?_, serve_slotOf _ _, fun slot => ⟨?_, ?_⟩⟩⟩
  · rw [hcount, Bool.toNat_eq_one, Slots.isSome_pair?_iff _ .request, get_serve_fresh, get_serve_fresh]
    rfl
  · rintro earlier m later rfl
    obtain ⟨hanswer, hafter⟩ := (fresh o r).serve_call earlier m later
    refine ⟨_, _, hafter, hanswer, answers_offer _ m, fun pair hpair => ?_⟩
    -- what the slots hold after the call is found in its first calls, and so in all of them
    have hfound : ∀ slot stored, (((fresh o r).serve earlier).1.offer m).1.slots.get slot = some stored →
        (earlier ++ m :: later).find? ((fresh o r).aims slot) = some stored := fun slot stored h => by
      rw [← hafter, get_serve_fresh] at h
      rw [List.append_cons, List.find?_append, h, Option.some_or]
    obtain ⟨_, hrequest, hresponse⟩ := ((answers_offer _ m).completes pair).mp hpair
    exact ⟨hfound _ _ hrequest, hfound _ _ hresponse⟩
  · rw [serve_route, route_fresh]
  · exact get_serve_fresh o r earlier slot
  · rw [missing_eq, Slots.missing_eq_some]

end Group

end WireSchema.Generation
