import WireSchema.Generation.Run
import WireSchema.Proofs.Generation.Group

/-!
Where messages go. A message with a route is a call to the group of that route: the generator keeps the group
as the call leaves it, and the answer of the group decides what comes of the message. Everything that is said
about submitting messages follows from this one equation.
-/

namespace WireSchema.Generation

open WireSchema.Schema (Message)

/-! ## Tables of groups -/

namespace ApiTable

theorem find_cons (g : ApiGroup) (t : ApiTable) (key : Int16) :
    find (g :: t) key = if g.key = key then g else t.find key := by
  unfold find
  by_cases h : g.key = key <;> simp [h]

theorem key_find (t : ApiTable) (key : Int16) : (t.find key).key = key := by
  induction t with
  | nil => rfl
  | cons g t ih =>
      rw [find_cons]
      by_cases h : g.key = key
      · rw [if_pos h, h]
      · rw [if_neg h, ih]

theorem insert_cases (g h : ApiGroup) (t : ApiTable) :
    (g.key.toInt < h.key.toInt ∧ insert g (h :: t) = g :: h :: t) ∨
      (h.key.toInt < g.key.toInt ∧ insert g (h :: t) = h :: insert g t) ∨
      (g.key = h.key ∧ insert g (h :: t) = g :: t) := by
  rw [insert]
  by_cases hlt : g.key.toInt < h.key.toInt
  · exact Or.inl ⟨hlt, if_pos hlt⟩
  · rw [if_neg hlt]
    by_cases hgt : h.key.toInt < g.key.toInt
    · exact Or.inr (Or.inl ⟨hgt, if_pos hgt⟩)
    · exact Or.inr (Or.inr ⟨Int16.toInt_inj.mp (by omega), if_neg hgt⟩)

theorem find_insert (g : ApiGroup) (t : ApiTable) (key : Int16) :
    (insert g t).find key = if g.key = key then g else t.find key := by
  induction t with
  | nil => rw [insert, find_cons]
  | cons h t ih =>
      rcases insert_cases g h t with ⟨_, heq⟩ | ⟨hlt, heq⟩ | ⟨hkey, heq⟩
      · rw [heq, find_cons]
      · rw [heq, find_cons, find_cons, ih]
        by_cases hh : h.key = key
        · have hne : g.key ≠ key := fun hg => by rw [hg, hh] at hlt; omega
          simp [hh, hne]
        · simp [hh]
      · rw [heq, find_cons, find_cons, ← hkey]
        by_cases hg : g.key = key <;> simp [hg]

theorem insert_insert (g h : ApiGroup) (t : ApiTable) (hkey : g.key = h.key) :
    insert g (insert h t) = insert g t := by
  induction t with
  | nil => simp [insert, hkey]
  | cons k t ih => grind [insert]

theorem find_of_absent {t : ApiTable} {key : Int16} (h : (List.any t fun g => g.key = key) = false) :
    t.find key = { key } := by
  rw [find, List.find?_eq_none.mpr, Option.getD_none]
  simpa using h

theorem find_enter (t : ApiTable) (key : Int16) : (t.enter key).find key = t.find key := by
  unfold enter
  split
  · rfl
  · next h => rw [find_insert, if_pos rfl, find_of_absent (by simpa using h)]

theorem insert_enter (t : ApiTable) (g : ApiGroup) : insert g (t.enter g.key) = insert g t := by
  unfold enter
  split
  · rfl
  · exact insert_insert g { key := g.key } t rfl

/-- An empty group turns away no request and no response, so one that is turned away finds its group in the
table. -/
theorem enter_of_refused {t : ApiTable} {key : Int16} {m : Message} {e : Error} (hkind : m.kind ≠ .header)
    (h : (t.find key).fill m = .error e) : t.enter key = t := by
  unfold enter
  split
  · rfl
  · next habsent =>
      rw [find_of_absent (by simpa using habsent)] at h
      obtain ⟨a, hfill⟩ := ApiGroup.fill_empty key hkind
      cases h.symm.trans hfill

theorem insert_comm {g h : ApiGroup} (t : ApiTable) (hkey : g.key ≠ h.key) :
    insert g (insert h t) = insert h (insert g t) := by
  have hne : g.key.toInt ≠ h.key.toInt := fun h' => hkey (Int16.toInt_inj.mp h')
  induction t with
  | nil => grind [insert]
  | cons k t ih => grind [insert]

end ApiTable

/-! ## The groups of a generator -/

/-- The route of a message. Requests and responses without a key have none. -/
def routeOf (m : Message) : Option Route :=
  match m.kind, m.apiKey with
  | .header, _ => some .headers
  | _, some key => some (.api key)
  | _, none => none

namespace Generator

def group (g : Generator) : Route → Group
  | .api key => .api (g.apis.find key)
  | .headers => .headers g.headers

/-- Keeps a group in the place of the one with its route. -/
def keep (g : Generator) : Group → Generator
  | .api a => { g with apis := ApiTable.insert a g.apis }
  | .headers headers => { g with headers }

/-- The path for a completed group, unless the names of its messages do not fit. -/
def pathOf (g : Generator) (pair : Pair) : Route → Except Error String
  | .api key => (apiFileName g.options key pair).map (Disk.Path.join g.destination)
  | .headers => .ok (Disk.Path.join g.destination g.options.headerFileName)

/-- What comes of the answer of a group. -/
def reply (g : Generator) (r : Route) : Except Error (Option Pair) → Except Error (Option Artifact)
  | .error e => .error e
  | .ok none => .ok none
  | .ok (some pair) => do
    let path ← g.pathOf pair r
    let sheet ← (Source.compileGroup g.options.runtimePath [pair.request, pair.response]).mapError
      (.compile r.label)
    return some ⟨r.label, path, sheet⟩

/-- How many groups are compiled for the answer of a group. -/
def compilations (g : Generator) (r : Route) : Except Error (Option Pair) → Nat
  | .ok (some pair) => (g.pathOf pair r).toOption.toList.length
  | _ => 0

def charge (g : Generator) (n : Nat) : Generator :=
  { g with compiled := g.compiled + n }

theorem route_group (g : Generator) (r : Route) : (g.group r).route = r := by
  cases r with
  | api key => exact congrArg Route.api (g.apis.key_find key)
  | headers => rfl

theorem group_keep (g : Generator) (group : Group) (r : Route) :
    (g.keep group).group r = if group.route = r then group else g.group r := by
  cases group with
  | api a =>
      cases r with
      | api key =>
          simp only [keep, Generator.group, ApiTable.find_insert, Group.route, Route.api.injEq]
          exact apply_ite _ _ _ _
      | headers => rfl
  | headers h => cases r <;> rfl

theorem complete_eq (g : Generator) (r : Route) (pair : Pair) :
    g.complete r.label (g.pathOf pair r) pair =
      (g.charge (g.compilations r (.ok (some pair))), g.reply r (.ok (some pair))) := by
  simp only [complete, compilations, reply]
  cases g.pathOf pair r with
  | error e => rfl
  | ok path =>
      simp only [emit]
      cases Source.compileGroup g.options.runtimePath [pair.request, pair.response] <;> rfl

/-- A call to the group of a route, and what comes of it. -/
def call (g : Generator) (r : Route) (m : Message) : Generator × Except Error (Option Artifact) :=
  match (g.group r).offer m with
  | (_, .error e) => (g, .error e)
  | (group, .ok pair) => ((g.keep group).charge (g.compilations r (.ok pair)), g.reply r (.ok pair))

theorem submitHeader_eq (g : Generator) (m : Message) : g.submitHeader m = g.call .headers m := by
  simp only [submitHeader, call, group, Group.offer, Group.fill]
  rcases g.headers.fill m with e | ⟨headers, _ | pair⟩
  · rfl
  · rfl
  · exact complete_eq { g with headers } .headers pair

theorem submitApi_eq (g : Generator) (key : Int16) {m : Message} (hkind : m.kind ≠ .header) :
    g.submitApi key m = g.call (.api key) m := by
  simp only [submitApi, call, group, Group.offer, Group.fill, ApiTable.find_enter]
  rcases hfill : (g.apis.find key).fill m with e | ⟨a, pair⟩
  · rw [ApiTable.enter_of_refused hkind hfill]
    rfl
  · have hkey : a.key = key := (ApiGroup.key_of_fill hfill).trans (g.apis.key_find key)
    subst hkey
    cases pair with
    | none =>
        simp only [ApiTable.insert_enter]
        rfl
    | some pair =>
        simp only [ApiTable.insert_enter]
        exact complete_eq { g with apis := ApiTable.insert a g.apis } (.api a.key) pair

/-- A message with a route is a call to the group of the route. -/
theorem submit_eq_call (g : Generator) {m : Message} {r : Route} (h : routeOf m = some r) :
    g.submit m = g.call r m := by
  unfold routeOf at h
  unfold submit
  split at h
  · simp_all [submitHeader_eq]
  · next hkind => simp_all [submitApi_eq g _ hkind]
  · cases h

theorem submit_of_routeOf_none (g : Generator) {m : Message} (h : routeOf m = none) :
    g.submit m = (g, .error (.fault (.missingKey m.kind m.name))) := by
  unfold routeOf at h
  unfold submit
  split at h <;> simp_all

theorem options_keep (g : Generator) (group : Group) : (g.keep group).options = g.options := by
  cases group <;> rfl

theorem destination_keep (g : Generator) (group : Group) :
    (g.keep group).destination = g.destination := by
  cases group <;> rfl

theorem group_charge (g : Generator) (n : Nat) (r : Route) : (g.charge n).group r = g.group r := by
  cases r <;> rfl

theorem keep_charge (g : Generator) (n : Nat) (group : Group) :
    (g.charge n).keep group = (g.keep group).charge n := by
  cases group <;> rfl

theorem charge_comm (g : Generator) (n n' : Nat) : (g.charge n).charge n' = (g.charge n').charge n := by
  simp only [charge, Nat.add_right_comm]

theorem pathOf_congr {g g' : Generator} (ho : g'.options = g.options)
    (hd : g'.destination = g.destination) : g'.pathOf = g.pathOf := by
  funext pair r
  cases r <;> simp only [pathOf, ho, hd]

theorem reply_congr {g g' : Generator} (ho : g'.options = g.options)
    (hd : g'.destination = g.destination) : g'.reply = g.reply := by
  funext r answer
  rcases answer with e | _ | pair <;> simp only [reply, pathOf_congr ho hd, ho]

theorem compilations_congr {g g' : Generator} (ho : g'.options = g.options)
    (hd : g'.destination = g.destination) : g'.compilations = g.compilations := by
  funext r answer
  rcases answer with e | _ | pair <;> simp only [compilations, pathOf_congr ho hd]

theorem pathOf_eq_error {g : Generator} {pair : Pair} {r : Route} {e : Error}
    (h : g.pathOf pair r = .error e) : ∃ key request response, e = .nameMismatch key request response := by
  cases r with
  | headers => cases h
  | api key =>
      simp only [pathOf, apiFileName] at h
      split at h
      · cases h
      · cases h
        exact ⟨_, _, _, rfl⟩

theorem reply_of_compiled {g : Generator} {r : Route} {pair : Pair} {path : String} {sheet : Source.Sheet}
    (hpath : g.pathOf pair r = .ok path)
    (hsheet : Source.compileGroup g.options.runtimePath [pair.request, pair.response] = .ok sheet) :
    g.reply r (.ok (some pair)) = .ok (some ⟨r.label, path, sheet⟩) := by
  simp only [reply, hpath, hsheet]
  rfl

/-- What comes of a completed group: its names do not fit, or it is compiled, with an error or not. -/
theorem reply_cases (g : Generator) (r : Route) (pair : Pair) :
    (∃ key request response, g.reply r (.ok (some pair)) = .error (.nameMismatch key request response) ∧
      g.compilations r (.ok (some pair)) = 0) ∨
    ((∃ e, g.reply r (.ok (some pair)) = .error (.compile r.label e)) ∨
      ∃ path sheet, g.pathOf pair r = .ok path ∧
        g.reply r (.ok (some pair)) = .ok (some ⟨r.label, path, sheet⟩)) ∧
      g.compilations r (.ok (some pair)) = 1 := by
  cases hpath : g.pathOf pair r with
  | error e =>
      obtain ⟨key, request, response, rfl⟩ := pathOf_eq_error hpath
      simp only [reply, compilations, hpath]
      exact Or.inl ⟨key, request, response, rfl, rfl⟩
  | ok path =>
      refine Or.inr ⟨?_, by rw [compilations, hpath]; rfl⟩
      cases hsheet : Source.compileGroup g.options.runtimePath [pair.request, pair.response] with
      | error e =>
          simp only [reply, hpath, hsheet]
          exact Or.inl ⟨e, rfl⟩
      | ok sheet => exact Or.inr ⟨path, sheet, rfl, reply_of_compiled hpath hsheet⟩

/-- A file comes only of a pair. -/
theorem path_of_reply {g : Generator} {r : Route} {answer : Except Error (Option Pair)} {a : Artifact}
    (h : g.reply r answer = .ok (some a)) :
    ∃ pair, answer = .ok (some pair) ∧ g.pathOf pair r = .ok a.path := by
  rcases answer with e | _ | pair
  · cases h
  · cases h
  · rcases g.reply_cases r pair with ⟨_, _, _, heq, _⟩ | ⟨⟨_, heq⟩ | ⟨path, sheet, hpath, heq⟩, _⟩
    · rw [heq] at h
      cases h
    · rw [heq] at h
      cases h
    · rw [heq] at h
      cases h
      exact ⟨pair, rfl, hpath⟩

/-- A group that answers with its slots turns nothing away. -/
theorem not_refuses_of_reply {g : Generator} {r : Route} {pair : Option Pair} {e : Error}
    (h : g.reply r (.ok pair) = .error e) : ¬ e.refuses := by
  cases pair with
  | none => cases h
  | some pair =>
      rcases g.reply_cases r pair with ⟨_, _, _, heq, _⟩ | ⟨⟨_, heq⟩ | ⟨_, _, _, heq⟩, _⟩ <;>
        rw [heq] at h <;> cases h <;> simp [Error.refuses]

theorem keep_keep (g : Generator) {group group' : Group} (h : group.route = group'.route) :
    (g.keep group).keep group' = g.keep group' := by
  cases group with
  | api a =>
      cases group' with
      | api a' =>
          simp only [keep]
          rw [ApiTable.insert_insert a' a g.apis (Route.api.inj h).symm]
      | headers h' => cases h
  | headers h' => cases group' with
    | api a' => cases h
    | headers h'' => rfl

theorem keep_comm (g : Generator) {group group' : Group} (h : group.route ≠ group'.route) :
    (g.keep group).keep group' = (g.keep group').keep group := by
  cases group with
  | api a =>
      cases group' with
      | api a' =>
          have hkey : a'.key ≠ a.key := fun hkey => h (congrArg Route.api hkey.symm)
          simp only [keep, ApiTable.insert_comm g.apis hkey]
      | headers h' => rfl
  | headers h' => cases group' with
    | api a' => rfl
    | headers h'' => exact absurd rfl h

end Generator

/-! ## Documents -/

/-- A document as it is handed in: where it comes from, and the message that was loaded from it. -/
structure Document where
  path : String
  loaded : Except Schema.Error Message

namespace Document

/-- The route of a document. One that could not be loaded has none. -/
def route? (d : Document) : Option Route :=
  match d.loaded with
  | .ok m => routeOf m
  | .error _ => none

end Document

namespace Generator

def receive (g : Generator) (d : Document) : Generator × Except Error (Option Artifact) :=
  match d.loaded with
  | .error e => (g, .error (.load d.path e))
  | .ok m => g.submit m

/-- Receives documents one after another; gives what came of each. -/
def receiveAll (g : Generator) : List Document → Generator × List (Except Error (Option Artifact))
  | [] => (g, [])
  | d :: ds =>
    let (g, result) := g.receive d
    let (g, results) := receiveAll g ds
    (g, result :: results)

theorem receiveAll_cons (g : Generator) (d : Document) (ds : List Document) :
    g.receiveAll (d :: ds) =
      (((g.receive d).1.receiveAll ds).1, (g.receive d).2 :: ((g.receive d).1.receiveAll ds).2) :=
  rfl

/-- The document fills an empty slot of its group. -/
structure Accepts (g : Generator) (d : Document) (m : Message) (r : Route) (slot : Slot) : Prop where
  loaded : d.loaded = .ok m
  route : routeOf m = some r
  slotOf : (g.group r).slotOf m = .ok slot
  empty : (g.group r).slots.get slot = none

/-- The group that a document leaves behind. -/
def filled (g : Generator) (m : Message) (r : Route) (slot : Slot) : Group :=
  (g.group r).withSlots ((g.group r).slots.set slot m)

theorem route_filled (g : Generator) (m : Message) (r : Route) (slot : Slot) : (g.filled m r slot).route = r := by
  rw [filled, Group.route_withSlots, route_group]

theorem Accepts.receive_eq {g : Generator} {d : Document} {m : Message} {r : Route} {slot : Slot}
    (h : g.Accepts d m r slot) :
    g.receive d =
      ((g.keep (g.filled m r slot)).charge (g.compilations r (.ok (g.filled m r slot).slots.pair?)),
        g.reply r (.ok (g.filled m r slot).slots.pair?)) := by
  simp only [receive, h.loaded, submit_eq_call g h.route, call, Group.offer_of_empty h.slotOf h.empty, filled,
    Group.slots_withSlots]

theorem Accepts.route?_eq {g : Generator} {d : Document} {m : Message} {r : Route} {slot : Slot}
    (h : g.Accepts d m r slot) : d.route? = some r := by
  rw [Document.route?, h.loaded]
  exact h.route

/-- A document is turned away, and the generator stays as it is, or it fills an empty slot. -/
theorem receive_cases (g : Generator) (d : Document) :
    (∃ e, e.refuses ∧ g.receive d = (g, .error e)) ∨ ∃ m r slot, g.Accepts d m r slot := by
  cases hloaded : d.loaded with
  | error e => exact Or.inl ⟨.load d.path e, rfl, by simp only [receive, hloaded]⟩
  | ok m =>
      cases hroute : routeOf m with
      | none =>
          exact Or.inl ⟨.fault (.missingKey m.kind m.name), rfl,
            by simp only [receive, hloaded, submit_of_routeOf_none g hroute]⟩
      | some r =>
          rcases (g.group r).offer_cases m with ⟨e, he, hoffer⟩ | ⟨slot, hslot, hempty, _⟩
          · exact Or.inl ⟨e, he, by simp only [receive, hloaded, submit_eq_call g hroute, call, hoffer]⟩
          · exact Or.inr ⟨m, r, slot, hloaded, hroute, hslot, hempty⟩

theorem receive_of_refused {g : Generator} {d : Document} {e : Error} (h : (g.receive d).2 = .error e)
    (he : e.refuses) : g.receive d = (g, .error e) := by
  rcases g.receive_cases d with ⟨e', _, hrefused⟩ | ⟨m, r, slot, haccepts⟩
  · rw [hrefused] at h ⊢
    cases h
    rfl
  · rw [haccepts.receive_eq] at h
    exact absurd he (not_refuses_of_reply h)

/-- What is turned away is turned away later too, and by every generator with as much in the group. -/
theorem receive_of_extends {g g' : Generator} {d : Document} {e : Error} (h : g.receive d = (g, .error e))
    (he : e.refuses) (hextends : ∀ r, d.route? = some r → (g.group r).Extends (g'.group r)) :
    g'.receive d = (g', .error e) := by
  simp only [receive, Document.route?] at h hextends ⊢
  cases hloaded : d.loaded with
  | error e' =>
      rw [hloaded] at h
      cases h
      rfl
  | ok m =>
      simp only [hloaded] at h hextends ⊢
      cases hroute : routeOf m with
      | none =>
          rw [submit_of_routeOf_none g hroute] at h
          cases h
          exact submit_of_routeOf_none g' hroute
      | some r =>
          simp only [submit_eq_call _ hroute, call] at h ⊢
          rcases hoffer : (g.group r).offer m with ⟨group, e' | pair⟩
          · rw [hoffer] at h
            cases h
            rw [(hextends r hroute).offer_of_refused (by rw [hoffer])]
          · rw [hoffer] at h
            exact absurd he (not_refuses_of_reply (congrArg Prod.snd h))

/-! ## What a document leaves alone -/

theorem options_receive (g : Generator) (d : Document) : (g.receive d).1.options = g.options := by
  rcases g.receive_cases d with ⟨e, _, h⟩ | ⟨m, r, slot, h⟩
  · rw [h]
  · rw [h.receive_eq]
    exact options_keep g _

theorem destination_receive (g : Generator) (d : Document) :
    (g.receive d).1.destination = g.destination := by
  rcases g.receive_cases d with ⟨e, _, h⟩ | ⟨m, r, slot, h⟩
  · rw [h]
  · rw [h.receive_eq]
    exact destination_keep g _

theorem Accepts.group_receive {g : Generator} {d : Document} {m : Message} {r : Route} {slot : Slot}
    (h : g.Accepts d m r slot) (r' : Route) :
    (g.receive d).1.group r' = if r = r' then g.filled m r slot else g.group r' := by
  rw [h.receive_eq, group_charge, group_keep, route_filled]

theorem extends_receive (g : Generator) (d : Document) (r : Route) :
    (g.group r).Extends ((g.receive d).1.group r) := by
  rcases g.receive_cases d with ⟨e, _, h⟩ | ⟨m, r', slot, h⟩
  · rw [h]
    exact .refl _
  · rw [h.group_receive]
    by_cases hr : r' = r
    · subst hr
      rw [if_pos rfl]
      exact Group.extends_set _ h.empty m
    · rw [if_neg hr]
      exact .refl _

/-- Other groups than that of the document are left alone. -/
theorem group_receive_of_ne (g : Generator) {d : Document} {r : Route} (h : d.route? ≠ some r) :
    (g.receive d).1.group r = g.group r := by
  rcases g.receive_cases d with ⟨e, _, hrefused⟩ | ⟨m, r', slot, haccepts⟩
  · rw [hrefused]
  · rw [haccepts.group_receive, if_neg]
    rintro rfl
    exact h haccepts.route?_eq

theorem group_receiveAll_of_ne (g : Generator) {ds : List Document} {r : Route} (h : ∀ d ∈ ds, d.route? ≠ some r) :
    (g.receiveAll ds).1.group r = g.group r := by
  induction ds generalizing g with
  | nil => rfl
  | cons d ds ih =>
      obtain ⟨hd, hds⟩ := List.forall_mem_cons.mp h
      exact (ih (g.receive d).1 hds).trans (g.group_receive_of_ne hd)

end Generator

end WireSchema.Generation
