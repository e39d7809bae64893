import WireSchema.Proofs.Program.Run

/-!
What the written code does to one member. The values of a shape are objects of the written code, and the statements
for a field decode and encode its member just as the shape does, also when they fail. Of the structures that they
call it is only assumed that these do what their members say.
-/

namespace WireSchema.Program

open WireSchema.Schema WireSchema.Version WireSchema.Source WireSchema.Wire

/-! ## Values as objects -/

mutual

def objectOf : (s : Shape) → s.Value → Object
  | .primitive p, x => .primitive p x
  | .array element, xs => .vector (xs.map (objectOf element))
  | .struct name members, x => .struct name (fieldsOf members x)

/-- The members of a value under their identifiers. -/
def fieldsOf : (ms : Members) → ms.Value → Fields
  | .nil, _ => []
  | .cons name _ _ shape rest, (x, xs) => (Name.identifier name, objectOf shape x) :: fieldsOf rest xs

end

def Decoded.mapValue {α β : Type} (f : α → β) (d : Decoded α) : Decoded β :=
  ⟨f d.value, d.rest, d.error⟩

/-- The structure of the name is made, decoded and encoded as the members say. -/
structure Env.Realizes (env : Env) (name : String) (ms : Members) : Prop where
  fresh : env.fresh name = some (fieldsOf ms ms.default)
  decode (previous : Fields) (input : List UInt8) :
    env.decode name previous input = some (Decoded.mapValue (fieldsOf ms) (ms.decode env.version input))
  encode (x : ms.Value) : env.encode name (fieldsOf ms x) = some (ms.encode env.version x)

/-- The shape of an element, whose structure the environment has. -/
inductive Env.Fits (env : Env) : Element → Shape → Prop where
  | primitive (p : Primitive) : Env.Fits env (.primitive p) (.primitive p)
  | struct {name : String} {ms : Members} (h : env.Realizes name ms) : Env.Fits env (.struct name) (.struct name ms)

/-- The shape of a field of the type, if that of its element is given. -/
def shapeFor : FieldType → Shape → Shape
  | ⟨_, true⟩, element => .array element
  | ⟨_, false⟩, element => element

/-! ## Members -/

namespace Fields

variable {front back : Fields} {name : String} {o : Object}

theorem get?_append (h : name ∉ front.map Prod.fst) : get? (front ++ (name, o) :: back) name = some o := by
  induction front with
  | nil => exact if_pos rfl
  | cons p front ih =>
      rw [List.map_cons, List.mem_cons, not_or] at h
      rw [List.cons_append, get?, if_neg (Ne.symm h.1)]
      exact ih h.2

theorem set?_append (h : name ∉ front.map Prod.fst) (new : Object) :
    set? (front ++ (name, o) :: back) name new = some (front ++ (name, new) :: back) := by
  induction front with
  | nil => exact if_pos rfl
  | cons p front ih =>
      rw [List.map_cons, List.mem_cons, not_or] at h
      rw [List.cons_append, set?, if_neg (Ne.symm h.1), ih h.2]
      rfl

end Fields

/-! ## Decoding a member -/

/-- The outcome has these members, bytes left to read and error. -/
def Outcome.Leaves (o : Outcome) (self : Fields) (rest : List UInt8) (error : Option Wire.Error) : Prop :=
  ∃ s, o = some (s, error) ∧ s.self = self ∧ s.input = rest

/-- Also the items that were gathered, if there is no error. -/
def Outcome.Gathers (o : Outcome) (self : Fields) (d : Decoded (List Object)) : Prop :=
  ∃ s, o = some (s, d.error) ∧ s.self = self ∧ s.input = d.rest ∧ (d.error = none → s.items = some d.value)

variable {env : Env}

theorem runLines_decodeItemLines {e : Element} {element : Shape} (hfits : env.Fits e element) {s : Frame}
    {gathered : List Object} (hitems : s.items = some gathered) :
    (runLines env (decodeItemLines e) s).Gathers s.self
      (Decoded.mapValue (fun x => gathered ++ [objectOf element x])
        (element.decode env.version (element.default .absent) s.input)) := by
  cases hfits with
  | primitive p =>
      simp only [decodeItemLines, runLines, Line.step, Frame.read, Shape.decode]
      rcases hread : decodePrimitive p s.input with ⟨_ | x, rest⟩
      · exact ⟨_, rfl, rfl, rfl, fun h => by cases h⟩
      · refine ⟨{ s with input := rest, items := some (gathered ++ [.primitive p x]) }, ?_, rfl, rfl, fun _ => ?_⟩
        · simp only [Frame.push, hitems]
          rfl
        · simp only [Decoded.mapValue, objectOf]
  | @struct name ms h =>
      simp only [decodeItemLines, runLines, Line.step, h.fresh, Option.map_some, Outcome.andThen, Frame.decodeInto,
        h.decode, Option.bind_some, Shape.decode]
      rcases hd : ms.decode env.version s.input with ⟨x, rest, _ | e⟩
      · refine ⟨{ s with input := rest, items := some (gathered ++ [.struct name (fieldsOf ms x)]), item := none },
          ?_, rfl, rfl, fun _ => ?_⟩
        · simp only [Decoded.mapValue, Option.bind_some, Frame.push, hitems, Option.map_some]
        · simp only [Decoded.mapValue, objectOf]
      · exact ⟨_, rfl, rfl, rfl, fun h => by cases h⟩

theorem runTimes_decodeItemLines {e : Element} {element : Shape} (hfits : env.Fits e element) (n : Nat) {s : Frame}
    {gathered : List Object} (hitems : s.items = some gathered) :
    (runTimes env (decodeItemLines e) n s).Gathers s.self
      (Decoded.mapValue (fun xs => gathered ++ xs.map (objectOf element))
        (decodeItems (element.decode env.version (element.default .absent)) n s.input)) := by
  -- The statements append to what was gathered, while the shape puts the first item in front of the others.
  induction n generalizing s gathered with
  | zero => exact ⟨s, rfl, rfl, rfl, fun _ => by simp [decodeItems, Decoded.mapValue, hitems]⟩
  | succ n ih =>
      obtain ⟨s', hrun, hself, hinput, hgathered⟩ := runLines_decodeItemLines hfits hitems
      rcases hfirst : element.decode env.version (element.default .absent) s.input with ⟨x, rest, _ | error⟩
      · rw [hfirst] at hrun hinput hgathered
        obtain ⟨s'', hrun', hself', hinput', hgathered'⟩ := ih (hgathered rfl)
        rw [show s'.input = rest from hinput] at hrun' hinput' hgathered'
        rw [runTimes, hrun]
        rcases hothers : decodeItems (element.decode env.version (element.default .absent)) n rest with
          ⟨xs, left, _ | error⟩
        · rw [hothers] at hrun' hinput' hgathered'
          have hall : decodeItems (element.decode env.version (element.default .absent)) (n + 1) s.input =
              ⟨x :: xs, left, none⟩ := by simp [decodeItems, hfirst, hothers]
          rw [hall]
          refine ⟨s'', hrun', hself'.trans hself, hinput', fun _ => ?_⟩
          simpa [Decoded.mapValue] using hgathered' rfl
        · rw [hothers] at hrun' hinput'
          have hall : decodeItems (element.decode env.version (element.default .absent)) (n + 1) s.input =
              ⟨[], left, some error⟩ := by simp [decodeItems, hfirst, hothers]
          rw [hall]
          exact ⟨s'', hrun', hself'.trans hself, hinput', fun h => by cases h⟩
      · rw [hfirst] at hrun hinput
        have hall : decodeItems (element.decode env.version (element.default .absent)) (n + 1) s.input =
            ⟨[], rest, some error⟩ := by simp [decodeItems, hfirst]
        rw [runTimes, hrun, hall]
        exact ⟨s', rfl, hself, hinput, fun h => by cases h⟩

section Member

variable {front back : Fields} {name : String} (hfront : name ∉ front.map Prod.fst)

include hfront

theorem Frame.store_append {s : Frame} {old : Object} (hself : s.self = front ++ (name, old) :: back)
    (new : Object) : s.store name new = some { s with self := front ++ (name, new) :: back } := by
  rw [Frame.store, hself, Fields.set?_append hfront]
  rfl

theorem step_storePrimitive (p : Primitive) (previous : PrimitiveValue p) {s : Frame}
    (hself : s.self = front ++ (name, .primitive p previous) :: back) :
    let d := (Shape.primitive p).decode env.version previous s.input
    ((Line.storePrimitive name p).step env s).Leaves (front ++ (name, .primitive p d.value) :: back)
      d.rest d.error := by
  simp only [Line.step, Frame.read, Shape.decode]
  rcases decodePrimitive p s.input with ⟨error | x, rest⟩
  · exact ⟨_, rfl, hself, rfl⟩
  · refine ⟨{ s with self := front ++ (name, .primitive p x) :: back, input := rest }, ?_, rfl, rfl⟩
    exact congrArg (Option.map (·, none)) (Frame.store_append (s := { s with input := rest }) hfront hself _)

theorem step_decodeMember {type : String} {ms : Members} (h : env.Realizes type ms) (previous : ms.Value) {s : Frame}
    (hself : s.self = front ++ (name, .struct type (fieldsOf ms previous)) :: back) :
    let d := ms.decode env.version s.input
    ((Line.decodeMember name).step env s).Leaves (front ++ (name, .struct type (fieldsOf ms d.value)) :: back)
      d.rest d.error := by
  have hget : s.self.get? name = some (.struct type (fieldsOf ms previous)) := by
    rw [hself, Fields.get?_append hfront]
  simp only [Line.step, Frame.decodeInto, hget, h.decode, Option.bind_some]
  rcases ms.decode env.version s.input with ⟨x, rest, error⟩
  simp only [Decoded.mapValue]
  rw [Frame.store_append (s := { s with input := rest }) hfront hself]
  exact ⟨_, rfl, rfl, rfl⟩

theorem runBlocks_decodeArray {e : Element} {element : Shape} (hfits : env.Fits e element)
    (previous : List element.Value) {s : Frame}
    (hself : s.self = front ++ (name, objectOf (.array element) previous) :: back) :
    let d := (Shape.array element).decode env.version previous s.input
    (runBlocks env (decodeBlocks name ⟨e, true⟩) s).Leaves
      (front ++ (name, objectOf (.array element) d.value) :: back) d.rest d.error := by
  simp only [decodeBlocks, runBlocks, Block.run, Line.step, Frame.read, Shape.decode]
  rcases Decoder.arrayLength s.input with ⟨error | n, rest⟩
  · exact ⟨_, rfl, hself, rfl⟩
  · obtain ⟨s', hrun, hself', hinput, hgathered⟩ := runTimes_decodeItemLines hfits n
      (s := { s with input := rest, length := some n, items := some [] }) rfl
    simp only [Outcome.andThen, Option.map_some, Option.bind_some, hrun]
    rcases hitems : decodeItems (element.decode env.version (element.default .absent)) n rest with
      ⟨xs, left, _ | error⟩
    · rw [hitems] at hinput hgathered
      have hstore := Frame.store_append hfront (hself'.trans hself) (.vector (xs.map (objectOf element)))
      simp only [Decoded.mapValue, hgathered rfl, List.nil_append, Option.bind_some, hstore]
      exact ⟨_, rfl, by rw [objectOf], hinput⟩
    · rw [hitems] at hinput
      exact ⟨s', rfl, hself'.trans hself, hinput⟩

/-- The statements for a member decode it as its shape does, and leave the others alone. -/
theorem runBlocks_decodeBlocks {t : FieldType} {element : Shape} (hfits : env.Fits t.element element)
    (previous : (shapeFor t element).Value) {s : Frame}
    (hself : s.self = front ++ (name, objectOf (shapeFor t element) previous) :: back) :
    let d := (shapeFor t element).decode env.version previous s.input
    (runBlocks env (decodeBlocks name t) s).Leaves
      (front ++ (name, objectOf (shapeFor t element) d.value) :: back) d.rest d.error := by
  rcases t with ⟨e, _ | _⟩
  · cases hfits with
    | primitive p =>
        rw [decodeBlocks, runBlocks_singleton]
        exact step_storePrimitive hfront p previous hself
    | struct h =>
        rw [decodeBlocks, runBlocks_singleton]
        exact step_decodeMember hfront h previous hself
  · exact runBlocks_decodeArray hfront hfits previous hself

end Member

/-! ## Encoding a member -/

/-- The outcome has written just this, and has the members as before. -/
def Outcome.Writes (o : Outcome) (s : Frame) (w : Written) : Prop :=
  ∃ s', o = some (s', w.error) ∧ s'.self = s.self ∧ s'.output = s.output ++ w.bytes

theorem Outcome.writes_nothing (s : Frame) : Outcome.Writes (some (s, none)) s .nothing :=
  ⟨s, rfl, rfl, (List.append_nil _).symm⟩

theorem Outcome.Writes.andThen {o : Outcome} {s : Frame} {w w' : Written} (h : o.Writes s w)
    {next : Frame → Outcome} (hnext : ∀ s', s'.self = s.self → (next s').Writes s' w') :
    (o.andThen next).Writes s (w.andThen w') := by
  obtain ⟨s', rfl, hself, houtput⟩ := h
  rcases w with ⟨bytes, _ | error⟩
  · obtain ⟨s'', hrun, hself', houtput'⟩ := hnext s' hself
    refine ⟨s'', hrun, hself'.trans hself, ?_⟩
    rw [houtput', houtput, List.append_assoc]
    rfl
  · exact ⟨s', rfl, hself, houtput⟩

theorem step_encodeLine {e : Element} {element : Shape} (hfits : env.Fits e element) (place : Place)
    (x : element.Value) {s : Frame} (hvalue : s.value? place = some (objectOf element x)) :
    ((encodeLine place e).step env s).Writes s (element.encode env.version x) := by
  cases hfits with
  | primitive p =>
      rw [objectOf] at hvalue
      simp only [encodeLine, Line.step, hvalue, Shape.encode]
      exact ⟨_, rfl, rfl, rfl⟩
  | struct h =>
      rw [objectOf] at hvalue
      simp only [encodeLine, Line.step, hvalue, h.encode, Shape.encode]
      exact ⟨_, rfl, rfl, rfl⟩

theorem runOver_encodeLine {e : Element} {element : Shape} (hfits : env.Fits e element) (xs : List element.Value)
    (s : Frame) :
    (runOver env [encodeLine .item e] (xs.map (objectOf element)) s).Writes s
      (encodeItems (element.encode env.version) xs) := by
  induction xs generalizing s with
  | nil => exact ⟨_, rfl, rfl, (List.append_nil _).symm⟩
  | cons x xs ih =>
      have hitem := step_encodeLine hfits .item x (s := { s with item := some (objectOf element x) }) rfl
      rw [List.map_cons, runOver, runLines_singleton]
      exact Outcome.Writes.andThen (s := s) hitem fun s' _ => ih s'

/-- The statements for a member write what its shape does. -/
theorem runBlocks_encodeBlocks {t : FieldType} {element : Shape} (hfits : env.Fits t.element element)
    {name : String} (x : (shapeFor t element).Value) {s : Frame}
    (hvalue : s.self.get? name = some (objectOf (shapeFor t element) x)) :
    (runBlocks env (encodeBlocks name t) s).Writes s ((shapeFor t element).encode env.version x) := by
  rcases t with ⟨e, _ | _⟩
  · rw [encodeBlocks, runBlocks_singleton]
    exact step_encodeLine hfits (.member name) x hvalue
  · simp only [shapeFor] at x hvalue ⊢
    rw [objectOf] at hvalue
    have hlength : ((Line.writeLength name).step env s).Writes s (putArrayLength x.length) := by
      simp only [Line.step, hvalue, List.length_map]
      exact ⟨_, rfl, rfl, rfl⟩
    rw [Shape.encode]
    refine hlength.andThen fun s' hself => ?_
    rw [runBlocks_singleton, Block.run, hself, hvalue]
    exact runOver_encodeLine hfits x s'

end WireSchema.Program
