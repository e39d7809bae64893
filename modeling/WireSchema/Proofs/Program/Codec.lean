import Mathlib.Data.List.Nodup
import WireSchema.Proofs.Program.Member
import WireSchema.Proofs.Schema.Integer
import WireSchema.Proofs.Source.Declaration
import WireSchema.Proofs.Source.Fault
import WireSchema.Proofs.Wire.RoundTrip
import WireSchema.Wire.Layout

/-!
The written codecs do what the shapes say. The helpers of a structure, called in the order of its fields, make up
the members that its shape has, and the structures call one another, from the innermost outwards. This holds of a
message that is written without an error, if no two of its structures have one name and no two members of one have
one identifier.
-/

namespace WireSchema.Program

open WireSchema.Schema WireSchema.Version WireSchema.Source WireSchema.Wire

variable {env : Env} {r : Record}

/-! ## Helpers -/

theorem Helper.run_guardOf (c : Condition) (name : String) (body : List Block) (s : Frame) :
    Helper.run env ⟨name, guardOf c, body⟩ s =
      if c.holds env.version then runBlocks env body s.entered else some (s, none) := by
  by_cases halways : c = .always
  · subst halways
    rfl
  · simp only [Helper.run, guardOf, if_neg halways, Condition.read?_renderNegated isVariable_versionVar,
      Option.bind_some, Condition.eval_negatedFormula]
    cases c.holds env.version <;> rfl

/-- A list that is searched by a key which tells its elements apart. -/
theorem find?_map_eq {α β : Type} {l : List α} (key : α → String) (g : α → β) (name : β → String)
    (hname : ∀ a, name (g a) = key a) (hkeys : (l.map key).Nodup) {a : α} (ha : a ∈ l) :
    (l.map g).find? (fun b => name b == key a) = some (g a) := by
  induction l with
  | nil => cases ha
  | cons b l ih =>
      rw [List.map_cons, List.nodup_cons] at hkeys
      rw [List.map_cons, List.find?_cons, hname]
      rcases List.mem_cons.mp ha with rfl | ha
      · simp
      · have hne : key b ≠ key a := fun heq => hkeys.1 (heq ▸ List.mem_map_of_mem ha)
        rw [beq_false_of_ne hne]
        exact ih hkeys.2 ha

/-! ## Structures -/

/-- The members that the fields of a structure have. -/
inductive Lays (env : Env) (r : Record) : List Field → Members → Prop where
  | nil : Lays env r [] .nil
  | cons {f : Field} {fs : List Field} {element : Shape} {ms : Members} (hfits : env.Fits f.type.element element)
      (hrest : Lays env r fs ms) :
      Lays env r (f :: fs)
        (.cons (snakeOf f) (fieldCondition r f) f.default (shapeFor f.type element) ms)

/-- The identifiers of the fields to come are not among those that stand in front. -/
theorem not_mem_front {front : Fields} {f : Field} {fs : List Field}
    (h : (front.map Prod.fst ++ (f :: fs).map identOf).Nodup) :
    identOf f ∉ front.map Prod.fst ∧
      ∀ o, ((front ++ [(identOf f, o)]).map Prod.fst ++ fs.map identOf).Nodup := by
  rw [List.map_cons] at h
  constructor
  · intro hmem
    exact List.disjoint_of_nodup_append h hmem List.mem_cons_self
  · intro o
    rwa [List.map_append, List.map_singleton, List.append_assoc, List.singleton_append]

/-- What decoding a member leaves behind, whether its guard is open or not. -/
def decodeGuarded (version : Int16) (guard : Condition) (d : Default) (shape : Shape) (input : List UInt8) :
    Decoded shape.Value :=
  if guard.holds version then shape.decode version (shape.default d) input else ⟨shape.default d, input, none⟩

theorem Members.decode_cons (version : Int16) (name : String) (guard : Condition) (d : Default) (shape : Shape)
    (rest : Members) (input : List UInt8) :
    (Members.cons name guard d shape rest).decode version input =
      match decodeGuarded version guard d shape input with
      | ⟨x, left, some e⟩ => ⟨(x, rest.default), left, some e⟩
      | ⟨x, left, none⟩ =>
        let others := rest.decode version left
        ⟨(x, others.value), others.rest, others.error⟩ := by
  rw [Members.decode, decodeGuarded]
  split
  · rcases shape.decode version (shape.default d) input with ⟨x, left, _ | e⟩ <;> rfl
  · rfl

theorem run_decoderOf {f : Field} {element : Shape} (hfits : env.Fits f.type.element element) {front back : Fields}
    (hfront : identOf f ∉ front.map Prod.fst) {s : Frame}
    (hself : s.self = front ++
      (identOf f, objectOf (shapeFor f.type element) ((shapeFor f.type element).default f.default)) :: back) :
    let d := decodeGuarded env.version (fieldCondition r f) f.default (shapeFor f.type element) s.input
    ((decoderOf r f).run env s).Leaves (front ++ (identOf f, objectOf (shapeFor f.type element) d.value) :: back)
      d.rest d.error := by
  rw [decoderOf, Helper.run_guardOf, decodeGuarded]
  split
  · exact runBlocks_decodeBlocks hfront hfits _ (s := s.entered) hself
  · exact ⟨s, rfl, hself, rfl⟩

/-- The decoding helpers fill the members in order. The members in front are done; those to come have their
defaults. -/
theorem runCalls_decoders {helpers : List Helper} {fs : List Field} {ms : Members} (hlays : Lays env r fs ms)
    (hfind : ∀ f ∈ fs, helpers.find? (·.name == snakeOf f) = some (decoderOf r f)) {front : Fields}
    (hnames : (front.map Prod.fst ++ fs.map identOf).Nodup) {s : Frame}
    (hself : s.self = front ++ fieldsOf ms ms.default) :
    let d := ms.decode env.version s.input
    (runCalls env helpers (fs.map snakeOf) s).Leaves (front ++ fieldsOf ms d.value) d.rest d.error := by
  induction hlays generalizing front s with
  | nil => exact ⟨s, rfl, hself, rfl⟩
  | @cons f fs element ms hfits hrest ih =>
      obtain ⟨hfront, hnames'⟩ := not_mem_front hnames
      rw [Members.default, fieldsOf] at hself
      obtain ⟨s', hrun, hself', hinput⟩ := run_decoderOf hfits hfront hself (r := r)
      have hcall : call env helpers (snakeOf f) s = (decoderOf r f).run env s := by
        rw [call, hfind f List.mem_cons_self]
        rfl
      simp only [List.map_cons, runCalls, hcall, hrun, Members.decode_cons]
      rcases hd : decodeGuarded env.version (fieldCondition r f) f.default (shapeFor f.type element) s.input with
        ⟨x, rest, _ | error⟩
      · rw [hd] at hself' hinput
        have hdone : s'.self = (front ++ [(identOf f, objectOf (shapeFor f.type element) x)]) ++
            fieldsOf ms ms.default := by
          rw [hself', List.append_assoc]
          rfl
        obtain ⟨s'', hrun', hself'', hinput'⟩ :=
          ih (fun g hg => hfind g (List.mem_cons_of_mem f hg)) (hnames' _) hdone
        rw [show s'.input = rest from hinput] at hrun' hself'' hinput'
        refine ⟨s'', hrun', ?_, hinput'⟩
        rw [hself'', List.append_assoc]
        rfl
      · rw [hd] at hself' hinput
        exact ⟨s', rfl, hself', hinput⟩

theorem runCalls_encoders {helpers : List Helper} {fs : List Field} {ms : Members} (hlays : Lays env r fs ms)
    (hfind : ∀ f ∈ fs, helpers.find? (·.name == snakeOf f) = some (encoderOf r f)) {front : Fields}
    (hnames : (front.map Prod.fst ++ fs.map identOf).Nodup) (x : ms.Value) {s : Frame}
    (hself : s.self = front ++ fieldsOf ms x) :
    (runCalls env helpers (fs.map snakeOf) s).Writes s (ms.encode env.version x) := by
  induction hlays generalizing front s with
  | nil => exact Outcome.writes_nothing s
  | @cons f fs element ms hfits hrest ih =>
      obtain ⟨y, ys⟩ := x
      obtain ⟨hfront, hnames'⟩ := not_mem_front hnames
      have hcall : call env helpers (snakeOf f) s = (encoderOf r f).run env s := by
        rw [call, hfind f List.mem_cons_self]
        rfl
      have hself' : s.self = (front ++ [(identOf f, objectOf (shapeFor f.type element) y)]) ++ fieldsOf ms ys := by
        rw [hself, fieldsOf, List.append_assoc]
        rfl
      have hmember : (call env helpers (snakeOf f) s).Writes s
          (if (fieldCondition r f).holds env.version then (shapeFor f.type element).encode env.version y
            else .nothing) := by
        rw [hcall, encoderOf, Helper.run_guardOf]
        split
        · refine runBlocks_encodeBlocks hfits y (s := s.entered) ?_
          change s.self.get? (identOf f) = _
          rw [hself, fieldsOf]
          exact Fields.get?_append hfront
        · exact Outcome.writes_nothing s
      rw [Members.encode]
      refine hmember.andThen fun s' hsame => ?_
      exact ih (fun g hg => hfind g (List.mem_cons_of_mem f hg)) (hnames' _) ys (hsame.trans hself')

/-! ## Initial values -/

theorem integer?_of_toInt {d : Default} {p : Primitive} {bits : Nat} (hbits : p.bits? = some bits) {n : Int}
    (h : d.toInt bits = .ok n) : integer? n p = some (.primitive p (primitiveDefault d p)) := by
  have hfits := Default.fits_iff.mp (Default.fits_of_toInt h)
  cases p with
  | int8 =>
      cases hbits
      have hn : (Int8.ofInt n).toInt = n := Int8.toInt_ofInt_of_le hfits.1 (Int.lt_of_le_sub_one hfits.2)
      simp [integer?, hn, primitiveDefault, h, Except.toOption]
  | int16 =>
      cases hbits
      have hn : (Int16.ofInt n).toInt = n := Int16.toInt_ofInt_of_le hfits.1 (Int.lt_of_le_sub_one hfits.2)
      simp [integer?, hn, primitiveDefault, h, Except.toOption]
  | int32 =>
      cases hbits
      have hn : (Int32.ofInt n).toInt = n := Int32.toInt_ofInt_of_le hfits.1 (Int.lt_of_le_sub_one hfits.2)
      simp [integer?, hn, primitiveDefault, h, Except.toOption]
  | int64 =>
      cases hbits
      have hn : (Int64.ofInt n).toInt = n := Int64.toInt_ofInt_of_le hfits.1 (Int.lt_of_le_sub_one hfits.2)
      simp [integer?, hn, primitiveDefault, h, Except.toOption]
  | bool => cases hbits
  | string => cases hbits
  | bytes => cases hbits

theorem map_eq_ok {ε α β : Type} {x : Except ε α} {f : α → β} {b : β} (h : x.map f = .ok b) :
    ∃ a, x = .ok a ∧ f a = b := by
  cases x with
  | error e => cases h
  | ok a => exact ⟨a, rfl, Except.ok.inj h⟩

theorem object?_primitive {p : Primitive} {d : Default} {initial : Initial}
    (h : initialOf ⟨.primitive p, false⟩ d = .ok initial) :
    initial.object? env.fresh ⟨.primitive p, false⟩ = some (.primitive p (primitiveDefault d p)) := by
  cases p with
  | bool =>
      obtain ⟨b, hb, rfl⟩ := map_eq_ok h
      simp [Initial.object?, primitiveDefault, hb, Except.toOption]
  | string =>
      obtain ⟨text, htext, rfl⟩ := map_eq_ok h
      by_cases hempty : text.isEmpty
      · simp [Initial.object?, primitiveDefault, htext, Except.toOption, String.isEmpty_iff.mp hempty]
      · simp [hempty, Initial.object?, primitiveDefault, htext, Except.toOption]
  | bytes =>
      cases h
      rfl
  | int8 | int16 | int32 | int64 =>
      obtain ⟨n, hn, rfl⟩ := map_eq_ok h
      simp only [Initial.object?]
      exact integer?_of_toInt rfl hn

theorem object?_initialOf {t : FieldType} {element : Shape} (hfits : env.Fits t.element element) {d : Default}
    {initial : Initial} (h : initialOf t d = .ok initial) :
    initial.object? env.fresh t = some (objectOf (shapeFor t element) ((shapeFor t element).default d)) := by
  rcases t with ⟨e, _ | _⟩
  · cases hfits with
    | primitive p =>
        rw [shapeFor, objectOf, Shape.default]
        exact object?_primitive h
    | struct hrealizes =>
        cases h
        simp only [Initial.object?, hrealizes.fresh, Option.map_some, shapeFor, objectOf, Shape.default]
  · cases h
    rw [shapeFor, objectOf, Shape.default]
    rfl

theorem initialOf_of_fitting {f : Field} (h : ∀ cause, ¬ Misfit f cause) :
    ∃ initial, initialOf f.type f.default = .ok initial := by
  cases hinitial : initialOf f.type f.default with
  | ok initial => exact ⟨initial, rfl⟩
  | error cause =>
      refine absurd (defaultText_eq_error.mp ?_) (h cause)
      rw [← map_render_initialOf, hinitial]
      rfl

theorem freshMembers_of_lays {fs : List Field} {ms : Members} (hlays : Lays env r fs ms)
    (hfitting : ∀ f ∈ fs, ∀ cause, ¬ Misfit f cause) :
    freshMembers env.fresh (fs.map (memberOf r)) = some (fieldsOf ms ms.default) := by
  induction hlays with
  | nil => rfl
  | @cons f fs element ms hfits hrest ih =>
      obtain ⟨initial, hinitial⟩ := initialOf_of_fitting (hfitting f List.mem_cons_self)
      have hmember : (memberOf r f).initial.toOption.bind (Initial.object? env.fresh (memberOf r f).type) =
          some (objectOf (shapeFor f.type element) ((shapeFor f.type element).default f.default)) := by
        simp only [memberOf, hinitial]
        exact object?_initialOf hfits hinitial
      rw [List.map_cons, freshMembers, hmember, ih fun g hg => hfitting g (List.mem_cons_of_mem f hg),
        Members.default, fieldsOf]
      rfl

/-! ## Messages -/

/-- A structure does what its members say if those that it calls do. -/
theorem realizes_of_lays {library : List Definition} {version : Int16} {depth : Nat}
    (hlookup : lookup library r.name = some (definitionOf r)) {ms : Members}
    (hlays : Lays (envOf library version depth) r r.fields ms) (hnames : (r.fields.map identOf).Nodup)
    (hfitting : ∀ f ∈ r.fields, ∀ cause, ¬ Misfit f cause) :
    (envOf library version (depth + 1)).Realizes r.name ms := by
  have hstart : (([] : Fields).map Prod.fst ++ r.fields.map identOf).Nodup := hnames
  have hversion : (envOf library version depth).version = version := by cases depth <;> rfl
  have hsnakes : (r.fields.map snakeOf).Nodup := by
    refine List.Nodup.of_map Name.identifier ?_
    rwa [List.map_map]
  have hfresh : (definitionOf r).fresh (envOf library version depth) = some (fieldsOf ms ms.default) :=
    freshMembers_of_lays hlays hfitting
  refine ⟨?_, fun previous input => ?_, fun x => ?_⟩
  · simp only [envOf, hlookup, Option.bind_some, hfresh]
  · have hfind : ∀ f ∈ r.fields, ((definitionOf r).helpers.map Prod.fst).find? (·.name == snakeOf f) =
        some (decoderOf r f) := by
      intro f hf
      rw [definitionOf, List.map_map]
      exact find?_map_eq snakeOf (decoderOf r) Helper.name (fun _ => rfl) hsnakes hf
    obtain ⟨s, hrun, hself, hinput⟩ := runCalls_decoders hlays hfind hstart
      (s := ⟨fieldsOf ms ms.default, input, [], none, none, none⟩) rfl
    simp only [envOf, hlookup, Option.bind_some, Definition.decode, hfresh]
    change Option.map _ (runCalls _ _ (r.fields.map snakeOf) _) = _
    rw [hrun, Option.map_some, hself, hinput, hversion]
    rfl
  · have hfind : ∀ f ∈ r.fields, ((definitionOf r).helpers.map Prod.snd).find? (·.name == snakeOf f) =
        some (encoderOf r f) := by
      intro f hf
      rw [definitionOf, List.map_map]
      exact find?_map_eq snakeOf (encoderOf r) Helper.name (fun _ => rfl) hsnakes hf
    obtain ⟨s, hrun, hself, houtput⟩ := runCalls_encoders hlays hfind hstart x
      (s := ⟨fieldsOf ms x, [], [], none, none, none⟩) rfl
    simp only [envOf, hlookup, Option.bind_some, Definition.encode]
    change Option.map _ (runCalls _ _ (r.fields.map snakeOf) _) = _
    rw [hrun, Option.map_some, houtput, hversion]
    rfl

/-- The structures inside a structure that a field declares inline are declared inline there too. -/
theorem inlineRecords_subset_of_mem (f : Field) :
    ∀ inner ∈ inlineRecordsOf f, inlineRecords inner.fields ⊆ inlineRecordsOf f := by
  induction f using Field.tree_induction with
  | h f ih =>
      intro inner hinner
      rw [inlineRecordsOf_eq_inlineRecord?] at hinner ⊢
      cases hinline : inlineRecord? f with
      | none =>
          rw [hinline] at hinner
          cases hinner
      | some own =>
          rw [hinline] at hinner
          rcases List.mem_cons.mp hinner with rfl | hbelow
          · exact List.subset_cons_self _ _
          · change inlineRecords inner.fields ⊆ own :: inlineRecords own.fields
            rw [fields_of_inlineRecord? hinline, inlineRecords_eq_flatMap f.fields] at hbelow ⊢
            obtain ⟨g, hg, hmem⟩ := List.mem_flatMap.mp hbelow
            refine List.subset_cons_of_subset _ fun record hrecord => ?_
            exact List.mem_flatMap.mpr ⟨g, hg, ih g hg inner hmem hrecord⟩

theorem inlineRecords_closed {fs : List Field} {inner : Record} (h : inner ∈ inlineRecords fs) :
    inlineRecords inner.fields ⊆ inlineRecords fs := by
  rw [inlineRecords_eq_flatMap fs] at h ⊢
  obtain ⟨f, hf, hinner⟩ := List.mem_flatMap.mp h
  intro record hrecord
  exact List.mem_flatMap.mpr ⟨f, hf, inlineRecords_subset_of_mem f inner hinner hrecord⟩

theorem inlineRecords_subset_records {m : Message} (hr : r ∈ m.records) : inlineRecords r.fields ⊆ m.records := by
  have hfields : inlineRecords m.fields ⊆ m.records :=
    List.Subset.trans (List.subset_append_left _ _) (List.subset_cons_self _ _)
  have hstructure {c : Structure} (hc : c ∈ m.structures) : inlineRecords c.fields ⊆ m.records := by
    intro record hrecord
    refine List.mem_cons_of_mem _ (List.mem_append_right _ ?_)
    exact List.mem_flatMap.mpr ⟨c, hc, List.mem_cons_of_mem _ hrecord⟩
  rcases List.mem_cons.mp hr with rfl | hinner
  · exact hfields
  · rcases List.mem_append.mp hinner with hinline | hbeside
    · exact List.Subset.trans (inlineRecords_closed hinline) hfields
    · obtain ⟨c, hc, hmem⟩ := List.mem_flatMap.mp hbeside
      rcases List.mem_cons.mp hmem with rfl | hinline
      · exact hstructure hc
      · exact List.Subset.trans (inlineRecords_closed hinline) (hstructure hc)

/-- What a field refers to is a structure of the message, under the name that the field gives. -/
theorem referredRecord_mem {m : Message} (hr : r ∈ m.records) {f : Field} (hf : f ∈ r.fields) {name : String}
    (helement : f.type.element = .struct name) {inner : Record} (h : referredRecord m f name = some inner) :
    inner ∈ m.records ∧ inner.name = name := by
  rw [referredRecord] at h
  split at h
  · exact ⟨List.mem_of_find?_eq_some h, by simpa using List.find?_some h⟩
  · rename_i hfields
    cases h
    have hinline : inlineRecord f name ∈ inlineRecordsOf f := by
      rw [inlineRecordsOf_struct helement (by simpa using hfields)]
      exact List.mem_cons_self
    exact ⟨inlineRecords_subset_records hr (inlineRecordsOf_subset hf hinline), rfl⟩

/-- The shape of the element of a field. -/
def elementShape? (m : Message) (depth : Nat) (f : Field) : Option Shape :=
  match f.type.element with
  | .primitive p => some (.primitive p)
  | .struct name => do
    let inner ← referredRecord m f name
    let members ← membersOf m depth inner
    some (.struct name members)

def layField (m : Message) (depth : Nat) (r : Record) (f : Field) (rest : Option Members) : Option Members := do
  let rest ← rest
  let element ← elementShape? m depth f
  some (.cons (snakeOf f) (fieldCondition r f) f.default (shapeFor f.type element) rest)

theorem membersOf_succ (m : Message) (depth : Nat) (r : Record) :
    membersOf m (depth + 1) r = r.fields.foldr (layField m depth r) (some .nil) := by
  rw [membersOf]
  congr 1
  funext f rest
  have hshape (element : Shape) : (if f.type.isArray then Shape.array element else element) =
      shapeFor f.type element := by
    rcases f.type with ⟨_, _ | _⟩ <;> rfl
  simp only [hshape, layField, elementShape?]
  cases f.type.element with
  | primitive p => rfl
  | struct name => simp only [Option.bind_eq_bind, Option.bind_assoc, snakeOf, fieldCondition]

theorem fits_of_elementShape? {m : Message} {depth : Nat}
    (hinner : ∀ inner ∈ m.records, ∀ ms, membersOf m depth inner = some ms → env.Realizes inner.name ms)
    (hr : r ∈ m.records) {f : Field} (hf : f ∈ r.fields) {element : Shape}
    (h : elementShape? m depth f = some element) : env.Fits f.type.element element := by
  rw [elementShape?] at h
  cases helement : f.type.element with
  | primitive p =>
      rw [helement] at h
      cases h
      exact .primitive p
  | struct name =>
      rw [helement] at h
      obtain ⟨inner, hreferred, h⟩ := Option.bind_eq_some_iff.mp h
      obtain ⟨ms, hmembers, h⟩ := Option.bind_eq_some_iff.mp h
      cases h
      obtain ⟨hmem, rfl⟩ := referredRecord_mem hr hf helement hreferred
      exact .struct (hinner inner hmem ms hmembers)

/-- The members of a structure, if the structures that it refers to do what their own members say. -/
theorem lays_of_membersOf {m : Message} {depth : Nat}
    (hinner : ∀ inner ∈ m.records, ∀ ms, membersOf m depth inner = some ms → env.Realizes inner.name ms)
    (hr : r ∈ m.records) {ms : Members} (h : membersOf m (depth + 1) r = some ms) : Lays env r r.fields ms := by
  have hlays (fs : List Field) (hfs : ∀ f ∈ fs, f ∈ r.fields) :
      ∀ ms, fs.foldr (layField m depth r) (some .nil) = some ms → Lays env r fs ms := by
    induction fs with
    | nil =>
        intro ms h
        cases h
        exact .nil
    | cons f fs ih =>
        intro ms h
        rw [List.foldr_cons] at h
        obtain ⟨rest, hrest, h⟩ := Option.bind_eq_some_iff.mp h
        obtain ⟨element, helement, h⟩ := Option.bind_eq_some_iff.mp h
        cases h
        have hf : f ∈ r.fields := hfs f List.mem_cons_self
        exact .cons (fits_of_elementShape? hinner hr hf helement)
          (ih (fun g hg => hfs g (List.mem_cons_of_mem f hg)) rest hrest)
  rw [membersOf_succ] at h
  exact hlays r.fields (fun _ hf => hf) ms h

/-- A message that is written without an error, and whose types and members have names of their own. -/
structure Compiles (m : Message) : Prop where
  written : (messagePieces m).error? = none
  distinct : Distinct (typesIn (messagePieces m))

theorem Compiles.sound {m : Message} (h : Compiles m) (hr : r ∈ m.records) : Sound m.declaredNames r := by
  have hnone := h.written
  rw [error?_messagePieces, List.findSome?_eq_none_iff] at hnone
  exact recordError?_eq_none.mp (hnone r hr)

theorem Compiles.distinct_declarations {m : Message} (h : Compiles m) : Distinct (m.records.map declaration) := by
  have htypes := declares_messagePieces m []
  rw [List.append_nil, typesIn, List.append_nil] at htypes
  exact htypes ▸ h.distinct

theorem Compiles.lookup_eq {m : Message} (h : Compiles m) (hr : r ∈ m.records) :
    lookup (libraryOf m) r.name = some (definitionOf r) := by
  have hnames := h.distinct_declarations.names
  rw [List.map_map] at hnames
  exact find?_map_eq Record.name definitionOf Definition.name (fun _ => rfl) hnames hr

/-- Every structure of the message that has a shape is made, decoded and encoded by the written code as its shape
says, at every version. Structures call one another no deeper than they are nested. -/
theorem Compiles.realizes {m : Message} (h : Compiles m) (version : Int16) (depth : Nat) :
    ∀ r ∈ m.records, ∀ ms, membersOf m depth r = some ms →
      (envOf (libraryOf m) version depth).Realizes r.name ms := by
  induction depth with
  | zero =>
      intro r hr ms hms
      cases hms
  | succ depth ih =>
      intro r hr ms hms
      refine realizes_of_lays (h.lookup_eq hr) (lays_of_membersOf ih hr hms) ?_ fun f hf => (h.sound hr f hf).2
      exact h.distinct_declarations.members _ (List.mem_map_of_mem hr)

/-! ## The written text -/

/-- Statements with the text that is written to decode a field do what its shape does. -/
theorem decodeBody_decodes {f : Field} {body : List Block} (htext : bodyPieces body = decodeBody f) {element : Shape}
    (hfits : env.Fits f.type.element element) {front back : Fields} (hfront : identOf f ∉ front.map Prod.fst)
    (previous : (shapeFor f.type element).Value) {s : Frame}
    (hself : s.self = front ++ (identOf f, objectOf (shapeFor f.type element) previous) :: back) :
    let d := (shapeFor f.type element).decode env.version previous s.input
    (runBlocks env body s).Leaves
      (front ++ (identOf f, objectOf (shapeFor f.type element) d.value) :: back) d.rest d.error := by
  rw [bodyPieces_injective (htext.trans (bodyPieces_decodeBlocks f).symm)]
  exact runBlocks_decodeBlocks hfront hfits previous hself

/-- Statements with the text that is written to encode a field do what its shape does. -/
theorem encodeBody_encodes {f : Field} {body : List Block} (htext : bodyPieces body = encodeBody f) {element : Shape}
    (hfits : env.Fits f.type.element element) (x : (shapeFor f.type element).Value) {s : Frame}
    (hvalue : s.self.get? (identOf f) = some (objectOf (shapeFor f.type element) x)) :
    (runBlocks env body s).Writes s ((shapeFor f.type element).encode env.version x) := by
  rw [bodyPieces_injective (htext.trans (bodyPieces_encodeBlocks f).symm)]
  exact runBlocks_encodeBlocks hfits x hvalue

/-- The source of the message has the type, the initial values, the helpers and the codec of the definition. -/
structure IsWritten (m : Message) (r : Record) (d : Definition) : Prop where
  type : typePieces r <:+: messagePieces m
  members : ∀ member ∈ d.members, member.declaration ∈ typePieces r
  initial : d.defaultPieces <:+: messagePieces m
  helpers : ∃ extra, d.inherentPieces extra <:+: messagePieces m
  codec : d.codecPieces <:+: messagePieces m

theorem isWritten_definitionOf {m : Message} (hr : r ∈ m.records) : IsWritten m r (definitionOf r) := by
  obtain ⟨extra, hrecord⟩ := recordPieces_infix_messagePieces hr
  rw [recordPieces_eq_definition] at hrecord
  refine ⟨?_, fun _ => declaration_mem_typePieces r, ?_, ⟨extra, ?_⟩, ?_⟩
  all_goals refine List.IsInfix.trans ?_ hrecord
  · iterate 3 apply List.infix_append_of_infix_left
    exact (List.suffix_append _ _).isInfix
  · iterate 2 apply List.infix_append_of_infix_left
    exact List.infix_append_of_infix_right (List.infix_cons List.infix_rfl)
  · apply List.infix_append_of_infix_left
    exact List.infix_append_of_infix_right (List.infix_cons List.infix_rfl)
  · exact List.infix_append_of_infix_right (List.infix_cons List.infix_rfl)

/-- The code that is written for a structure makes, decodes and encodes it as its shape says. -/
theorem written_codec_realizes_shape {sheet : Sheet} {m : Message} (hok : (compileMessage sheet m).2 = none)
    (hdistinct : Distinct (typesIn (messagePieces m))) (hr : r ∈ m.records) {shape : Shape}
    (hshape : shapeOf m r = some shape) :
    IsWritten m r (definitionOf r) ∧
      ∃ ms, shape = .struct r.name ms ∧
        ∀ version, (envOf (libraryOf m) version (m.records.length + 1)).Realizes r.name ms := by
  rw [compileMessage, Sheet.writePieces_snd] at hok
  obtain ⟨ms, hms, rfl⟩ := Option.map_eq_some_iff.mp hshape
  exact ⟨isWritten_definitionOf hr, ms, rfl, fun version =>
    (Compiles.mk hok hdistinct).realizes version _ r hr ms hms⟩

/-- What the written code encodes it decodes again, as it is seen at the version, and no further. -/
theorem Env.Realizes.decode_of_encode {name : String} {ms : Members} (h : env.Realizes name ms) {x : ms.Value}
    {bytes : List UInt8} (hencode : env.encode name (fieldsOf ms x) = some ⟨bytes, none⟩) (previous : Fields)
    (rest : List UInt8) :
    env.decode name previous (bytes ++ rest) = some ⟨fieldsOf ms (ms.seenAt env.version x), rest, none⟩ := by
  rw [h.encode, Option.some.injEq] at hencode
  have hall : (Shape.struct name ms).encodeAll env.version x = .ok bytes :=
    Shape.encodeAll_eq_ok.mpr (by rw [Shape.encode]; exact hencode)
  have hdecode := Shape.decode_of_encodeAll env.version (.struct name ms) x ms.default bytes rest hall
  rw [Shape.decode] at hdecode
  rw [h.decode, hdecode]
  rfl

/-- A header with a default, a guard and an array of a structure that is declared inline. -/
def listingHeader : Message :=
  { kind := .header, name := "Listing", validVersions := some (.closed 0 3),
    fields := [
      { name := "Limit", type := ⟨.primitive .int16, false⟩, versions := some (.openFrom 1),
        default := .number "-1" },
      { name := "Entries", type := ⟨.struct "Entry", true⟩, versions := some (.openFrom 0),
        fields := [{ name := "Key", type := ⟨.primitive .string, false⟩, versions := some (.openFrom 0) }] }] }

example : Compiles listingHeader ∧ (shapeOf listingHeader listingHeader.record).isSome := by
  have hdistinct : Distinct (listingHeader.records.map declaration) :=
    (distinct_declarations_iff _).mpr ⟨by decide, by decide⟩
  have htypes := declares_messagePieces listingHeader []
  rw [List.append_nil, typesIn, List.append_nil] at htypes
  exact ⟨⟨rfl, htypes ▸ hdistinct⟩, rfl⟩

end WireSchema.Program
