import Mathlib.Data.List.Basic
import WireSchema.Proofs.Source.Gating

/-!
The written codecs as programs. A helper is a guard and a sequence of statements, some of them under the head of
a loop; a structure is a list of members with initial values, a pair of helpers for each field, and the order in
which the helpers are called. Each has its text, and the text that is written for a record is that of its
definition. No two sequences of statements have the same text, so a text has at most one meaning.
-/

namespace WireSchema.Program

open WireSchema.Text WireSchema.Schema WireSchema.Version WireSchema.Source

/-! ## Statements -/

/-- What an encoder is given: a member, or the item that a loop has reached. -/
inductive Place where
  | member (name : String)
  | item
  deriving DecidableEq

inductive Line where
  | readLength
  | newItems
  | pushPrimitive (p : Primitive)
  | newItem (type : String)
  | decodeItem
  | pushItem
  | storeItems (name : String)
  | storePrimitive (name : String) (p : Primitive)
  | decodeMember (name : String)
  | writeLength (name : String)
  | write (p : Primitive) (place : Place)
  | encode (place : Place)
  deriving DecidableEq

/-- A loop runs as often as the length says, or over the items of a member. -/
inductive Head where
  | count
  | items (name : String)
  deriving DecidableEq

inductive Block where
  | line (l : Line)
  | loop (head : Head) (body : List Line)

/-- A line of text with what it is: a statement, or where a loop begins or ends. -/
inductive Token where
  | line (l : Line)
  | enter (head : Head)
  | leave
  deriving DecidableEq

def Block.tokens : Block → List Token
  | .line l => [.line l]
  | .loop head body => .enter head :: body.map .line ++ [.leave]

/-- Strings and byte blobs are passed by reference and may be too long; other primitives are copied. -/
def isCopied : Primitive → Bool
  | .string | .bytes => false
  | _ => true

/-- What stands for the place in the text. -/
def Place.text : Place → String
  | .member name => "self." ++ name
  | .item => "item"

/-- The argument of a writing call: an item is reached through a reference, a member is not. -/
def Place.argument (p : Primitive) : Place → String
  | .member name => if isCopied p then "self." ++ name else "&" ++ ("self." ++ name)
  | .item => if isCopied p then "*" ++ "item" else "item"

def Line.text : Line → String
  | .readLength => "let len = d.read_array_len()?;"
  | .newItems => "let mut items = Vec::new();"
  | .pushPrimitive p => "items.push(d.read_" ++ p.token ++ "()?);"
  | .newItem type => "let mut item = " ++ type ++ "::default();"
  | .decodeItem => "item.decode(d, " ++ versionVar ++ ")?;"
  | .pushItem => "items.push(item);"
  | .storeItems name => "self." ++ name ++ " = items;"
  | .storePrimitive name p => "self." ++ name ++ " = d.read_" ++ p.token ++ "()?;"
  | .decodeMember name => "self." ++ name ++ ".decode(d, " ++ versionVar ++ ")?;"
  | .writeLength name => "e.write_array_len(" ++ ("self." ++ name) ++ ".len())?;"
  | .write p place =>
    "e.write_" ++ p.token ++ "(" ++ place.argument p ++ (if isCopied p then ");" else ")?;")
  | .encode place => place.text ++ ".encode(e, " ++ versionVar ++ ")?;"

def Head.text : Head → String
  | .count => "for _ in 0..len"
  | .items name => "for item in &" ++ ("self." ++ name)

namespace Token

def text : Token → String
  | .line l => l.text
  | .enter head => head.text ++ " \x7b"
  | .leave => "\x7d"

def piece (t : Token) : Piece :=
  Source.line t.text

/-! ## The text of a statement says which it is -/

def name : Token → String
  | .line (.newItem name) | .line (.storeItems name) | .line (.storePrimitive name _)
  | .line (.decodeMember name) | .line (.writeLength name) | .line (.write _ (.member name))
  | .line (.encode (.member name)) | .enter (.items name) => name
  | _ => ""

/-- The text before the name in a token, and the text after it. -/
def frame : Token → String × String
  | .line (.newItem _) => ("let mut item = ", "::default();")
  | .line (.storeItems _) => ("self.", " = items;")
  | .line (.storePrimitive _ p) => ("self.", " = d.read_" ++ p.token ++ "()?;")
  | .line (.decodeMember _) => ("self.", ".decode(d, " ++ versionVar ++ ")?;")
  | .line (.writeLength _) => ("e.write_array_len(self.", ".len())?;")
  | .line (.write p (.member _)) =>
    ("e.write_" ++ p.token ++ (if isCopied p then "(self." else "(&self."), if isCopied p then ");" else ")?;")
  | .line (.encode (.member _)) => ("self.", ".encode(e, " ++ versionVar ++ ")?;")
  | .enter (.items _) => ("for item in &self.", " \x7b")
  | t => (t.text, "")

/-- The token without its name. -/
def form : Token → Token
  | .line (.newItem _) => .line (.newItem "")
  | .line (.storeItems _) => .line (.storeItems "")
  | .line (.storePrimitive _ p) => .line (.storePrimitive "" p)
  | .line (.decodeMember _) => .line (.decodeMember "")
  | .line (.writeLength _) => .line (.writeLength "")
  | .line (.write p (.member _)) => .line (.write p (.member ""))
  | .line (.encode (.member _)) => .line (.encode (.member ""))
  | .enter (.items _) => .enter (.items "")
  | t => t

def primitives : List Primitive := [.bool, .int8, .int16, .int32, .int64, .string, .bytes]

def forms : List Token :=
  [.line .readLength, .line .newItems, .line (.newItem ""), .line .decodeItem, .line .pushItem,
    .line (.storeItems ""), .line (.decodeMember ""), .line (.writeLength ""), .line (.encode (.member "")),
    .line (.encode .item), .enter .count, .enter (.items ""), .leave] ++
  primitives.flatMap fun p =>
    [.line (.pushPrimitive p), .line (.storePrimitive "" p), .line (.write p (.member "")), .line (.write p .item)]

theorem mem_primitives (p : Primitive) : p ∈ primitives := by
  cases p <;> decide

theorem mem_forms_of_primitive (p : Primitive) {t : Token} (ht : t ∈ [Token.line (.pushPrimitive p),
    .line (.storePrimitive "" p), .line (.write p (.member "")), .line (.write p .item)]) : t ∈ forms :=
  List.mem_append_right _ (List.mem_flatMap.mpr ⟨p, mem_primitives p, ht⟩)

theorem form_mem_forms (t : Token) : t.form ∈ forms := by
  rcases t with (_ | _ | p | _ | _ | _ | _ | ⟨_, p⟩ | _ | _ | ⟨p, _ | _⟩ | (_ | _)) | (_ | _) | _
  case line.pushPrimitive => exact mem_forms_of_primitive p (by simp [form])
  case line.storePrimitive => exact mem_forms_of_primitive p (by simp [form])
  case line.write.member => exact mem_forms_of_primitive p (by simp [form])
  case line.write.item => exact mem_forms_of_primitive p (by simp [form])
  all_goals exact List.mem_append_left _ (by simp [form])

theorem text_eq_frame (t : Token) : t.text = t.frame.1 ++ t.name ++ t.frame.2 := by
  -- Without a name the frame is all of the text; with one, only the brackets differ.
  have hwhole (text : String) : text = text ++ "" ++ "" := by rw [String.append_empty, String.append_empty]
  have hback (a b c d e : String) : a ++ b ++ c ++ d ++ e = a ++ b ++ (c ++ d ++ e) := by
    simp only [String.append_assoc]
  rcases t with (_ | _ | p | name | _ | _ | name | ⟨name, p⟩ | name | name | ⟨p, name | _⟩ | (name | _)) |
    (_ | name) | _
  case line.newItem => rfl
  case line.storeItems => rfl
  case line.storePrimitive => exact hback _ _ _ _ _
  case line.decodeMember => exact hback _ _ _ _ _
  case line.encode.member => exact hback _ _ _ _ _
  case line.writeLength =>
      change "e.write_array_len(" ++ ("self." ++ name) ++ _ = _
      rw [← String.append_assoc]
      rfl
  case line.write.member =>
      have hmember : "(" ++ ("self." ++ name) = "(self." ++ name := by
        rw [← String.append_assoc]
        rfl
      have hreference : "(" ++ ("&" ++ ("self." ++ name)) = "(&self." ++ name := by
        rw [← String.append_assoc, ← String.append_assoc]
        rfl
      have hargument (front : String) : front ++ "(" ++ (Place.member name).argument p =
          front ++ (if isCopied p then "(self." else "(&self.") ++ name := by
        rw [Place.argument, String.append_assoc, String.append_assoc]
        cases isCopied p with
        | true => exact congrArg (front ++ ·) hmember
        | false => exact congrArg (front ++ ·) hreference
      exact congrArg (· ++ _) (hargument _)
  case enter.items =>
      change "for item in &" ++ ("self." ++ name) ++ _ = _
      rw [← String.append_assoc]
      rfl
  all_goals exact hwhole _

@[simp] theorem frame_form (t : Token) : t.form.frame = t.frame := by
  rcases t with (_ | _ | p | _ | _ | _ | _ | ⟨_, p⟩ | _ | _ | ⟨p, _ | _⟩ | (_ | _)) | (_ | _) | _ <;> rfl

theorem eq_of_form_of_name {t u : Token} (hform : t.form = u.form) (hname : t.name = u.name) : t = u := by
  rcases t with (_ | _ | p | _ | _ | _ | _ | ⟨_, p⟩ | _ | _ | ⟨p, _ | _⟩ | (_ | _)) | (_ | _) | _ <;>
    rcases u with (_ | _ | q | _ | _ | _ | _ | ⟨_, q⟩ | _ | _ | ⟨q, _ | _⟩ | (_ | _)) | (_ | _) | _ <;>
    simp_all [form, name]

/-- No text that is framed by the one is framed by the other. -/
def apart (s t : String × String) : Bool :=
  !(s.1.toList.isPrefixOf t.1.toList || t.1.toList.isPrefixOf s.1.toList) ||
    !(s.2.toList.isSuffixOf t.2.toList || t.2.toList.isSuffixOf s.2.toList)

theorem framed_ne_of_apart {s t : String × String} (h : apart s t = true) (x y : String) :
    s.1 ++ x ++ s.2 ≠ t.1 ++ y ++ t.2 := by
  intro heq
  rw [← String.toList_inj] at heq
  simp only [String.toList_append] at heq
  have hfront : s.1.toList <+: t.1.toList ∨ t.1.toList <+: s.1.toList := by
    refine List.prefix_or_prefix_of_prefix (List.prefix_append _ (x.toList ++ s.2.toList)) ?_
    exact ⟨y.toList ++ t.2.toList, by rw [← List.append_assoc, ← List.append_assoc, heq]⟩
  have hback : s.2.toList <:+ t.2.toList ∨ t.2.toList <:+ s.2.toList :=
    List.suffix_or_suffix_of_suffix (List.suffix_append (s.1.toList ++ x.toList) _) ⟨_, heq.symm⟩
  rw [← List.isPrefixOf_iff_prefix, ← List.isPrefixOf_iff_prefix, ← Bool.or_eq_true] at hfront
  rw [← List.isSuffixOf_iff_suffix, ← List.isSuffixOf_iff_suffix, ← Bool.or_eq_true] at hback
  rw [apart, hfront, hback] at h
  cases h

theorem forms_apart : (forms.all fun t => forms.all fun u => t == u || apart t.frame u.frame) = true := by
  decide +kernel

theorem text_injective {t u : Token} (h : t.text = u.text) : t = u := by
  have hform : t.form = u.form := by
    have hall := List.all_eq_true.mp (List.all_eq_true.mp forms_apart _ t.form_mem_forms) _ u.form_mem_forms
    rw [frame_form, frame_form, Bool.or_eq_true, beq_iff_eq] at hall
    exact hall.resolve_right fun hapart => framed_ne_of_apart hapart _ _ (text_eq_frame t ▸ text_eq_frame u ▸ h)
  have hframe : t.frame = u.frame := by rw [← frame_form t, hform, frame_form]
  rw [text_eq_frame, text_eq_frame, hframe, String.append_left_inj, String.append_right_inj] at h
  exact eq_of_form_of_name hform h

theorem piece_injective {t u : Token} (h : t.piece = u.piece) : t = u := by
  have htext : t.text ++ "\n" = u.text ++ "\n" := Except.ok.inj h
  rw [String.append_left_inj] at htext
  exact text_injective htext

end Token

/-- The statements of a helper as they are written. -/
def bodyPieces (body : List Block) : Pieces :=
  (body.flatMap Block.tokens).map Token.piece

theorem lines_append_leave_injective {ls ls' : List Line} {rest rest' : List Token}
    (h : ls.map Token.line ++ .leave :: rest = ls'.map Token.line ++ .leave :: rest') :
    ls = ls' ∧ rest = rest' := by
  induction ls generalizing ls' with
  | nil =>
      cases ls' with
      | nil => exact ⟨rfl, (List.cons.inj h).2⟩
      | cons l' ls' => cases (List.cons.inj h).1
  | cons l ls ih =>
      cases ls' with
      | nil => cases (List.cons.inj h).1
      | cons l' ls' =>
          obtain ⟨hl, hrest⟩ := List.cons.inj h
          obtain ⟨hls, hrest⟩ := ih hrest
          exact ⟨by rw [Token.line.inj hl, hls], hrest⟩

theorem tokens_injective {body body' : List Block} (h : body.flatMap Block.tokens = body'.flatMap Block.tokens) :
    body = body' := by
  induction body generalizing body' with
  | nil =>
      cases body' with
      | nil => rfl
      | cons b' body' => cases b' <;> cases h
  | cons b body ih =>
      cases body' with
      | nil => cases b <;> cases h
      | cons b' body' =>
          rw [List.flatMap_cons, List.flatMap_cons] at h
          cases b with
          | line l =>
              cases b' with
              | line l' =>
                  obtain ⟨hl, hrest⟩ := List.cons.inj h
                  rw [Token.line.inj hl, ih hrest]
              | loop head' ls' => cases (List.cons.inj h).1
          | loop head ls =>
              cases b' with
              | line l' => cases (List.cons.inj h).1
              | loop head' ls' =>
                  simp only [Block.tokens, List.cons_append, List.append_assoc, List.nil_append] at h
                  obtain ⟨hhead, hrest⟩ := List.cons.inj h
                  obtain ⟨hls, hbody⟩ := lines_append_leave_injective hrest
                  rw [Token.enter.inj hhead, hls, ih hbody]

/-- A text is that of one sequence of statements at most. -/
theorem bodyPieces_injective {body body' : List Block} (h : bodyPieces body = bodyPieces body') : body = body' :=
  tokens_injective (List.map_injective_iff.2 (fun _ _ => Token.piece_injective) h)

/-! ## Helpers -/

def decodeItemLines : Element → List Line
  | .primitive p => [.pushPrimitive p]
  | .struct name => [.newItem name, .decodeItem, .pushItem]

def decodeBlocks (name : String) : FieldType → List Block
  | ⟨element, true⟩ =>
    [.line .readLength, .line .newItems, .loop .count (decodeItemLines element), .line (.storeItems name)]
  | ⟨.primitive p, false⟩ => [.line (.storePrimitive name p)]
  | ⟨.struct _, false⟩ => [.line (.decodeMember name)]

def encodeLine (place : Place) : Element → Line
  | .primitive p => .write p place
  | .struct _ => .encode place

def encodeBlocks (name : String) : FieldType → List Block
  | ⟨element, true⟩ => [.line (.writeLength name), .loop (.items name) [encodeLine .item element]]
  | ⟨element, false⟩ => [.line (encodeLine (.member name) element)]

theorem bodyPieces_decodeBlocks (f : Field) : bodyPieces (decodeBlocks (identOf f) f.type) = decodeBody f := by
  rw [decodeBody]
  rcases f.type with ⟨_ | _, _ | _⟩ <;> rfl

theorem text_encodeLine_member (name : String) (e : Element) :
    (encodeLine (.member name) e).text = encodeStatement e ("self." ++ name) false := by
  rcases e with (_ | _ | _ | _ | _ | _ | _) | name <;> rfl

theorem text_encodeLine_item (e : Element) : (encodeLine .item e).text = encodeStatement e "item" true := by
  rcases e with (_ | _ | _ | _ | _ | _ | _) | name <;> rfl

theorem bodyPieces_encodeBlocks (f : Field) : bodyPieces (encodeBlocks (identOf f) f.type) = encodeBody f := by
  rw [encodeBody, ← text_encodeLine_member, ← text_encodeLine_item]
  rcases f.type with ⟨_, _ | _⟩ <;> rfl

/-- A helper leaves at once if the test of its guard holds. -/
structure Helper where
  name : String
  guard : Option String
  body : List Block

def Helper.pieces (signature : String → String) (h : Helper) : Pieces :=
  braceLine (signature h.name) :: h.guard.elim [] leaveIf ++ bodyPieces h.body ++ [line "Ok(())", closeLine]

/-- The test that leaves a helper unless the condition holds. -/
def guardOf (c : Condition) : Option String :=
  if c = .always then none else some (c.renderNegated versionVar)

theorem elim_guardOf (c : Condition) : (guardOf c).elim [] leaveIf = guardPieces c := by
  rw [guardOf]
  split
  · rename_i halways
    rw [halways]
    rfl
  · rename_i halways
    rw [guardPieces_of_ne_always halways]
    rfl

def decoderOf (r : Record) (f : Field) : Helper :=
  ⟨snakeOf f, guardOf (fieldCondition r f), decodeBlocks (identOf f) f.type⟩

def encoderOf (r : Record) (f : Field) : Helper :=
  ⟨snakeOf f, guardOf (fieldCondition r f), encodeBlocks (identOf f) f.type⟩

def decoderSignature (name : String) : String :=
  decodeSignature ("decode_" ++ name)

def encoderSignature (name : String) : String :=
  encodeSignature ("encode_" ++ name)

theorem pieces_decoderOf (r : Record) (f : Field) :
    (decoderOf r f).pieces decoderSignature = decodeHelper f (fieldCondition r f) := by
  rw [decodeHelper, ← elim_guardOf, ← bodyPieces_decodeBlocks]
  rfl

theorem pieces_encoderOf (r : Record) (f : Field) :
    (encoderOf r f).pieces encoderSignature = encodeHelper f (fieldCondition r f) := by
  rw [encodeHelper, ← elim_guardOf, ← bodyPieces_encodeBlocks]
  rfl

/-! ## Structures -/

/-- The value that a member begins with. -/
inductive Initial where
  | bool (b : Bool)
  | integer (n : Int)
  | emptyText
  | text (s : String)
  | emptyVector
  | inherited

def Initial.render : Initial → String
  | .bool b => if b then "true" else "false"
  | .integer n => Numeral.decimal n
  | .emptyText => "String::new()"
  | .text s => "String::from(" ++ Quoted.encode s ++ ")"
  | .emptyVector => "Vec::new()"
  | .inherited => "Default::default()"

def initialOf (t : FieldType) (d : Default) : Except Schema.Error Initial :=
  if t.isArray then .ok .emptyVector
  else
    match t.element with
    | .primitive .bool => d.toBool.map .bool
    | .primitive .string => d.toText.map fun s => if s.isEmpty then .emptyText else .text s
    | .primitive .bytes => .ok .emptyVector
    | .primitive p => (d.toInt (p.bits?.getD 64)).map .integer
    | .struct _ => .ok .inherited

theorem map_render_initialOf (t : FieldType) (d : Default) :
    (initialOf t d).map Initial.render = defaultText t d := by
  have hmap {α : Type} (x : Except Schema.Error α) {initial : α → Initial} {text : α → String}
      (h : ∀ a, (initial a).render = text a) : (x.map initial).map Initial.render = x.map text := by
    cases x with
    | error e => rfl
    | ok a => exact congrArg Except.ok (h a)
  rcases t with ⟨(_ | _ | _ | _ | _ | _ | _) | name, _ | _⟩
  case primitive.string.false => exact hmap _ fun s => apply_ite Initial.render _ _ _
  case primitive.bool.false | primitive.int8.false | primitive.int16.false | primitive.int32.false |
      primitive.int64.false => exact hmap _ fun _ => rfl
  all_goals rfl

structure Member where
  name : String
  type : FieldType
  initial : Except Source.Error Initial

def Member.declaration (m : Member) : Piece :=
  line ("pub " ++ m.name ++ ": " ++ fieldType m.type ++ ",")

def Member.initialPieces (m : Member) : Pieces :=
  [.ok (m.name ++ ": "), m.initial.map Initial.render, line ","]

/-- A structure with its members, the helpers of each field, and the fields whose helpers are called, in order. -/
structure Definition where
  name : String
  members : List Member
  helpers : List (Helper × Helper)
  decodeCalls : List String
  encodeCalls : List String

namespace Definition

variable (d : Definition)

def defaultPieces : Pieces :=
  [line "#[allow(clippy::derivable_impls)]",
    braceLine ("impl Default for " ++ d.name),
    braceLine "fn default() -> Self",
    braceLine "Self"] ++
  d.members.flatMap Member.initialPieces ++ [closeLine, closeLine, closeLine]

def inherentPieces (extra : Pieces) : Pieces :=
  [line "#[allow(unused_variables, clippy::manual_range_contains)]",
    braceLine ("impl " ++ d.name)] ++
  extra ++
  [braceLine "pub fn reset(&mut self)", line "*self = Self::default();", closeLine] ++
  d.helpers.flatMap (fun h =>
    blankLine :: h.1.pieces decoderSignature ++ blankLine :: h.2.pieces encoderSignature) ++ [closeLine]

def codecPieces : Pieces :=
  [line "#[allow(unused_variables)]",
    braceLine ("impl Message for " ++ d.name),
    braceLine (decodeSignature "decode"),
    line "self.reset();"] ++
  d.decodeCalls.map (fun name => line ("self.decode_" ++ name ++ "(d, " ++ versionVar ++ ")?;")) ++
  [line "Ok(())", closeLine, blankLine, braceLine (encodeSignature "encode")] ++
  d.encodeCalls.map (fun name => line ("self.encode_" ++ name ++ "(e, " ++ versionVar ++ ")?;")) ++
  [line "Ok(())", closeLine, closeLine]

end Definition

def memberOf (r : Record) (f : Field) : Member :=
  ⟨identOf f, f.type, (initialOf f.type f.default).mapError (.default r.name f.name ·)⟩

def definitionOf (r : Record) : Definition where
  name := r.name
  members := r.fields.map (memberOf r)
  helpers := r.fields.map fun f => (decoderOf r f, encoderOf r f)
  decodeCalls := r.fields.map snakeOf
  encodeCalls := r.fields.map snakeOf

theorem mem_separated {parts : List Pieces} {ps : Pieces} (hps : ps ∈ parts) {p : Piece} (hp : p ∈ ps) :
    p ∈ separated parts := by
  induction parts with
  | nil => cases hps
  | cons qs parts ih =>
      cases parts with
      | nil =>
          rw [List.mem_singleton.mp hps] at hp
          exact hp
      | cons rs parts =>
          change p ∈ qs ++ blankLine :: separated (rs :: parts)
          rcases List.mem_cons.mp hps with rfl | hrest
          · exact List.mem_append_left _ hp
          · exact List.mem_append_right _ (List.mem_cons_of_mem _ (ih hrest))

theorem declaration_mem_typePieces (r : Record) {member : Member} (h : member ∈ (definitionOf r).members) :
    member.declaration ∈ typePieces r := by
  obtain ⟨f, hf, rfl⟩ := List.mem_map.mp h
  have hmember : (memberOf r f).declaration ∈ memberPieces f :=
    List.mem_append_right _ (List.mem_cons_of_mem _ List.mem_cons_self)
  have hmembers := mem_separated (List.mem_map_of_mem hf) hmember
  exact List.mem_append_left _ (List.mem_append_right _ hmembers)

theorem initialPieces_memberOf (r : Record) (f : Field) :
    (memberOf r f).initialPieces = Source.defaultPieces r.name f := by
  rw [Source.defaultPieces, ← map_render_initialOf, Member.initialPieces, memberOf]
  cases initialOf f.type f.default <;> rfl

theorem defaultPieces_definitionOf (r : Record) : (definitionOf r).defaultPieces = defaultImplPieces r := by
  have hmembers : (r.fields.map (memberOf r)).flatMap Member.initialPieces =
      r.fields.flatMap (Source.defaultPieces r.name) := by
    rw [List.flatMap_map]
    exact List.flatMap_congr fun f _ => initialPieces_memberOf r f
  rw [Definition.defaultPieces, defaultImplPieces, ← hmembers]
  rfl

theorem inherentPieces_definitionOf (r : Record) (extra : Pieces) :
    (definitionOf r).inherentPieces extra = Source.inherentPieces r extra := by
  have hhelpers : (definitionOf r).helpers.flatMap (fun h =>
      blankLine :: h.1.pieces decoderSignature ++ blankLine :: h.2.pieces encoderSignature) =
      r.fields.flatMap (helperPieces r) := by
    rw [definitionOf, List.flatMap_map]
    refine List.flatMap_congr fun f _ => ?_
    rw [pieces_decoderOf, pieces_encoderOf, helperPieces]
  rw [Definition.inherentPieces, Source.inherentPieces, hhelpers]
  rfl

theorem codecPieces_definitionOf (r : Record) : (definitionOf r).codecPieces = Source.codecPieces r := by
  rw [Definition.codecPieces, Source.codecPieces]
  simp only [definitionOf, List.map_map, Function.comp_def]

/-- What is written for a record is its references, its type and the text of its definition. -/
theorem recordPieces_eq_definition (known : List String) (extra : Pieces) (r : Record) :
    recordPieces known extra r =
      referencePieces known r ++ typePieces r ++ blankLine :: (definitionOf r).defaultPieces ++
        blankLine :: (definitionOf r).inherentPieces extra ++ blankLine :: (definitionOf r).codecPieces := by
  rw [recordPieces, defaultPieces_definitionOf, inherentPieces_definitionOf, codecPieces_definitionOf]

end WireSchema.Program
