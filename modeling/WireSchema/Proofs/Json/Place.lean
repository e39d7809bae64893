import WireSchema.Proofs.Json.Reader

/-!
Where the readers of values stop. Every reader here gives each failure a place of its own, except those that
check a value against the data model: these raise a failure, and the value around them gives it a place.
-/

namespace WireSchema.Json.Reader

variable {α κ δ : Type} {placed : Prop}

/-! ## Words and strings -/

theorem tracks_word (letters : List UInt8) : Tracks placed (word letters) := by
  induction letters with
  | nil => exact tracks_pure ()
  | cons expected rest ih =>
      refine tracks_next.bind fun b => ?_
      cases b with
      | none => exact tracks_fail _
      | some b => exact ih.ite (tracks_fail _)

theorem tracks_nextInString : Tracks placed nextInString := by
  refine tracks_next.bind fun b => ?_
  cases b with
  | some b => exact tracks_pure b
  | none => exact tracks_fail _

theorem tracks_peekInString : Tracks placed peekInString := by
  refine tracks_peek.bind fun b => ?_
  cases b with
  | some b => exact tracks_pure b
  | none => exact tracks_fail _

theorem tracks_hexEscape : Tracks placed hexEscape := by
  refine tracks_nextInString.bind fun a => tracks_nextInString.bind fun b =>
    tracks_nextInString.bind fun c => tracks_nextInString.bind fun d => ?_
  split
  · exact tracks_pure _
  · exact tracks_fail _

theorem tracks_expectInEscape (expected : UInt8) : Tracks placed (expectInEscape expected) :=
  tracks_peekInString.bind fun _ => tracks_discard.bind fun _ => (tracks_pure ()).ite (tracks_fail _)

theorem tracks_unicodeEscape : Tracks placed unicodeEscape := by
  refine tracks_hexEscape.bind fun n => (tracks_fail _).ite ((tracks_pure _).ite ?_)
  refine (tracks_expectInEscape _).bind fun _ => (tracks_expectInEscape _).bind fun _ => ?_
  exact tracks_hexEscape.bind fun low => (tracks_fail _).ite (tracks_pure _)

theorem tracks_escape : Tracks placed escape := by
  refine tracks_nextInString.bind fun b => ?_
  refine (tracks_pure _).ite <| (tracks_pure _).ite <| (tracks_pure _).ite <| (tracks_pure _).ite <|
    (tracks_pure _).ite <| (tracks_pure _).ite <| Tracks.ite ?_ (tracks_fail _)
  exact tracks_unicodeEscape.bind fun c => tracks_pure _

/-- The place of ill-formed bytes lies behind the cursor. -/
theorem tracks_decodeString (bytes : List UInt8) : Tracks placed (decodeString bytes) := by
  rw [decodeString]
  split
  · exact tracks_pure _
  · exact fun _ c _ => .failed .invalidCodePoint (Nat.le_refl _) (Nat.sub_le _ _)

theorem tracks_restOfString : Tracks placed restOfString := by
  refine (tracks_loop (fun acc => tracks_nextInString.bind fun b => ?_) []).bind tracks_decodeString
  refine (tracks_pure _).ite <| Tracks.ite ?_ <| (tracks_fail _).ite (tracks_pure _)
  exact tracks_escape.bind fun bytes => tracks_pure _

/-! ## Numbers -/

theorem tracks_peekDigit : Tracks placed peekDigit := by
  refine tracks_peek.bind fun b => ?_
  cases b with
  | some b => exact tracks_pure _
  | none => exact tracks_pure none

/-- A loop over digits goes on after a digit and stops before anything else. -/
theorem tracks_digits {σ : Type} {step : Nat → σ → Reader (σ ⊕ α)} {stop : σ → α}
    (hstep : ∀ d s, Tracks placed (step d s)) (s : σ) :
    Tracks placed (loop (fun s => do
      match ← peekDigit with
      | some d => step d s
      | none => return .inr (stop s)) s) := by
  refine tracks_loop (fun s => tracks_peekDigit.bind fun digit => ?_) s
  cases digit with
  | some d => exact hstep d s
  | none => exact tracks_pure _

theorem tracks_skipDigits : Tracks placed skipDigits :=
  tracks_digits (fun _ _ => tracks_discard.bind fun _ => tracks_pure _) ()

theorem tracks_countDigits : Tracks placed countDigits :=
  tracks_digits (fun _ _ => tracks_discard.bind fun _ => tracks_pure _) 0

theorem tracks_exponentDigits (first : Nat) : Tracks placed (exponentDigits first) :=
  tracks_digits (fun _ _ => tracks_discard.bind fun _ => (tracks_pure _).ite (tracks_pure _)) first

theorem tracks_gather (significand : Nat) : Tracks placed (gather significand) :=
  tracks_digits (fun _ _ => (tracks_pure _).ite (tracks_discard.bind fun _ => tracks_pure _)) (significand, 0)

theorem tracks_peekIsExponent : Tracks placed peekIsExponent := by
  refine tracks_peek.bind fun b => ?_
  cases b with
  | some b => exact tracks_pure _
  | none => exact tracks_pure false

theorem tracks_float (negative : Bool) (significand : Nat) (exponent : Int) :
    Tracks placed (float negative significand exponent) := by
  refine (tracks_pure _).ite <| ((tracks_pure _).ite (tracks_fail _)).ite ?_
  split
  · exact tracks_fail _
  · exact tracks_pure _

theorem tracks_exponentSign : Tracks placed exponentSign := by
  refine tracks_peek.bind fun sign => ?_
  split
  · exact tracks_discard.bind fun _ => tracks_pure _
  · exact tracks_discard.bind fun _ => tracks_pure _
  · exact tracks_pure _

theorem tracks_exponentPart (negative : Bool) (significand : Nat) (scale : Int) :
    Tracks placed (exponentPart negative significand scale) := by
  refine tracks_discard.bind fun _ => tracks_exponentSign.bind fun minus => tracks_next.bind fun b => ?_
  cases b with
  | none => exact tracks_fail _
  | some b =>
      refine Tracks.ite ((tracks_exponentDigits _).bind fun exponent => ?_) (tracks_fail _)
      cases exponent with
      | some e => exact tracks_float _ _ _
      | none => exact (tracks_fail _).ite (tracks_skipDigits.bind fun _ => tracks_pure _)

theorem tracks_exponentOrEnd (negative : Bool) (significand : Nat) (scale : Int) :
    Tracks placed (exponentOrEnd negative significand scale) :=
  tracks_peekIsExponent.bind fun _ => (tracks_exponentPart _ _ _).ite (tracks_float _ _ _)

theorem tracks_fraction (negative : Bool) (significand : Nat) (scale : Int) :
    Tracks placed (fraction negative significand scale) := by
  refine tracks_discard.bind fun _ => (tracks_gather _).bind fun gathered => ?_
  refine Tracks.ite (tracks_skipDigits.bind fun _ => tracks_exponentOrEnd _ _ _) ?_
  refine Tracks.ite (tracks_peek.bind fun b => ?_) (tracks_exponentOrEnd _ _ _)
  cases b with
  | some b => exact tracks_fail _
  | none => exact tracks_fail _

theorem tracks_longNumber (negative : Bool) (significand : Nat) :
    Tracks placed (longNumber negative significand) := by
  refine tracks_countDigits.bind fun count => tracks_peek.bind fun b => ?_
  split
  · exact tracks_fraction _ _ _
  · exact tracks_exponentOrEnd _ _ _

theorem tracks_afterWhole (negative : Bool) (significand : Nat) :
    Tracks placed (afterWhole negative significand) := by
  refine tracks_peek.bind fun b => ?_
  split
  · exact tracks_fraction _ _ _
  · exact tracks_peekIsExponent.bind fun _ => (tracks_exponentPart _ _ _).ite (tracks_pure _)

theorem tracks_number (negative : Bool) : Tracks placed (number negative) := by
  refine tracks_next.bind fun b => ?_
  cases b with
  | none => exact tracks_fail _
  | some b =>
      refine Tracks.ite (tracks_peekDigit.bind fun digit => ?_) (Tracks.ite ?_ (tracks_fail _))
      · cases digit with
        | some d => exact tracks_fail _
        | none => exact tracks_afterWhole _ _
      · exact (tracks_gather _).bind fun _ => (tracks_longNumber _ _).ite (tracks_afterWhole _ _)

/-! ## Typed scalars -/

theorem tracks_mismatch (expected : String) (first : UInt8) :
    Tracks placed (mismatch expected first : Reader α) := by
  have hword : ∀ letters cause,
      Tracks False (discard >>= fun _ => word letters >>= fun _ => (raise cause : Reader α)) :=
    fun letters cause => tracks_discard.bind fun _ => (tracks_word letters).bind fun _ => tracks_raise cause
  have hnumber : ∀ negative,
      Tracks False (number negative >>= fun n => (raise (.wrongType n.found expected) : Reader α)) :=
    fun negative => (tracks_number negative).bind fun n => tracks_raise _
  have hstring : Tracks False (restOfString >>= fun s => (raise (.wrongType (.text s) expected) : Reader α)) :=
    tracks_restOfString.bind fun s => tracks_raise _
  exact .stamp <| (hword _ _).ite <| (hword _ _).ite <| (hword _ _).ite <|
    (tracks_discard.bind fun _ => hnumber true).ite <| (hnumber false).ite <|
    (tracks_discard.bind fun _ => hstring).ite <| (tracks_raise _).ite <| (tracks_raise _).ite (tracks_fail _)

theorem tracks_text (expected : String) : Tracks placed (text expected) :=
  tracks_valueStart.bind fun _ =>
    (tracks_discard.bind fun _ => tracks_restOfString).ite (tracks_mismatch _ _)

theorem tracks_textSuch (expected : String) (parse : String → Except String α) :
    Tracks False (textSuch expected parse) := by
  refine (tracks_text expected).bind fun s => ?_
  split
  · exact tracks_pure _
  · exact tracks_raise _

theorem tracks_boolean : Tracks placed boolean := by
  have hword : ∀ letters (b : Bool),
      Tracks placed (discard >>= fun _ => word letters >>= fun _ => (pure b : Reader Bool)) :=
    fun letters b => tracks_discard.bind fun _ => (tracks_word letters).bind fun _ => tracks_pure b
  exact tracks_valueStart.bind fun _ => (hword _ _).ite <| (hword _ _).ite (tracks_mismatch _ _)

theorem tracks_checkInteger (expected : String) (low high : Int) (n : Number) :
    Tracks placed (checkInteger expected low high n) := by
  cases n with
  | integer n => exact (tracks_pure n).ite (tracks_raise _).stamp
  | float x => exact (tracks_raise _).stamp

theorem tracks_integer (expected : String) (low high : Int) : Tracks placed (integer expected low high) := by
  have hnumber : ∀ negative, Tracks placed (number negative >>= checkInteger expected low high) :=
    fun negative => (tracks_number negative).bind (tracks_checkInteger expected low high)
  exact tracks_valueStart.bind fun _ =>
    (tracks_discard.bind fun _ => hnumber true).ite <| (hnumber false).ite (tracks_mismatch _ _)

theorem tracks_unit : Tracks placed unit :=
  tracks_valueStart.bind fun _ => (tracks_discard.bind fun _ => tracks_word _).ite (tracks_mismatch _ _)

theorem Tracks.orNull {r : Reader α} (h : Tracks placed r) : Tracks placed (orNull r) := by
  refine tracks_skipBlanks.bind fun b => ?_
  split
  · exact tracks_discard.bind fun _ => (tracks_word _).bind fun _ => tracks_pure none
  · exact h.bind fun a => tracks_pure (some a)

/-! ## Values with parts -/

theorem tracks_endOfList : Tracks placed endOfList := by
  refine tracks_skipBlanks.bind fun b => ?_
  split
  · exact tracks_discard
  · refine tracks_discard.bind fun _ => tracks_skipBlanks.bind fun b => ?_
    split
    · exact tracks_fail _
    · exact tracks_fail _
  · exact tracks_fail _
  · exact tracks_fail _

theorem tracks_endOfObject : Tracks placed endOfObject := by
  refine tracks_skipBlanks.bind fun b => ?_
  split
  · exact tracks_discard
  · exact tracks_fail _
  · exact tracks_fail _
  · exact tracks_fail _

theorem Tracks.inList {r : Reader α} (h : Tracks False r) : Tracks placed (inList r) :=
  (tracks_endOfList.closedBy (tracks_discard.bind fun _ => h)).stamp

theorem Tracks.inObject {r : Reader α} (h : Tracks False r) : Tracks placed (inObject r) :=
  (tracks_endOfObject.closedBy (tracks_discard.bind fun _ => h)).stamp

theorem tracks_hasElement (first : Bool) : Tracks placed (hasElement first) := by
  refine tracks_skipBlanks.bind fun b => ?_
  cases b with
  | none => exact tracks_fail _
  | some b =>
      refine (tracks_pure _).ite <| (tracks_pure _).ite <| Tracks.ite ?_ (tracks_fail _)
      refine tracks_discard.bind fun _ => tracks_skipBlanks.bind fun b => ?_
      split
      · exact tracks_fail _
      · exact tracks_pure _
      · exact tracks_fail _

theorem tracks_hasKey (first : Bool) : Tracks placed (hasKey first) := by
  refine tracks_skipBlanks.bind fun b => ?_
  cases b with
  | none => exact tracks_fail _
  | some b =>
      refine (tracks_pure _).ite <| ((tracks_pure _).ite (tracks_fail _)).ite <| Tracks.ite ?_ (tracks_fail _)
      refine tracks_discard.bind fun _ => tracks_skipBlanks.bind fun b => ?_
      split
      · exact tracks_pure _
      · exact tracks_fail _
      · exact tracks_fail _
      · exact tracks_fail _

theorem tracks_colon : Tracks placed colon := by
  refine tracks_skipBlanks.bind fun b => ?_
  split
  · exact tracks_discard
  · exact tracks_fail _
  · exact tracks_fail _

theorem Tracks.elements {element : Reader α} (h : Tracks placed element) : Tracks placed (elements element) :=
  tracks_loop (fun _ => (tracks_hasElement _).bind fun _ =>
    (h.bind fun _ => tracks_pure _).ite (tracks_pure _)) []

theorem tracks_listOf {element : Option (Reader α)} (h : ∀ r, element = some r → Tracks False r) :
    Tracks placed (listOf element) := by
  refine tracks_valueStart.bind fun b => Tracks.ite ?_ (tracks_mismatch _ _)
  cases element with
  | none => exact tracks_fail _
  | some r => exact (h r rfl).elements.inList

theorem tracks_keyedMembers {f : RecordFormat κ δ} (h : ∀ k draft, Tracks False (f.read k draft)) :
    Tracks False (keyedMembers f) := by
  refine tracks_loop (fun s => (tracks_hasKey _).bind fun more => Tracks.ite ?_ (tracks_pure _)) _
  refine tracks_discard.bind fun _ => tracks_restOfString.bind fun name => ?_
  split
  · exact tracks_raise _
  · refine (tracks_raise _).ite (tracks_colon.bind fun _ => ?_)
    exact (h _ _).bind fun draft => tracks_pure _

theorem tracks_keyedRecord {f : RecordFormat κ δ} (h : ∀ k draft, Tracks False (f.read k draft)) :
    Tracks False (keyedRecord f) := by
  refine (tracks_keyedMembers h).bind fun draft => ?_
  split
  · exact tracks_raise _
  · exact tracks_pure _

theorem tracks_listedMembers {f : RecordFormat κ δ} (h : ∀ k draft, Tracks False (f.read k draft))
    (keys : List κ) (i : Nat) (draft : δ) : Tracks False (listedMembers f keys i draft) := by
  induction keys generalizing i draft with
  | nil => exact tracks_pure draft
  | cons k keys ih =>
      refine (tracks_hasElement _).bind fun more => Tracks.ite ?_ ((tracks_raise _).ite (ih _ _))
      exact (h k draft).bind fun draft => ih _ draft

theorem tracks_record (typeName : String) {format : Option (RecordFormat κ δ)}
    (h : ∀ f, format = some f → ∀ k draft, Tracks False (f.read k draft)) :
    Tracks placed (record typeName format) := by
  cases format with
  | none =>
      exact tracks_valueStart.bind fun _ => (tracks_fail _).ite <| (tracks_fail _).ite (tracks_mismatch _ _)
  | some f =>
      have hlisted : Tracks placed (inList (listedMembers f f.keys 0 f.empty)) :=
        (tracks_listedMembers (h f rfl) f.keys 0 f.empty).inList
      have hkeyed : Tracks placed (inObject (keyedRecord f)) := (tracks_keyedRecord (h f rfl)).inObject
      exact tracks_valueStart.bind fun _ => hlisted.ite <| hkeyed.ite (tracks_mismatch _ _)

theorem tracks_variantName (variants : List (String × α)) : Tracks placed (variantName variants) := by
  refine (tracks_text _).bind fun s => ?_
  split
  · exact tracks_pure _
  · exact (tracks_raise _).stamp

theorem tracks_variant (variants : List (String × α)) : Tracks placed (variant variants) := by
  refine tracks_skipBlanks.bind fun b => ?_
  split
  · refine tracks_discard.bind fun _ => tracks_skipBlanks.bind fun b => ?_
    split
    · refine (tracks_variantName _).bind fun a => tracks_colon.bind fun _ => tracks_unit.bind fun _ =>
        tracks_skipBlanks.bind fun b => ?_
      split
      · exact tracks_discard.bind fun _ => tracks_pure a
      · exact tracks_fail _
      · exact tracks_fail _
    · exact tracks_fail _
    · exact tracks_fail _
  · exact tracks_variantName _
  · exact tracks_fail _
  · exact tracks_fail _

end WireSchema.Json.Reader
