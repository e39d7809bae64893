import WireSchema.Proofs.Text.Positional
import WireSchema.Proofs.Version.Range
import WireSchema.Schema.Document

/-!
The texts that spell a range. There are four forms, and each text has at most one of them, since only a closed
range has a dash and only an open one a plus. A range that was read is written in the form of its own kind, so it
is read again from what is written, and two such ranges are never written alike.
-/

namespace WireSchema.Version.Range

open WireSchema.Text.Numeral

/-! ## The four forms -/

/-- The text is one of the four forms, and the range is what it stands for. Every number is a version, written in
decimal digits with any number of zeros in front. -/
inductive Spells : List Char → Range → Prop where
  | none : Spells "none".toList ⟨-1, -1⟩
  | single {ds : List Char} {n : Nat} (h : Denotes 10 ds n) (hn : n ≤ 32767) :
      Spells ds ⟨Int16.ofNat n, Int16.ofNat n⟩
  | openFrom {ds : List Char} {n : Nat} (h : Denotes 10 ds n) (hn : n ≤ 32767) :
      Spells (ds ++ ['+']) ⟨Int16.ofNat n, -1⟩
  | closed {low high : List Char} {m n : Nat} (hlow : Denotes 10 low m) (hhigh : Denotes 10 high n) (hle : m ≤ n)
      (hn : n ≤ 32767) : Spells (low ++ '-' :: high) ⟨Int16.ofNat m, Int16.ofNat n⟩

/-! ## Parts of a text -/

theorem parseVersion_eq_ok {cs : List Char} {v : Int16} :
    parseVersion cs = .ok v ↔ ∃ n, Denotes 10 cs n ∧ n ≤ 32767 ∧ v = Int16.ofNat n := by
  rw [parseVersion]
  simp only [← value?_eq_some_iff (by decide : 10 ≤ 36)]
  cases value? 10 cs with
  | none => simp
  | some n =>
      by_cases hn : n ≤ 32767
      · simp [hn, eq_comm]
      · simp [hn]

theorem splitDash_eq_none {cs : List Char} : splitDash cs = none ↔ '-' ∉ cs := by
  induction cs with
  | nil => simp [splitDash]
  | cons c cs ih =>
      by_cases hc : c = '-' <;> simp [splitDash, hc, ih, eq_comm]

/-- The first dash divides the text. -/
theorem splitDash_append {low : List Char} (hlow : '-' ∉ low) (high : List Char) :
    splitDash (low ++ '-' :: high) = some (low, high) := by
  induction low with
  | nil => rfl
  | cons c low ih =>
      have hc : c ≠ '-' := fun h => hlow (h ▸ List.mem_cons_self)
      have hlow : '-' ∉ low := fun h => hlow (List.mem_cons_of_mem c h)
      rw [List.cons_append, splitDash, if_neg hc, ih hlow, Option.map_some]

theorem eq_of_splitDash {cs low high : List Char} (h : splitDash cs = some (low, high)) :
    cs = low ++ '-' :: high := by
  have hmem : '-' ∈ cs := by
    by_contra hnot
    rw [splitDash_eq_none.mpr hnot] at h
    cases h
  obtain ⟨front, back, rfl, hfront⟩ := List.eq_append_cons_of_mem hmem
  rw [splitDash_append hfront] at h
  cases h
  rfl

theorem dropPlus?_eq_some {cs low : List Char} : dropPlus? cs = some low ↔ cs = low ++ ['+'] := by
  rw [dropPlus?]
  constructor
  · intro h
    split at h
    · rename_i hlast
      obtain ⟨init, rfl⟩ := List.getLast?_eq_some_iff.mp hlast
      rw [List.dropLast_concat] at h
      rw [Option.some.inj h]
    · cases h
  · rintro rfl
    rw [List.getLast?_concat, if_pos rfl, List.dropLast_concat]

/-! ## Reading -/

theorem ofNat_lt_ofNat {m n : Nat} (hm : m ≤ 32767) (hn : n ≤ 32767) :
    Int16.ofNat n < Int16.ofNat m ↔ n < m := by
  rw [Int16.lt_iff_toInt_lt, Int16.toInt_ofNat_of_lt (by omega), Int16.toInt_ofNat_of_lt (by omega), Int.ofNat_lt]

/-- Each form is met before another can take its text. -/
theorem Spells.parseChars_eq {cs : List Char} {r : Range} (h : Spells cs r) : parseChars cs = .ok r := by
  have hdash {ds : List Char} {n : Nat} (h : Denotes 10 ds n) : '-' ∉ ds := h.not_mem (by decide) (by decide)
  have hversion {ds : List Char} {n : Nat} (h : Denotes 10 ds n) (hn : n ≤ 32767) :
      parseVersion ds = .ok (Int16.ofNat n) := parseVersion_eq_ok.mpr ⟨n, h, hn, rfl⟩
  cases h with
  | none => rfl
  | @single _ n h hn =>
      have hplus : dropPlus? cs = .none := by
        rw [Option.eq_none_iff_forall_ne_some]
        intro low hlow
        have hmem : '+' ∈ low ++ ['+'] := List.mem_append_right low List.mem_cons_self
        exact h.not_mem (by decide) (by decide) (dropPlus?_eq_some.mp hlow ▸ hmem)
      have hnone : cs ≠ ['n', 'o', 'n', 'e'] := by
        rintro rfl
        exact h.not_mem (by decide) (by decide : digitValue? 10 'n' = .none) List.mem_cons_self
      rw [parseChars, splitDash_eq_none.mpr (hdash h), hplus, hversion h hn]
      exact if_neg hnone
  | @openFrom ds n h hn =>
      have hmem : '-' ∉ ds ++ ['+'] := by simpa using hdash h
      rw [parseChars, splitDash_eq_none.mpr hmem, dropPlus?_eq_some.mpr rfl]
      exact map_eq_ok.mpr ⟨_, hversion h hn, rfl⟩
  | @closed low high m n hlow hhigh hle hn =>
      have horder : ¬ Int16.ofNat n < Int16.ofNat m := by
        rw [ofNat_lt_ofNat (by omega) hn]
        omega
      rw [parseChars, splitDash_append (hdash hlow)]
      exact bind_eq_ok.mpr ⟨_, hversion hlow (by omega), bind_eq_ok.mpr ⟨_, hversion hhigh hn, if_neg horder⟩⟩

theorem spells_of_parseChars {cs : List Char} {r : Range} (h : parseChars cs = .ok r) : Spells cs r := by
  rw [parseChars] at h
  split at h
  · rename_i low high hsplit
    obtain ⟨min, hmin, h⟩ := bind_eq_ok.mp h
    obtain ⟨max, hmax, h⟩ := bind_eq_ok.mp h
    obtain ⟨m, hlow, hm, rfl⟩ := parseVersion_eq_ok.mp hmin
    obtain ⟨n, hhigh, hn, rfl⟩ := parseVersion_eq_ok.mp hmax
    split at h
    · cases h
    · rename_i horder
      rw [ofNat_lt_ofNat hm hn] at horder
      cases h
      rw [eq_of_splitDash hsplit]
      exact .closed hlow hhigh (by omega) hn
  · split at h
    · rename_i low hplus
      obtain ⟨v, hv, rfl⟩ := map_eq_ok.mp h
      obtain ⟨n, hlow, hn, rfl⟩ := parseVersion_eq_ok.mp hv
      rw [dropPlus?_eq_some.mp hplus]
      exact .openFrom hlow hn
    · split at h
      · rename_i hnone
        cases h
        rw [hnone]
        exact .none
      · obtain ⟨v, hv, rfl⟩ := map_eq_ok.mp h
        obtain ⟨n, hversion, hn, rfl⟩ := parseVersion_eq_ok.mp hv
        exact .single hversion hn

theorem parse_eq_ok {text : String} {r : Range} : parse text = .ok r ↔ Spells text.toList r :=
  ⟨spells_of_parseChars, Spells.parseChars_eq⟩

/-! ## Writing -/

theorem denotes_decimal {n : Nat} (hn : n ≤ 32767) : Denotes 10 (decimal (Int16.ofNat n).toInt).toList n := by
  rw [decimal, toList_ofInt, Int16.toInt_ofNat_of_lt (by omega), if_neg (by omega)]
  exact (canonical_digits (by decide) (by decide) n).denotes

theorem ofNat_ne_noVersion {n : Nat} (hn : n ≤ 32767) : Int16.ofNat n ≠ noVersion := by
  intro h
  have hint : (n : Int) = -1 := by
    rw [← Int16.toInt_ofNat_of_lt (by omega : n < 2 ^ 15), h]
    rfl
  omega

/-- A range that some text spells is written in the form of its own kind. -/
theorem Spells.spells_render {cs : List Char} {r : Range} (h : Spells cs r) : Spells r.render.toList r := by
  have hsingle {n : Nat} (hn : n ≤ 32767) :
      Spells (Range.render ⟨Int16.ofNat n, Int16.ofNat n⟩).toList ⟨Int16.ofNat n, Int16.ofNat n⟩ := by
    have hrender : Range.render ⟨Int16.ofNat n, Int16.ofNat n⟩ = decimal (Int16.ofNat n).toInt := by
      simp [Range.render, isEmpty, isOpen, ofNat_ne_noVersion hn]
    rw [hrender]
    exact .single (denotes_decimal hn) hn
  cases h with
  | none => exact .none
  | single h hn => exact hsingle hn
  | @openFrom ds n h hn =>
      have hrender : Range.render ⟨Int16.ofNat n, -1⟩ = decimal (Int16.ofNat n).toInt ++ "+" := by
        have hopen : (-1 : Int16) = noVersion := rfl
        simp [Range.render, isEmpty, isOpen, ofNat_ne_noVersion hn, hopen]
      rw [hrender, String.toList_append]
      exact .openFrom (denotes_decimal hn) hn
  | @closed low high m n hlow hhigh hle hn =>
      have hm : m ≤ 32767 := by omega
      by_cases heq : Int16.ofNat m = Int16.ofNat n
      · rw [heq]
        exact hsingle hn
      · have hrender : Range.render ⟨Int16.ofNat m, Int16.ofNat n⟩ =
            decimal (Int16.ofNat m).toInt ++ "-" ++ decimal (Int16.ofNat n).toInt := by
          simp [Range.render, isEmpty, isOpen, ofNat_ne_noVersion hm, ofNat_ne_noVersion hn, heq]
        rw [hrender, String.toList_append, String.toList_append, List.append_assoc]
        exact .closed (denotes_decimal hm) (denotes_decimal hn) hle hn

end WireSchema.Version.Range

namespace WireSchema.Schema

open WireSchema.Version

theorem parseRange_eq_ok {text : String} {r : Range} : parseRange text = .ok r ↔ Range.Spells text.toList r := by
  rw [← Range.parse_eq_ok, parseRange]
  cases Range.parse text <;> simp [Except.mapError]

/-- A text is read as a range just when it is one of the four forms, and as the range that this form stands for. In
every other case the error carries the text. -/
theorem parseRange_exact (text : String) :
    (∀ r, parseRange text = .ok r ↔ Range.Spells text.toList r) ∧
      ((∃ flaw, parseRange text = .error (.versionRange text flaw)) ↔ ¬∃ r, Range.Spells text.toList r) := by
  refine ⟨fun r => parseRange_eq_ok, ?_⟩
  simp only [← parseRange_eq_ok]
  rw [parseRange]
  cases Range.parse text <;> simp [Except.mapError]

/-- A range that was read is read again from what is written of it, whatever text it came from. Two ranges that
were read are written alike only if they are the same, so not if some version is in just one of them. -/
theorem render_lossless {text : String} {r : Range} (h : parseRange text = .ok r) :
    parseRange r.render = .ok r ∧
      ∀ other r', parseRange other = .ok r' →
        (r.render = r'.render ↔ r = r') ∧ ∀ v, r.contains v ≠ r'.contains v → r.render ≠ r'.render := by
  have hback {text : String} {r : Range} (h : parseRange text = .ok r) : parseRange r.render = .ok r :=
    parseRange_eq_ok.mpr (parseRange_eq_ok.mp h).spells_render
  refine ⟨hback h, fun other r' h' => ?_⟩
  have hinj (hrender : r.render = r'.render) : r = r' := by
    have hsame := hback h
    rw [hrender, hback h'] at hsame
    exact (Except.ok.inj hsame).symm
  refine ⟨⟨hinj, fun heq => heq ▸ rfl⟩, fun v hv hrender => hv ?_⟩
  rw [hinj hrender]

/-- Zeros in front are lost, the bounds are not. -/
theorem render_lossless_zeros :
    parseRange "007-0010" = .ok ⟨7, 10⟩ ∧ Range.render ⟨7, 10⟩ = "7-10" ∧ parseRange "7-10" = .ok ⟨7, 10⟩ ∧
      Range.render ⟨7, 10⟩ ≠ Range.render ⟨7, -1⟩ := by
  have hzeros : parseRange "007-0010" = .ok ⟨7, 10⟩ := by rfl
  have hopen : parseRange "07+" = .ok ⟨7, -1⟩ := by rfl
  have hrender : Range.render ⟨7, 10⟩ = "7-10" := by rfl
  obtain ⟨hback, hothers⟩ := render_lossless hzeros
  exact ⟨hzeros, hrender, hrender ▸ hback, (hothers _ _ hopen).2 11 (by decide)⟩

end WireSchema.Schema
