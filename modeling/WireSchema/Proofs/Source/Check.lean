import WireSchema.Source.Check
import WireSchema.Source.Compile

/-!
When a sheet passes its check. The characters of a sheet are at hand, so the check is one of a list of characters
and can be evaluated as such.
-/

namespace WireSchema

namespace Grammar

/-- Where a list of characters stops being well formed, if it does. -/
def faultIn (cs : List Char) : Option Location :=
  match lex (locate (withoutPreface cs)) with
  | .error p => some p
  | .ok trees =>
    match file (rulesTo (8 * Trees.size trees + 8)) ⟨trees, Location.start, none⟩ with
    | .error p => some p
    | .ok (_, c) => c.stray

theorem fault?_ofList (cs : List Char) : fault? (String.ofList cs) = faultIn cs := by
  rw [fault?, String.toList_ofList]
  rfl

end Grammar

namespace Source

theorem faults_eq_nil_iff [Parser] (path source : String) : faults path source = [] ↔ Parser.fault? source = none := by
  unfold faults
  cases Parser.fault? source with
  | none => simp
  | some p => cases itemFaults path source <;> simp

/-- A sheet passes its check if it is well formed, whatever its path. -/
theorem Sheet.check_eq_ok_iff [Parser] (s : Sheet) (path : String) :
    s.check path = .ok () ↔ Parser.fault? s.text = none := by
  rw [← faults_eq_nil_iff path]
  unfold check
  cases faults path s.text <;> simp

/-- How the check of a group and the length of its text are evaluated. -/
theorem exists_checked_sheet {runtimePath : String} {messages : List Schema.Message} {n : Nat}
    (h : (compileGroup runtimePath messages).toOption.map
      (fun s => (Grammar.faultIn s.reversed.reverse, s.reversed.length)) = some (none, n)) :
    ∃ s, compileGroup runtimePath messages = .ok s ∧ (∀ path, s.check path = .ok ()) ∧ s.text.length = n := by
  generalize compileGroup runtimePath messages = result at h ⊢
  cases result with
  | error e => cases h
  | ok s =>
      obtain ⟨hfault, hlength⟩ := Prod.mk.inj (Option.some.inj h)
      rw [← Grammar.fault?_ofList] at hfault
      refine ⟨s, rfl, fun path => (s.check_eq_ok_iff path).mpr hfault, ?_⟩
      rw [Sheet.text, String.length_ofList, List.length_reverse, hlength]

end Source

end WireSchema
