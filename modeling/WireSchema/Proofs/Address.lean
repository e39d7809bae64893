/-!
Addresses of the entries of a tree, and the order in which the entries are met. An address says which branch to
take at each level, and the addresses are met in the order of a dictionary: one before all that is below it, and
what is below a branch before what is below a later one. A list that has the entries in this order is put
together branch by branch, and what is found first in it is what stands at the least address.
-/

namespace WireSchema

/-- The branches to take, one for each level. -/
abbrev Address := List Nat

namespace Address

variable {α β : Type}

/-- The order in which addresses are met. -/
def Before (p q : Address) : Prop :=
  List.Lex (· < ·) p q

theorem Before.asymm {p q : Address} (h : p.Before q) : ¬ q.Before p := by
  induction h with
  | nil => rintro ⟨⟩
  | cons _ ih =>
      intro h
      cases h with
      | cons h => exact ih h
      | rel h => exact absurd h (Nat.lt_irrefl _)
  | rel hlt =>
      intro h
      cases h with
      | cons h => exact absurd hlt (Nat.lt_irrefl _)
      | rel h => exact absurd hlt (Nat.lt_asymm h)

/-- The same address one branch further on. -/
def later : Address → Address
  | [] => []
  | i :: p => (i + 1) :: p

theorem Before.later {p q : Address} (h : p.Before q) : p.later.Before q.later := by
  cases h with
  | nil => exact .nil
  | cons h => exact .cons h
  | rel h => exact .rel (Nat.succ_lt_succ h)

/-- The list has what stands at the addresses, in the order in which they are met. -/
def Lists (at? : Address → Option α) (l : List α) : Prop :=
  ∃ entries : List (Address × α), entries.map Prod.snd = l ∧ entries.Pairwise (fun a b => a.1.Before b.1) ∧
    ∀ p a, at? p = some a ↔ (p, a) ∈ entries

namespace Lists

variable {at? : Address → Option α} {l : List α}

theorem nil (h : ∀ p, at? p = none) : Lists at? [] :=
  ⟨[], rfl, .nil, fun p a => by simp [h p]⟩

/-- An entry and what is below it. -/
theorem cons {below : Address → Option α} {a : α} (h : Lists below l) (hbelow : below [] = none)
    (htop : at? [] = some a) (hrest : ∀ i p, at? (i :: p) = below (i :: p)) : Lists at? (a :: l) := by
  obtain ⟨entries, rfl, hsorted, hentries⟩ := h
  have hproper : ∀ e ∈ entries, e.1 ≠ [] := by
    rintro ⟨p, b⟩ he rfl
    rw [← hentries, hbelow] at he
    cases he
  refine ⟨([], a) :: entries, rfl, List.pairwise_cons.mpr ⟨fun e he => ?_, hsorted⟩, fun p b => ?_⟩
  · obtain ⟨i, p, hp⟩ := List.exists_cons_of_ne_nil (hproper e he)
    rw [hp]
    exact .nil
  · cases p with
    | nil =>
        rw [htop, List.mem_cons, Option.some.injEq]
        constructor
        · rintro rfl
          exact Or.inl rfl
        · rintro (h | h)
          · cases h
            rfl
          · exact absurd rfl (hproper _ h)
    | cons i p =>
        rw [hrest, hentries, List.mem_cons]
        simp

/-- The first branch and the later ones. -/
theorem append {first others : Address → Option α} {l' : List α} (h : Lists first l) (h' : Lists others l')
    (hothers : others [] = none) (hnil : at? [] = none) (hzero : ∀ p, at? (0 :: p) = first p)
    (hsucc : ∀ i p, at? ((i + 1) :: p) = others (i :: p)) : Lists at? (l ++ l') := by
  obtain ⟨entries, rfl, hsorted, hentries⟩ := h
  obtain ⟨entries', rfl, hsorted', hentries'⟩ := h'
  have hproper : ∀ e ∈ entries', ∃ i p, e.1 = i :: p := by
    rintro ⟨_ | ⟨i, p⟩, b⟩ he
    · rw [← hentries', hothers] at he
      cases he
    · exact ⟨i, p, rfl⟩
  refine ⟨entries.map (fun e => (0 :: e.1, e.2)) ++ entries'.map (fun e => (e.1.later, e.2)), ?_, ?_, fun p a => ?_⟩
  · simp [Function.comp_def]
  · refine List.pairwise_append.mpr ⟨?_, ?_, ?_⟩
    · exact List.pairwise_map.mpr (hsorted.imp fun h => .cons h)
    · exact List.pairwise_map.mpr (hsorted'.imp Before.later)
    · intro e he e' he'
      obtain ⟨e, _, rfl⟩ := List.mem_map.mp he
      obtain ⟨e', hmem, rfl⟩ := List.mem_map.mp he'
      obtain ⟨i, p, hp⟩ := hproper e' hmem
      show Before (0 :: e.1) e'.1.later
      rw [hp]
      exact .rel (Nat.succ_pos i)
  · rw [List.mem_append, List.mem_map, List.mem_map]
    constructor
    · intro hat
      match p with
      | [] => rw [hnil] at hat; cases hat
      | 0 :: p =>
          rw [hzero, hentries] at hat
          exact Or.inl ⟨_, hat, rfl⟩
      | (i + 1) :: p =>
          rw [hsucc, hentries'] at hat
          exact Or.inr ⟨_, hat, rfl⟩
    · rintro (⟨⟨q, b⟩, he, heq⟩ | ⟨⟨q, b⟩, he, heq⟩)
      · cases heq
        rw [hzero]
        exact (hentries q b).mpr he
      · obtain ⟨i, q, rfl⟩ := hproper _ he
        cases heq
        show at? ((i + 1) :: q) = some b
        rw [hsucc]
        exact (hentries' (i :: q) b).mpr he

/-- One branch for each item. -/
theorem flatMap {items : List β} {branch : β → Address → Option α} {f : β → List α}
    (h : ∀ x ∈ items, Lists (branch x) (f x)) (hnil : at? [] = none)
    (hcons : ∀ i p, at? (i :: p) = items[i]?.bind (branch · p)) : Lists at? (items.flatMap f) := by
  induction items generalizing at? with
  | nil =>
      refine Lists.nil fun p => ?_
      cases p with
      | nil => exact hnil
      | cons i p => rw [hcons]; rfl
  | cons x items ih =>
      have hothers : Lists (fun | [] => none | i :: p => items[i]?.bind (branch · p)) (items.flatMap f) :=
        ih (fun y hy => h y (List.mem_cons_of_mem x hy)) rfl fun _ _ => rfl
      rw [List.flatMap_cons]
      refine (h x List.mem_cons_self).append hothers rfl hnil (fun p => ?_) fun i p => ?_
      · rw [hcons]
        rfl
      · rw [hcons, List.getElem?_cons_succ]

theorem map (h : Lists at? l) (f : α → β) : Lists (fun p => (at? p).map f) (l.map f) := by
  obtain ⟨entries, rfl, hsorted, hentries⟩ := h
  refine ⟨entries.map fun e => (e.1, f e.2), ?_, List.pairwise_map.mpr hsorted, fun p b => ?_⟩
  · rw [List.map_map, List.map_map]
    rfl
  · rw [Option.map_eq_some_iff, List.mem_map]
    constructor
    · rintro ⟨a, ha, rfl⟩
      exact ⟨(p, a), (hentries p a).mp ha, rfl⟩
    · rintro ⟨⟨q, a⟩, he, heq⟩
      cases heq
      exact ⟨a, (hentries q a).mpr he, rfl⟩

theorem mem_iff (h : Lists at? l) {a : α} : a ∈ l ↔ ∃ p, at? p = some a := by
  obtain ⟨entries, rfl, -, hentries⟩ := h
  simp [hentries]

/-- What is found first in the list is found at an address before which nothing is found. -/
theorem findSome?_eq_some (h : Lists at? l) {f : α → Option β} {b : β} :
    l.findSome? f = some b ↔
      ∃ p a, at? p = some a ∧ f a = some b ∧ ∀ q, q.Before p → ∀ a', at? q = some a' → f a' = none := by
  obtain ⟨entries, rfl, hsorted, hentries⟩ := h
  rw [List.findSome?_eq_some_iff]
  constructor
  · rintro ⟨front, a, back, hsplit, hfound, hfront⟩
    obtain ⟨earlier, more, rfl, rfl, hmore⟩ := List.map_eq_append_iff.mp hsplit
    obtain ⟨⟨p, a⟩, others, rfl, rfl, rfl⟩ := List.map_eq_cons_iff.mp hmore
    refine ⟨p, a, (hentries p a).mpr (by simp), hfound, fun q hbefore a' ha' => ?_⟩
    obtain ⟨-, hlater, -⟩ := List.pairwise_append.mp hsorted
    have hlater := (List.pairwise_cons.mp hlater).1
    rcases List.mem_append.mp ((hentries q a').mp ha') with hmem | hmem
    · exact hfront a' (List.mem_map.mpr ⟨_, hmem, rfl⟩)
    · rcases List.mem_cons.mp hmem with heq | hmem
      · cases heq
        exact absurd hbefore hbefore.asymm
      · exact absurd hbefore (hlater _ hmem).asymm
  · rintro ⟨p, a, ha, hfound, hnone⟩
    obtain ⟨earlier, others, rfl⟩ := List.append_of_mem ((hentries p a).mp ha)
    refine ⟨earlier.map Prod.snd, a, others.map Prod.snd, by simp, hfound, fun a' ha' => ?_⟩
    obtain ⟨⟨q, a'⟩, hmem, rfl⟩ := List.mem_map.mp ha'
    have hbefore := (List.pairwise_append.mp hsorted).2.2 _ hmem _ List.mem_cons_self
    exact hnone q hbefore a' ((hentries q a').mpr (List.mem_append_left _ hmem))

/-- Something is found in the list if something is found at an address. -/
theorem exists_findSome?_eq_some (h : Lists at? l) {f : α → Option β} :
    (∃ b, l.findSome? f = some b) ↔ ∃ p a, at? p = some a ∧ f a ≠ none := by
  rw [← Option.ne_none_iff_exists', Ne, List.findSome?_eq_none_iff]
  constructor
  · intro hnot
    obtain ⟨a, ha⟩ := Classical.not_forall.mp hnot
    obtain ⟨hmem, hfound⟩ := Classical.not_imp.mp ha
    obtain ⟨p, hp⟩ := h.mem_iff.mp hmem
    exact ⟨p, a, hp, hfound⟩
  · rintro ⟨p, a, hp, hfound⟩ hall
    exact hfound (hall a (h.mem_iff.mpr ⟨p, hp⟩))

end Lists

/-- The first find in a list that is put together from parts is that of the first part with one. -/
theorem findSome?_flatMap {γ : Type} (f : α → List β) (g : β → Option γ) (items : List α) :
    (items.flatMap f).findSome? g = items.findSome? fun a => (f a).findSome? g := by
  induction items with
  | nil => rfl
  | cons a items ih =>
      rw [List.flatMap_cons, List.findSome?_append, ih, List.findSome?_cons]
      cases (f a).findSome? g <;> rfl

end Address

end WireSchema
