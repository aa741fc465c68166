import CodeListing.Proofs.Outline.Preorder
import Mathlib.Data.List.Nodup

/-!
# Addresses in a forest

Symbols of a forest may be alike in everything, so they are told apart by where they stand: an
`Address` is a list of indices, one for each level on the way down, and the symbols inside a symbol
are those at the longer addresses that begin with its own (`PlacedSymbol.StandsAt`).

`Symbol.addressed` lists the symbols of a forest in pre-order together with their addresses. Each
symbol is listed at its address (`Symbol.mem_addressed_iff`), and the order of the addresses is the
lexicographic one (`Symbol.pairwise_addressed`), in which a symbol comes before what is inside it.
-/

namespace CodeListing

/-- Where a symbol stands in a forest: the index of its tree, and at each further level the index
among the children. -/
abbrev Address := List Nat

namespace PlacedSymbol

/-- A symbol stands at an address of a forest. -/
inductive StandsAt : List Symbol → Address → PlacedSymbol → Prop where
  | here {forest : List Symbol} {i : Nat} {s : Symbol} (h : forest[i]? = some s) :
      StandsAt forest [i] ⟨[], s⟩
  | inside {forest children : List Symbol} {i : Nat} {heading : Heading} {address : Address}
      {placed : PlacedSymbol} (h : forest[i]? = some (.hierarchical heading (some children)))
      (below : StandsAt children address placed) :
      StandsAt forest (i :: address) (placed.under heading.name)

variable {forest : List Symbol} {address : Address} {placed placed' : PlacedSymbol}

theorem StandsAt.ne_nil (h : StandsAt forest address placed) : address ≠ [] := by
  cases h <;> exact List.cons_ne_nil _ _

/-- What stands below the top level stands inside a hierarchical symbol. -/
theorem StandsAt.exists_inside {i : Nat} (h : StandsAt forest (i :: address) placed)
    (hne : address ≠ []) :
    ∃ heading children inner, forest[i]? = some (.hierarchical heading (some children)) ∧
      StandsAt children address inner ∧ placed = inner.under heading.name := by
  cases h with
  | here _ => exact absurd rfl hne
  | inside hs below => exact ⟨_, _, _, hs, below, rfl⟩

/-- One symbol stands at an address. -/
theorem StandsAt.unique (h : StandsAt forest address placed)
    (h' : StandsAt forest address placed') : placed = placed' := by
  induction h generalizing placed' with
  | here hs =>
    cases h' with
    | here hs' => rw [Option.some.inj (hs.symm.trans hs')]
    | inside _ below => exact absurd rfl below.ne_nil
  | inside hs below ih =>
    obtain ⟨heading, children, inner, hs', below', rfl⟩ := h'.exists_inside below.ne_nil
    obtain ⟨rfl, hchildren⟩ := Symbol.hierarchical.inj (Option.some.inj (hs.symm.trans hs'))
    obtain rfl := Option.some.inj hchildren
    rw [ih below']

end PlacedSymbol

/-! ## Pre-order with addresses -/

namespace Symbol

mutual

/-- A symbol and all that is inside it, in pre-order, if it has index `i` on its level. -/
def addressedFrom (i : Nat) : Symbol → List (Address × PlacedSymbol)
  | .hierarchical heading children =>
    ([i], ⟨[], .hierarchical heading children⟩) ::
      (addressedChildren children).map (Prod.map (i :: ·) (PlacedSymbol.under heading.name))
  | .flat symbol => [([i], ⟨[], .flat symbol⟩)]

def addressedChildren : Option (List Symbol) → List (Address × PlacedSymbol)
  | none => []
  | some children => addressed 0 children

/-- All symbols of a forest, in pre-order, if its trees are counted from `i`. -/
def addressed (i : Nat) : List Symbol → List (Address × PlacedSymbol)
  | [] => []
  | s :: ss => addressedFrom i s ++ addressed (i + 1) ss

end

variable {forest : List Symbol} {address : Address} {placed : PlacedSymbol}

mutual

theorem map_snd_addressedFrom (i : Nat) : ∀ s : Symbol,
    (addressedFrom i s).map Prod.snd = preorderFrom s
  | .hierarchical heading children => by
    rw [addressedFrom, preorderFrom, ← map_snd_addressedChildren children, List.map_cons,
      List.map_map, List.map_map]
    rfl
  | .flat symbol => rfl

theorem map_snd_addressedChildren : ∀ children : Option (List Symbol),
    (addressedChildren children).map Prod.snd = preorderChildren children
  | none => rfl
  | some children => by
    rw [addressedChildren, preorderChildren, map_snd_addressed 0 children]

theorem map_snd_addressed (i : Nat) : ∀ forest : List Symbol,
    (addressed i forest).map Prod.snd = preorder forest
  | [] => rfl
  | s :: ss => by
    rw [addressed, preorder, List.map_append, map_snd_addressedFrom i s,
      map_snd_addressed (i + 1) ss]

end

/-! ### Every symbol is listed at its address -/

theorem head_mem_addressedFrom (i : Nat) (s : Symbol) : ([i], ⟨[], s⟩) ∈ addressedFrom i s := by
  cases s with
  | hierarchical heading children => exact List.mem_cons_self
  | flat symbol => exact List.mem_cons_self

theorem addressedFrom_subset {i k : Nat} {s : Symbol} (h : forest[k]? = some s) :
    addressedFrom (i + k) s ⊆ addressed i forest := by
  induction forest generalizing i k with
  | nil => simp at h
  | cons first rest ih =>
    rw [addressed]
    cases k with
    | zero =>
      obtain rfl : first = s := by simpa using h
      exact List.subset_append_left _ _
    | succ k =>
      have hk : i + (k + 1) = i + 1 + k := by omega
      rw [hk]
      exact List.Subset.trans (ih (by simpa using h)) (List.subset_append_right _ _)

theorem mem_addressed_of_standsAt (h : placed.StandsAt forest address) :
    (address, placed) ∈ addressed 0 forest := by
  induction h with
  | @here forest i s hs =>
    have hsubset := addressedFrom_subset (i := 0) hs
    rw [Nat.zero_add] at hsubset
    exact hsubset (head_mem_addressedFrom i s)
  | @inside forest children i heading address placed hs _ ih =>
    have hsubset := addressedFrom_subset (i := 0) hs
    rw [Nat.zero_add, addressedFrom] at hsubset
    exact hsubset (List.mem_cons_of_mem _ (List.mem_map_of_mem ih))

-- The recursion is that of the listing; a level is known by what is left of it from index `i` on.
mutual

theorem standsAt_of_mem_addressedFrom {forest : List Symbol} {i : Nat} :
    ∀ s : Symbol, forest[i]? = some s →
      ∀ e ∈ addressedFrom i s, e.2.StandsAt forest e.1
  | .hierarchical heading children, hs, e, he => by
    rw [addressedFrom] at he
    rcases List.mem_cons.mp he with rfl | he
    · exact .here hs
    · obtain ⟨below, hbelow, rfl⟩ := List.mem_map.mp he
      obtain ⟨inner, rfl, hstands⟩ := standsAt_of_mem_addressedChildren children below hbelow
      exact .inside hs hstands
  | .flat symbol, hs, e, he => by
    obtain rfl := List.mem_singleton.mp he
    exact .here hs

theorem standsAt_of_mem_addressedChildren :
    ∀ children : Option (List Symbol), ∀ e ∈ addressedChildren children,
      ∃ inner, children = some inner ∧ e.2.StandsAt inner e.1
  | none, _, he => absurd he List.not_mem_nil
  | some children, e, he =>
    ⟨children, rfl, standsAt_of_mem_addressed children 0 rfl e he⟩

theorem standsAt_of_mem_addressed {forest : List Symbol} :
    ∀ (ss : List Symbol) (i : Nat), forest.drop i = ss →
      ∀ e ∈ addressed i ss, e.2.StandsAt forest e.1
  | [], _, _, _, he => absurd he List.not_mem_nil
  | s :: ss, i, hdrop, e, he => by
    have hs : forest[i]? = some s := by
      rw [← List.head?_drop, hdrop]
      rfl
    have hrest : forest.drop (i + 1) = ss := by
      rw [← List.tail_drop, hdrop]
      rfl
    rw [addressed] at he
    rcases List.mem_append.mp he with he | he
    · exact standsAt_of_mem_addressedFrom s hs e he
    · exact standsAt_of_mem_addressed ss (i + 1) hrest e he

end

/-- What is listed with an address is the symbol that stands there. -/
theorem mem_addressed_iff :
    (address, placed) ∈ addressed 0 forest ↔ placed.StandsAt forest address :=
  ⟨standsAt_of_mem_addressed forest 0 rfl _, mem_addressed_of_standsAt⟩

/-! ### The order of addresses -/

/-- What is inside a symbol comes after it. -/
theorem lt_append_of_ne_nil {below : Address} (h : below ≠ []) :
    ∀ address : Address, address < address ++ below
  | [] => by
    obtain ⟨j, rest, rfl⟩ := List.exists_cons_of_ne_nil h
    exact List.nil_lt_cons j rest
  | _ :: address => List.cons_lt_cons_self.mpr (lt_append_of_ne_nil h address)

theorem exists_cons_of_mem_addressedFrom {i : Nat} {s : Symbol} {e : Address × PlacedSymbol}
    (he : e ∈ addressedFrom i s) : ∃ below, e.1 = i :: below := by
  cases s with
  | hierarchical heading children =>
    rcases List.mem_cons.mp he with rfl | he
    · exact ⟨[], rfl⟩
    · obtain ⟨inner, -, rfl⟩ := List.mem_map.mp he
      exact ⟨inner.1, rfl⟩
  | flat symbol =>
    obtain rfl := List.mem_singleton.mp he
    exact ⟨[], rfl⟩

theorem exists_cons_of_mem_addressed {i : Nat} {e : Address × PlacedSymbol}
    (he : e ∈ addressed i forest) : ∃ j below, i ≤ j ∧ e.1 = j :: below := by
  induction forest generalizing i with
  | nil => exact absurd he List.not_mem_nil
  | cons s ss ih =>
    rw [addressed] at he
    rcases List.mem_append.mp he with he | he
    · obtain ⟨below, hbelow⟩ := exists_cons_of_mem_addressedFrom he
      exact ⟨i, below, Nat.le_refl i, hbelow⟩
    · obtain ⟨j, below, hj, hbelow⟩ := ih he
      exact ⟨j, below, by omega, hbelow⟩

mutual

theorem pairwise_addressedFrom (i : Nat) : ∀ s : Symbol,
    (addressedFrom i s).Pairwise fun x y => x.1 < y.1
  | .hierarchical heading children => by
    rw [addressedFrom]
    refine .cons ?_ (List.pairwise_map.mpr ?_)
    · intro e he
      obtain ⟨inner, hinner, rfl⟩ := List.mem_map.mp he
      obtain ⟨_, -, hstands⟩ := standsAt_of_mem_addressedChildren children inner hinner
      exact lt_append_of_ne_nil hstands.ne_nil [i]
    · refine (pairwise_addressedChildren children).imp fun hxy => ?_
      exact List.cons_lt_cons_self.mpr hxy
  | .flat symbol => List.pairwise_singleton _ _

theorem pairwise_addressedChildren : ∀ children : Option (List Symbol),
    (addressedChildren children).Pairwise fun x y => x.1 < y.1
  | none => .nil
  | some children => pairwise_addressed 0 children

/-- Symbols are listed by their addresses. -/
theorem pairwise_addressed (i : Nat) : ∀ forest : List Symbol,
    (addressed i forest).Pairwise fun x y => x.1 < y.1
  | [] => .nil
  | s :: ss => by
    rw [addressed, List.pairwise_append]
    refine ⟨pairwise_addressedFrom i s, pairwise_addressed (i + 1) ss, ?_⟩
    intro x hx y hy
    obtain ⟨below, hx⟩ := exists_cons_of_mem_addressedFrom hx
    obtain ⟨j, below', hj, hy⟩ := exists_cons_of_mem_addressed hy
    rw [hx, hy, List.cons_lt_cons_iff]
    exact .inl (by omega)

end

end Symbol

end CodeListing
