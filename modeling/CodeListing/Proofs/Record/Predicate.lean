import CodeListing.Record.Visibility

/-!
# What a predicate keeps

The records of a list that are shown, for any predicate: lists are gone through one after the other,
so what is kept of two lists is kept of each of them, with the verdicts in the same order. Something
is kept just if there is a verdict on every record, and then it is the records that are accepted, in
their order (`keep_eq_ok_iff`). A predicate that neither crashes nor depends on anything but the
record keeps the records of a list that satisfy it.
-/

namespace CodeListing.Visibility

theorem keep_cons (accepts : Visibility) (r : Record) (rs : List Record) :
    accepts.keep (r :: rs) =
      (do
        let shown ← accepts r
        let rest ← accepts.keep rs
        return if shown then r :: rest else rest) := rfl

theorem keep_append (accepts : Visibility) (front back : List Record) :
    accepts.keep (front ++ back) =
      (do
        let shown ← accepts.keep front
        let more ← accepts.keep back
        return shown ++ more) := by
  induction front with
  | nil =>
    show _ = (accepts.keep back >>= pure)
    rw [bind_pure, List.nil_append]
  | cons r rs ih =>
    rw [List.cons_append, keep_cons, keep_cons, ih]
    cases accepts r with
    | error e => rfl
    | ok shown =>
      cases accepts.keep rs with
      | error e => rfl
      | ok rest =>
        cases accepts.keep back with
        | error e => rfl
        | ok more => cases shown <;> rfl

/-- Whether a record is accepted: there is a verdict, and it is that the record is shown. -/
def shows (accepts : Visibility) (r : Record) : Bool := (accepts r).toOption == some true

theorem shows_iff {accepts : Visibility} {r : Record} :
    accepts.shows r = true ↔ accepts r = .ok true := by
  rw [shows]
  cases accepts r <;> simp [Except.toOption]

theorem keep_eq_ok_iff {accepts : Visibility} {records kept : List Record} :
    accepts.keep records = .ok kept ↔
      (∀ r ∈ records, ∃ shown, accepts r = .ok shown) ∧ kept = records.filter accepts.shows := by
  induction records generalizing kept with
  | nil =>
    constructor
    · intro h
      exact ⟨fun r hr => absurd hr List.not_mem_nil, (Except.ok.inj h).symm⟩
    · rintro ⟨-, rfl⟩
      rfl
  | cons r rs ih =>
    rw [keep_cons, List.forall_mem_cons]
    cases hr : accepts r with
    | error e => simp [bind, Except.bind]
    | ok shown =>
      have hshows : accepts.shows r = shown := by
        rw [shows, hr]
        cases shown <;> rfl
      cases hrs : accepts.keep rs with
      | error e =>
        constructor
        · intro h
          cases h
        · rintro ⟨⟨-, hall⟩, -⟩
          cases hrs.symm.trans (ih.mpr ⟨hall, rfl⟩)
      | ok rest =>
        obtain ⟨hall, rfl⟩ := ih.mp hrs
        constructor
        · intro h
          refine ⟨⟨⟨shown, rfl⟩, hall⟩, ?_⟩
          rw [← Except.ok.inj h, List.filter_cons, hshows]
        · rintro ⟨-, rfl⟩
          rw [List.filter_cons, hshows]
          rfl

/-- Where the predicate does not see a change of the records, it keeps the changed ones. -/
theorem keep_map {accepts : Visibility} {f : Record → Record} (h : ∀ r, accepts (f r) = accepts r)
    (rs : List Record) : accepts.keep (rs.map f) = (accepts.keep rs).map (List.map f) := by
  induction rs with
  | nil => rfl
  | cons r rs ih =>
    rw [List.map_cons, keep_cons, keep_cons, ih, h]
    cases accepts r with
    | error e => rfl
    | ok shown =>
      cases accepts.keep rs with
      | error e => rfl
      | ok rest => cases shown <;> rfl

/-- Shows the records that satisfy a predicate. -/
def ofPredicate (p : Record → Bool) : Visibility := fun r => .ok (p r)

theorem keep_ofPredicate (p : Record → Bool) (records : List Record) :
    (ofPredicate p).keep records = .ok (records.filter p) := by
  induction records with
  | nil => rfl
  | cons r rs ih =>
    show (Except.ok (p r) >>= fun shown => (ofPredicate p).keep rs >>= fun rest =>
      Except.ok (if shown then r :: rest else rest)) = _
    rw [ih, List.filter_cons]
    rfl

end CodeListing.Visibility
