import CodeListing.Listing.Basic
import CodeListing.Proofs.Record.Predicate
import CodeListing.Record.Order
import Mathlib.Data.List.Forall2

/-!
# Records that differ in what they show

Two records may differ in their word, or in their word and the line they show, and agree in all the
rest. Such a difference is described by a function that takes the text off a record: records agree
if they are the same without it. It is not seen by the order of a listing (`Record.sort_map`), nor
by a predicate that is blind to text (`Visibility.IsBlind.keep_map`).
-/

namespace CodeListing

namespace Record

/-- The record, whatever its word is. -/
def withoutWord (r : Record) : Record := { r with word := "" }

/-- The record, whatever it shows. -/
def withoutText (r : Record) : Record := { r with word := "", lineText := none }

/-- Changes nothing of a record but what it shows. -/
def ChangesText (f : Record → Record) : Prop := ∀ r, (f r).withoutText = r.withoutText

theorem changesText_withoutWord : ChangesText withoutWord := fun _ => rfl

theorem changesText_withoutText : ChangesText withoutText := fun _ => rfl

theorem ChangesText.range {f : Record → Record} (h : ChangesText f) (r : Record) :
    (f r).range = r.range := by
  show (f r).withoutText.range = r.withoutText.range
  rw [h r]

/-- Records are sorted by where they go, so a change of their text does not move them. -/
theorem sort_map {f : Record → Record} (h : ChangesText f) (records : List Record) :
    sort (records.map f) = (sort records).map f := by
  have hkey : ∀ a ∈ records, ∀ b ∈ records, a.range.start.atOrBefore b.range.start =
      (f a).range.start.atOrBefore (f b).range.start := by
    intro a _ b _
    rw [h.range, h.range]
  exact (@List.map_mergeSort _ _ (fun a b => a.range.start.atOrBefore b.range.start)
    (fun a b => a.range.start.atOrBefore b.range.start) f records hkey).symm

end Record

/-- Gives its verdict without looking at what a record shows. -/
def Visibility.IsBlind (accepts : Visibility) : Prop :=
  ∀ r r' : Record, r.withoutText = r'.withoutText → accepts r = accepts r'

theorem Visibility.IsBlind.keep_map {accepts : Visibility} (h : accepts.IsBlind)
    {f : Record → Record} (hf : Record.ChangesText f) (records : List Record) :
    accepts.keep (records.map f) = (accepts.keep records).map (List.map f) :=
  Visibility.keep_map (fun r => h _ _ (hf r)) records

/-! ## Work that makes records -/

theorem Fault.map_ofCrash {α β : Type} (f : α → β) (work : Except Crash α) :
    (ofCrash work).map f = ofCrash (work.map f) := by
  cases work <;> rfl

/-- A change that the next step commutes with may be made before it. -/
theorem map_bind_of_comm {ε α : Type} {f : α → α} {work : Except ε α} {next : α → Except ε α}
    (h : ∀ a, (next a).map f = next (f a)) : (work >>= next).map f = work.map f >>= next := by
  cases work with
  | error e => rfl
  | ok a => exact h a

theorem map_mapM {ε α β γ : Type} (f : β → γ) (make : α → Except ε β) (xs : List α) :
    (xs.mapM make).map (List.map f) = xs.mapM fun x => (make x).map f := by
  induction xs with
  | nil => rfl
  | cons x xs ih =>
    rw [List.mapM_cons, List.mapM_cons, ← ih]
    cases make x with
    | error e => rfl
    | ok y => cases xs.mapM make <;> rfl

/-- Two attempts at a batch end alike: with batches of which the records at each place are the same
under `f`, or with the same fault. -/
structure AgreeUpTo (f : Record → Record) (work work' : Except Fault Batch) : Prop where
  yields : (∃ batch, work = .ok batch) ↔ ∃ batch', work' = .ok batch'
  records : ∀ batch batch', work = .ok batch → work' = .ok batch' →
    List.Forall₂ (fun r r' => f r = f r') batch batch'
  faults : ∀ fault, work = .error fault ↔ work' = .error fault

theorem AgreeUpTo.of_map_eq {f : Record → Record} {work work' : Except Fault Batch}
    (h : work.map (List.map f) = work'.map (List.map f)) : AgreeUpTo f work work' := by
  cases work with
  | error e =>
    cases work' with
    | error e' =>
      obtain rfl : e = e' := Except.error.inj h
      exact ⟨⟨nofun, nofun⟩, nofun, fun _ => Iff.rfl⟩
    | ok batch' => cases h
  | ok batch =>
    cases work' with
    | error e' => cases h
    | ok batch' =>
      have hbatch : batch.map f = batch'.map f := Except.ok.inj h
      refine ⟨⟨fun _ => ⟨_, rfl⟩, fun _ => ⟨_, rfl⟩⟩, ?_, fun _ => ⟨nofun, nofun⟩⟩
      rintro _ _ ⟨⟩ ⟨⟩
      have hsame : List.Forall₂ (· = ·) (batch.map f) (batch'.map f) :=
        List.forall₂_eq_eq_eq ▸ hbatch
      exact List.forall₂_map_right_iff.mp (List.forall₂_map_left_iff.mp hsame)

end CodeListing
