import CodeListing.Listing.Outline
import CodeListing.Listing.References
import CodeListing.Proofs.Outline.Preorder
import CodeListing.Proofs.Record.Order
import CodeListing.Proofs.References.Records

/-!
# Records carry the context of their request

Whatever a server answers and whichever records are shown, a record of a batch carries the context
of the request that was answered, and no other (`Listing.IsKind.context_of_mem_batchOf`). The
context is handed down to every symbol of an outline and to every place of references; sorting and
leaving out add nothing.
-/

namespace CodeListing

/-- What is shown of records is among them, in their order. -/
theorem Visibility.keep_sublist {accepts : Visibility} {records kept : List Record}
    (h : accepts.keep records = .ok kept) : kept.Sublist records := by
  induction records generalizing kept with
  | nil =>
    obtain rfl : [] = kept := Except.ok.inj h
    exact List.Sublist.slnil
  | cons r rs ih =>
    obtain ⟨shown, -, h⟩ := bind_eq_ok_iff.mp h
    obtain ⟨rest, hrest, h⟩ := bind_eq_ok_iff.mp h
    obtain rfl : (if shown then r :: rest else rest) = kept := Except.ok.inj h
    cases shown with
    | true => exact (ih hrest).cons_cons r
    | false => exact (ih hrest).cons r

theorem Record.mem_sort {r : Record} {records : List Record} :
    r ∈ Record.sort records ↔ r ∈ records :=
  (List.mergeSort_perm records _).mem_iff

/-! ## Outlines -/

theorem Symbol.context_of_record {s : Symbol} {scope : Scope} {context : RequestContext}
    {layout : OutlineLayout} {r : Record} (h : s.record scope context layout = .ok r) :
    r.context = context := by
  obtain ⟨word, -, h⟩ := bind_eq_ok_iff.mp h
  obtain rfl := Except.ok.inj h
  rfl

namespace Outline

variable {context : RequestContext} {layout : OutlineLayout} {accepts : Visibility}
  {records : List Record}

theorem context_of_mem_own {scope : Scope} {s : Symbol}
    (h : own context layout accepts scope s = .ok records) :
    ∀ r ∈ records, r.context = context := by
  obtain ⟨record, hrecord, h⟩ := bind_eq_ok_iff.mp h
  obtain ⟨shown, -, h⟩ := bind_eq_ok_iff.mp h
  obtain rfl : (if shown then [record] else []) = records := Except.ok.inj h
  intro r hr
  cases shown with
  | true =>
    obtain rfl := List.mem_singleton.mp hr
    exact Symbol.context_of_record hrecord
  | false => exact absurd hr List.not_mem_nil

/-- The records of an outline carry its context, whatever is shown and whatever columns are. -/
theorem context_of_mem_ofSymbols {scope : Scope} {forest : List Symbol}
    (h : ofSymbols context layout accepts scope forest = .ok records) :
    ∀ r ∈ records, r.context = context := by
  rw [ofSymbols_eq_ofPlaces] at h
  obtain ⟨owns, howns, h⟩ := bind_eq_ok_iff.mp h
  obtain rfl : owns.flatten = records := Except.ok.inj h
  intro r hr
  obtain ⟨_, hown, hr⟩ := List.mem_flatten.mp hr
  obtain ⟨i, hi, rfl⟩ := List.getElem_of_mem hown
  have hplaces := mapM_eq_ok_iff.mp howns
  exact context_of_mem_own (hplaces.get (hplaces.length_eq ▸ hi) hi) r hr

end Outline

/-! ## References -/

theorem Location.context_of_mem_records {files : Files} {context : RequestContext}
    {layout : ReferenceLayout} {locations : List Location} {records : List Record}
    (h : (Location.records files context layout locations).result = .ok records) :
    ∀ r ∈ records, r.context = context := by
  intro r hr
  obtain ⟨i, hi, rfl⟩ := List.getElem_of_mem hr
  have hrecords := forall₂_of_records_eq_ok h
  exact (hrecords.get (hrecords.length_eq ▸ hi) hi).context_eq

/-! ## Listings -/

namespace Listing

/-- The kinds of listing that there are. -/
inductive IsKind : Listing → Prop where
  | outline (config : OutlineConfig) (settings : Settings) : IsKind (.outline config settings)
  | references (config : ReferenceConfig) (settings : Settings) :
      IsKind (.references config settings)

variable {listing : Listing} {around : Surroundings} {context : RequestContext} {origin : Origin}
  {response : Json} {batch : Batch}

/-- Every record of a batch carries the context of the request that was answered. -/
theorem IsKind.context_of_mem_batchOf (kind : listing.IsKind)
    (made : (listing.batchOf around context origin response).result = .ok batch) :
    ∀ r ∈ batch, r.context = context := by
  intro r hr
  cases kind with
  | outline config settings =>
    obtain ⟨shown, hshown, hbatch⟩ := bind_eq_ok_iff.mp (Fault.ofCrash_eq_ok.mp made)
    obtain rfl : Record.sort shown = batch := Except.ok.inj hbatch
    exact Outline.context_of_mem_ofSymbols hshown r (Record.mem_sort.mp hr)
  | references config settings =>
    obtain ⟨records, hrecords, hkept⟩ := bind_eq_ok_iff.mp made
    have hmem : r ∈ Record.sort records :=
      (Visibility.keep_sublist (Fault.ofCrash_eq_ok.mp hkept)).subset hr
    exact Location.context_of_mem_records hrecords r (Record.mem_sort.mp hmem)

end Listing

end CodeListing
