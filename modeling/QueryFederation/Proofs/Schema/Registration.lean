import Mathlib
import QueryFederation.Proofs.Order
import QueryFederation.Schema.LabelIndex

/-! What a table of namespace labels holds after any registrations: a label stands for the address
of its latest registration, and an address has its labels in the order of these. Two maps, one for
each direction, give the same answers. -/
namespace QueryFederation.Schema

variable {registrations : List (String × String)} {label other address place : String}

/- The last of the registrations of a label, with its place among all registrations. -/
structure IsLatest (registrations : List (String × String)) (label address : String) (time : Nat) :
    Prop where
  made : registrations[time]? = some (label, address)
  last : ∀ later, time < later → ∀ place, registrations[later]? ≠ some (label, place)

structure Consistent (registrations : List (String × String)) (address? : String → Option String)
    (labels : String → List String) (size : Nat) : Prop where
  inverse : ∀ label address, label ∈ labels address ↔ address? label = some address
  latest : ∀ label address,
    address? label = some address ↔ ∃ time, IsLatest registrations label address time
  unrepeated : ∀ address, (labels address).Nodup
  inOrder : ∀ address, (labels address).Pairwise fun earlier later => ∃ i j, i < j ∧
    IsLatest registrations earlier address i ∧ IsLatest registrations later address j
  counted : size = (registrations.map Prod.fst).toFinset.card

section Latest

theorem latestAdded {time : Nat} :
    IsLatest (registrations ++ [(label, address)]) label place time ↔
      time = registrations.length ∧ place = address := by
  constructor
  · rintro ⟨made, last⟩
    have within : time < (registrations ++ [(label, address)]).length :=
      (List.getElem?_eq_some_iff.mp made).1
    have final : time = registrations.length := by
      by_contra early
      refine last registrations.length ?_ address (by simp)
      rw [List.length_append, List.length_singleton] at within
      omega
    subst final
    simpa [eq_comm] using made
  · rintro ⟨rfl, rfl⟩
    refine ⟨by simp, fun later after place => ?_⟩
    rw [List.getElem?_eq_none]
    · exact fun none => nomatch none
    · rw [List.length_append, List.length_singleton]
      omega

theorem latestKept {time : Nat} (apart : other ≠ label) :
    IsLatest (registrations ++ [(label, address)]) other place time ↔
      IsLatest registrations other place time := by
  have same (index : Nat) (there : String) :
      (registrations ++ [(label, address)])[index]? = some (other, there) ↔
        registrations[index]? = some (other, there) := by
    rcases lt_trichotomy index registrations.length with before | rfl | beyond
    · rw [List.getElem?_append_left before]
    · simp [apart.symm]
    · have short : (registrations ++ [(label, address)]).length ≤ index := by
        rw [List.length_append, List.length_singleton]
        omega
      rw [List.getElem?_eq_none short, List.getElem?_eq_none (Nat.le_of_lt beyond)]
  constructor
  · rintro ⟨made, last⟩
    exact ⟨(same _ _).mp made, fun later after there => mt (same _ _).mpr (last later after there)⟩
  · rintro ⟨made, last⟩
    exact ⟨(same _ _).mpr made, fun later after there => mt (same _ _).mp (last later after there)⟩

end Latest

namespace Namespaces
variable {table : Namespaces}

theorem registerAllAppend :
    table.registerAll (registrations ++ [(label, address)]) =
      (table.registerAll registrations).register label address := by
  rw [registerAll, List.foldl_append]
  rfl

theorem registerAddress :
    (table.register label address).address? other =
      if other = label then some address else table.address? other := by
  have others := Order.lookupFilter table.entries (· ≠ label) other
  rw [register, address?, List.lookup_append, others]
  by_cases same : other = label
  · simp [same]
  · have apart : (other == label) = false := by simpa using same
    simp [same, apart, address?, List.lookup_cons]

theorem registerLabels :
    (table.register label address).labels place =
      (table.labels place).filter (· ≠ label) ++ if address = place then [label] else [] := by
  unfold register labels
  rw [List.filter_append, List.map_append, List.filter_map, List.filter_filter, List.filter_filter]
  congr 2
  · congr 1
    funext entry
    exact Bool.and_comm _ _
  · by_cases same : address = place <;> simp [same]

/- No label is entered twice. -/
def Unrepeated (table : Namespaces) : Prop := (table.entries.map Prod.fst).Nodup

theorem registerUnrepeated (unrepeated : table.Unrepeated) :
    (table.register label address).Unrepeated := by
  unfold Unrepeated register
  rw [List.map_append, List.nodup_append]
  refine ⟨unrepeated.sublist (List.filter_sublist.map _), by simp, ?_⟩
  intro name kept last final same
  obtain ⟨entry, inside, rfl⟩ := List.mem_map.mp kept
  rw [List.map_singleton, List.mem_singleton] at final
  exact of_decide_eq_true (List.mem_filter.mp inside).2 (same.trans final)

theorem registerAllUnrepeated (registrations : List (String × String)) :
    (registerAll {} registrations).Unrepeated := by
  induction registrations using List.reverseRecOn with
  | nil => exact List.nodup_nil
  | append_singleton earlier entry ih =>
    rw [registerAllAppend]
    exact registerUnrepeated ih

theorem memLabels : label ∈ table.labels address ↔ (label, address) ∈ table.entries := by
  simp [labels]

theorem addressMember (unrepeated : table.Unrepeated) :
    table.address? label = some address ↔ (label, address) ∈ table.entries :=
  Order.lookupMember unrepeated

/- The two directions of the table say the same. -/
theorem labelled (unrepeated : table.Unrepeated) :
    label ∈ table.labels address ↔ table.address? label = some address :=
  memLabels.trans (addressMember unrepeated).symm

theorem labelsUnrepeated (unrepeated : table.Unrepeated) : (table.labels address).Nodup :=
  unrepeated.sublist (List.filter_sublist.map _)

theorem memRegistered :
    label ∈ (registerAll {} registrations).entries.map Prod.fst ↔
      label ∈ registrations.map Prod.fst := by
  induction registrations using List.reverseRecOn with
  | nil => rfl
  | append_singleton earlier entry ih =>
    rw [registerAllAppend, register, List.map_append, List.map_append, List.mem_append,
      List.mem_append, ← ih]
    by_cases same : label = entry.1
    · simp [same]
    · simp [same]

theorem registeredSize :
    (registerAll {} registrations).size = (registrations.map Prod.fst).toFinset.card := by
  have unrepeated := registerAllUnrepeated registrations
  have labels : ((registerAll {} registrations).entries.map Prod.fst).toFinset =
      (registrations.map Prod.fst).toFinset := by
    ext label
    rw [List.mem_toFinset, List.mem_toFinset, memRegistered]
  rw [← labels, List.toFinset_card_of_nodup unrepeated, List.length_map]
  rfl

end Namespaces

section Registering
variable (registrations)

theorem addressLatest :
    (Namespaces.registerAll {} registrations).address? label = some address ↔
      ∃ time, IsLatest registrations label address time := by
  induction registrations using List.reverseRecOn generalizing label address with
  | nil =>
    refine iff_of_false (fun none => nomatch none) ?_
    rintro ⟨time, made, -⟩
    simp at made
  | append_singleton earlier entry ih =>
    obtain ⟨name, place⟩ := entry
    rw [Namespaces.registerAllAppend, Namespaces.registerAddress]
    split
    · rename_i same
      subst same
      simp [latestAdded, eq_comm]
    · rename_i apart
      rw [ih]
      exact exists_congr fun time => (latestKept apart).symm

theorem labelsInOrder :
    ((Namespaces.registerAll {} registrations).labels address).Pairwise fun earlier later =>
      ∃ i j, i < j ∧ IsLatest registrations earlier address i ∧
        IsLatest registrations later address j := by
  induction registrations using List.reverseRecOn with
  | nil => exact .nil
  | append_singleton earlier entry ih =>
    obtain ⟨name, place⟩ := entry
    have known := Namespaces.registerAllUnrepeated earlier
    have others (label : String) (kept : label ∈
        ((Namespaces.registerAll {} earlier).labels address).filter (· ≠ name)) :
        label ≠ name ∧ ∃ time, IsLatest earlier label address time := by
      obtain ⟨listed, apart⟩ := List.mem_filter.mp kept
      exact ⟨of_decide_eq_true apart,
        (addressLatest earlier).mp ((Namespaces.labelled known).mp listed)⟩
    rw [Namespaces.registerAllAppend, Namespaces.registerLabels, List.pairwise_append]
    refine ⟨?_, by split <;> simp, ?_⟩
    · refine (ih.filter _).imp_of_mem fun first second ⟨i, j, before, one, two⟩ => ?_
      exact ⟨i, j, before, (latestKept (others _ first).1).mpr one,
        (latestKept (others _ second).1).mpr two⟩
    · intro label kept last added
      split at added
      · rename_i same
        subst same
        rw [List.mem_singleton] at added
        subst added
        obtain ⟨apart, time, latest⟩ := others label kept
        have early : time < earlier.length := (List.getElem?_eq_some_iff.mp latest.made).1
        exact ⟨time, earlier.length, early, (latestKept apart).mpr latest,
          latestAdded.mpr ⟨rfl, rfl⟩⟩
      · exact absurd added List.not_mem_nil

theorem tableConsistent :
    Consistent registrations (Namespaces.registerAll {} registrations).address?
      (Namespaces.registerAll {} registrations).labels
      (Namespaces.registerAll {} registrations).size where
  inverse _ _ := Namespaces.labelled (Namespaces.registerAllUnrepeated registrations)
  latest _ _ := addressLatest registrations
  unrepeated _ := Namespaces.labelsUnrepeated (Namespaces.registerAllUnrepeated registrations)
  inOrder _ := labelsInOrder registrations
  counted := Namespaces.registeredSize

end Registering

namespace LabelIndex

/- The two maps answer what the table does. -/
structure Mirrors (index : LabelIndex) (table : Namespaces) : Prop where
  address : ∀ label, index.address? label = table.address? label
  labels : ∀ address, index.labels address = table.labels address
  named : index.addresses.keys.Perm (table.entries.map Prod.fst)

variable {index : LabelIndex} {table : Namespaces}

theorem withdrawLabels (lists : AList fun _ : String => List String) :
    ((withdraw lists label address).lookup place).getD [] =
      if place = address then ((lists.lookup place).getD []).filter (· ≠ label)
      else (lists.lookup place).getD [] := by
  unfold withdraw
  split
  · rename_i labels listed
    split
    · rename_i same
      rw [same, AList.lookup_insert, listed]
      rfl
    · rename_i apart
      rw [AList.lookup_insert_ne apart]
  · rename_i unlisted
    split
    · rename_i same
      rw [same, unlisted]
      rfl
    · rfl

theorem enlistLabels (lists : AList fun _ : String => List String) :
    ((enlist lists label address).lookup place).getD [] =
      (lists.lookup place).getD [] ++ if address = place then [label] else [] := by
  unfold enlist
  by_cases same : place = address
  · rw [same, AList.lookup_insert, if_pos rfl]
    rfl
  · rw [AList.lookup_insert_ne same, if_neg (Ne.symm same), List.append_nil]

/- Only the list of the address that the label stood for has the label in it. -/
theorem releasedLabels (unrepeated : table.Unrepeated) (mirrors : index.Mirrors table) :
    ((index.released label).lookup place).getD [] = (table.labels place).filter (· ≠ label) := by
  have without (elsewhere : table.address? label ≠ some place) :
      (table.labels place).filter (· ≠ label) = table.labels place := by
    rw [List.filter_eq_self]
    intro other listed
    refine decide_eq_true fun same => elsewhere ?_
    exact same ▸ (Namespaces.labelled unrepeated).mp listed
  have stood := mirrors.address label
  unfold released
  split
  · rename_i before known
    rw [withdrawLabels, ← labels, mirrors.labels]
    split
    · rfl
    · rename_i apart
      refine (without ?_).symm
      rw [← stood, address?, known]
      exact fun same => apart (Option.some.inj same).symm
  · rename_i unknown
    rw [← labels, mirrors.labels]
    refine (without ?_).symm
    rw [← stood, address?, unknown]
    exact fun none => nomatch none

theorem registerMirrors (unrepeated : table.Unrepeated) (mirrors : index.Mirrors table) :
    (index.register label address).Mirrors (table.register label address) where
  address other := by
    rw [Namespaces.registerAddress, ← mirrors.address, address?, register]
    split
    · rename_i same
      rw [same, AList.lookup_insert]
    · rename_i apart
      exact AList.lookup_insert_ne apart
  labels place := by
    rw [Namespaces.registerLabels, labels, register, enlistLabels,
      releasedLabels unrepeated mirrors]
  named := by
    have others : (table.entries.map Prod.fst).erase label =
        (table.entries.filter fun entry => entry.1 ≠ label).map Prod.fst := by
      rw [List.Nodup.erase_eq_filter unrepeated, List.filter_map]
      congr 1
      refine List.filter_congr fun entry _ => ?_
      by_cases same : entry.1 = label <;> simp [same]
    rw [register, AList.keys_insert, Namespaces.register, List.map_append, ← others]
    exact ((mirrors.named.erase label).cons label).trans (List.perm_append_singleton _ _).symm

theorem registerAllMirrors (registrations : List (String × String)) :
    (registerAll {} registrations).Mirrors (Namespaces.registerAll {} registrations) := by
  induction registrations using List.reverseRecOn with
  | nil => exact ⟨fun _ => rfl, fun _ => rfl, .nil⟩
  | append_singleton earlier entry ih =>
    rw [Namespaces.registerAllAppend, registerAll, List.foldl_append]
    exact registerMirrors (Namespaces.registerAllUnrepeated earlier) ih

end LabelIndex

/- After any registrations the two directions of the table agree, each label stands where it was
last registered, and the labels of an address stand in the order of their last registrations. Two
maps that are written one after the other give the same answers. -/
theorem registeredConsistent (registrations : List (String × String)) :
    Consistent registrations (Namespaces.registerAll {} registrations).address?
        (Namespaces.registerAll {} registrations).labels
        (Namespaces.registerAll {} registrations).size ∧
      (LabelIndex.registerAll {} registrations).address? =
        (Namespaces.registerAll {} registrations).address? ∧
      (LabelIndex.registerAll {} registrations).labels =
        (Namespaces.registerAll {} registrations).labels ∧
      (LabelIndex.registerAll {} registrations).size =
        (Namespaces.registerAll {} registrations).size := by
  have mirrors := LabelIndex.registerAllMirrors registrations
  refine ⟨tableConsistent registrations, funext mirrors.address, funext mirrors.labels, ?_⟩
  exact mirrors.named.length_eq.trans (List.length_map _)

end QueryFederation.Schema
