import QueryFederation.Order.Distinct
import QueryFederation.Order.Repeat

/-! Lists without repeats: what is in them, and which member of a list is the first repeated one. Of
a list of names with values, also which value a name has, and what is left when some names go. -/
namespace QueryFederation.Order

variable {α β : Type} [DecidableEq α]

theorem memDropRuns {xs : List α} {x : α} : x ∈ dropRuns xs ↔ x ∈ xs := by
  fun_induction dropRuns xs with
  | case1 => rfl
  | case2 => rfl
  | case3 y rest ih => simp [ih]
  | case4 z y rest different ih => simp [ih]

theorem dropRunsSublist (xs : List α) : (dropRuns xs).Sublist xs := by
  fun_induction dropRuns xs with
  | case1 => exact .slnil
  | case2 => exact .refl _
  | case3 y rest ih => exact ih.cons y
  | case4 x y rest different ih => exact ih.cons_cons x

theorem dropRunsFresh {xs : List α} {last : α} (fresh : last ∉ xs) :
    dropRuns (xs ++ [last]) = dropRuns xs ++ [last] := by
  fun_induction dropRuns xs with
  | case1 => rfl
  | case2 x =>
    have different : x ≠ last := fun same => fresh (by simp [same])
    simp [dropRuns, different]
  | case3 y rest ih =>
    rw [List.cons_append, List.cons_append, dropRuns, if_pos rfl]
    exact ih fun inside => fresh (List.mem_cons_of_mem _ inside)
  | case4 x y rest different ih =>
    rw [List.cons_append, List.cons_append, dropRuns, if_neg different, List.cons_append]
    exact congrArg (x :: ·) (ih fun inside => fresh (List.mem_cons_of_mem _ inside))

theorem nodupDropRunsFresh {xs : List α} {last : α} (fresh : last ∉ xs)
    (unique : (dropRuns xs).Nodup) : (dropRuns (xs ++ [last])).Nodup := by
  rw [dropRunsFresh fresh]
  refine List.nodup_append.mpr ⟨unique, List.pairwise_singleton .., ?_⟩
  intro x before y after same
  rw [List.mem_singleton.mp after] at same
  exact fresh (same ▸ memDropRuns.mp before)

/- In order, what is repeated stands together. -/
theorem nodupDropRuns {related : α → α → Prop}
    (strict : ∀ {x y}, related x y → related y x → x = y) {xs : List α}
    (sorted : xs.Pairwise related) : (dropRuns xs).Nodup := by
  fun_induction dropRuns xs with
  | case1 => exact .nil
  | case2 x => exact List.pairwise_singleton _ _
  | case3 y rest ih => exact ih sorted.tail
  | case4 x y rest different ih =>
    obtain ⟨first, others⟩ := List.pairwise_cons.mp sorted
    refine List.nodup_cons.mpr ⟨fun inside => ?_, ih others⟩
    rcases List.mem_cons.mp (memDropRuns.mp inside) with same | later
    · exact different same
    · exact different (strict (first y List.mem_cons_self) (List.rel_of_pairwise_cons others later))

theorem memDistinctFrom {seen xs : List α} {x : α} :
    x ∈ distinctFrom seen xs ↔ x ∈ seen ∨ x ∈ xs := by
  induction xs generalizing seen with
  | nil => simp [distinctFrom]
  | cons y rest ih =>
    rw [distinctFrom, ih, List.mem_cons]
    split
    · rename_i known
      constructor
      · exact Or.imp_right Or.inr
      · rintro (before | rfl | later)
        · exact .inl before
        · exact .inl known
        · exact .inr later
    · rw [List.mem_append, List.mem_singleton, or_assoc]

theorem memDistinct {xs : List α} {x : α} : x ∈ distinct xs ↔ x ∈ xs := by
  simp [distinct, memDistinctFrom]

theorem nodupDistinctFrom {seen : List α} (unique : seen.Nodup) (xs : List α) :
    (distinctFrom seen xs).Nodup := by
  induction xs generalizing seen with
  | nil => exact unique
  | cons y rest ih =>
    rw [distinctFrom]
    split
    · exact ih unique
    · rename_i fresh
      refine ih (List.nodup_append.mpr ⟨unique, List.pairwise_singleton .., ?_⟩)
      intro x before z last same
      rw [List.mem_singleton.mp last] at same
      exact fresh (same ▸ before)

theorem nodupDistinct (xs : List α) : (distinct xs).Nodup := nodupDistinctFrom .nil xs

theorem distinctFromAppend (seen xs ys : List α) :
    distinctFrom seen (xs ++ ys) = distinctFrom (distinctFrom seen xs) ys := by
  induction xs generalizing seen with
  | nil => rfl
  | cons x rest ih => exact ih _

/- What is new is added where it first occurs. -/
theorem distinctFromEq (seen xs : List α) :
    distinctFrom seen xs = seen ++ (xs.filter (· ∉ seen)).eraseDups := by
  induction xs generalizing seen with
  | nil => simp [distinctFrom]
  | cons x rest ih =>
    rw [distinctFrom, ih]
    by_cases known : x ∈ seen
    · simp [known]
    · have fresh : rest.filter (· ∉ seen ++ [x]) =
          (rest.filter (· ∉ seen)).filter fun y => !y == x := by
        rw [List.filter_filter]
        refine List.filter_congr fun y _ => ?_
        by_cases same : y = x <;> simp [same]
      rw [if_neg known, List.filter_cons_of_pos (by simpa using known), List.eraseDups_cons, fresh,
        List.append_assoc]
      rfl

theorem distinctEq (xs : List α) : distinct xs = xs.eraseDups := by
  rw [distinct, distinctFromEq, List.nil_append, List.filter_eq_self.mpr (by simp)]

/- A repeat comes after its first use, and finds what the first use has found. -/
theorem findSomeDistinctFrom (f : α → Option β) (seen xs : List α) :
    (distinctFrom seen xs).findSome? f = (seen ++ xs).findSome? f := by
  induction xs generalizing seen with
  | nil => simp [distinctFrom]
  | cons y rest ih =>
    rw [distinctFrom, ih]
    split
    · rename_i known
      rw [List.findSome?_append, List.findSome?_append, List.findSome?_cons]
      cases found : seen.findSome? f with
      | some value => simp
      | none => simp [List.findSome?_eq_none_iff.mp found y known]
    · simp

theorem findSomeDistinct (f : α → Option β) (xs : List α) :
    (distinct xs).findSome? f = xs.findSome? f := findSomeDistinctFrom f [] xs

theorem firstRepeatFromNone {seen xs : List α} :
    firstRepeatFrom seen xs = none ↔ xs.Nodup ∧ ∀ x ∈ xs, x ∉ seen := by
  induction xs generalizing seen with
  | nil => simp [firstRepeatFrom]
  | cons x rest ih =>
    rw [firstRepeatFrom]
    split
    · rename_i known
      simp [known]
    · rename_i fresh
      rw [ih, List.nodup_cons]
      constructor
      · rintro ⟨unique, new⟩
        refine ⟨⟨fun later => new x later List.mem_cons_self, unique⟩, ?_⟩
        intro y member
        rcases List.mem_cons.mp member with rfl | later
        · exact fresh
        · exact fun known => new y later (List.mem_cons_of_mem x known)
      · rintro ⟨⟨once, unique⟩, new⟩
        refine ⟨unique, fun y later => ?_⟩
        rw [List.mem_cons]
        rintro (rfl | known)
        · exact once later
        · exact new y (List.mem_cons_of_mem x later) known

theorem firstRepeatNone {xs : List α} : firstRepeat? xs = none ↔ xs.Nodup := by
  simp [firstRepeat?, firstRepeatFromNone]

theorem firstRepeatFromSome {seen xs : List α} {x : α}
    (found : firstRepeatFrom seen xs = some x) :
    ∃ before rest, xs = before ++ x :: rest ∧ before.Nodup ∧ (∀ y ∈ before, y ∉ seen) ∧
      (x ∈ seen ∨ x ∈ before) := by
  induction xs generalizing seen with
  | nil => contradiction
  | cons y rest ih =>
    rw [firstRepeatFrom] at found
    split at found
    · rename_i known
      cases found
      exact ⟨[], rest, rfl, .nil, by simp, .inl known⟩
    · rename_i fresh
      obtain ⟨before, after, rfl, unique, new, repeated⟩ := ih found
      refine ⟨y :: before, after, rfl, ?_, ?_, ?_⟩
      · exact List.nodup_cons.mpr ⟨fun later => new y later List.mem_cons_self, unique⟩
      · intro z member
        rcases List.mem_cons.mp member with rfl | later
        · exact fresh
        · exact fun known => new z later (List.mem_cons_of_mem y known)
      · rcases repeated with known | later
        · rcases List.mem_cons.mp known with rfl | before
          · exact .inr List.mem_cons_self
          · exact .inl before
        · exact .inr (List.mem_cons_of_mem y later)

theorem firstRepeatSome {xs : List α} {x : α} (found : firstRepeat? xs = some x) :
    ∃ before rest, xs = before ++ x :: rest ∧ before.Nodup ∧ x ∈ before := by
  obtain ⟨before, rest, split, unique, -, repeated⟩ := firstRepeatFromSome found
  exact ⟨before, rest, split, unique, by simpa using repeated⟩

theorem lookupMember {entries : List (α × β)} (unrepeated : (entries.map Prod.fst).Nodup) {name : α}
    {value : β} : entries.lookup name = some value ↔ (name, value) ∈ entries := by
  induction entries with
  | nil => simp
  | cons entry rest ih =>
    obtain ⟨other, first⟩ := entry
    obtain ⟨fresh, tail⟩ := List.nodup_cons.mp unrepeated
    by_cases same : name = other
    · subst same
      have absent : (name, value) ∉ rest := fun member => fresh (List.mem_map.mpr ⟨_, member, rfl⟩)
      simp [absent, eq_comm]
    · have apart : (name == other) = false := by simpa using same
      simpa [List.lookup_cons, apart, same] using ih tail

theorem lookupFilter (entries : List (α × β)) (keep : α → Bool) (name : α) :
    (entries.filter fun entry => keep entry.1).lookup name =
      if keep name then entries.lookup name else none := by
  induction entries with
  | nil => simp
  | cons entry rest ih =>
    obtain ⟨other, value⟩ := entry
    rw [List.filter_cons]
    by_cases same : name = other
    · subst same
      cases kept : keep name with
      | true => simp
      | false => simpa [kept] using ih
    · have apart : (name == other) = false := by simpa using same
      cases kept : keep other with
      | true => simpa [List.lookup_cons, apart] using ih
      | false => simpa [List.lookup_cons, apart] using ih

end QueryFederation.Order
