import Mathlib.Data.List.Perm.Basic

/-!
# Look-ups by key

A look-up finds the first entry of a key. Of a key that stands but once, that is its only entry: it
is found wherever it stands, and what else is among the entries does not matter. Entries that are
taken away are missed by their own key alone.
-/

namespace Crosstab

variable {α β : Type} [BEq α] [LawfulBEq α] {entries others : List (α × β)} {key other : α}
  {value : β}

theorem isSome_lookup_iff : (entries.lookup key).isSome = true ↔ key ∈ entries.map Prod.fst := by
  rw [List.lookup_isSome_iff, List.mem_map]
  constructor
  · rintro ⟨entry, hentry, hkey⟩
    exact ⟨entry, hentry, (beq_iff_eq.1 hkey).symm⟩
  · rintro ⟨entry, hentry, rfl⟩
    exact ⟨entry, hentry, beq_self_eq_true _⟩

/-- Where no key repeats, looking one up finds what stands behind it. -/
theorem lookup_eq_some_iff_mem (h : (entries.map Prod.fst).Nodup) :
    entries.lookup key = some value ↔ (key, value) ∈ entries := by
  rw [List.lookup_eq_some_iff]
  constructor
  · rintro ⟨front, behind, rfl, -⟩
    exact List.mem_append_right _ List.mem_cons_self
  · intro hmem
    obtain ⟨front, behind, rfl⟩ := List.append_of_mem hmem
    refine ⟨front, behind, rfl, fun entry hentry => bne_iff_ne.2 fun hsame => ?_⟩
    rw [List.map_append, List.nodup_append] at h
    exact h.2.2 entry.1 (List.mem_map_of_mem hentry) key
      (List.mem_map_of_mem (f := Prod.fst) List.mem_cons_self) hsame.symm

theorem lookup_eq_head? (entries : List (α × β)) (key : α) :
    entries.lookup key = (entries.filter (·.1 == key)).head?.map Prod.snd := by
  induction entries with
  | nil => rfl
  | cons entry entries ih =>
    obtain ⟨other, value⟩ := entry
    rw [List.lookup_cons]
    by_cases hsame : other = key
    · subst hsame
      simp
    · have hne : (key == other) = false := beq_eq_false_iff_ne.2 (Ne.symm hsame)
      rw [hne, List.filter_cons_of_neg (by simpa using hsame)]
      exact ih

/-- A key that stands at most once is looked up alike, in whatever order. -/
theorem lookup_eq_of_perm (honce : entries.countP (·.1 == key) < 2)
    (hperm : (entries.filter (·.1 == key)).Perm (others.filter (·.1 == key))) :
    entries.lookup key = others.lookup key := by
  rw [List.countP_eq_length_filter] at honce
  rw [lookup_eq_head?, lookup_eq_head?]
  generalize entries.filter (·.1 == key) = found at *
  match found with
  | [] => rw [hperm.nil_eq]
  | [_] => rw [hperm.singleton_eq]
  | _ :: _ :: _ =>
    simp only [List.length_cons] at honce
    omega

/-! ### Without the entries of a key -/

theorem lookup_filter_self (entries : List (α × β)) (key : α) :
    (entries.filter (·.1 != key)).lookup key = none := by
  rw [List.lookup_eq_none_iff]
  intro entry hentry
  have hne : entry.1 ≠ key := by simpa using (List.mem_filter.1 hentry).2
  exact bne_iff_ne.2 hne.symm

theorem lookup_filter_of_ne (entries : List (α × β)) (h : key ≠ other) :
    (entries.filter (·.1 != other)).lookup key = entries.lookup key := by
  induction entries with
  | nil => rfl
  | cons entry entries ih =>
    obtain ⟨name, value⟩ := entry
    by_cases hname : name = other
    · subst hname
      have hmiss : (key == name) = false := beq_eq_false_iff_ne.2 h
      simpa [List.lookup_cons, hmiss] using ih
    · have hkept : ((name, value) :: entries).filter (·.1 != other) =
          (name, value) :: entries.filter (·.1 != other) := by simp [hname]
      rw [hkept, List.lookup_cons, List.lookup_cons, ih]

end Crosstab
