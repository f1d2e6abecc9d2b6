-- Identifiers made different one after the other, against the set of names that
-- are taken. A call tries its candidates in turn until one is free, and that
-- always ends: the candidates all differ, and only so many names are taken. So
-- an identifier gets the first of its names that is free, and takes no other.
import OperationModels.Proofs.Identifiers
import Mathlib.Data.Finset.Card
import Mathlib.Data.Finset.Dedup
import Mathlib.Order.Bounds.Basic
import Mathlib.Order.Interval.Finset.Nat

namespace OperationModels.Source

/-! ## A call with the set of taken names -/

/-- The candidates of an identifier are tried from a number on, in so many
rounds as it takes: a candidate that is taken leads to the next one. -/
inductive Tries (taken : Finset String) (ident : String) : (start found : Nat) → Prop
  | free {n : Nat} : numbered ident n ∉ taken → Tries taken ident n n
  | next {n found : Nat} : numbered ident n ∈ taken → Tries taken ident (n + 1) found →
      Tries taken ident n found

/-- What a call gives for an identifier, and the set of taken names after it. -/
inductive Takes (taken : Finset String) (ident : String) : String → Finset String → Prop
  | kept : ident ∉ taken → Takes taken ident ident (insert ident taken)
  | counted {n : Nat} : ident ∈ taken → Tries taken ident 2 n →
      Takes taken ident (numbered ident n) (insert (numbered ident n) taken)

/-- A call for each identifier, one after the other, all with one set. -/
inductive TakesAll : Finset String → List String → List String → Finset String → Prop
  | nil {taken : Finset String} : TakesAll taken [] [] taken
  | cons {taken middle after : Finset String} {ident made : String} {rest others : List String} :
      Takes taken ident made middle → TakesAll middle rest others after →
      TakesAll taken (ident :: rest) (made :: others) after

/-! ## The first free name -/

/-- The numbers from a start on whose candidate is free. -/
def freeNumbers (taken : Finset String) (ident : String) (start : Nat) : Set Nat :=
  {n | start ≤ n ∧ numbered ident n ∉ taken}

/-- The name is the first of an identifier that is free: the identifier, or else
the candidate with the least number from two on. There are no more rounds than
taken names to get past, and one. -/
structure IsFirstFree (taken : Finset String) (ident made : String) : Prop where
  new : made ∉ taken
  kept : ident ∉ taken → made = ident
  counted : ident ∈ taken → ∃ n, IsLeast (freeNumbers taken ident 2) n ∧
    made = bare ident ++ "_" ++ toString n ∧ n ≤ taken.card + 2

variable {taken : Finset String} {ident : String} {start found : Nat}

theorem isLeast_freeNumbers_of_free (h : numbered ident start ∉ taken) :
    IsLeast (freeNumbers taken ident start) start :=
  ⟨⟨Nat.le_refl start, h⟩, fun _ hn => hn.1⟩

/-- A candidate that is taken makes no difference to the first free one. -/
theorem freeNumbers_succ (h : numbered ident start ∈ taken) :
    freeNumbers taken ident (start + 1) = freeNumbers taken ident start := by
  ext n
  constructor
  · rintro ⟨hstart, hfree⟩
    exact ⟨Nat.le_of_succ_le hstart, hfree⟩
  · rintro ⟨hstart, hfree⟩
    refine ⟨Nat.lt_of_le_of_ne hstart ?_, hfree⟩
    rintro rfl
    exact hfree h

/-- The rounds end just at the least number whose candidate is free. -/
theorem tries_iff :
    Tries taken ident start found ↔ IsLeast (freeNumbers taken ident start) found := by
  constructor
  · intro h
    induction h with
    | free hfree => exact isLeast_freeNumbers_of_free hfree
    | next htaken _ ih => rwa [freeNumbers_succ htaken] at ih
  · intro h
    obtain ⟨rounds, rfl⟩ := Nat.exists_eq_add_of_le h.1.1
    induction rounds generalizing start with
    | zero => exact .free h.1.2
    | succ rounds ih =>
      by_cases htaken : numbered ident start ∈ taken
      · rw [← freeNumbers_succ htaken, Nat.add_comm rounds, ← Nat.add_assoc] at h
        rw [Nat.add_comm rounds, ← Nat.add_assoc]
        exact .next htaken (ih h)
      · have hsame := h.unique (isLeast_freeNumbers_of_free htaken)
        omega

/-- All candidates ahead of the first free one are taken names, each another. -/
theorem le_card_of_isLeast (h : IsLeast (freeNumbers taken ident start) found) :
    found ≤ taken.card + start := by
  have hahead : ∀ n ∈ Finset.Ico start found, numbered ident n ∈ taken := by
    intro n hn
    rw [Finset.mem_Ico] at hn
    by_contra hfree
    have hleast := h.2 ⟨hn.1, hfree⟩
    omega
  have hcount := Finset.card_le_card_of_injOn (numbered ident) hahead
    (numbered_injective ident).injOn
  rw [Nat.card_Ico] at hcount
  omega

/-! ## Fresh identifiers -/

theorem fresh_of_not_mem {names : List String} (h : ident ∉ names) : fresh names ident = ident := by
  simp [fresh, h]

theorem exists_isLeast_fresh {names : List String} (h : ident ∈ names) :
    ∃ n, IsLeast (freeNumbers names.toFinset ident 2) n ∧ fresh names ident = numbered ident n := by
  obtain ⟨free, hfree, hnew⟩ := exists_numbered_not_mem names ident
  have hfound : ((List.range (names.length + 1)).find?
      (fun k => !names.contains (numbered ident (k + 2)))).isSome := by
    rw [List.find?_isSome]
    exact ⟨free, hfree, by simpa using hnew⟩
  obtain ⟨k, hk⟩ := Option.isSome_iff_exists.1 hfound
  refine ⟨k + 2, ?_, by rw [fresh, if_pos (List.contains_iff_mem.2 h), hk]⟩
  rw [List.find?_range_eq_some] at hk
  obtain ⟨hk, -, hahead⟩ := hk
  refine ⟨⟨Nat.le_add_left 2 k, by simpa using hk⟩, ?_⟩
  rintro n ⟨htwo, hn⟩
  by_contra hless
  have htaken := hahead (n - 2) (by omega)
  rw [Nat.sub_add_cancel htwo] at htaken
  exact hn (by simpa using htaken)

theorem isFirstFree_fresh (names : List String) (ident : String) :
    IsFirstFree names.toFinset ident (fresh names ident) where
  new := by
    rw [List.mem_toFinset]
    exact (fresh_cases names ident).1
  kept h := fresh_of_not_mem (by rwa [List.mem_toFinset] at h)
  counted h := by
    obtain ⟨n, hleast, hfresh⟩ := exists_isLeast_fresh (List.mem_toFinset.1 h)
    exact ⟨n, hleast, hfresh, le_card_of_isLeast hleast⟩

/-- A call ends, with the fresh identifier and with that taken too. -/
theorem takes_iff {names : List String} {made : String} {after : Finset String} :
    Takes names.toFinset ident made after ↔
      made = fresh names ident ∧ after = insert made names.toFinset := by
  constructor
  · rintro (hnew | ⟨hold, htries⟩)
    · exact ⟨(fresh_of_not_mem (by rwa [List.mem_toFinset] at hnew)).symm, rfl⟩
    · obtain ⟨n, hleast, hfresh⟩ := exists_isLeast_fresh (List.mem_toFinset.1 hold)
      rw [(tries_iff.1 htries).unique hleast, hfresh]
      exact ⟨rfl, rfl⟩
  · rintro ⟨rfl, rfl⟩
    by_cases h : ident ∈ names
    · obtain ⟨n, hleast, hfresh⟩ := exists_isLeast_fresh h
      rw [hfresh]
      exact .counted (List.mem_toFinset.2 h) (tries_iff.2 hleast)
    · rw [fresh_of_not_mem h]
      exact .kept (by rwa [List.mem_toFinset])

theorem takesAll_iff {names idents made : List String} {after : Finset String} :
    TakesAll names.toFinset idents made after ↔
      made = freshAll names idents ∧ after = made.toFinset ∪ names.toFinset := by
  induction idents generalizing names made with
  | nil =>
    constructor
    · rintro ⟨⟩
      exact ⟨rfl, by simp⟩
    · rintro ⟨rfl, rfl⟩
      simpa [freshAll] using TakesAll.nil
  | cons ident rest ih =>
    have hstep : insert (fresh names ident) names.toFinset =
        (fresh names ident :: names).toFinset := List.toFinset_cons.symm
    rw [freshAll]
    constructor
    · rintro (_ | ⟨hfirst, hrest⟩)
      obtain ⟨rfl, rfl⟩ := takes_iff.1 hfirst
      rw [hstep] at hrest
      obtain ⟨rfl, rfl⟩ := ih.1 hrest
      refine ⟨rfl, ?_⟩
      rw [List.toFinset_cons, List.toFinset_cons, Finset.insert_union, Finset.union_insert]
    · rintro ⟨rfl, rfl⟩
      refine .cons (takes_iff.2 ⟨rfl, rfl⟩) ?_
      rw [hstep]
      refine ih.2 ⟨rfl, ?_⟩
      rw [List.toFinset_cons, List.toFinset_cons, Finset.insert_union, Finset.union_insert]

/-! ## The law -/

/-- Whatever names are taken, a call ends and gives an identifier the first of
its names that is free, which is all that it adds to them. With one set for many
identifiers no two results are the same, and none was taken before. -/
theorem each_identifier_takes_its_first_free_name (names idents : List String) :
    (∀ ident, IsFirstFree names.toFinset ident (fresh names ident)) ∧
      (∀ ident made after, Takes names.toFinset ident made after ↔
        made = fresh names ident ∧ after = insert made names.toFinset) ∧
      (∀ made after, TakesAll names.toFinset idents made after ↔
        made = freshAll names idents ∧ after = made.toFinset ∪ names.toFinset) ∧
      (freshAll names idents).Nodup ∧ ∀ made ∈ freshAll names idents, made ∉ names := by
  refine ⟨isFirstFree_fresh names, fun _ _ _ => takes_iff, fun _ _ => takesAll_iff, ?_⟩
  exact nodup_freshAll names idents

-- A name that looks as if it had been counted stands in the way of others.
example : freshAll [] ["type_2", "r#type", "r#type", "type_2", "type_2_2"] =
    ["type_2", "r#type", "type_3", "type_2_2", "type_2_2_2"] := by
  decide +kernel

end OperationModels.Source
