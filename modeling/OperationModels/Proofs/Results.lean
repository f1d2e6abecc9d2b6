-- Computations that may fail, lists that stand for each other, and lists with
-- each entry once. A chain of steps gives a value exactly if each of its steps
-- does.
import Mathlib.Data.List.Forall2
import Mathlib.Data.List.Induction

namespace OperationModels

variable {ε α β : Type}

theorem bind_eq_ok {x : Except ε α} {f : α → Except ε β} {b : β} :
    x >>= f = .ok b ↔ ∃ a, x = .ok a ∧ f a = .ok b := by
  cases x with
  | error e => simp [bind, Except.bind]
  | ok a => simp [bind, Except.bind]

/-- A chain of steps fails where one of its steps does. -/
theorem bind_eq_error {x : Except ε α} {f : α → Except ε β} {e : ε} :
    x >>= f = .error e ↔ x = .error e ∨ ∃ a, x = .ok a ∧ f a = .error e := by
  cases x <;> simp [bind, Except.bind]

theorem pure_eq_ok {a b : α} : (pure a : Except ε α) = .ok b ↔ a = b := by
  simp [pure, Except.pure]

theorem map_eq_ok {x : Except ε α} {f : α → β} {b : β} :
    x.map f = .ok b ↔ ∃ a, x = .ok a ∧ f a = b := by
  cases x <;> simp [Except.map]

theorem map_bind {γ : Type} (x : Except ε α) (f : α → Except ε β) (g : β → γ) :
    (x >>= f).map g = x >>= fun a => (f a).map g := by
  cases x <;> rfl

theorem isSome_toOption (x : Except ε α) : x.toOption.isSome = x.isOk := by
  cases x <;> rfl

theorem toOption_eq_some {x : Except ε α} {a : α} : x.toOption = some a ↔ x = .ok a := by
  cases x <;> simp [Except.toOption]

theorem toOption_bind (x : Except ε α) (f : α → Except ε β) :
    (x >>= f).toOption = x.toOption.bind (fun a => (f a).toOption) := by
  cases x <;> rfl

/-- A traversal gives, item by item, what its step gives. -/
theorem mapM_eq_ok {f : α → Except ε β} {as : List α} {bs : List β} :
    as.mapM f = .ok bs ↔ List.Forall₂ (fun a b => f a = .ok b) as bs := by
  induction as generalizing bs with
  | nil =>
    rw [List.mapM_nil, pure_eq_ok, List.forall₂_nil_left_iff]
    exact eq_comm
  | cons a rest ih =>
    rw [List.mapM_cons, List.forall₂_cons_left_iff]
    simp only [bind_eq_ok, pure_eq_ok, ih]
    constructor
    · rintro ⟨b, hb, others, hothers, rfl⟩
      exact ⟨b, others, hb, hothers, rfl⟩
    · rintro ⟨b, others, hb, hothers, rfl⟩
      exact ⟨b, hb, others, hothers, rfl⟩

/-- What a computation fails with, if it does. -/
def failure? : Except ε α → Option ε
  | .error e => some e
  | .ok _ => none

theorem failure?_eq_some {x : Except ε α} {e : ε} : failure? x = some e ↔ x = .error e := by
  cases x <;> simp [failure?]

theorem failure?_ok_bind (a : α) (f : α → Except ε β) :
    failure? ((.ok a : Except ε α) >>= f) = failure? (f a) := rfl

/-- A traversal fails with the first failure of its step. -/
theorem failure?_mapM (f : α → Except ε β) (as : List α) :
    failure? (as.mapM f) = as.findSome? (fun a => failure? (f a)) := by
  induction as with
  | nil => rfl
  | cons a rest ih =>
    rw [List.mapM_cons, List.findSome?_cons]
    cases hf : f a with
    | error e => rfl
    | ok b =>
      rw [failure?_ok_bind]
      show _ = rest.findSome? (fun a => failure? (f a))
      rw [← ih]
      cases rest.mapM f <;> rfl

/-- A test of what a computation gives tells that it gives something. -/
theorem exists_of_any_toOption {x : Except ε α} {p : α → Bool} (h : x.toOption.any p = true) :
    ∃ a, x = .ok a ∧ p a = true := by
  cases x with
  | error e => cases h
  | ok a => exact ⟨a, rfl, h⟩

/-- What holds of each item of a list behind those before it, and of one more
item behind them all, holds of each item of the longer list. -/
theorem forall_split_snoc {p : List α → α → Prop} {items : List α} {last : α}
    (h : ∀ before item after, items = before ++ item :: after → p before item)
    (hlast : p items last) :
    ∀ before item after, items ++ [last] = before ++ item :: after → p before item := by
  intro before item after hsplit
  rcases List.eq_nil_or_concat' after with rfl | ⟨others, final, rfl⟩
  · obtain ⟨rfl, hsame⟩ := List.append_inj' hsplit rfl
    cases hsame
    exact hlast
  · rw [← List.cons_append, ← List.append_assoc] at hsplit
    exact h before item others (List.append_inj' hsplit rfl).1

theorem map_eq_map_of_forall₂ {γ : Type} {r : α → β → Prop} {f : α → γ} {g : β → γ} {as : List α}
    {bs : List β} (h : List.Forall₂ r as bs) (hfg : ∀ a b, r a b → f a = g b) :
    as.map f = bs.map g := by
  induction h with
  | nil => rfl
  | cons hab _ ih => rw [List.map_cons, List.map_cons, hfg _ _ hab, ih]

theorem forall₂_trans {γ : Type} {r : α → β → Prop} {s : β → γ → Prop} {t : α → γ → Prop}
    (hrst : ∀ a b c, r a b → s b c → t a c) {as : List α} {bs : List β} {cs : List γ}
    (hr : List.Forall₂ r as bs) (hs : List.Forall₂ s bs cs) : List.Forall₂ t as cs := by
  induction hr generalizing cs with
  | nil =>
    cases hs
    exact .nil
  | cons hab _ ih =>
    obtain - | ⟨hbc, hrest⟩ := hs
    exact .cons (hrst _ _ _ hab hbc) (ih hrest)

theorem filterMap_eq_of_forall₂ {f : α → Option β} {as : List α} {bs : List β}
    (h : List.Forall₂ (fun a b => f a = some b) as bs) : as.filterMap f = bs := by
  induction h with
  | nil => rfl
  | cons hab _ ih => rw [List.filterMap_cons_some hab, ih]

theorem exists_of_mem_forall₂ {r : α → β → Prop} {as : List α} {bs : List β}
    (h : List.Forall₂ r as bs) {a : α} (ha : a ∈ as) : ∃ b ∈ bs, r a b := by
  induction h with
  | nil => cases ha
  | @cons first other _ _ hfirst _ ih =>
    rcases List.mem_cons.1 ha with rfl | hrest
    · exact ⟨other, List.mem_cons_self, hfirst⟩
    · obtain ⟨b, hb, hab⟩ := ih hrest
      exact ⟨b, List.mem_cons_of_mem _ hb, hab⟩

/-- What is found first in a list is found first in the list that stands for it. -/
theorem exists_find?_of_forall₂ {r : α → β → Prop} {p : α → Bool} {q : β → Bool} {as : List α}
    {bs : List β} (h : List.Forall₂ r as bs) (hpq : ∀ a b, r a b → p a = q b) {b : β}
    (hfind : bs.find? q = some b) : ∃ a, as.find? p = some a ∧ r a b := by
  induction h with
  | nil => cases hfind
  | @cons a c _ _ hab _ ih =>
    rw [List.find?_cons] at hfind ⊢
    rw [hpq a c hab]
    cases hq : q c with
    | true =>
      simp only [hq, Option.some.injEq] at hfind
      exact ⟨a, rfl, hfind ▸ hab⟩
    | false =>
      simp only [hq] at hfind
      exact ih hfind

/-- What holds of all that stands in a list holds of all that stands for it. -/
theorem forall_mem_iff_of_forall₂ {r : α → β → Prop} {p : α → Prop} {q : β → Prop}
    {as : List α} {bs : List β} (h : List.Forall₂ r as bs) (hpq : ∀ a b, r a b → (p a ↔ q b)) :
    (∀ a ∈ as, p a) ↔ ∀ b ∈ bs, q b := by
  induction h with
  | nil => simp
  | cons hab _ ih => rw [List.forall_mem_cons, List.forall_mem_cons, hpq _ _ hab, ih]

section

variable [BEq α] [LawfulBEq α]

theorem eraseDups_snoc (items : List α) (item : α) :
    (items ++ [item]).eraseDups =
      if item ∈ items then items.eraseDups else items.eraseDups ++ [item] := by
  rw [List.eraseDups_append]
  by_cases hknown : item ∈ items <;> simp [List.removeAll, List.eraseDups_cons, hknown]

theorem nodup_eraseDups (items : List α) : items.eraseDups.Nodup := by
  induction items using List.reverseRecOn with
  | nil => exact List.nodup_nil
  | append_singleton items item ih =>
    rw [eraseDups_snoc]
    split
    · exact ih
    · rename_i hnew
      refine List.nodup_append.2 ⟨ih, List.pairwise_singleton _ item, ?_⟩
      rintro known hknown _ hitem rfl
      rw [List.mem_eraseDups] at hknown
      exact hnew (List.mem_singleton.1 hitem ▸ hknown)

/-- Erasing what comes twice in a part first changes nothing. -/
theorem eraseDups_append_eraseDups (before items : List α) :
    (before ++ items.eraseDups).eraseDups = (before ++ items).eraseDups := by
  induction items using List.reverseRecOn with
  | nil => rfl
  | append_singleton items item ih =>
    rw [eraseDups_snoc items item, ← List.append_assoc before items,
      eraseDups_snoc (before ++ items)]
    by_cases hknown : item ∈ items
    · simp only [hknown, if_true, List.mem_append, or_true]
      exact ih
    · rw [if_neg hknown, ← List.append_assoc, eraseDups_snoc, ih]
      simp only [List.mem_append, List.mem_eraseDups]

end

end OperationModels
