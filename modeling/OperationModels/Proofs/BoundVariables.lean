-- The variables bound in a tree of selections. A variable keeps the place and
-- the type of its first binding, so no name comes twice.
import OperationModels.Model.Variables
import OperationModels.Proofs.Results

namespace OperationModels.Model

namespace Bound

/-! ## One more binding -/

/-- The names of the variables, in order. -/
def names (bound : Bound) : List String := bound.fields.map Field.name

theorem find?_eq_none_iff (bound : Bound) (name : String) :
    bound.fields.find? (fun known => known.name = name) = Option.none ↔ name ∉ bound.names := by
  simp [names, List.find?_eq_none]

/-- A binding of a new name comes last, and one of a known name adds none. -/
theorem fields_push (bound : Bound) (binding : Field) :
    (bound.push binding).fields =
      if binding.name ∈ bound.names then bound.fields else bound.fields ++ [binding] := by
  unfold push
  cases hf : bound.fields.find? (fun known => known.name = binding.name) with
  | none =>
    have hnew := (bound.find?_eq_none_iff binding.name).1 hf
    simp [hnew]
  | some known =>
    have hknown : binding.name ∈ bound.names := by
      by_contra hnew
      rw [(bound.find?_eq_none_iff binding.name).2 hnew] at hf
      cases hf
    simp only [hknown, if_true]
    split <;> rfl

theorem nodup_push {bound : Bound} (binding : Field) (h : bound.names.Nodup) :
    (bound.push binding).names.Nodup := by
  unfold names
  rw [fields_push]
  split
  · exact h
  · rename_i hnew
    rw [List.map_append]
    refine List.nodup_append.2 ⟨h, by simp, ?_⟩
    intro name hname last hlast hsame
    simp only [List.map_cons, List.map_nil, List.mem_singleton] at hlast
    exact hnew (hlast ▸ hsame ▸ hname)

theorem nodup_foldl_push (bindings : List Field) {bound : Bound} (h : bound.names.Nodup) :
    (bindings.foldl push bound).names.Nodup := by
  induction bindings generalizing bound with
  | nil => exact h
  | cons binding rest ih => exact ih (nodup_push binding h)

theorem nodup_merge {first : Bound} (second : Bound) (h : first.names.Nodup) :
    (first.merge second).names.Nodup := nodup_foldl_push second.fields h

theorem nodup_none : Bound.none.names.Nodup := List.nodup_nil

end Bound

/-! ## One step of a walk -/

/-- A walk over a selected field binds the arguments of the field, and behind
them what is bound below it on a composite type. -/
theorem Naming.collect_select_eq_ok {naming : Naming} {parent field : String}
    {bindings : List Binding} {child : SelectionTree} {bound : Bound} :
    naming.collect parent (.select field bindings child) = .ok bound ↔
      ∃ definition, naming.schema.field? parent field = some definition ∧
        ∃ own, naming.bindAll parent field definition.arguments bindings = .ok own ∧
          ((∃ type, definition.type.underlying? = some type ∧
              naming.schema.isComposite type = true ∧
              ∃ below, naming.collect type child = .ok below ∧
                (own.foldl Bound.push .none).merge below = bound) ∨
            ((∀ type, definition.type.underlying? = some type →
                naming.schema.isComposite type = false) ∧
              own.foldl Bound.push .none = bound)) := by
  rw [Naming.collect]
  cases naming.schema.field? parent field with
  | none => simp
  | some definition =>
    simp only [bind_eq_ok, Option.some.injEq, exists_eq_left']
    refine exists_congr fun own => and_congr_right fun _ => ?_
    cases definition.type.underlying? with
    | none => simp [pure_eq_ok]
    | some type =>
      cases hc : naming.schema.isComposite type with
      | true =>
        simp only [if_true, bind_eq_ok, pure_eq_ok, Option.some.injEq, exists_eq_left', hc, true_and,
          forall_eq', Bool.true_eq_false, false_and, or_false]
      | false => simp [pure_eq_ok, hc]

theorem Naming.collectAll_cons_eq_ok {naming : Naming} {parent : String} {known bound : Bound}
    {first : SelectionTree} {rest : List SelectionTree} :
    naming.collectAll parent known (first :: rest) = .ok bound ↔
      ∃ here, naming.collect parent first = .ok here ∧
        naming.collectAll parent (known.merge here) rest = .ok bound := by
  rw [Naming.collectAll, bind_eq_ok]

/-! ## A whole walk -/

mutual

/-- No name is bound twice. -/
theorem Naming.nodup_of_collect {naming : Naming} {parent : String} (tree : SelectionTree)
    {bound : Bound} (h : naming.collect parent tree = .ok bound) : bound.names.Nodup := by
  cases tree with
  | select field bindings child =>
    obtain ⟨definition, -, own, -, hcase⟩ := Naming.collect_select_eq_ok.1 h
    have hown : (own.foldl Bound.push .none).names.Nodup :=
      Bound.nodup_foldl_push own Bound.nodup_none
    rcases hcase with ⟨type, -, -, below, -, rfl⟩ | ⟨-, rfl⟩
    · exact Bound.nodup_merge below hown
    · exact hown
  | rename key child =>
    rw [Naming.collect] at h
    exact Naming.nodup_of_collect child h
  | group members =>
    rw [Naming.collect] at h
    exact Naming.nodup_of_collectAll members Bound.nodup_none h
  | nothing =>
    rw [Naming.collect, pure_eq_ok] at h
    subst h
    exact Bound.nodup_none
  | unsupported construct =>
    rw [Naming.collect, pure_eq_ok] at h
    subst h
    exact Bound.nodup_none

theorem Naming.nodup_of_collectAll {naming : Naming} {parent : String}
    (trees : List SelectionTree) {known bound : Bound} (hknown : known.names.Nodup)
    (h : naming.collectAll parent known trees = .ok bound) : bound.names.Nodup := by
  cases trees with
  | nil =>
    rw [Naming.collectAll, pure_eq_ok] at h
    subst h
    exact hknown
  | cons first rest =>
    obtain ⟨here, -, hrest⟩ := Naming.collectAll_cons_eq_ok.1 h
    exact Naming.nodup_of_collectAll rest (Bound.nodup_merge here hknown) hrest

end

theorem Naming.nodup_of_boundVariables {naming : Naming} {tree : SelectionTree}
    {root : SchemaType} {bound : Bound} (h : naming.boundVariables tree root = .ok bound) :
    bound.names.Nodup := by
  rw [Naming.boundVariables, bind_eq_ok] at h
  obtain ⟨name, -, hcollect⟩ := h
  exact Naming.nodup_of_collect tree hcollect

end OperationModels.Model
