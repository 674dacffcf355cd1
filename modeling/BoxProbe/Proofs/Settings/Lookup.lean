/-
Module: BoxProbe.Proofs.Settings.Lookup
Purpose: What a variable stands for after a file of variables was loaded.
Trusted boundary: none
Main exports: Environment.get?_put, EnvFile.name_ne_empty, Expansion.nodup_values,
  Expansion.names_values, Environment.sought, Environment.Takes, Environment.setMissing_cases
-/
import BoxProbe.Settings.Expansion
import Mathlib.Data.List.Induction
import Mathlib.Data.List.Nodup

namespace BoxProbe

/-!
Loading a file sets its entries one after another, and each changes what the next one finds.  Since
no two entries have the same name, it comes to this: a variable stands for its value in the
environment, or else for its entry.
-/

/-! ### Single variables -/

namespace Environment

variable {e : Environment} {name value n : String}

theorem get?_unset (e : Environment) (name n : String) :
    (e.unset name).get? n = if n = name then none else e.get? n := by
  unfold unset get?
  rw [List.find?_filter]
  by_cases same : n = name
  · simp [same]
  · have found : (fun v : String × String => decide (decide (v.1 ≠ name) ∧ decide (v.1 = n))) =
        fun v => decide (v.1 = n) := by
      funext v
      by_cases this : v.1 = n <;> simp [this, same]
    rw [found, if_neg same]

theorem get?_put (e : Environment) (name value n : String) :
    (e.put name value).get? n = if n = name then some value else e.get? n := by
  have others := get?_unset e name n
  simp only [get?, put, List.find?_append, Option.map_or] at others ⊢
  rw [others]
  by_cases same : n = name
  · simp [same]
  · simp [same, Ne.symm same]

end Environment

/-! ### The names in a file -/

namespace EnvFile

variable {cs rest : List Char} {name : String} {value : Option String}

theorem name_ne_empty_of_readName (h : readName cs = .ok (some name, rest)) : name ≠ "" := by
  unfold readName at h
  split at h
  next => cases h
  next =>
    split at h <;> cases h
    simp
  next =>
    split at h <;> cases h
    rename_i nonempty
    simpa using nonempty

theorem name_ne_empty_of_readBinding (h : readBinding cs = .ok (.binding name value, rest)) :
    name ≠ "" := by
  unfold readBinding at h
  split at h
  next => cases h
  next =>
    split at h
    next => cases h
    next name? _ named =>
      split at h
      next => cases h
      next _ afterValue _ =>
        cases ended : readLineEnd (skipComment afterValue) with
        | error stuck => simp [ended, Except.map] at h
        | ok behind =>
          cases name? with
          | none => simp [ended, Except.map] at h
          | some found =>
            simp only [ended, Except.map, Except.ok.injEq, Prod.mk.injEq,
              Statement.binding.injEq] at h
            obtain ⟨⟨rfl, -⟩, -⟩ := h
            exact name_ne_empty_of_readName named

theorem name_ne_empty_of_readStatement {line : Nat}
    (h : (readStatement line cs).1 = .binding name value) : name ≠ "" := by
  unfold readStatement at h
  split at h
  next r read =>
    obtain ⟨statement, behind⟩ := r
    subst h
    exact name_ne_empty_of_readBinding read
  next => cases h

theorem name_ne_empty_of_statementsFrom {line : Nat}
    (h : .binding name value ∈ statementsFrom line cs) : name ≠ "" := by
  induction line, cs using statementsFrom.induct with
  | case1 line => simp [statementsFrom] at h
  | case2 line cs more r shorter ih =>
    rw [statementsFrom, if_neg more, if_pos shorter] at h
    rcases List.mem_cons.mp h with first | later
    · exact name_ne_empty_of_readStatement first.symm
    · exact ih later
  | case3 line cs more r stuck =>
    rw [statementsFrom, if_neg more, if_neg stuck] at h
    exact name_ne_empty_of_readStatement (List.mem_singleton.mp h).symm

/-- No variable of a file has the empty name. -/
theorem name_ne_empty {text : String} {b : String × Option String} (h : b ∈ bindings text) :
    b.1 ≠ "" := by
  obtain ⟨statement, inside, bound⟩ := List.mem_filterMap.mp h
  cases statement with
  | binding name value =>
    cases bound
    exact name_ne_empty_of_statementsFrom inside
  | _ => cases bound

end EnvFile

/-! ### The entries of a file -/

namespace Expansion

namespace Values

variable {values : Values} {name n : String} {value : Option String}

theorem get?_cons (v : String × Option String) (values : Values) (n : String) :
    Values.get? (v :: values) n = if v.1 = n then some v.2 else Values.get? values n := by
  by_cases here : v.1 = n <;> simp [Values.get?, here]

theorem get?_eq_none_iff : Values.get? values n = none ↔ n ∉ values.map (·.1) := by
  simp only [Values.get?, Option.map_eq_none_iff, List.find?_eq_none, decide_eq_true_eq,
    List.mem_map, not_exists, not_and]

/-- An entry that is put keeps the names, or else its own name follows them. -/
theorem names_put (values : Values) (name : String) (value : Option String) :
    (values.put name value).map (·.1) =
      if name ∈ values.map (·.1) then values.map (·.1) else values.map (·.1) ++ [name] := by
  have known : (Values.get? values name).isSome ↔ name ∈ values.map (·.1) := by
    rw [← not_iff_not, Bool.not_eq_true, Option.isSome_eq_false_iff, Option.isNone_iff_eq_none]
    exact get?_eq_none_iff
  unfold Values.put
  by_cases inside : name ∈ values.map (·.1)
  · rw [if_pos (known.mpr inside), if_pos inside, List.map_map]
    apply List.map_congr_left
    intro v _
    by_cases same : v.1 = name <;> simp [same]
  · rw [if_neg (mt known.mp inside), if_neg inside, List.map_append]
    rfl

end Values

theorem values_concat (e : Environment) (bindings : Values) (b : String × Option String) :
    values e (bindings ++ [b]) =
      (values e bindings).put b.1 (b.2.map (resolve e (values e bindings))) := by
  unfold values
  rw [List.foldl_append]
  rfl

/-- No two entries of a file have the same name. -/
theorem nodup_values (e : Environment) (bindings : Values) :
    ((values e bindings).map (·.1)).Nodup := by
  induction bindings using List.reverseRecOn with
  | nil => exact List.nodup_nil
  | append_singleton bindings b distinct =>
    rw [values_concat, Values.names_put]
    split
    next => exact distinct
    next new => exact distinct.append (List.nodup_singleton _) (List.disjoint_singleton.mpr new)

/-- An entry has the name of a binding. -/
theorem names_values (e : Environment) (bindings : Values) :
    (values e bindings).map (·.1) ⊆ bindings.map (·.1) := by
  induction bindings using List.reverseRecOn with
  | nil => exact List.Subset.refl _
  | append_singleton bindings b ih =>
    rw [values_concat, Values.names_put, List.map_append]
    split
    next => exact List.subset_append_of_subset_left _ ih
    next => exact List.append_subset.mpr ⟨List.subset_append_of_subset_left _ ih,
      List.subset_append_right _ _⟩

end Expansion

/-! ### Setting what is missing -/

namespace Environment

/-- What a variable stands for beside the entries of a file: its value, or else its entry. -/
def sought (e : Environment) (entries : Expansion.Values) (name : String) : Option String :=
  (e.get? name).or (Expansion.Values.get? entries name).join

/-- Every entry of a file that counts can be set. -/
def Takes (e : Environment) (entries : Expansion.Values) : Prop :=
  ∀ v ∈ entries, ∀ value, v.2 = some value → e.get? v.1 = none → fault? v.1 value = none

variable {e : Environment} {entries : Expansion.Values} {name value : String}

/-- Entries behind one of a new name are not touched by setting that. -/
theorem get?_put_of_new (new : name ∉ entries.map (·.1)) {v : String × Option String}
    (inside : v ∈ entries) : (e.put name value).get? v.1 = e.get? v.1 := by
  rw [get?_put, if_neg]
  rintro rfl
  exact new (List.mem_map_of_mem inside)

theorem takes_cons (v : String × Option String) : e.Takes (v :: entries) ↔
    (∀ value, v.2 = some value → e.get? v.1 = none → fault? v.1 value = none) ∧
      e.Takes entries :=
  List.forall_mem_cons

/-- The first entry is set or passed over, and then the others find what they would have found; or
it is at fault. -/
theorem setMissing_cons (e : Environment) (value? : Option String)
    (new : name ∉ entries.map (·.1)) :
    (∃ value fault, value? = some value ∧ e.get? name = none ∧ fault? name value = some fault ∧
        e.setMissing ((name, value?) :: entries) = (e, some fault)) ∨
      ∃ e' : Environment, e.setMissing ((name, value?) :: entries) = e'.setMissing entries ∧
        (e'.Takes entries ↔ e.Takes ((name, value?) :: entries)) ∧
        ∀ n, e'.sought entries n = e.sought ((name, value?) :: entries) n := by
  cases missing : e.get? name with
  | some old =>
    refine .inr ⟨e, by simp [setMissing, missing], ?_, ?_⟩
    · simp [takes_cons, missing]
    · intro n
      by_cases same : name = n
      · subst same
        simp [sought, missing]
      · simp [sought, Expansion.Values.get?_cons, same]
  | none =>
    have unlisted := Expansion.Values.get?_eq_none_iff.mpr new
    cases value? with
    | none =>
      refine .inr ⟨e, by simp [setMissing, missing], by simp [takes_cons], ?_⟩
      intro n
      by_cases same : name = n
      · subst same
        simp [sought, Expansion.Values.get?_cons, unlisted]
      · simp [sought, Expansion.Values.get?_cons, same]
    | some value =>
      cases refused : fault? name value with
      | some fault =>
        exact .inl ⟨value, fault, rfl, rfl, refused, by simp [setMissing, missing, set, refused]⟩
      | none =>
        refine .inr ⟨e.put name value, by simp [setMissing, missing, set, refused], ?_, ?_⟩
        · rw [takes_cons]
          have others : (e.put name value).Takes entries ↔ e.Takes entries := by
            unfold Takes
            exact forall₂_congr fun v inside => by rw [get?_put_of_new new inside]
          simp [others, refused]
        · intro n
          by_cases same : name = n
          · subst same
            simp [sought, get?_put, missing, Expansion.Values.get?_cons]
          · simp [sought, get?_put, Expansion.Values.get?_cons, same, Ne.symm same]

/-- Setting the entries of a file ends with all of them set, or at the fault of one. -/
theorem setMissing_cases (distinct : (entries.map (·.1)).Nodup) :
    (e.Takes entries ∧ ∃ e', e.setMissing entries = (e', none) ∧
        ∀ n, e'.get? n = e.sought entries n) ∨
      ¬ e.Takes entries ∧ ∃ e', ∃ v ∈ entries, ∃ value fault,
        e.setMissing entries = (e', some fault) ∧ fault? v.1 value = some fault := by
  induction entries generalizing e with
  | nil => exact .inl ⟨by simp [Takes], e, rfl, by simp [sought, Expansion.Values.get?]⟩
  | cons v rest ih =>
    obtain ⟨name, value?⟩ := v
    obtain ⟨new, distinct⟩ := List.nodup_cons.mp distinct
    rcases setMissing_cons e value? new with ⟨value, fault, rfl, missing, refused, ends⟩ |
      ⟨e', goesOn, takes, same⟩
    · refine .inr ⟨?_, e, _, List.mem_cons_self, value, fault, ends, refused⟩
      intro takes
      have settable := takes _ List.mem_cons_self value rfl missing
      rw [refused] at settable
      cases settable
    · rw [goesOn, ← takes]
      simp only [← same]
      rcases ih (e := e') distinct with all | ⟨untaken, last, w, inside, text, fault, ends⟩
      · exact .inl all
      · exact .inr ⟨untaken, last, w, List.mem_cons_of_mem _ inside, text, fault, ends⟩

end Environment

end BoxProbe
