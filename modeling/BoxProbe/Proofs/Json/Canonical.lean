/-
Module: BoxProbe.Proofs.Json.Canonical
Purpose: What is read from a text can be written.
Trusted boundary: none
Main exports: Json.Canonical, Json.canonical_of_read, Json.Readable
-/
import BoxProbe.Proofs.Json.RoundTrip

namespace BoxProbe.Json

/-!
The reader checks the length of every integer, joins surrogates, counts the depth and gives every
key of an object once.  So every value that it returns is canonical: it fits and is joined already.
-/

/-- What a reader of texts inside a number of further containers can return. -/
structure Canonical (depth : Nat) (v : Json) : Prop where
  fits : v.Fits depth
  joined : v.joinPairs = v

theorem map_eq_ok {α β : Type} {f : α → β} {x : Except Fault α} {b : β}
    (h : x.map f = .ok b) : ∃ a, x = .ok a ∧ f a = b := by
  cases x with
  | error fault => cases h
  | ok a => exact ⟨a, rfl, Except.ok.inj h⟩

/-! ### Scalars -/

theorem wholePart?_digits {text digits rest : List Char}
    (h : wholePart? text = some (digits, rest)) : digits.all Char.isDigit = true := by
  cases text with
  | nil => cases h
  | cons c more =>
    simp only [wholePart?] at h
    split_ifs at h with zero digit
    · obtain ⟨rfl, -⟩ := h
      rfl
    · obtain ⟨rfl, -⟩ := h
      rw [List.all_cons, digit, Bool.true_and, List.all_takeWhile]

theorem canonical_of_number {token : NumberToken} {v : Json}
    (digits : token.whole.all Char.isDigit = true) (h : token.value = .ok v) :
    v.Canonical 0 := by
  simp only [NumberToken.value] at h
  split_ifs at h with integral long
  · obtain rfl := Except.ok.inj h
    exact ⟨Numeral.isWritable_signed _ digits (Nat.le_of_not_lt long), rfl⟩
  · obtain rfl := Except.ok.inj h
    exact ⟨trivial, rfl⟩

theorem number?_digits {text rest : List Char} {token : NumberToken}
    (h : number? text = some (token, rest)) : token.whole.all Char.isDigit = true := by
  unfold number? at h
  obtain ⟨⟨digits, more⟩, part, whole⟩ := Option.map_eq_some_iff.mp h
  obtain ⟨rfl, -⟩ := Prod.mk.inj whole
  exact wholePart?_digits part

theorem canonical_of_scalar {text rest : List Char} {v : Json}
    (h : scalar text = .ok (v, rest)) : v.Canonical 0 := by
  unfold scalar at h
  split at h
  case h_1 =>
    obtain ⟨⟨t, more⟩, read, same⟩ := map_eq_ok h
    obtain ⟨rfl, -⟩ := Prod.mk.inj same
    exact ⟨trivial, congrArg Json.str (joined_of_string read).joinPairs_eq⟩
  case h_8 =>
    split at h
    next token more number =>
      obtain ⟨u, value, same⟩ := map_eq_ok h
      obtain ⟨rfl, -⟩ := Prod.mk.inj same
      exact canonical_of_number (number?_digits number) value
    next => cases h
  all_goals
    obtain ⟨rfl, -⟩ := h
    exact ⟨trivial, rfl⟩

/-! ### Containers -/

variable {readItem : List Char → Except Fault (Json × List Char)} {P : Json → Prop}

/-- Every item was read from some text. -/
theorem of_mem_items (reads : ∀ text v rest, readItem text = .ok (v, rest) → P v) {fuel : Nat}
    {text rest : List Char} {vs : List Json} (h : items readItem fuel text = .ok (vs, rest)) :
    ∀ v ∈ vs, P v := by
  induction fuel generalizing text vs rest with
  | zero => cases h
  | succ fuel ih =>
    rw [items] at h
    split at h
    next => cases h
    next v more read =>
      split at h
      next =>
        obtain ⟨⟨us, behind⟩, others, same⟩ := map_eq_ok h
        obtain ⟨rfl, -⟩ := Prod.mk.inj same
        exact List.forall_mem_cons.mpr ⟨reads _ _ _ read, ih others⟩
      next =>
        obtain ⟨rfl, -⟩ := Prod.mk.inj (Except.ok.inj h)
        exact List.forall_mem_singleton.mpr (reads _ _ _ read)
      next => cases h

/-- The key of every field was read from some text, and so was its value. -/
theorem of_mem_fields (reads : ∀ text v rest, readItem text = .ok (v, rest) → P v) {fuel : Nat}
    {text rest : List Char} {fs : Fields} (h : fields readItem fuel text = .ok (fs, rest)) :
    ∀ f ∈ fs, f.1.Joined ∧ P f.2 := by
  induction fuel generalizing text fs rest with
  | zero => cases h
  | succ fuel ih =>
    unfold fields at h
    split at h
    next first =>
      split at h
      next => cases h
      next key more text =>
        have joined := joined_of_string text
        split at h
        next value =>
          split at h
          next => cases h
          next v more read =>
            split at h
            next =>
              obtain ⟨⟨gs, behind⟩, others, same⟩ := map_eq_ok h
              obtain ⟨rfl, -⟩ := Prod.mk.inj same
              exact List.forall_mem_cons.mpr ⟨⟨joined, reads _ _ _ read⟩, ih others⟩
            next =>
              obtain ⟨rfl, -⟩ := Prod.mk.inj (Except.ok.inj h)
              exact List.forall_mem_singleton.mpr ⟨joined, reads _ _ _ read⟩
            next => cases h
        next => cases h
    next => cases h

namespace Fields

theorem mem_put {fields : Fields} {key : Text} {v : Json} {f : Text × Json}
    (h : f ∈ fields.put key v) : f = (key, v) ∨ f ∈ fields := by
  induction fields with
  | nil => exact .inl (List.mem_singleton.mp h)
  | cons g rest ih =>
    rw [put] at h
    split at h
    next same =>
      rcases List.mem_cons.mp h with rfl | mem
      · exact .inl (by rw [same])
      · exact .inr (List.mem_cons_of_mem g mem)
    next =>
      rcases List.mem_cons.mp h with rfl | mem
      · exact .inr List.mem_cons_self
      · exact (ih mem).imp id (List.mem_cons_of_mem g)

theorem keys_put_of_mem {fields : Fields} {key : Text} (h : key ∈ fields.map Prod.fst) (v : Json) :
    (fields.put key v).map Prod.fst = fields.map Prod.fst := by
  induction fields with
  | nil => cases h
  | cons g rest ih =>
    rw [put]
    split
    next => rfl
    next other =>
      rcases List.mem_cons.mp h with same | mem
      · exact absurd same.symm other
      · rw [List.map_cons, ih mem, List.map_cons]

theorem nodup_put {fields : Fields} (h : (fields.map Prod.fst).Nodup) (key : Text) (v : Json) :
    ((fields.put key v).map Prod.fst).Nodup := by
  by_cases mem : key ∈ fields.map Prod.fst
  · rwa [keys_put_of_mem mem]
  · rw [put_of_notMem mem, List.map_append, List.map_singleton]
    exact List.nodup_append_comm.mp (List.nodup_cons.mpr ⟨mem, h⟩)

/-- Collapsed fields have no repeated key, and are fields that were written. -/
theorem collapse_spec (written : Fields) :
    (written.collapse.map Prod.fst).Nodup ∧ ∀ f ∈ written.collapse, f ∈ written := by
  have step (before : Fields) (distinct : (before.map Prod.fst).Nodup) :
      ((written.foldl (fun fields f => fields.put f.1 f.2) before).map Prod.fst).Nodup ∧
        ∀ f ∈ written.foldl (fun fields f => fields.put f.1 f.2) before,
          f ∈ before ∨ f ∈ written := by
    induction written generalizing before with
    | nil => exact ⟨distinct, fun f mem => .inl mem⟩
    | cons g rest ih =>
      obtain ⟨nodup, from_either⟩ := ih (before.put g.1 g.2) (nodup_put distinct g.1 g.2)
      refine ⟨nodup, fun f mem => ?_⟩
      rcases from_either f mem with mem | mem
      · rcases mem_put mem with rfl | mem
        · exact .inr List.mem_cons_self
        · exact .inl mem
      · exact .inr (List.mem_cons_of_mem g mem)
  obtain ⟨nodup, from_either⟩ := step [] List.nodup_nil
  exact ⟨nodup, fun f mem => (from_either f mem).resolve_left List.not_mem_nil⟩

end Fields

theorem canonical_arr {depth : Nat} {vs : List Json} (h : ∀ v ∈ vs, v.Canonical depth) :
    (Json.arr vs).Canonical (depth + 1) := by
  refine ⟨fun v mem => (h v mem).fits, ?_⟩
  rw [joinPairs, joinItems_eq, List.map_congr_left fun v mem => (h v mem).joined, List.map_id']

theorem canonical_obj {depth : Nat} {fs : Fields} (distinct : (fs.map Prod.fst).Nodup)
    (h : ∀ f ∈ fs, f.1.Joined ∧ f.2.Canonical depth) : (Json.obj fs).Canonical (depth + 1) := by
  refine ⟨⟨distinct, fun f mem => ⟨(h f mem).1, (h f mem).2.fits⟩⟩, ?_⟩
  have same : ∀ f ∈ fs, (f.1, f.2.joinPairs) = f := fun f mem =>
    Prod.ext rfl (h f mem).2.joined
  rw [joinPairs, joinFields_eq, List.map_congr_left same, List.map_id']

/-- A value at depth zero is one at every depth. -/
theorem Canonical.of_scalar {v : Json} (h : v.Canonical 0) (depth : Nat) : v.Canonical depth := by
  refine ⟨?_, h.joined⟩
  have fits := h.fits
  cases depth with
  | zero => exact fits
  | succ depth =>
    cases v with
    | arr | obj => exact fits.elim
    | null | bool | int | double | str => exact fits

/-- Every value that is read is canonical. -/
theorem canonical_of_value {depth : Nat} {text rest : List Char} {v : Json}
    (h : value depth text = .ok (v, rest)) : v.Canonical depth := by
  by_cases bracket : text.head? = some '['
  · obtain ⟨inner, rfl⟩ := List.head?_eq_some_iff.mp bracket
    cases depth with
    | zero => cases h
    | succ depth =>
      rw [value] at h
      split at h
      next =>
        obtain ⟨rfl, -⟩ := Prod.mk.inj (Except.ok.inj h)
        exact canonical_arr (by simp)
      next =>
        obtain ⟨⟨vs, more⟩, read, same⟩ := map_eq_ok h
        obtain ⟨rfl, -⟩ := Prod.mk.inj same
        exact canonical_arr (of_mem_items (fun _ _ _ => canonical_of_value) read)
  by_cases brace : text.head? = some '{'
  · obtain ⟨inner, rfl⟩ := List.head?_eq_some_iff.mp brace
    cases depth with
    | zero => cases h
    | succ depth =>
      rw [value] at h
      split at h
      next =>
        obtain ⟨rfl, -⟩ := Prod.mk.inj (Except.ok.inj h)
        exact canonical_obj List.nodup_nil (by simp)
      next =>
        obtain ⟨⟨fs, more⟩, read, same⟩ := map_eq_ok h
        obtain ⟨rfl, -⟩ := Prod.mk.inj same
        obtain ⟨distinct, written⟩ := Fields.collapse_spec fs
        refine canonical_obj distinct fun f mem => ?_
        exact of_mem_fields (fun _ _ _ => canonical_of_value) read f (written f mem)
  rw [value_eq_scalar depth bracket brace] at h
  exact (canonical_of_scalar h).of_scalar depth

theorem canonical_of_read {text : List Char} {v : Json} (h : read text = .ok v) :
    v.Canonical maxDepth := by
  unfold read at h
  split at h
  next => cases h
  next =>
    split at h
    next => cases h
    next u rest read =>
      split at h
      next =>
        obtain rfl := Except.ok.inj h
        exact canonical_of_value read
      next => cases h

/-! ### Parts of what was read -/

/-- A value that is read somewhere in a text. -/
def Readable (v : Json) : Prop :=
  ∃ depth, v.Canonical depth

namespace Readable

theorem of_read {text : List Char} {v : Json} (h : read text = .ok v) : v.Readable :=
  ⟨maxDepth, canonical_of_read h⟩

theorem int {n : Int} (h : (Json.int n).Readable) : Numeral.isWritable n = true := by
  obtain ⟨depth, fits, -⟩ := h
  cases depth <;> exact fits

theorem str {t : Text} (h : (Json.str t).Readable) : t.Joined := by
  obtain ⟨depth, -, joined⟩ := h
  exact Text.joinPairs_eq_iff.mp (Json.str.inj joined)

theorem item {vs : List Json} (h : (Json.arr vs).Readable) {v : Json} (mem : v ∈ vs) :
    v.Readable := by
  obtain ⟨depth, fits, joined⟩ := h
  rw [joinPairs, joinItems_eq] at joined
  have same := List.map_inj_left.mp ((Json.arr.inj joined).trans (List.map_id vs).symm) v mem
  cases depth with
  | zero => exact fits.elim
  | succ depth => exact ⟨depth, fits v mem, same⟩

theorem field {fields : Fields} (h : (Json.obj fields).Readable) {key : String} {v : Json}
    (found : fields.get? key = some v) : v.Readable := by
  obtain ⟨depth, fits, joined⟩ := h
  obtain ⟨before, behind, split, -⟩ := List.lookup_eq_some_iff.mp found
  have mem : (Text.ofString key, v) ∈ fields := by simp [split]
  rw [joinPairs, joinFields_eq] at joined
  have same := List.map_inj_left.mp ((Json.obj.inj joined).trans (List.map_id fields).symm) _ mem
  cases depth with
  | zero => exact fits.elim
  | succ depth => exact ⟨depth, (fits.2 _ mem).2, congrArg Prod.snd same⟩

end Readable

end BoxProbe.Json
