/-
Module: BoxProbe.Proofs.Json.RoundTrip
Purpose: Written values are read back, up to the pairs of surrogates in their strings.
Trusted boundary: none
Main exports: Json.joinPairs, Json.Fits, Json.value_chars, Json.read_chars
-/
import BoxProbe.Proofs.Json.Number
import BoxProbe.Proofs.Json.Text
import Mathlib.Data.List.Nodup

namespace BoxProbe.Json

/-!
A value comes back if it is not nested too deeply, if its integers are short enough to be written,
and if the keys of its objects are what a reader makes of them: joined, and no two the same.  Its
strings need not be joined; the reader joins them.  The induction is on the depth, with any text
behind the value in which a number cannot go on.
-/

mutual

/-- A value with the pairs of surrogates in its strings joined. -/
def joinPairs : Json → Json
  | .null => .null
  | .bool b => .bool b
  | .int n => .int n
  | .double d => .double d
  | .str t => .str t.joinPairs
  | .arr items => .arr (joinItems items)
  | .obj fields => .obj (joinFields fields)

/-- The items of an array, joined. -/
def joinItems : List Json → List Json
  | [] => []
  | v :: rest => v.joinPairs :: joinItems rest

/-- The fields of an object with joined values. -/
def joinFields : List (Text × Json) → List (Text × Json)
  | [] => []
  | (k, v) :: rest => (k, v.joinPairs) :: joinFields rest

end

@[simp]
theorem joinItems_eq (items : List Json) : joinItems items = items.map joinPairs := by
  induction items with
  | nil => rfl
  | cons v rest ih => rw [joinItems, ih, List.map_cons]

@[simp]
theorem joinFields_eq (fields : Fields) :
    joinFields fields = fields.map fun f => (f.1, f.2.joinPairs) := by
  induction fields with
  | nil => rfl
  | cons f rest ih => rw [joinFields, ih, List.map_cons]

/-- What is read back inside a number of further containers. -/
def Fits : (depth : Nat) → Json → Prop
  | _, .null => True
  | _, .bool _ => True
  | _, .int n => Numeral.isWritable n = true
  | _, .double _ => True
  | _, .str _ => True
  | 0, .arr _ => False
  | 0, .obj _ => False
  | depth + 1, .arr items => ∀ v ∈ items, Fits depth v
  | depth + 1, .obj fields =>
    (fields.map Prod.fst).Nodup ∧ ∀ f ∈ fields, f.1.Joined ∧ Fits depth f.2

namespace Fields

theorem put_of_notMem {fields : Fields} {key : Text} (h : key ∉ fields.map Prod.fst) (v : Json) :
    fields.put key v = fields ++ [(key, v)] := by
  induction fields with
  | nil => rfl
  | cons f rest ih =>
    rw [List.map_cons, List.mem_cons, not_or] at h
    rw [put, if_neg (Ne.symm h.1), ih h.2, List.cons_append]

theorem foldl_put (before fields : Fields) (h : ((before ++ fields).map Prod.fst).Nodup) :
    fields.foldl (fun fields f => fields.put f.1 f.2) before = before ++ fields := by
  induction fields generalizing before with
  | nil => simp
  | cons f rest ih =>
    have fresh : f.1 ∉ before.map Prod.fst := by
      rw [List.map_append, List.map_cons, List.nodup_middle, List.nodup_cons, List.mem_append] at h
      exact fun mem => h.1 (.inl mem)
    rw [List.foldl_cons, put_of_notMem fresh, ih]
    · rw [List.append_assoc, List.singleton_append]
    · rwa [List.append_assoc, List.singleton_append]

/-- Fields without a repeated key stay as they are written. -/
theorem collapse_of_nodup {fields : Fields} (h : (fields.map Prod.fst).Nodup) :
    fields.collapse = fields :=
  foldl_put [] fields h

end Fields

/-! ### Where a value begins -/

/-- The characters that a scalar begins with. -/
def beginsScalar (c : Char) : Bool :=
  c ∈ ['"', 'n', 't', 'f', 'N', 'I', '-'] || c.isDigit

/-- The characters that a value begins with. -/
def beginsValue (c : Char) : Bool :=
  c == '[' || c == '{' || beginsScalar c

theorem not_isSeparator_of_beginsValue {c : Char} (h : beginsValue c = true) :
    isSeparator c = false := by
  rw [Bool.eq_false_iff]
  intro separator
  simp only [isSeparator, Bool.or_eq_true, beq_iff_eq] at separator
  rcases separator with ((rfl | rfl) | rfl) | rfl <;> cases h

/-- Text that is a scalar begins with a character of one. -/
theorem begins_of_scalar {text : List Char} {r : Json × List Char} (h : scalar text = .ok r) :
    ∃ c rest, text = c :: rest ∧ beginsScalar c = true := by
  unfold scalar at h
  split at h
  case h_8 =>
    -- Only a number is left.
    cases text with
    | nil => cases h
    | cons c rest =>
      refine ⟨c, rest, rfl, ?_⟩
      by_contra other
      have minus : c ≠ '-' := by
        rintro rfl
        exact other (by decide)
      have zero : c ≠ '0' := by
        rintro rfl
        exact other (by decide)
      have digit : c.isDigit = false := by
        rw [Bool.eq_false_iff]
        exact fun digit => other (by rw [beginsScalar, digit, Bool.or_true])
      have none : number? (c :: rest) = none := by
        simp [number?, minus, wholePart?, zero, digit]
      rw [none] at h
      cases h
  all_goals exact ⟨_, _, rfl, by decide⟩

/-- What is no container is read as a scalar at every depth. -/
theorem value_eq_scalar (depth : Nat) {text : List Char} (bracket : text.head? ≠ some '[')
    (brace : text.head? ≠ some '{') : value depth text = scalar text := by
  unfold value
  split <;> simp_all

/-- A scalar is a value at every depth. -/
theorem value_of_scalar (depth : Nat) {text : List Char} {r : Json × List Char}
    (h : scalar text = .ok r) : value depth text = .ok r := by
  obtain ⟨c, rest, rfl, begins⟩ := begins_of_scalar h
  rw [value_eq_scalar depth, h]
  · rintro ⟨⟩
    cases begins
  · rintro ⟨⟩
    cases begins

theorem begins_of_value {depth : Nat} {text : List Char} {r : Json × List Char}
    (h : value depth text = .ok r) : ∃ c rest, text = c :: rest ∧ beginsValue c = true := by
  by_cases bracket : text.head? = some '['
  · obtain ⟨rest, rfl⟩ := List.head?_eq_some_iff.mp bracket
    exact ⟨_, rest, rfl, by decide⟩
  by_cases brace : text.head? = some '{'
  · obtain ⟨rest, rfl⟩ := List.head?_eq_some_iff.mp brace
    exact ⟨_, rest, rfl, by decide⟩
  rw [value_eq_scalar depth bracket brace] at h
  obtain ⟨c, rest, rfl, begins⟩ := begins_of_scalar h
  exact ⟨c, rest, rfl, by rw [beginsValue, begins, Bool.or_true]⟩

/-- No separator is skipped in front of a value. -/
theorem skip_of_value {depth : Nat} {text : List Char} {r : Json × List Char}
    (h : value depth text = .ok r) : skip text = text := by
  obtain ⟨c, rest, rfl, begins⟩ := begins_of_value h
  rw [skip, List.dropWhile_cons_of_neg (by simp [not_isSeparator_of_beginsValue begins])]

/-! ### Items and fields -/

/-- A reader of values inside a container: it reads what is written for each of `vs`, and skips
nothing in front of them. -/
structure Reads (readItem : List Char → Except Fault (Json × List Char)) (vs : List Json) :
    Prop where
  back : ∀ v ∈ vs, ∀ rest, Closes rest → readItem (v.chars ++ rest) = .ok (v.joinPairs, rest)
  skips : ∀ text r, readItem text = .ok r → skip text = text

variable {readItem : List Char → Except Fault (Json × List Char)}

theorem Reads.tail {v : Json} {vs : List Json} (h : Reads readItem (v :: vs)) :
    Reads readItem vs :=
  ⟨fun u mem => h.back u (List.mem_cons_of_mem v mem), h.skips⟩

theorem Reads.skip_chars {v : Json} {vs : List Json} (h : Reads readItem vs) (mem : v ∈ vs)
    {rest : List Char} (closes : Closes rest) : skip (v.chars ++ rest) = v.chars ++ rest :=
  h.skips _ _ (h.back v mem rest closes)

theorem Reads.back_skip {v : Json} {vs : List Json} (h : Reads readItem vs) (mem : v ∈ vs)
    {rest : List Char} (closes : Closes rest) :
    readItem (skip (v.chars ++ rest)) = .ok (v.joinPairs, rest) := by
  rw [h.skip_chars mem closes]
  exact h.back v mem rest closes

theorem closes_comma (rest : List Char) : Closes (',' :: rest) := by
  simp [Closes]

theorem closes_bracket (rest : List Char) : Closes (']' :: rest) := by
  simp [Closes]

theorem closes_brace (rest : List Char) : Closes ('}' :: rest) := by
  simp [Closes]

theorem items_next {fuel : Nat} {text rest : List Char} {v : Json}
    (h : readItem text = .ok (v, ',' :: ' ' :: rest)) :
    items readItem (fuel + 1) text =
      (items readItem fuel (skip rest)).map fun r => (v :: r.1, r.2) := by
  simp only [items, h]
  rfl

theorem items_last {fuel : Nat} {text rest : List Char} {v : Json}
    (h : readItem text = .ok (v, ']' :: rest)) :
    items readItem (fuel + 1) text = .ok ([v], rest) := by
  simp only [items, h]
  rfl

/-- The text of items starts with that of the first. -/
theorem itemChars_cons (v : Json) (vs : List Json) (rest : List Char) :
    ∃ more, Closes more ∧ itemChars (v :: vs) ++ ']' :: rest = v.chars ++ more := by
  cases vs with
  | nil => exact ⟨_, closes_bracket rest, rfl⟩
  | cons w ws =>
    refine ⟨',' :: ' ' :: (itemChars (w :: ws) ++ ']' :: rest), closes_comma _, ?_⟩
    simp [itemChars]

/-- The items of an array are read back. -/
theorem items_chars {v : Json} {vs : List Json} (reads : Reads readItem (v :: vs)) {fuel : Nat}
    (enough : vs.length < fuel) (rest : List Char) :
    items readItem fuel (itemChars (v :: vs) ++ ']' :: rest) =
      .ok ((v :: vs).map joinPairs, rest) := by
  induction vs generalizing v fuel with
  | nil =>
    obtain ⟨fuel, rfl⟩ := Nat.exists_eq_add_one_of_ne_zero (Nat.ne_zero_of_lt enough)
    exact items_last (reads.back v (by simp) _ (closes_bracket rest))
  | cons w ws ih =>
    obtain ⟨fuel, rfl⟩ := Nat.exists_eq_add_one_of_ne_zero (Nat.ne_zero_of_lt enough)
    have others := ih reads.tail (Nat.lt_of_succ_lt_succ enough)
    obtain ⟨more, closes, begins⟩ := itemChars_cons w ws rest
    have skipped := reads.skip_chars (v := w) (by simp) closes
    have written : itemChars (v :: w :: ws) ++ ']' :: rest =
        v.chars ++ ',' :: ' ' :: (itemChars (w :: ws) ++ ']' :: rest) := by
      simp [itemChars]
    rw [written, items_next (reads.back v (by simp) _ (closes_comma _)), begins, skipped, ← begins,
      others]
    rfl

/-- There is a character at least for every item, with one for the bracket. -/
theorem length_le_itemChars (vs : List Json) (rest : List Char) :
    vs.length ≤ (itemChars vs ++ ']' :: rest).length := by
  induction vs with
  | nil => exact Nat.zero_le _
  | cons v vs ih =>
    cases vs with
    | nil =>
      simp only [List.length_append, List.length_cons, List.length_nil]
      omega
    | cons w ws =>
      simp only [itemChars, List.length_append, List.length_cons] at ih ⊢
      omega

theorem skip_colon (rest : List Char) : skip (':' :: rest) = ':' :: rest :=
  rfl

theorem skip_space (rest : List Char) : skip (' ' :: rest) = skip rest :=
  rfl

theorem fields_next {fuel : Nat} {key : Text} {text rest : List Char} {v : Json}
    (h : readItem (skip text) = .ok (v, ',' :: ' ' :: rest)) :
    fields readItem (fuel + 1) (stringChars key ++ ':' :: ' ' :: text) =
      (fields readItem fuel (skip rest)).map fun r => ((key.joinPairs, v) :: r.1, r.2) := by
  simp only [stringChars_append, fields, string_points, skip_colon, skip_space, h]
  rfl

theorem fields_last {fuel : Nat} {key : Text} {text rest : List Char} {v : Json}
    (h : readItem (skip text) = .ok (v, '}' :: rest)) :
    fields readItem (fuel + 1) (stringChars key ++ ':' :: ' ' :: text) =
      .ok ([(key.joinPairs, v)], rest) := by
  simp only [stringChars_append, fields, string_points, skip_colon, skip_space, h]
  rfl

/-- The text of fields starts with the quote of the first key. -/
theorem fieldChars_cons (f : Text × Json) (fs : Fields) (rest : List Char) :
    ∃ more, fieldChars (f :: fs) ++ rest = '"' :: more := by
  cases fs with
  | nil => exact ⟨_, by simp only [fieldChars, List.append_assoc, stringChars_append]; rfl⟩
  | cons g gs => exact ⟨_, by simp only [fieldChars, List.append_assoc, stringChars_append]; rfl⟩

/-- No separator is skipped in front of fields. -/
theorem skip_fieldChars (f : Text × Json) (fs : Fields) (rest : List Char) :
    skip (fieldChars (f :: fs) ++ rest) = fieldChars (f :: fs) ++ rest := by
  obtain ⟨more, begins⟩ := fieldChars_cons f fs rest
  rw [begins]
  rfl

/-- The fields of an object are read back. -/
theorem fields_chars {f : Text × Json} {fs : Fields}
    (reads : Reads readItem ((f :: fs).map Prod.snd)) (keys : ∀ g ∈ f :: fs, g.1.Joined)
    {fuel : Nat} (enough : fs.length < fuel) (rest : List Char) :
    fields readItem fuel (fieldChars (f :: fs) ++ '}' :: rest) =
      .ok ((f :: fs).map fun g => (g.1, g.2.joinPairs), rest) := by
  have key := (keys f (by simp)).joinPairs_eq
  induction fs generalizing f fuel with
  | nil =>
    obtain ⟨fuel, rfl⟩ := Nat.exists_eq_add_one_of_ne_zero (Nat.ne_zero_of_lt enough)
    have read := reads.back_skip (v := f.2) (by simp) (closes_brace rest)
    have written : fieldChars [f] ++ '}' :: rest =
        stringChars f.1 ++ ':' :: ' ' :: (f.2.chars ++ '}' :: rest) := by
      simp [fieldChars]
    rw [written, fields_last read, key]
    rfl
  | cons g gs ih =>
    obtain ⟨fuel, rfl⟩ := Nat.exists_eq_add_one_of_ne_zero (Nat.ne_zero_of_lt enough)
    have later : ∀ k ∈ g :: gs, k.1.Joined := fun k mem => keys k (List.mem_cons_of_mem f mem)
    have others := ih reads.tail later (Nat.lt_of_succ_lt_succ enough)
      (later g (by simp)).joinPairs_eq
    have read := reads.back_skip (v := f.2) (by simp)
      (closes_comma (' ' :: (fieldChars (g :: gs) ++ '}' :: rest)))
    have written : fieldChars (f :: g :: gs) ++ '}' :: rest = stringChars f.1 ++
        ':' :: ' ' :: (f.2.chars ++ ',' :: ' ' :: (fieldChars (g :: gs) ++ '}' :: rest)) := by
      simp [fieldChars]
    rw [written, fields_next read, skip_fieldChars, others, key]
    rfl

/-- There is a character at least for every field, with one for the brace. -/
theorem length_le_fieldChars (fs : Fields) (rest : List Char) :
    fs.length ≤ (fieldChars fs ++ '}' :: rest).length := by
  induction fs with
  | nil => exact Nat.zero_le _
  | cons f fs ih =>
    cases fs with
    | nil =>
      simp only [List.length_append, List.length_cons, List.length_nil]
      omega
    | cons g gs =>
      simp only [fieldChars, List.length_append, List.length_cons] at ih ⊢
      omega

/-! ### Values -/

/-- What fits without a container is read back as a scalar. -/
theorem scalar_chars {v : Json} (fits : v.Fits 0) {rest : List Char} (closes : Closes rest) :
    scalar (v.chars ++ rest) = .ok (v.joinPairs, rest) := by
  cases v with
  | null => rfl
  | bool b => cases b <;> rfl
  | int n => exact scalar_intChars fits closes
  | double d => exact scalar_doubleChars d closes
  | str t => exact scalar_stringChars t rest
  | arr items => exact fits.elim
  | obj fields => exact fits.elim

theorem reads_value {depth : Nat} {vs : List Json}
    (back : ∀ v ∈ vs, ∀ rest, Closes rest →
      value depth (v.chars ++ rest) = .ok (v.joinPairs, rest)) :
    Reads (value depth) vs :=
  ⟨back, fun _ _ => skip_of_value⟩

theorem value_bracket {depth : Nat} {rest more : List Char} {c : Char}
    (h : skip rest = c :: more) (other : c ≠ ']') :
    value (depth + 1) ('[' :: rest) =
      (items (value depth) (c :: more).length (c :: more)).map fun r => (.arr r.1, r.2) := by
  rw [value, h]
  simp [other]

theorem value_brace {depth : Nat} {rest more : List Char} {c : Char}
    (h : skip rest = c :: more) (other : c ≠ '}') :
    value (depth + 1) ('{' :: rest) =
      (fields (value depth) (c :: more).length (c :: more)).map
        fun r => (.obj r.1.collapse, r.2) := by
  rw [value, h]
  simp [other]

theorem value_arr_chars {depth : Nat} {vs : List Json} (reads : Reads (value depth) vs)
    (rest : List Char) :
    value (depth + 1) ((Json.arr vs).chars ++ rest) = .ok ((Json.arr vs).joinPairs, rest) := by
  cases vs with
  | nil => rfl
  | cons v vs =>
    have written : (Json.arr (v :: vs)).chars ++ rest =
        '[' :: (itemChars (v :: vs) ++ ']' :: rest) := by
      simp [chars]
    have back := items_chars reads (length_le_itemChars (v :: vs) rest) rest
    obtain ⟨more, closes, begins⟩ := itemChars_cons v vs rest
    have read := reads.back v (by simp) more closes
    have skipped := skip_of_value read
    obtain ⟨c, text, starts, opening⟩ := begins_of_value read
    have bracket : c ≠ ']' := by
      rintro rfl
      cases opening
    rw [starts] at skipped
    rw [begins, starts] at back
    rw [written, begins, starts, value_bracket skipped bracket, back, Except.map, joinPairs,
      joinItems_eq]

theorem value_obj_chars {depth : Nat} {fs : Fields}
    (reads : Reads (value depth) (fs.map Prod.snd)) (distinct : (fs.map Prod.fst).Nodup)
    (keys : ∀ f ∈ fs, f.1.Joined) (rest : List Char) :
    value (depth + 1) ((Json.obj fs).chars ++ rest) = .ok ((Json.obj fs).joinPairs, rest) := by
  cases fs with
  | nil => rfl
  | cons f fs =>
    have written : (Json.obj (f :: fs)).chars ++ rest =
        '{' :: (fieldChars (f :: fs) ++ '}' :: rest) := by
      simp [chars]
    have back := fields_chars reads keys (length_le_fieldChars (f :: fs) rest) rest
    have unique : ((f :: fs).map fun g => (g.1, g.2.joinPairs)).map Prod.fst =
        (f :: fs).map Prod.fst := by
      simp
    obtain ⟨more, begins⟩ := fieldChars_cons f fs ('}' :: rest)
    have skipped := skip_fieldChars f fs ('}' :: rest)
    rw [begins] at back
    rw [written, value_brace (skipped.trans begins) (by decide), back, Except.map,
      Fields.collapse_of_nodup (unique ▸ distinct), joinPairs, joinFields_eq]

/-- Whatever fits is read back at its depth. -/
theorem value_chars {depth : Nat} {v : Json} (fits : v.Fits depth) {rest : List Char}
    (closes : Closes rest) : value depth (v.chars ++ rest) = .ok (v.joinPairs, rest) := by
  induction depth generalizing v rest with
  | zero => exact value_of_scalar 0 (scalar_chars fits closes)
  | succ depth ih =>
    cases v with
    | arr items =>
      exact value_arr_chars (reads_value fun v mem rest closes => ih (fits v mem) closes) rest
    | obj fields =>
      obtain ⟨distinct, fits⟩ := fits
      refine value_obj_chars (reads_value fun v mem rest closes => ?_) distinct
        (fun f mem => (fits f mem).1) rest
      obtain ⟨f, found, rfl⟩ := List.mem_map.mp mem
      exact ih (fits f found).2 closes
    | null | bool | int | double | str =>
      refine value_of_scalar _ (scalar_chars ?_ closes)
      exact fits

/-- A value that fits is read back from its whole text. -/
theorem read_chars {v : Json} (fits : v.Fits maxDepth) : read v.chars = .ok v.joinPairs := by
  have back := value_chars fits (show Closes [] by simp [Closes])
  rw [List.append_nil] at back
  have skipped := skip_of_value back
  obtain ⟨c, rest, starts, opening⟩ := begins_of_value back
  have mark : c ≠ '\uFEFF' := by
    rintro rfl
    cases opening
  have done : skip [] = [] := rfl
  rw [starts] at back skipped ⊢
  simp [read, mark, skipped, back, done]

end BoxProbe.Json
