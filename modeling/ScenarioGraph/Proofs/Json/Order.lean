/-
# ScenarioGraph.Proofs.Json.Order -- objects in key order

A JSON value may have objects at any depth.  `Json.InOrder` says that all of them list
their fields in key order, with one field for each key.  The reader of texts puts every
field in its place as soon as it is read, so whatever it makes is in order.

* `inOrder_of_read`: what is read from a text.
* `InOrder.eq_singleton`: an object in order that can have one key only has one field.
-/
import ScenarioGraph.Json.Reader
import ScenarioGraph.Proofs.Attempt

namespace ScenarioGraph.Json

set_option autoImplicit false

/-! ## Values in order -/

/-- All objects inside a value have their fields in key order, with one field for each
key. -/
inductive InOrder : Json → Prop where
  | null : InOrder .null
  | bool (value : Bool) : InOrder (.bool value)
  | num (value : Number) : InOrder (.num value)
  | str (value : String) : InOrder (.str value)
  | arr {items : List Json} (each : ∀ item ∈ items, InOrder item) : InOrder (.arr items)
  | obj {fields : List (String × Json)}
      (ascending : fields.Pairwise fun first second => first.1 < second.1)
      (each : ∀ field ∈ fields, InOrder field.2) : InOrder (.obj fields)

@[simp]
theorem inOrder_str (value : String) : (Json.str value).InOrder := .str value

@[simp]
theorem inOrder_arr_iff {items : List Json} :
    (Json.arr items).InOrder ↔ ∀ item ∈ items, item.InOrder :=
  ⟨fun | .arr each => each, .arr⟩

@[simp]
theorem inOrder_obj_iff {fields : List (String × Json)} :
    (Json.obj fields).InOrder ↔
      (fields.Pairwise fun first second => first.1 < second.1) ∧
        ∀ field ∈ fields, field.2.InOrder :=
  ⟨fun | .obj ascending each => ⟨ascending, each⟩, fun ⟨ascending, each⟩ => .obj ascending each⟩

theorem InOrder.of_get? {json value : Json} {key : String} (ordered : json.InOrder)
    (found : json.get? key = some value) : value.InOrder := by
  cases ordered with
  | obj ascending each => exact each (key, value) (lookup_mem found)
  | _ => simp [get?] at found

/-- An object in order with no key but one has one field. -/
theorem InOrder.eq_singleton {fields : List (String × Json)} {key : String} {value : Json}
    (ordered : (Json.obj fields).InOrder) (only : ∀ field ∈ fields, field.1 = key)
    (found : fields.lookup key = some value) :
    fields = [(key, value)] := by
  obtain ⟨ascending, -⟩ := inOrder_obj_iff.1 ordered
  match fields with
  | [] => simp at found
  | [(first, only_)] =>
      obtain rfl : first = key := only (first, only_) (by simp)
      simpa using found
  | first :: second :: rest =>
      have below : first.1 < second.1 := (List.pairwise_cons.1 ascending).1 second (by simp)
      rw [only first (by simp), only second (by simp)] at below
      exact absurd below (String.lt_irrefl key)

/-! ## Putting fields in their places -/

theorem mem_of_mem_setField {key : String} {value : Json} {fields : List (String × Json)}
    {field : String × Json} (member : field ∈ setField key value fields) :
    field = (key, value) ∨ field ∈ fields := by
  induction fields with
  | nil => simpa [setField] using member
  | cons first rest ih =>
      obtain ⟨other, old⟩ := first
      simp only [setField] at member
      split at member
      · simpa using member
      · split at member
        · rcases List.mem_cons.1 member with placed | later
          · exact Or.inl placed
          · exact Or.inr (List.mem_cons_of_mem _ later)
        · rcases List.mem_cons.1 member with kept | later
          · exact Or.inr (kept ▸ List.mem_cons_self)
          · exact (ih later).imp id (List.mem_cons_of_mem _)

theorem pairwise_setField {key : String} {value : Json} {fields : List (String × Json)}
    (ascending : fields.Pairwise fun first second => first.1 < second.1) :
    (setField key value fields).Pairwise fun first second => first.1 < second.1 := by
  induction fields with
  | nil => simp [setField]
  | cons first rest ih =>
      obtain ⟨other, old⟩ := first
      obtain ⟨above, restAscending⟩ := List.pairwise_cons.1 ascending
      simp only [setField]
      split
      · rename_i below
        refine List.pairwise_cons.2 ⟨fun field member => ?_, ascending⟩
        rcases List.mem_cons.1 member with rfl | later
        · exact below
        · exact String.lt_trans below (above field later)
      · split
        · rename_i same
          exact List.pairwise_cons.2 ⟨fun field later => same ▸ above field later, restAscending⟩
        · rename_i notBelow different
          have beyond : other < key := Decidable.byContradiction fun notBeyond =>
            different (String.le_antisymm (String.not_lt.1 notBeyond) (String.not_lt.1 notBelow))
          refine List.pairwise_cons.2 ⟨fun field member => ?_, ih restAscending⟩
          rcases mem_of_mem_setField member with rfl | later
          · exact beyond
          · exact above field later

theorem InOrder.setField {key : String} {value : Json} {fields : List (String × Json)}
    (ordered : (Json.obj fields).InOrder) (placed : value.InOrder) :
    (Json.obj (Json.setField key value fields)).InOrder := by
  obtain ⟨ascending, each⟩ := inOrder_obj_iff.1 ordered
  refine .obj (pairwise_setField ascending) fun field member => ?_
  rcases mem_of_mem_setField member with rfl | old
  · exact placed
  · exact each field old

/-! ## Reading

Each reader calls the others at cursors with fewer characters left, or at the same one
after blanks.  So each is shown to keep the order if those that it calls do, and one
induction on the number of characters left joins them. -/

/-- A value read at the cursor is in order. -/
def ValueOrdered (c : Cursor) : Prop :=
  ∀ (depth : Nat) (r : Further c Json), value depth c = .ok r → r.result.InOrder

/-- So are the items of an array, from its bracket on or later. -/
def ItemsOrdered (c : Cursor) : Prop :=
  ∀ (depth : Nat) (r : Further c (List Json)),
    items depth c = .ok r ∨ moreItems depth c = .ok r → (Json.arr r.result).InOrder

/-- So are the fields of an object, from its brace on or after some in order. -/
def FieldsOrdered (c : Cursor) : Prop :=
  ∀ (depth : Nat) (r : Further c (List (String × Json))),
    (fields depth c = .ok r ∨
      ∃ before, (Json.obj before).InOrder ∧ moreFields depth before c = .ok r) →
        (Json.obj r.result).InOrder

variable {c : Cursor}

theorem word_result {value : Json} {rest : List Char} {r : Onward c Json}
    (read : word value rest c = .ok r) : r.result = value := by
  induction rest generalizing c with
  | nil =>
      cases read
      rfl
  | cons expected more ih =>
      unfold word at read
      split at read
      · cases read
      · split at read
        · obtain ⟨later, readLater, made⟩ := bind_eq_ok_iff.1 read
          cases made
          have same : later.result = value := ih readLater
          exact same
        · cases read

theorem valueOrdered_of (shorter : ∀ d : Cursor, d.rest.length < c.rest.length →
    ItemsOrdered d ∧ FieldsOrdered d) : ValueOrdered c := by
  intro depth r read
  unfold value at read
  obtain ⟨p, -, read⟩ := bind_eq_ok_iff.1 read
  dsimp only at read
  -- By the first character: three words, a negative number, a text, the brackets, a digit.
  split at read
  · obtain ⟨found, readWord, made⟩ := bind_eq_ok_iff.1 read
    cases made
    exact word_result readWord ▸ .null
  · obtain ⟨found, readWord, made⟩ := bind_eq_ok_iff.1 read
    cases made
    exact word_result readWord ▸ .bool true
  · obtain ⟨found, readWord, made⟩ := bind_eq_ok_iff.1 read
    cases made
    exact word_result readWord ▸ .bool false
  · obtain ⟨found, -, made⟩ := bind_eq_ok_iff.1 read
    cases made
    exact .num _
  · obtain ⟨found, -, made⟩ := bind_eq_ok_iff.1 read
    cases made
    exact .str _
  · split at read
    · obtain ⟨found, readItems, made⟩ := bind_eq_ok_iff.1 read
      cases made
      exact (shorter p.after p.shorter).1 _ found (Or.inl readItems)
    · cases read
  · split at read
    · obtain ⟨found, readFields, made⟩ := bind_eq_ok_iff.1 read
      cases made
      exact (shorter p.after p.shorter).2 _ found (Or.inl readFields)
    · cases read
  · split at read
    · obtain ⟨found, -, made⟩ := bind_eq_ok_iff.1 read
      cases made
      exact .num _
    · cases read

theorem InOrder.cons {item : Json} {items : List Json} (first : item.InOrder)
    (rest : (Json.arr items).InOrder) : (Json.arr (item :: items)).InOrder :=
  .arr (List.forall_mem_cons.2 ⟨first, inOrder_arr_iff.1 rest⟩)

theorem itemsOrdered_of
    (values : ∀ d : Cursor, d.rest.length ≤ c.rest.length → ValueOrdered d)
    (shorter : ∀ d : Cursor, d.rest.length < c.rest.length → ItemsOrdered d) :
    ItemsOrdered c := by
  rintro depth r (read | read)
  · unfold items at read
    obtain ⟨p, -, read⟩ := bind_eq_ok_iff.1 read
    split at read
    · cases read
      exact .arr (by simp)
    · obtain ⟨item, readItem, read⟩ := bind_eq_ok_iff.1 read
      obtain ⟨more, readMore, made⟩ := bind_eq_ok_iff.1 read
      cases made
      have toNext := Nat.lt_of_lt_of_le item.shorter p.notLonger
      exact .cons (values p.here p.notLonger _ item readItem)
        (shorter item.next toNext _ more (Or.inr readMore))
  · unfold moreItems at read
    obtain ⟨p, -, read⟩ := bind_eq_ok_iff.1 read
    split at read
    · cases read
      exact .arr (by simp)
    · obtain ⟨q, -, read⟩ := bind_eq_ok_iff.1 read
      split at read
      · cases read
      · obtain ⟨item, readItem, read⟩ := bind_eq_ok_iff.1 read
        obtain ⟨more, readMore, made⟩ := bind_eq_ok_iff.1 read
        cases made
        have toHere := Nat.lt_of_le_of_lt q.notLonger p.shorter
        have toNext := Nat.lt_trans item.shorter toHere
        exact .cons (values q.here (Nat.le_of_lt toHere) _ item readItem)
          (shorter item.next toNext _ more (Or.inr readMore))
    · cases read

/-- The value of a field is read at a later cursor. -/
theorem inOrder_of_field {depth : Nat} {r : Further c (String × Json)}
    (values : ∀ d : Cursor, d.rest.length < c.rest.length → ValueOrdered d)
    (read : field depth c = .ok r) : r.result.2.InOrder := by
  unfold field at read
  obtain ⟨key, -, read⟩ := bind_eq_ok_iff.1 read
  obtain ⟨mark, -, read⟩ := bind_eq_ok_iff.1 read
  obtain ⟨found, readValue, made⟩ := bind_eq_ok_iff.1 read
  cases made
  exact values mark.next (Nat.lt_trans mark.shorter key.shorter) _ found readValue

theorem fieldsOrdered_of
    (values : ∀ d : Cursor, d.rest.length < c.rest.length → ValueOrdered d)
    (shorter : ∀ d : Cursor, d.rest.length < c.rest.length → FieldsOrdered d) :
    FieldsOrdered c := by
  rintro depth r (read | ⟨before, ordered, read⟩)
  · unfold fields at read
    obtain ⟨p, -, read⟩ := bind_eq_ok_iff.1 read
    split at read
    · cases read
      exact .obj .nil (by simp)
    · obtain ⟨first, readFirst, read⟩ := bind_eq_ok_iff.1 read
      obtain ⟨more, readMore, made⟩ := bind_eq_ok_iff.1 read
      cases made
      have toNext := Nat.lt_of_lt_of_le first.shorter p.notLonger
      have value := inOrder_of_field
        (fun d less => values d (Nat.lt_of_lt_of_le less p.notLonger)) readFirst
      have start : (Json.obj [first.result]).InOrder :=
        .obj (List.pairwise_singleton _ _) (by simpa using value)
      exact shorter first.next toNext _ more (Or.inr ⟨_, start, readMore⟩)
    · cases read
  · unfold moreFields at read
    obtain ⟨p, -, read⟩ := bind_eq_ok_iff.1 read
    split at read
    · cases read
      exact ordered
    · obtain ⟨q, -, read⟩ := bind_eq_ok_iff.1 read
      split at read
      · cases read
      · obtain ⟨next, readNext, read⟩ := bind_eq_ok_iff.1 read
        obtain ⟨all, readAll, made⟩ := bind_eq_ok_iff.1 read
        cases made
        have toHere := Nat.lt_of_le_of_lt q.notLonger p.shorter
        have toNext := Nat.lt_trans next.shorter toHere
        have value := inOrder_of_field (fun d less => values d (Nat.lt_trans less toHere)) readNext
        exact shorter next.next toNext _ all (Or.inr ⟨_, ordered.setField value, readAll⟩)
      · cases read
    · cases read

theorem ordered (c : Cursor) : ValueOrdered c ∧ ItemsOrdered c ∧ FieldsOrdered c := by
  induction length : c.rest.length using Nat.strongRecOn generalizing c with
  | ind n ih =>
      subst length
      have shorter : ∀ d : Cursor, d.rest.length < c.rest.length →
          ValueOrdered d ∧ ItemsOrdered d ∧ FieldsOrdered d :=
        fun d less => ih _ less d rfl
      -- Items are read at the same cursor after blanks, which has as many characters left.
      have values : ∀ d : Cursor, d.rest.length ≤ c.rest.length → ValueOrdered d :=
        fun d notLonger => valueOrdered_of fun e less =>
          (shorter e (Nat.lt_of_lt_of_le less notLonger)).2
      refine ⟨values c (Nat.le_refl _), itemsOrdered_of values ?_, fieldsOrdered_of ?_ ?_⟩
      · exact fun d less => (shorter d less).2.1
      · exact fun d less => (shorter d less).1
      · exact fun d less => (shorter d less).2.2

/-- What is read from a text is in order. -/
theorem inOrder_of_read {text : String} {json : Json} (done : read text = .ok json) :
    json.InOrder := by
  obtain ⟨found, readValue, made⟩ := bind_eq_ok_iff.1 done
  dsimp only at made
  split at made
  · cases made
    exact (ordered _).1 _ found readValue
  · cases made

end ScenarioGraph.Json
